import ActivityRelay.Text.Utf8
import ActivityRelay.Viewer.Frame

/-! Messages put together from frames. -/
namespace ActivityRelay.Viewer
open Text

inductive Message where
  | text (s : String)
  | binary (bytes : List UInt8)
  | ping (bytes : List UInt8)
  | pong (bytes : List UInt8)
  | close
  deriving DecidableEq, Repr

/-- A message whose last fragment has not arrived. -/
structure Fragments where
  isText : Bool
  bytes : List UInt8
  deriving DecidableEq, Repr

/-- A message that is complete. -/
def Fragments.complete (p : Fragments) : Except Violation Message :=
  if p.isText then
    match Utf8.decode? p.bytes with
    | some s => .ok (.text s)
    | none => .error .text
  else .ok (.binary p.bytes)

/-- A message that goes on; a text must still be able to become one. -/
def Fragments.goOn (p : Fragments) : Except Violation Fragments :=
  if p.isText && !(Utf8.couldContinue p.bytes) then .error .text else .ok p

/-- The greatest count of bytes in the payload of a control frame. -/
def maxControl : Nat := 125

/-- A closing frame holds nothing, or a code of two bytes and a text. -/
def closeIsValid (payload : List UInt8) : Bool :=
  payload.isEmpty || (2 ≤ payload.length && (Utf8.decode? (payload.drop 2)).isSome)

def control (f : Frame) (m : Message) : Except Violation Message :=
  if !f.final then .error .fragmentedControl
  else if maxControl < f.payload.length then .error .longControl
  else .ok m

/-- Takes one frame: what is left unfinished, and a message if the frame completes one. -/
def assemble (pending : Option Fragments) (f : Frame) :
    Except Violation (Option Fragments × Option Message) :=
  let data (p : Fragments) : Except Violation (Option Fragments × Option Message) :=
    if f.final then p.complete.map fun m => (none, some m)
    else p.goOn.map fun p => (some p, none)
  let extra (m : Message) := (control f m).map fun m => (pending, some m)
  match f.opcode with
  | .ping => extra (.ping f.payload)
  | .pong => extra (.pong f.payload)
  | .close => do
    let m ← control f .close
    if closeIsValid f.payload then .ok (pending, some m) else .error .closePayload
  | .continuation =>
    match pending with
    | none => .error .continuation
    | some p => data { p with bytes := p.bytes ++ f.payload }
  | .text => if pending.isSome then .error .interleaved else data ⟨true, f.payload⟩
  | .binary => if pending.isSome then .error .interleaved else data ⟨false, f.payload⟩

end ActivityRelay.Viewer
