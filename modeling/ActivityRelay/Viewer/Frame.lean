/-! Frames of the WebSocket protocol as they arrive from viewers. -/
namespace ActivityRelay.Viewer

/-- A breach of the protocol, after which nothing more is read. -/
inductive Violation where
  | opcode
  | tooLong
  | unmasked
  | reserved
  | fragmentedControl
  | longControl
  | closePayload
  | continuation
  | interleaved
  | text
  deriving DecidableEq, Repr

inductive Opcode where
  | continuation
  | text
  | binary
  | close
  | ping
  | pong
  deriving DecidableEq, Repr

def Opcode.ofNat? : Nat → Option Opcode
  | 0 => some .continuation
  | 1 => some .text
  | 2 => some .binary
  | 8 => some .close
  | 9 => some .ping
  | 10 => some .pong
  | _ => none

/-- A frame with its mask taken off. -/
structure Frame where
  final : Bool
  opcode : Opcode
  payload : List UInt8
  deriving DecidableEq, Repr

/-- What stands in front of the payload. -/
structure Header where
  final : Bool
  reserved : Bool
  opcode : Nat
  size : Nat
  mask : Option (List UInt8)
  deriving DecidableEq, Repr

def bigEndian (bytes : List UInt8) : Nat := bytes.foldl (fun n b => n * 256 + b.toNat) 0

/-- A whole header and what follows it. -/
def Header.read? : List UInt8 → Option (Header × List UInt8)
  | a :: b :: rest =>
    let short := b.toNat % 128
    let extra := if short = 126 then 2 else if short = 127 then 8 else 0
    let masked := 128 ≤ b.toNat
    let behind := rest.drop extra
    if rest.length < extra + (if masked then 4 else 0) then none
    else some
      ({ final := 128 ≤ a.toNat
         reserved := a.toNat / 16 % 8 ≠ 0
         opcode := a.toNat % 16
         size := if extra = 0 then short else bigEndian (rest.take extra)
         mask := if masked then some (behind.take 4) else none },
        if masked then behind.drop 4 else behind)
  | _ => none

theorem Header.read?_length {bytes rest : List UInt8} {h : Header}
    (e : Header.read? bytes = some (h, rest)) : rest.length < bytes.length := by
  unfold Header.read? at e
  split at e
  · next a b r =>
    simp only [Option.ite_none_left_eq_some, Option.some.injEq, Prod.mk.injEq] at e
    rw [← e.2.2]
    split <;> simp <;> omega
  · simp at e

def unmask (mask payload : List UInt8) : List UInt8 :=
  payload.mapIdx fun i b => b ^^^ mask.getD (i % 4) 0

/-- The greatest count of bytes in a payload. -/
def maxPayload : Nat := 0x1000000

/-- What the bytes at hand begin with. -/
inductive Arrived where
  /-- The rest of a frame is still to come. -/
  | unfinished
  | violation (v : Violation)
  | frame (f : Frame) (rest : List UInt8)
  deriving DecidableEq, Repr

/-- The header is judged as soon as it is whole, its mask and reserved bits with the payload. -/
def Frame.read (bytes : List UInt8) : Arrived :=
  match Header.read? bytes with
  | none => .unfinished
  | some (h, rest) =>
    match Opcode.ofNat? h.opcode with
    | none => .violation .opcode
    | some opcode =>
      if maxPayload < h.size then .violation .tooLong
      else if rest.length < h.size then .unfinished
      else match h.mask with
        | none => .violation .unmasked
        | some mask =>
          if h.reserved then .violation .reserved
          else .frame ⟨h.final, opcode, unmask mask (rest.take h.size)⟩ (rest.drop h.size)

theorem Frame.read_length {bytes rest : List UInt8} {f : Frame}
    (e : Frame.read bytes = .frame f rest) : rest.length < bytes.length := by
  unfold Frame.read at e
  split at e
  · simp at e
  · next h r hr =>
    have hlt := Header.read?_length hr
    split at e
    · simp at e
    · split at e
      · simp at e
      · split at e
        · simp at e
        · split at e
          · simp at e
          · split at e
            · simp at e
            · simp only [Arrived.frame.injEq] at e
              rw [← e.2, List.length_drop]
              omega

end ActivityRelay.Viewer
