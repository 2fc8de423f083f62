import ActivityRelay.Text.Decimal
import ActivityRelay.Text.Pieces
import ActivityRelay.Text.White

/-! Byte ranges that a request asks for, and the part of a file that they select. -/
namespace ActivityRelay.Http
open Text

/-- A range as it is written: from an offset on, up to an end, or a count of last bytes. -/
inductive RangeSpec where
  | from (start : Nat)
  | between (start last : Nat)
  | suffix (count : Nat)
  deriving DecidableEq, Repr

/-- A number of 64 bits. -/
def offset? (cs : List Char) : Option Nat := readPlain UInt64.size cs

def rangeSpec? (cs : List Char) : Option RangeSpec :=
  match pieces '-' cs with
  | [[], count] => do
    let n ← offset? count
    if n = 0 then none else some (.suffix n)
  | [start, []] => (offset? start).map .from
  | [start, last] => do return .between (← offset? start) (← offset? last)
  | _ => none

/-- One piece of the list; a single blank may stand in front of it. -/
def trimmedSpec? (cs : List Char) : Option RangeSpec :=
  if cs.getLast?.any isWhite || 1 < cs.countP isWhite then none else rangeSpec? (trim cs)

/-- The ranges of a header value, none if any of them is not understood; the first one stands
right behind the sign. -/
def rangeSpecs? (value : List Char) : Option (List RangeSpec) :=
  match value with
  | 'b' :: 'y' :: 't' :: 'e' :: 's' :: '=' :: rest =>
    if rest.head?.any isWhite then none else (pieces ',' rest).mapM trimmedSpec?
  | _ => none

/-- First and last byte within a file of the given size; an empty file still has an end at zero. -/
def RangeSpec.resolve? (size : Nat) : RangeSpec → Option (Nat × Nat)
  | .from start => if start ≤ size - 1 then some (start, size - 1) else none
  | .between start last =>
    if start ≤ min last (size - 1) then some (start, min last (size - 1)) else none
  | .suffix count => if count ≤ size then some (size - count, size - 1) else none

def overlaps (a b : Nat × Nat) : Bool := a.1 ≤ b.2 && b.1 ≤ a.2

def anyOverlap : List (Nat × Nat) → Bool
  | [] => false
  | r :: rs => rs.any (overlaps r) || anyOverlap rs

/-- The ranges within a file, none if one cannot be met or two overlap. -/
def ranges? (size : Nat) (value : List Char) : Option (List (Nat × Nat)) := do
  let specs ← rangeSpecs? value
  let ranges ← specs.mapM (RangeSpec.resolve? size)
  if anyOverlap ranges then none else some ranges

end ActivityRelay.Http
