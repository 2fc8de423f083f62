import ActivityRelay.Text.Pieces

/-! Lines that viewers send: plain text, or a command that names the next activity. -/
namespace ActivityRelay

/-- What one line asks for. -/
inductive Command where
  | plain (raw : String)
  | setActivity (value : String)
  deriving DecidableEq, Repr

namespace Command
open Text

/-- The activity that a line names: its third field, when its third character is a `g`. -/
def value? (cs : List Char) : Option (List Char) :=
  if cs[2]? = some 'g' then (pieces ' ' cs)[2]?.filter (· ≠ []) else none

/-- A line that names no activity is plain, however much of a command it holds. -/
def classify (raw : String) : Command :=
  match value? raw.toList with
  | some value => .setActivity (String.ofList value)
  | none => .plain raw

end Command
end ActivityRelay
