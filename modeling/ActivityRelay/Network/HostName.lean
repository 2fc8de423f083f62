import ActivityRelay.Text.Decimal

/-! Names of hosts that a name server could be asked for. -/
namespace ActivityRelay.Network.HostName
open Text

/-- Puts a character in front of the first label. -/
def push (c : Char) : List (List Char) → List (List Char)
  | [] => [[c]]
  | l :: ls => (c :: l) :: ls

/-- The labels between the points of a name. Behind a backslash three digits are the number of a
character, and any other character stands for itself. -/
def labels? : List Char → Option (List (List Char))
  | [] => some [[]]
  | '.' :: cs => (labels? cs).map ([] :: ·)
  | '\\' :: cs =>
    match cs with
    | [] => none
    | a :: cs =>
      if isDigit a then
        match cs with
        | b :: c :: cs =>
          match readDigits 256 [a, b, c] with
          | some n => (labels? cs).map (push (Char.ofNat n))
          | none => none
        | _ => none
      else (labels? cs).map (push a)
  | c :: cs => (labels? cs).map (push c)

/-- The characters of a name. -/
def isNameChar (c : Char) : Bool := c.isAlphanum || c == '-' || c == '_'

def isLabel (cs : List Char) : Bool := cs ≠ [] && cs.length ≤ 63 && cs.all isNameChar

/-- Whether the labels make a name of at most 253 characters that does not begin with a hyphen. -/
def areLabels (labels : List (List Char)) : Bool :=
  labels ≠ [] && labels.all isLabel && labels.flatten.length + labels.length ≤ 254 &&
    labels.flatten.head? ≠ some '-'

/-- A name may end in a point, and a point alone is the root of all names. -/
def isName (cs : List Char) : Bool :=
  match labels? cs with
  | none => false
  | some labels =>
    cs = ['.'] || areLabels (if labels.getLast? = some [] then labels.dropLast else labels)

end ActivityRelay.Network.HostName
