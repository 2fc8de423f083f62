import ActivityRelay.Json.ReadError
import ActivityRelay.Text.Decimal

/-! Numbers in JSON: passed over by their shape, or read within the range of binary doubles. -/
namespace ActivityRelay.Json
open Text

/-- The first digit, then all digits that follow; a zero stands alone. -/
def integerPart : List Char → Except ReadError (List Char × List Char)
  | [] => .error .ended
  | '0' :: cs =>
    if (cs.head?.any isDigit) then .error .malformed else .ok (['0'], cs)
  | c :: cs =>
    if isDigit c then .ok (c :: cs.takeWhile isDigit, cs.dropWhile isDigit)
    else .error .malformed

/-- At least one digit. -/
def someDigits (cs : List Char) : Except ReadError (List Char × List Char) :=
  match cs with
  | [] => .error .ended
  | c :: _ =>
    if isDigit c then .ok (cs.takeWhile isDigit, cs.dropWhile isDigit) else .error .malformed

/-- The digits after a point, if there is a point. -/
def fractionPart : List Char → Except ReadError (List Char × List Char)
  | '.' :: cs => someDigits cs
  | cs => .ok ([], cs)

/-- A power of ten: whether it is negative, and its digits. -/
structure Power where
  negative : Bool
  digits : List Char

def powerPart : List Char → Except ReadError (Option Power × List Char)
  | [] => .ok (none, [])
  | c :: cs =>
    if c = 'e' || c = 'E' then
      let signed := cs.head? = some '+' || cs.head? = some '-'
      match someDigits (if signed then cs.tail else cs) with
      | .ok (digits, rest) => .ok (some ⟨cs.head? = some '-', digits⟩, rest)
      | .error e => .error e
    else .ok (none, c :: cs)

/-- The nearest integer with fifty-three significant bits, a tie to the even one. -/
def roundToDouble (n : Nat) : Nat :=
  let unit := Nat.pow 2 (n.log2 + 1 - 53)
  let q := n / unit
  let r := n % unit
  if 2 * r > unit || (2 * r = unit && q % 2 = 1) then (q + 1) * unit else q * unit

/-- The significant digits taken into sixty-four bits, and the power of ten that is left. -/
structure Scaled where
  significand : Nat
  exponent : Int

/-- Takes digits while they fit; returns those that did not. -/
def takeDigits (n : Nat) : List Char → Nat × List Char
  | [] => (n, [])
  | c :: cs =>
    if n * 10 + digitValue c < UInt64.size then takeDigits (n * 10 + digitValue c) cs
    else (n, c :: cs)

/-- Digits of the integer that do not fit still count as places; those of the fraction do not. -/
def scale (integer fraction : List Char) (power : Option Power) : Scaled :=
  let whole := takeDigits 0 integer
  let all := takeDigits whole.1 fraction
  let places : Int := whole.2.length - (fraction.length - all.2.length : Nat)
  let shift : Int := match power with
    | none => 0
    | some p => if p.negative then - digitsValue p.digits else digitsValue p.digits
  ⟨all.1, places + shift⟩

/-- Whether the product of the two rounded factors rounds to a finite double. -/
def Scaled.isFinite (s : Scaled) : Bool :=
  s.significand = 0 || s.exponent < 0 ||
    (s.exponent ≤ 308 &&
      roundToDouble s.significand * roundToDouble (Nat.pow 10 s.exponent.toNat) <
        Nat.pow 2 1024 - Nat.pow 2 970)

/-- Reads a number behind its sign; one too large for a double is refused. -/
def readNumber (cs : List Char) : Except ReadError (List Char) := do
  let (integer, rest) ← integerPart cs
  let (fraction, rest) ← fractionPart rest
  let (power, rest) ← powerPart rest
  if (scale integer fraction power).isFinite then .ok rest else .error .malformed

/-- Passes over a number behind its sign; whatever breaks off is malformed. -/
def skipNumber (cs : List Char) : Except ReadError (List Char) :=
  let parts : Except ReadError (List Char) := do
    let (_, rest) ← integerPart cs
    let (_, rest) ← fractionPart rest
    let (_, rest) ← powerPart rest
    return rest
  parts.mapError fun _ => .malformed

end ActivityRelay.Json
