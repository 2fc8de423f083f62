import ActivityRelay.Text.Decimal
import ActivityRelay.Text.Hex
import ActivityRelay.Text.Pieces

/-! Addresses of hosts as numbers, read from the forms in which they are written. -/
namespace ActivityRelay.Network
open Text

/-- The number of a host, of 32 or of 128 bits; zone zero leaves open which interface it is on. -/
inductive Address where
  | v4 (number : Nat)
  | v6 (number zone : Nat)
  deriving DecidableEq, Repr

namespace Address

/-- The number that big-endian digits of some base make. -/
def ofDigits (base : Nat) (ds : List Nat) : Nat := ds.foldl (fun n d => n * base + d) 0

/-- A digit of a numeral in base eight. -/
def octalValue? (c : Char) : Option Nat := (hexValue? c).filter (· < 8)

/-- A part of a written address: hexadecimal behind `0x`, octal behind `0`, else decimal. -/
def part? (cs : List Char) : Option Nat :=
  match cs with
  | '0' :: x :: ds =>
    if x = 'x' ∨ x = 'X' then if ds = [] then none else hexRead? ds
    else ((x :: ds).mapM octalValue?).map (ofDigits 8)
  | [] => none
  | cs => if cs.all isDigit then some (digitsValue cs) else none

/-- One to four parts; the last stands for all bytes that are left. -/
def v4? (cs : List Char) : Option Nat := do
  let parts ← (pieces '.' cs).mapM part?
  let last ← parts.getLast?
  let first := parts.dropLast
  let bound := Nat.pow 256 (4 - first.length)
  if first.length ≤ 3 ∧ first.all (· < 256) ∧ last < bound then
    some (ofDigits 256 first * bound + last)
  else none

/-- A group of 16 bits in one to four hexadecimal digits. -/
def group? (cs : List Char) : Option (List Nat) :=
  if cs = [] ∨ 4 < cs.length then none else (hexRead? cs).map ([·])

/-- A group, or two of them as four bytes with points between. -/
def lastGroup? (cs : List Char) : Option (List Nat) :=
  match (pieces '.' cs).mapM (readPlain 256) with
  | some [a, b, c, d] => some [a * 256 + b, c * 256 + d]
  | _ => group? cs

/-- The groups of one side of an address; only the last one may be written as bytes. -/
def groups? (last? : List Char → Option (List Nat)) (cs : List Char) : Option (List Nat) :=
  if cs = [] then some []
  else do
    let parts := pieces ':' cs
    let first ← parts.dropLast.mapM group?
    return first.flatten ++ (← last? (parts.getLast?.getD []))

/-- Eight groups, or fewer with one gap of zeros. -/
def v6? (cs : List Char) : Option Nat := do
  match splitFirst "::".toList cs with
  | none =>
    let groups ← groups? lastGroup? cs
    if groups.length = 8 then some (ofDigits 65536 groups) else none
  | some (before, behind) =>
    let high ← groups? group? before
    let low ← groups? lastGroup? behind
    let used := high.length + low.length
    if used ≤ 7 then some (ofDigits 65536 (high ++ List.replicate (8 - used) 0 ++ low)) else none

/-- A v6 address, with a zone behind a percent sign if it likes. -/
def zoned? (zone? : Nat → List Char → Option Nat) (cs : List Char) : Option Address :=
  match splitFirst ['%'] cs with
  | none => (v6? cs).map (.v6 · 0)
  | some (cs, zone) => do
    let number ← v6? cs
    return .v6 number (← zone? number zone)

/-- The number of a zone. -/
def zoneNumber? (cs : List Char) : Option Nat := readDigits UInt32.size cs

/-- Whether a v6 number belongs to one link only. -/
def isLink (number : Nat) : Bool := number / Nat.pow 2 118 == 0x3FA

/-- Whether a v6 number stands for a group of hosts. -/
def isGroup (number : Nat) : Bool := number / Nat.pow 2 120 == 0xFF

/-- Whether a group stays on one host or one link. -/
def isNearGroup (number : Nat) : Bool :=
  isGroup number && (number / Nat.pow 2 112 % 16 == 1 || number / Nat.pow 2 112 % 16 == 2)

/-- Whether a v6 number means something only together with a zone. -/
def needsZone (number : Nat) : Bool := isLink number || isNearGroup number

/-- The v4 number that an address stands for, also where it is written as a v6 one. -/
def v4Number? : Address → Option Nat
  | .v4 n => some n
  | .v6 n _ => if n / 0x100000000 = 0xFFFF then some (n % 0x100000000) else none

end Address
end ActivityRelay.Network
