import ActivityRelay.Text.Hex

/-! Names of viewers: numbers of 128 bits, written in groups of hexadecimal digits. -/
namespace ActivityRelay

structure ClientId where
  number : BitVec 128
  deriving DecidableEq, Repr

namespace ClientId
open Text

def ofNat (n : Nat) : ClientId := ⟨BitVec.ofNat 128 n⟩

instance : LT ClientId := ⟨fun a b => a.number.toNat < b.number.toNat⟩

instance (a b : ClientId) : Decidable (a < b) :=
  inferInstanceAs (Decidable (a.number.toNat < b.number.toNat))

theorem lt_def (a b : ClientId) : a < b ↔ a.number.toNat < b.number.toNat := Iff.rfl

theorem lt_trans {a b c : ClientId} (h : a < b) (k : b < c) : a < c := Nat.lt_trans h k

theorem lt_irrefl (a : ClientId) : ¬ a < a := Nat.lt_irrefl _

theorem lt_of_not_lt {a b : ClientId} (h : ¬ a < b) (ne : a ≠ b) : b < a := by
  rcases Nat.lt_trichotomy a.number.toNat b.number.toNat with k | k | k
  · exact absurd k h
  · cases a; cases b; exact absurd (congrArg mk (BitVec.eq_of_toNat_eq k)) ne
  · exact k

/-- Thirty-two digits in groups of eight, four, four, four and twelve. -/
def chars (id : ClientId) : List Char :=
  let digits := hexFixed 32 id.number.toNat
  digits.take 8 ++ ['-'] ++ (digits.drop 8).take 4 ++ ['-'] ++ (digits.drop 12).take 4 ++ ['-'] ++
    (digits.drop 16).take 4 ++ ['-'] ++ digits.drop 20

def text (id : ClientId) : String := String.ofList id.chars

end ClientId
end ActivityRelay
