import ActivityRelay.Json.Literal
import ActivityRelay.Json.Quote
import ActivityRelay.Proofs.Text.Utf8
import Mathlib.Tactic.SplitIfs

/-! Quoted text read back: the reader of literals undoes each escape, and nothing that is quoted
stands as a raw control character. -/
namespace ActivityRelay

namespace Text

theorem hexFixed_four (n : Nat) : hexFixed 4 n =
    [hexDigit (n / 16 / 16 / 16 % 16), hexDigit (n / 16 / 16 % 16), hexDigit (n / 16 % 16),
      hexDigit (n % 16)] := rfl

theorem isAscii_hexDigit : ∀ n, n < 16 → 0x30 ≤ (hexDigit n).toNat := by decide

end Text

namespace Json
open Text

theorem fourBytesLeft_of_length {cs : List Char} (h : 4 ≤ cs.length) : fourBytesLeft cs = true := by
  have hsize := Utf8.length_le_size (cs.take 4)
  rw [List.length_take_of_le h] at hsize
  simpa [fourBytesLeft] using hsize

theorem fourBytesLeft_hexFixed (n : Nat) (rest : List Char) :
    fourBytesLeft (hexFixed 4 n ++ rest) = true :=
  fourBytesLeft_of_length (by rw [List.length_append, hexFixed_length]; omega)

/-- How the reader goes on when four digits are read. -/
def readUnit (u : Unit16) (rest : List Char) : Except ReadError (List Char × List Char) :=
  match u with
  | .char c => withFirst c (readLiteralFrom .plain rest)
  | .half high => readLiteralFrom (.halfway high) rest
  | .lone => .error .malformed

section digit
variable {c : Char} {d : Nat} (h : hexValue? c = some d)
include h

theorem readLiteralFrom_digit (high : Option Nat) (left value : Nat) (rest : List Char) :
    readLiteralFrom (.hex high (left + 1) value) (c :: rest) =
      readLiteralFrom (.hex high left (value * 16 + d)) rest := by
  simp only [readLiteralFrom, h]

theorem readLiteralFrom_lastDigit (high : Option Nat) (value : Nat) (rest : List Char) :
    readLiteralFrom (.hex high 0 value) (c :: rest) =
      readUnit (joinUnits high (value * 16 + d)) rest := by
  cases hu : joinUnits high (value * 16 + d) <;> simp only [readLiteralFrom, h, hu, readUnit]

end digit

theorem hexValue?_mod (n : Nat) : hexValue? (hexDigit (n % 16)) = some (n % 16) :=
  hexValue?_hexDigit _ (Nat.mod_lt n (by decide))

/-- Four digits are read for the number that they were written for. -/
theorem readLiteralFrom_hexFixed (high : Option Nat) {n : Nat} (h : n < 0x10000)
    (rest : List Char) : readLiteralFrom (.hex high 3 0) (hexFixed 4 n ++ rest) =
      readUnit (joinUnits high n) rest := by
  have hn : (((0 * 16 + n / 16 / 16 / 16 % 16) * 16 + n / 16 / 16 % 16) * 16 + n / 16 % 16) * 16 +
      n % 16 = n := by omega
  rw [hexFixed_four, List.cons_append, List.cons_append, List.cons_append, List.cons_append,
    List.nil_append, readLiteralFrom_digit (hexValue?_mod _),
    readLiteralFrom_digit (hexValue?_mod _), readLiteralFrom_digit (hexValue?_mod _),
    readLiteralFrom_lastDigit (hexValue?_mod _), hn]

theorem readLiteralFrom_unicode {n : Nat} (h : n < 0x10000) (rest : List Char) :
    readLiteralFrom .plain ('\\' :: 'u' :: (hexFixed 4 n ++ rest)) =
      readUnit (joinUnits none n) rest := by
  rw [← readLiteralFrom_hexFixed none h]
  simp [readLiteralFrom, fourBytesLeft_hexFixed]

theorem readLiteralFrom_short {c d : Char} (hu : c ≠ 'u') (h : shortEscape? c = some d)
    (rest : List Char) : readLiteralFrom .plain ('\\' :: c :: rest) =
      withFirst d (readLiteralFrom .plain rest) := by
  simp [readLiteralFrom, hu, h]

theorem joinUnits_alone {n : Nat} (h : n < 0xD800 ∨ 0xE000 ≤ n) :
    joinUnits none n = .char (Char.ofNat n) := by
  simp only [joinUnits]
  rw [if_neg (by omega), if_neg (by omega)]

theorem eq_ofNat_of_toNat {c : Char} {n : Nat} (h : c.toNat = n) : c = Char.ofNat n := by
  rw [← h, Char.ofNat_toNat]

/-- The reader undoes the escape of one character, whatever follows. -/
theorem readLiteralFrom_escape (c : Char) (rest : List Char) :
    readLiteralFrom .plain (escape c ++ rest) = withFirst c (readLiteralFrom .plain rest) := by
  unfold escape
  split_ifs with quote slash b f n r t control
  · subst quote
    exact readLiteralFrom_short (by decide) rfl rest
  · subst slash
    exact readLiteralFrom_short (by decide) rfl rest
  · exact eq_ofNat_of_toNat b ▸ readLiteralFrom_short (by decide) rfl rest
  · exact eq_ofNat_of_toNat f ▸ readLiteralFrom_short (by decide) rfl rest
  · exact eq_ofNat_of_toNat n ▸ readLiteralFrom_short (by decide) rfl rest
  · exact eq_ofNat_of_toNat r ▸ readLiteralFrom_short (by decide) rfl rest
  · exact eq_ofNat_of_toNat t ▸ readLiteralFrom_short (by decide) rfl rest
  · have h := readLiteralFrom_unicode (n := c.toNat) (by omega) rest
    rw [joinUnits_alone (.inl (by omega)), Char.ofNat_toNat] at h
    exact h
  · simp [readLiteralFrom, quote, slash, control]

theorem readLiteral_flatMap_escape (cs rest : List Char) :
    readLiteral (cs.flatMap escape ++ '"' :: rest) = .ok (cs, rest) := by
  induction cs with
  | nil => simp [readLiteral, readLiteralFrom]
  | cons c cs ih =>
    rw [readLiteral] at ih ⊢
    rw [List.flatMap_cons, List.append_assoc, readLiteralFrom_escape, ih]
    rfl

theorem printable_escape (c : Char) : ∀ d ∈ escape c, 0x20 ≤ d.toNat := by
  unfold escape
  split_ifs with quote slash b f n r t control
  · simp
  · simp
  · simp
  · simp
  · simp
  · simp
  · simp
  · intro d hd
    rw [hexFixed_four] at hd
    simp only [List.cons_append, List.nil_append, List.mem_cons, List.not_mem_nil, or_false] at hd
    have digit : ∀ n, 0x20 ≤ (hexDigit (n % 16)).toNat := fun n =>
      Nat.le_trans (by decide) (isAscii_hexDigit (n % 16) (Nat.mod_lt _ (by decide)))
    rcases hd with rfl | rfl | rfl | rfl | rfl | rfl
    · decide
    · decide
    · exact digit _
    · exact digit _
    · exact digit _
    · exact digit _
  · intro d hd
    rw [List.mem_singleton.1 hd]
    omega

theorem printable_quote (cs : List Char) : ∀ d ∈ quote cs, 0x20 ≤ d.toNat := by
  intro d hd
  simp only [quote, List.mem_append, List.mem_singleton, List.mem_flatMap] at hd
  rcases hd with (rfl | ⟨c, -, hd⟩) | rfl
  · decide
  · exact printable_escape c d hd
  · decide

end Json
end ActivityRelay
