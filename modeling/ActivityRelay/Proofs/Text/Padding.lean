import ActivityRelay.Text.Decimal
import ActivityRelay.Text.White
import Mathlib.Data.List.TakeWhile

/-! White space around a text, and the ways to write a number. Trimming finds the text again whose
edges are not white, and a number is read from each way that it can be written. -/
namespace ActivityRelay.Text

/-- White space in front of a text and behind it. -/
structure Padding where
  before : List Char := []
  behind : List Char := []
  before_white : ∀ c ∈ before, isWhite c = true := by simp
  behind_white : ∀ c ∈ behind, isWhite c = true := by simp

namespace Padding

def around (p : Padding) (cs : List Char) : List Char := p.before ++ cs ++ p.behind

theorem mem_around {p : Padding} {c : Char} {cs : List Char} (h : c ∈ p.around cs) :
    isWhite c = true ∨ c ∈ cs := by
  rw [around, List.append_assoc, List.mem_append, List.mem_append] at h
  rcases h with h | h | h
  · exact .inl (p.before_white c h)
  · exact .inr h
  · exact .inl (p.behind_white c h)

end Padding

/-- A text that neither begins nor ends with white space. -/
structure Bare (cs : List Char) : Prop where
  first : ∀ c ∈ cs.head?, isWhite c = false
  last : ∀ c ∈ cs.getLast?, isWhite c = false

theorem bare_of_forall {cs : List Char} (h : ∀ c ∈ cs, isWhite c = false) : Bare cs :=
  ⟨fun c hc => h c (List.mem_of_mem_head? hc), fun c hc => h c (List.mem_of_mem_getLast? hc)⟩

theorem trimStart_of_first {cs : List Char} (h : ∀ c ∈ cs.head?, isWhite c = false) :
    trimStart cs = cs := by
  cases cs with
  | nil => rfl
  | cons c cs => simp [trimStart, h c rfl]

theorem trimEnd_of_last {cs : List Char} (h : ∀ c ∈ cs.getLast?, isWhite c = false) :
    trimEnd cs = cs := by
  induction cs with
  | nil => rfl
  | cons c cs ih =>
    cases cs with
    | nil => simp [trimEnd, h c rfl]
    | cons d ds =>
      have hrest : trimEnd (d :: ds) = d :: ds := ih fun e he => h e (by simpa using he)
      rw [trimEnd, hrest]
      simp

/-- Trimming at the end leaves a text that does not end white, and takes away white space only. -/
theorem trimEnd_spec (cs : List Char) :
    (∀ c ∈ (trimEnd cs).getLast?, isWhite c = false) ∧
      ∃ ws, (∀ c ∈ ws, isWhite c = true) ∧ cs = trimEnd cs ++ ws := by
  induction cs with
  | nil => exact ⟨by simp [trimEnd], [], by simp, rfl⟩
  | cons c cs ih =>
    -- Whether the first character goes depends on what is left of the others.
    obtain ⟨hlast, ws, hws, he⟩ := ih
    cases ht : trimEnd cs with
    | nil =>
      rw [ht, List.nil_append] at he
      cases hc : isWhite c with
      | true =>
        have hnil : trimEnd (c :: cs) = [] := by simp [trimEnd, ht, hc]
        rw [hnil]
        exact ⟨by simp, c :: ws, List.forall_mem_cons.2 ⟨hc, hws⟩, by rw [he]; rfl⟩
      | false =>
        have hone : trimEnd (c :: cs) = [c] := by simp [trimEnd, ht, hc]
        rw [hone]
        exact ⟨by simp [hc], ws, hws, by rw [he]; rfl⟩
    | cons d ds =>
      have hkept : trimEnd (c :: cs) = c :: d :: ds := by simp [trimEnd, ht]
      rw [ht] at hlast he
      rw [hkept]
      exact ⟨by simpa using hlast, ws, hws, by rw [he]; rfl⟩

theorem trimStart_spec (cs : List Char) :
    (∀ c ∈ (trimStart cs).head?, isWhite c = false) ∧
      ∃ ws, (∀ c ∈ ws, isWhite c = true) ∧ cs = ws ++ trimStart cs := by
  refine ⟨fun c hc => ?_, cs.takeWhile isWhite, fun c hc => List.mem_takeWhile_imp hc, ?_⟩
  · have hd := List.head?_dropWhile_not isWhite cs
    rw [show (cs.dropWhile isWhite).head? = some c from hc] at hd
    simpa using hd
  · exact (List.takeWhile_append_dropWhile).symm

/-- Trimming finds the one text that is not white at its edges and has only white space around. -/
theorem trim_eq_iff {cs ds : List Char} :
    trim cs = ds ↔ Bare ds ∧ ∃ p : Padding, cs = p.around ds := by
  constructor
  · rintro rfl
    obtain ⟨hfirst, before, hbefore, hcs⟩ := trimStart_spec cs
    obtain ⟨hlast, behind, hbehind, hstart⟩ := trimEnd_spec (trimStart cs)
    refine ⟨⟨fun c hc => hfirst c ?_, hlast⟩, ⟨before, behind, hbefore, hbehind⟩, ?_⟩
    · rw [hstart, List.head?_append, show (trimEnd (trimStart cs)).head? = some c from hc]
      rfl
    · rw [Padding.around, List.append_assoc, trim, ← hstart, ← hcs]
  · rintro ⟨hbare, p, rfl⟩
    rw [Padding.around, List.append_assoc, trim, trimStart_white_append _ _ p.before_white]
    cases ds with
    | nil =>
      have hwhite := trimStart_white_append p.behind [] p.behind_white
      rw [List.append_nil] at hwhite
      rw [List.nil_append, hwhite]
      rfl
    | cons d ds =>
      have hstart : trimStart (d :: ds ++ p.behind) = d :: ds ++ p.behind :=
        trimStart_of_first fun c hc => hbare.first c (by simpa using hc)
      rw [hstart, trimEnd_append_white _ _ p.behind_white]
      exact trimEnd_of_last hbare.last

/-- The texts of which trimming leaves nothing are those of white space alone. -/
theorem trim_eq_nil_iff {cs : List Char} : trim cs = [] ↔ ∀ c ∈ cs, isWhite c = true := by
  rw [trim_eq_iff]
  constructor
  · rintro ⟨-, p, rfl⟩ c hc
    exact (p.mem_around hc).resolve_right List.not_mem_nil
  · intro h
    exact ⟨bare_of_forall (by simp), { before := cs, before_white := h }, by simp [Padding.around]⟩

theorem trim_ne_nil_iff {cs : List Char} : trim cs ≠ [] ↔ ∃ c ∈ cs, isWhite c = false := by
  rw [Ne, trim_eq_nil_iff]
  simp

theorem isWhite_of_isDigit {c : Char} (h : isDigit c = true) : isWhite c = false := by
  simp only [isDigit, Bool.and_eq_true, decide_eq_true_eq] at h
  simp only [isWhite, Bool.or_eq_false_iff, Bool.and_eq_false_iff, decide_eq_false_iff_not,
    beq_eq_false_iff_ne]
  omega

/-- A way to write a number: what stands around it and in front of its digits. -/
structure NumberStyle where
  padding : Padding := {}
  plus : Bool := false
  zeros : Nat := 0

namespace NumberStyle

/-- A number by itself. -/
def plain : NumberStyle := {}

/-- The digits of a number, behind some zeros. -/
def digits (w : NumberStyle) (n : Nat) : List Char := List.replicate w.zeros '0' ++ decimal n

def numeral (w : NumberStyle) (n : Nat) : List Char :=
  (if w.plus then ['+'] else []) ++ w.digits n

def write (w : NumberStyle) (n : Nat) : List Char := w.padding.around (w.numeral n)

theorem digits_ne_nil (w : NumberStyle) (n : Nat) : w.digits n ≠ [] := by
  simp [digits, decimal_ne_nil]

theorem isDigit_of_mem_digits {w : NumberStyle} {n : Nat} : ∀ c ∈ w.digits n, isDigit c = true := by
  intro c hc
  rcases List.mem_append.1 hc with h | h
  · rw [(List.mem_replicate.1 h).2]; rfl
  · exact decimal_all_digits n c h

@[simp] theorem digitsValue_digits (w : NumberStyle) (n : Nat) :
    digitsValue (w.digits n) = n := by
  have hzeros : ∀ k cs, digitsValue (List.replicate k '0' ++ cs) = digitsValue cs := by
    intro k cs
    induction k with
    | zero => rfl
    | succ k ih => exact ih
  rw [digits, hzeros, digitsValue_decimal]

theorem bare_numeral (w : NumberStyle) (n : Nat) : Bare (w.numeral n) := by
  refine bare_of_forall fun c hc => ?_
  rcases List.mem_append.1 hc with h | h
  · cases hp : w.plus with
    | false => simp [hp] at h
    | true =>
      have hplus : c = '+' := by simpa [hp] using h
      rw [hplus]; rfl
  · exact isWhite_of_isDigit (isDigit_of_mem_digits c h)

theorem readBelow_numeral {w : NumberStyle} {n bound : Nat} (h : n < bound) :
    readBelow bound (w.numeral n) = some n := by
  rw [readBelow_eq_some_iff]
  refine ⟨w.digits n, ?_, w.digits_ne_nil n, isDigit_of_mem_digits, w.digitsValue_digits n, h⟩
  cases hp : w.plus with
  | true => exact .inr (by simp [numeral, hp])
  | false =>
    refine .inl ⟨by simp [numeral, hp], fun hplus => ?_⟩
    exact absurd (isDigit_of_mem_digits '+' (List.mem_of_mem_head? hplus)) (by decide)

/-- However it is written, the number is read from it. -/
theorem readBelow_trim_write {w : NumberStyle} {n bound : Nat} (h : n < bound) :
    readBelow bound (trim (w.write n)) = some n := by
  have htrim : trim (w.write n) = w.numeral n := trim_eq_iff.2 ⟨w.bare_numeral n, w.padding, rfl⟩
  rw [htrim, readBelow_numeral h]

/-- No way to write a number has a zero byte in it. -/
theorem zero_not_mem_write (w : NumberStyle) (n : Nat) : '\x00' ∉ w.write n := by
  intro hmem
  rcases w.padding.mem_around hmem with h | h
  · exact absurd h (by decide)
  · rcases List.mem_append.1 h with h | h
    · cases hp : w.plus <;> simp [hp] at h
    · exact absurd (isDigit_of_mem_digits _ h) (by decide)

end NumberStyle
end ActivityRelay.Text
