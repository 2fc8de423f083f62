/-! Decimal numerals of natural numbers, and reading them under a bound. -/
namespace ActivityRelay.Text

def isDigit (c : Char) : Bool := 0x30 ≤ c.toNat && c.toNat ≤ 0x39

def digitValue (c : Char) : Nat := c.toNat - 0x30

def digit (n : Nat) : Char := Char.ofNat (0x30 + n)

theorem isDigit_digit : ∀ n, n < 10 → isDigit (digit n) = true := by decide

theorem digitValue_digit : ∀ n, n < 10 → digitValue (digit n) = n := by decide

/-- The numeral of a number without leading zeros. -/
def decimal (n : Nat) : List Char :=
  if n < 10 then [digit n] else decimal (n / 10) ++ [digit (n % 10)]

/-- The number that a row of digits denotes. -/
def digitsValue (cs : List Char) : Nat :=
  cs.foldl (fun acc c => acc * 10 + digitValue c) 0

theorem digitsValue_append_digit (cs : List Char) (c : Char) :
    digitsValue (cs ++ [c]) = digitsValue cs * 10 + digitValue c := by
  simp [digitsValue]

@[simp] theorem digitsValue_decimal (n : Nat) : digitsValue (decimal n) = n := by
  induction n using Nat.strongRecOn with
  | _ n ih =>
    rw [decimal]
    split
    · simp [digitsValue, digitValue_digit n ‹_›]
    · rw [digitsValue_append_digit, ih (n / 10) (by omega), digitValue_digit (n % 10) (by omega)]
      omega

theorem decimal_all_digits (n : Nat) : ∀ c ∈ decimal n, isDigit c = true := by
  induction n using Nat.strongRecOn with
  | _ n ih =>
    rw [decimal]
    split
    · simp [isDigit_digit n ‹_›]
    · intro c hc
      rcases List.mem_append.1 hc with h | h
      · exact ih (n / 10) (by omega) c h
      · rw [List.mem_singleton.1 h]; exact isDigit_digit _ (by omega)

theorem decimal_ne_nil (n : Nat) : decimal n ≠ [] := by
  rw [decimal]; split <;> simp

/-- Reads an optional plus sign and at least one digit, if the value is below the bound. -/
def readBelow (bound : Nat) (cs : List Char) : Option Nat :=
  let digits := if cs.head? = some '+' then cs.tail else cs
  if digits ≠ [] ∧ digits.all isDigit ∧ digitsValue digits < bound then
    some (digitsValue digits)
  else none

/-- Reads digits without a sign, if the value is below the bound. -/
def readDigits (bound : Nat) (cs : List Char) : Option Nat :=
  if cs.head? = some '+' then none else readBelow bound cs

/-- Reads digits without a sign and without leading zeros, if the value is below the bound. -/
def readPlain (bound : Nat) (cs : List Char) : Option Nat :=
  if cs.head? = some '0' ∧ cs ≠ ['0'] then none else readDigits bound cs

theorem readBelow_eq_some_iff (bound n : Nat) (cs : List Char) :
    readBelow bound cs = some n ↔
      ∃ digits, (cs = digits ∧ digits.head? ≠ some '+' ∨ cs = '+' :: digits) ∧ digits ≠ [] ∧
        (∀ c ∈ digits, isDigit c = true) ∧ digitsValue digits = n ∧ n < bound := by
  unfold readBelow
  cases cs with
  | nil => simp
  | cons c cs =>
    by_cases hc : c = '+'
    · subst hc
      constructor
      · intro h
        simp only [List.head?_cons, if_true, List.tail_cons, Option.ite_none_right_eq_some,
          Option.some.injEq, List.all_eq_true] at h
        exact ⟨cs, .inr rfl, h.1.1, h.1.2.1, h.2, h.2 ▸ h.1.2.2⟩
      · rintro ⟨ds, hd, hne, hall, rfl, hlt⟩
        rcases hd with ⟨h, hplus⟩ | h
        · subst h; simp at hplus
        · simp only [List.cons.injEq, true_and] at h
          subst h
          simp [hne, hlt, List.all_eq_true.2 hall]
    · constructor
      · intro h
        simp only [List.head?_cons, Option.some.injEq, hc, if_false, Option.ite_none_right_eq_some,
          List.all_eq_true] at h
        exact ⟨c :: cs, .inl ⟨rfl, by simpa using hc⟩, h.1.1, h.1.2.1, h.2, h.2 ▸ h.1.2.2⟩
      · rintro ⟨ds, hd, hne, hall, rfl, hlt⟩
        rcases hd with ⟨h, hplus⟩ | h
        · subst h
          have hall' := List.all_eq_true.2 hall
          simp only [List.head?_cons, Option.some.injEq, hc, if_false]
          simp only [hall', hlt, and_true, ne_eq, reduceCtorEq, not_false_eq_true, if_true]
        · simp [hc] at h

end ActivityRelay.Text
