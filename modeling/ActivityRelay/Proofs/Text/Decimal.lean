import ActivityRelay.Text.Decimal
import Mathlib.Tactic.IntervalCases

/-! Decimal numerals: they are the ones that every number is shown with, no two numbers share one,
and none but that of zero begins with a zero. -/
namespace ActivityRelay.Text

theorem digitChar_eq_digit {n : Nat} (h : n < 10) : Nat.digitChar n = digit n := by
  interval_cases n <;> rfl

theorem decimal_eq_toDigits (n : Nat) : decimal n = Nat.toDigits 10 n := by
  induction n using Nat.strongRecOn with
  | _ n ih =>
    rw [decimal, Nat.toDigits_eq_if (by decide)]
    split
    · next h => rw [digitChar_eq_digit h]
    · rw [ih (n / 10) (by omega), digitChar_eq_digit (Nat.mod_lt n (by decide))]

theorem toList_toString (n : Nat) : (toString n).toList = decimal n := by
  rw [Nat.toString_eq_repr, Nat.toList_repr, decimal_eq_toDigits]

theorem decimal_injective {m n : Nat} (h : decimal m = decimal n) : m = n := by
  rw [← digitsValue_decimal m, h, digitsValue_decimal]

theorem digit_ne_zero : ∀ n, n < 10 → n ≠ 0 → digit n ≠ '0' := by decide

theorem head?_decimal {n : Nat} (h : n ≠ 0) : (decimal n).head? ≠ some '0' := by
  induction n using Nat.strongRecOn with
  | _ n ih =>
    rw [decimal]
    split
    · next hlt => simpa using digit_ne_zero n hlt h
    · rw [List.head?_append, List.head?_eq_some_head (decimal_ne_nil _), Option.some_or,
        ← List.head?_eq_some_head (decimal_ne_nil _)]
      exact ih (n / 10) (by omega) (by omega)

end ActivityRelay.Text
