/-! Sets of characters given as ranges of code points. -/
namespace ActivityRelay.Text

/-- Inclusive ranges of code points, from low to high. -/
structure CodePoints where
  ranges : List (Nat × Nat)

def CodePoints.contains (s : CodePoints) (c : Char) : Bool :=
  s.ranges.any fun r => r.1 ≤ c.toNat && c.toNat ≤ r.2

theorem CodePoints.contains_iff (s : CodePoints) (c : Char) :
    s.contains c = true ↔ ∃ r ∈ s.ranges, r.1 ≤ c.toNat ∧ c.toNat ≤ r.2 := by
  simp [contains, List.any_eq_true]

end ActivityRelay.Text
