/-! Sequences cut behind every occurrence of a mark that ends a line. -/
namespace ActivityRelay.Text
variable {α : Type} [DecidableEq α]

/-- The lines of a sequence, each with the mark that ends it; the last one may lack it. -/
def lines (mark : α) : List α → List (List α)
  | [] => []
  | a :: as =>
    if a = mark then [a] :: lines mark as
    else match lines mark as with
      | [] => [[a]]
      | l :: ls => (a :: l) :: ls

theorem lines_append_mark {mark : α} (l as : List α) (h : mark ∉ l) :
    lines mark (l ++ mark :: as) = (l ++ [mark]) :: lines mark as := by
  induction l with
  | nil => simp [lines]
  | cons a l ih =>
    rw [List.mem_cons, not_or] at h
    simp [lines, Ne.symm h.1, ih h.2]

@[simp] theorem lines_flatten (mark : α) (as : List α) : (lines mark as).flatten = as := by
  induction as with
  | nil => rfl
  | cons a as ih =>
    rw [lines]
    split
    · simp [ih]
    · cases h : lines mark as with
      | nil => rw [h] at ih; simp [← ih]
      | cons l ls => rw [h] at ih; simp [← ih]

end ActivityRelay.Text
