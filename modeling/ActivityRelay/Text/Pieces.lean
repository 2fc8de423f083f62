/-! Text cut at every occurrence of a separator, or at the first or the last one. -/
namespace ActivityRelay.Text

/-- The pieces between separators; a text without one is a single piece. -/
def pieces (sep : Char) : List Char → List (List Char)
  | [] => [[]]
  | c :: cs =>
    if c = sep then [] :: pieces sep cs
    else match pieces sep cs with
      | [] => [[c]]
      | f :: fs => (c :: f) :: fs

theorem pieces_of_not_mem {sep : Char} (f : List Char) (h : sep ∉ f) : pieces sep f = [f] := by
  induction f with
  | nil => rfl
  | cons c f ih =>
    rw [List.mem_cons, not_or] at h
    simp [pieces, Ne.symm h.1, ih h.2]

theorem pieces_append_sep {sep : Char} (f cs : List Char) (h : sep ∉ f) :
    pieces sep (f ++ sep :: cs) = f :: pieces sep cs := by
  induction f with
  | nil => simp [pieces]
  | cons c f ih =>
    rw [List.mem_cons, not_or] at h
    simp [pieces, Ne.symm h.1, ih h.2]

theorem pieces_ne_nil (sep : Char) (cs : List Char) : pieces sep cs ≠ [] := by
  cases cs with
  | nil => simp [pieces]
  | cons c cs =>
    rw [pieces]
    split
    · simp
    · split <;> simp

/-- The first piece is the whole text, or a separator and the other pieces follow it. -/
theorem pieces_eq_cons {sep : Char} {cs f : List Char} {fs : List (List Char)}
    (h : pieces sep cs = f :: fs) :
    sep ∉ f ∧ (fs = [] ∧ cs = f ∨ ∃ rest, cs = f ++ sep :: rest ∧ pieces sep rest = fs) := by
  induction cs generalizing f with
  | nil =>
    cases h
    simp
  | cons c cs ih =>
    rw [pieces] at h
    by_cases hc : c = sep
    · rw [if_pos hc, List.cons.injEq] at h
      rw [← h.1, hc]
      exact ⟨List.not_mem_nil, .inr ⟨cs, rfl, h.2⟩⟩
    · rw [if_neg hc] at h
      cases hp : pieces sep cs with
      | nil => exact absurd hp (pieces_ne_nil sep cs)
      | cons g gs =>
        rw [hp] at h
        cases h
        obtain ⟨hg, hrest⟩ := ih hp
        refine ⟨by simp [Ne.symm hc, hg], ?_⟩
        rcases hrest with ⟨hnil, rfl⟩ | ⟨rest, rfl, htail⟩
        · exact .inl ⟨hnil, rfl⟩
        · exact .inr ⟨rest, rfl, htail⟩

/-- What stands before and behind the first occurrence of a separator. -/
def splitFirst (sep : List Char) : List Char → Option (List Char × List Char)
  | [] => if sep = [] then some ([], []) else none
  | c :: cs =>
    if sep.isPrefixOf (c :: cs) then some ([], (c :: cs).drop sep.length)
    else (splitFirst sep cs).map fun p => (c :: p.1, p.2)

theorem splitFirst_eq_some {sep cs before behind : List Char}
    (h : splitFirst sep cs = some (before, behind)) : cs = before ++ sep ++ behind := by
  induction cs generalizing before with
  | nil =>
    by_cases hs : sep = []
    · simp only [splitFirst, hs, if_true, Option.some.injEq, Prod.mk.injEq] at h
      simp [hs, ← h.1, ← h.2]
    · simp [splitFirst, hs] at h
  | cons c cs ih =>
    rw [splitFirst] at h
    split at h
    · next hp =>
      simp only [Option.some.injEq, Prod.mk.injEq] at h
      obtain ⟨t, ht⟩ := List.isPrefixOf_iff_prefix.1 hp
      rw [← h.1, ← h.2, ← ht]
      simp
    · obtain ⟨⟨a, b⟩, hab, he⟩ := Option.map_eq_some_iff.1 h
      simp only [Prod.mk.injEq] at he
      rw [← he.1, ih (he.2 ▸ hab)]
      simp

/-- What stands before and behind the last occurrence of a separator. -/
def splitLast (sep : Char) : List Char → Option (List Char × List Char)
  | [] => none
  | c :: cs =>
    match splitLast sep cs with
    | some (before, behind) => some (c :: before, behind)
    | none => if c = sep then some ([], cs) else none

theorem splitLast_eq_none {sep : Char} (cs : List Char) (h : sep ∉ cs) :
    splitLast sep cs = none := by
  induction cs with
  | nil => rfl
  | cons c cs ih =>
    rw [List.mem_cons, not_or] at h
    simp [splitLast, ih h.2, Ne.symm h.1]

theorem splitLast_eq_some {sep : Char} {cs before behind : List Char}
    (h : splitLast sep cs = some (before, behind)) : cs = before ++ sep :: behind := by
  induction cs generalizing before behind with
  | nil => simp [splitLast] at h
  | cons c cs ih =>
    rw [splitLast] at h
    split at h
    · next b e heq =>
      simp only [Option.some.injEq, Prod.mk.injEq] at h
      rw [← h.1, ← h.2]
      exact congrArg (c :: ·) (ih heq)
    · split at h
      · next hc =>
        simp only [Option.some.injEq, Prod.mk.injEq] at h
        rw [← h.1, ← h.2, hc]
        rfl
      · contradiction

theorem splitLast_append {sep : Char} (before behind : List Char) (h : sep ∉ behind) :
    splitLast sep (before ++ sep :: behind) = some (before, behind) := by
  induction before with
  | nil => simp [splitLast, splitLast_eq_none behind h]
  | cons c cs ih => simp [splitLast, ih]

end ActivityRelay.Text
