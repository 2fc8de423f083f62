import ActivityRelay.Proofs.Task.Step

/-! The activity lock: the line holds exactly the tasks that need it, each once, and only the task
in front is past the point where it waits. -/
namespace ActivityRelay

/-- Whether a task does what needs the activity lock. -/
def Phase.holds : Phase → Bool
  | .greeting .. | .telling .. => true
  | .clearing _ e | .dropping _ _ _ e | .finishing e => e.locked
  | _ => false

/-- Whether a task stands in line for the activity lock, or has come to its front. -/
def Phase.inLine : Phase → Bool
  | .waiting _ => true
  | p => p.holds

theorem Phase.inLine_of_holds {p : Phase} (h : p.holds = true) : p.inLine = true := by
  cases p <;> simp_all [inLine, holds]

/-- A step joins the line at its end, or leaves it from its front, or keeps its place; only in
front does a task begin what needs the lock. -/
theorem Phase.line_step {me : Nat} {s s' : Shared} {p p' : Phase} (h : Step me s p s' p') :
    (p.inLine = false ∧ p'.inLine = true ∧ p'.holds = false ∧ s'.line = s.line ++ [me]) ∨
    (p.holds = true ∧ p'.inLine = false ∧ s'.line = s.line.tail) ∨
    (p'.inLine = p.inLine ∧ s'.line = s.line ∧ (p.holds = true → p'.holds = true) ∧
      (p'.holds = true → p.holds = true ∨ s.line.head? = some me)) := by
  cases h with
  | finishes e => cases he : e.locked <;> simp [inLine, holds, he]
  | _ => simp_all [inLine, holds]

theorem Phase.front_of_holds {me : Nat} {s s' : Shared} {p p' : Phase} (h : Step me s p s' p')
    (hp : p.holds = false) (hp' : p'.holds = true) : s.line.head? = some me := by
  rcases line_step h with ⟨-, -, hn, -⟩ | ⟨hh, -⟩ | ⟨-, -, -, hf⟩
  · simp [hn] at hp'
  · simp [hp] at hh
  · exact (hf hp').resolve_left (by simp [hp])

namespace System
variable {s t : System} {i : Nat}

/-- The line for the lock and the phases of the tasks fit together. -/
structure Orderly (s : System) : Prop where
  nodup : s.line.Nodup
  inLine : ∀ i, i ∈ s.line ↔ ∃ p, s.tasks[i]? = some p ∧ p.inLine = true
  front : ∀ i p, s.tasks[i]? = some p → p.holds = true → s.line.head? = some i

theorem orderly_start (r : Relay) (ops : List Operation) : Orderly (start r ops) where
  nodup := List.nodup_nil
  inLine i := by
    simp only [start, line, List.getElem?_map, Option.map_eq_some_iff]
    constructor
    · simp
    · rintro ⟨p, ⟨op, -, rfl⟩, h⟩
      simp [Phase.inLine, Phase.holds] at h
  front i p hp h := by
    obtain ⟨op, -, rfl⟩ := task_start hp
    simp [Phase.holds] at h

theorem orderly_advance (o : Orderly s) (h : s.advance i = some t) : Orderly t := by
  obtain ⟨p, p', hp, hs, ht, -⟩ := advance_cases h
  have hphase := getElem?_set_task hp p'
  have hmem : ∀ j, j ≠ i → ((∃ q, t.tasks[j]? = some q ∧ q.inLine = true) ↔ j ∈ s.line) := by
    intro j hj
    rw [o.inLine, ht, hphase, if_neg hj]
  have hself : (∃ q, t.tasks[i]? = some q ∧ q.inLine = true) ↔ p'.inLine = true := by
    simp [ht, hphase]
  have hi : i ∈ s.line ↔ p.inLine = true := by simp [o.inLine, hp]
  rcases Phase.line_step hs with ⟨hout, hin, hnot, hl⟩ | ⟨hh, hout, hl⟩ | ⟨hsame, hl, hkeep, hfront⟩
  · have hn : i ∉ s.line := by simp [hi, hout]
    have hl : t.line = s.line ++ [i] := hl
    constructor
    · rw [hl]
      exact List.nodup_append.2 ⟨o.nodup, List.nodup_singleton i, by grind⟩
    · intro j
      by_cases hj : j = i
      · subst hj; simp [hself, hin, hl]
      · simp [hmem j hj, hl, hj]
    · intro j q hq hh
      rw [ht, hphase] at hq
      split at hq
      · cases hq; simp [hnot] at hh
      · have hf := o.front j q hq hh
        rw [hl, List.head?_append, hf]
        rfl
  · have hf := o.front i p hp hh
    have hl : t.line = s.line.tail := hl
    obtain ⟨rest, hrest⟩ : ∃ rest, s.line = i :: rest := List.head?_eq_some_iff.1 hf
    have hn : i ∉ rest := (List.nodup_cons.1 (hrest ▸ o.nodup)).1
    have hl : t.line = rest := by simp [hl, hrest]
    constructor
    · exact hl ▸ (List.nodup_cons.1 (hrest ▸ o.nodup)).2
    · intro j
      by_cases hj : j = i
      · subst hj; simp [hself, hout, hl, hn]
      · simp [hmem j hj, hl, hrest, hj]
    · intro j q hq hk
      rw [ht, hphase] at hq
      split at hq
      · cases hq; simp [Phase.inLine_of_holds hk] at hout
      · next hj => exact absurd (Option.some.inj ((o.front j q hq hk).symm.trans hf)) hj
  · have hl : t.line = s.line := hl
    constructor
    · exact hl ▸ o.nodup
    · intro j
      by_cases hj : j = i
      · subst hj; simp [hself, hsame, hl, hi]
      · simp [hmem j hj, hl]
    · intro j q hq hh
      rw [ht, hphase] at hq
      rw [hl]
      split at hq
      · next hj =>
        cases hq
        subst hj
        exact (hfront hh).elim (o.front _ p hp) id
      · exact o.front j q hq hh

theorem Orderly.congr (o : Orderly s) (ht : t.tasks = s.tasks) (hl : t.line = s.line) :
    Orderly t where
  nodup := hl ▸ o.nodup
  inLine i := by rw [hl, ht]; exact o.inLine i
  front i p := by rw [hl, ht]; exact o.front i p

theorem orderly_move {m : Move} (o : Orderly s) (h : s.move m = some t) : Orderly t := by
  rcases move_cases h with ⟨i, h⟩ | hm
  · exact orderly_advance o h
  · obtain ⟨marks, a⟩ := aside_of_move hm h
    exact o.congr a.tasks a.line

/-- The task that does what needs the lock, if there is one. -/
def inside (s : System) : Option Phase := (s.line.head?.bind (s.tasks[·]?)).filter Phase.holds

theorem inside_eq_some_iff (o : Orderly s) (q : Phase) :
    s.inside = some q ↔ ∃ i : Nat, s.tasks[i]? = some q ∧ q.holds = true := by
  simp only [inside, Option.filter_eq_some_iff, Option.bind_eq_some_iff]
  constructor
  · rintro ⟨⟨i, -, hq⟩, hh⟩
    exact ⟨i, hq, hh⟩
  · rintro ⟨i, hq, hh⟩
    exact ⟨⟨i, o.front i q hq hh, hq⟩, hh⟩

theorem inside_of_holds {p : Phase} (o : Orderly s) (hp : s.tasks[i]? = some p)
    (hh : p.holds = true) : s.inside = some p := (inside_eq_some_iff o p).2 ⟨i, hp, hh⟩

theorem inside_of_front {p : Phase} (hp : s.tasks[i]? = some p) (front : s.line.head? = some i)
    (hh : p.holds = false) : s.inside = none := by
  simp [inside, front, hp, Option.filter, hh]

theorem inside_congr (ht : t.tasks = s.tasks) (hl : t.line = s.line) : t.inside = s.inside := by
  simp [inside, ht, hl]

/-- A step changes what happens under the lock only if it is taken there. -/
theorem inside_advance {p p' : Phase} (o : Orderly s) (ot : Orderly t) (hp : s.tasks[i]? = some p)
    (ht : t.tasks = s.tasks.set i p') :
    t.inside = if p'.holds then some p' else if p.holds then none else s.inside := by
  have hphase := getElem?_set_task hp p'
  by_cases hh' : p'.holds = true
  · simp [hh', inside_of_holds (i := i) ot (by simp [ht, hphase]) hh']
  · rw [if_neg hh']
    by_cases hh : p.holds = true
    · -- whoever else were past waiting would have stood in front as well
      rw [if_pos hh, Option.eq_none_iff_forall_ne_some]
      intro q hq
      obtain ⟨j, hq, hk⟩ := (inside_eq_some_iff ot q).1 hq
      rw [ht, hphase] at hq
      split at hq
      · cases hq; exact hh' hk
      · next hj => exact hj (Option.some.inj ((o.front j q hq hk).symm.trans (o.front i p hp hh)))
    · rw [if_neg hh]
      ext q
      rw [inside_eq_some_iff ot, inside_eq_some_iff o]
      constructor
      · rintro ⟨j, hq, hk⟩
        rw [ht, hphase] at hq
        split at hq
        · cases hq; exact absurd hk hh'
        · exact ⟨j, hq, hk⟩
      · rintro ⟨j, hq, hk⟩
        refine ⟨j, ?_, hk⟩
        have hj : j ≠ i := by
          rintro rfl
          rw [hp] at hq
          cases hq
          exact hh hk
        rw [ht, hphase, if_neg hj, hq]

end System
end ActivityRelay
