import ActivityRelay.Proofs.Viewer.Heard

/-! A session with an id and a queue of its own, watched over a run: step by step its queue keeps up
with the events that are meant for it. -/
namespace ActivityRelay

/-- The id and the queue of a session are used by one connect at most, and by no earlier one. -/
structure Sole (r : Relay) (ops : List Operation) (id : ClientId) (queue : Nat) : Prop where
  once : ∀ i j : Nat, ops[i]? = some (.connect id queue) → ops[j]? = some (.connect id queue) →
    i = j
  own : ∀ other q, .connect other q ∈ ops → (other = id ↔ q = queue)
  fresh : ∀ c ∈ r.registry.connections, c.id ≠ id ∧ c.queue ≠ queue
  unused : r.accepted queue = []

variable {initial : String} {id : ClientId} {queue : Nat}

theorem sole_cons {r : Relay} {ops : List Operation}
    (away : ∀ c ∈ r.registry.connections, c.id ≠ id ∧ c.queue ≠ queue)
    (unused : r.accepted queue = [])
    (h : ∀ other q, .connect other q ∈ ops → other ≠ id ∧ q ≠ queue) :
    Sole r (.connect id queue :: ops) id queue where
  once i j hi hj := by
    have first : ∀ k : Nat, (.connect id queue :: ops)[k]? = some (.connect id queue) → k = 0 := by
      intro k hk
      cases k with
      | zero => rfl
      | succ k => exact absurd rfl (h id queue (List.mem_of_getElem? hk)).1
    rw [first i hi, first j hj]
  own other q hm := by
    rcases List.mem_cons.1 hm with he | hm
    · cases he
      exact iff_of_true rfl rfl
    · exact iff_of_false (h other q hm).1 (h other q hm).2
  fresh := away
  unused := unused

theorem sole_fresh (activity : String) (capacities : List Nat) {ops : List Operation}
    (h : ∀ other q, .connect other q ∈ ops → other ≠ id ∧ q ≠ queue) :
    Sole (.fresh activity capacities) (.connect id queue :: ops) id queue := by
  refine sole_cons (fun c hc => ?_) ?_ h
  · simp [Relay.fresh] at hc
  · simp only [Relay.accepted, Relay.fresh, List.getElem?_map]
    cases capacities[queue]? <;> rfl

/-- What the step of a task means for a viewer, if under the lock its own debt is what is due. -/
theorem Heard.step {me : Nat} {s s' : Shared} {p p' : Phase} {op : Operation}
    {history : List Mark} {due : Option (List Event)} (hs : Phase.Step me s p s' p')
    (hop : op.isPublic = true) (ho : p.Of op) (h : Heard initial id queue s.relay history due)
    (ha : s.relay.activity = activityAfter initial history) (hd : p.holds = true → due = p.due id)
    (hf : s.line.head? = some me → p.holds = false → due = some [])
    (own : ∀ other q, p = .waiting (.connect other q) → (other = id ↔ q = queue))
    (new : p = .waiting (.connect id queue) → .registered id queue ∉ history) :
    Heard initial id queue s'.relay (history ++ p.marks me s)
      (if p'.holds then p'.due id else if p.holds then some [] else due) := by
  cases hs with
  | register | unregister | sendTo | broadcast | commit | replaces =>
    cases ho
    simp [Operation.isPublic] at hop
  | disconnect other =>
    simp only [Phase.marks, List.append_nil]
    exact h.remove (s.relay.view_remove other) fun _ => rfl
  | clears other record failed ending =>
    simp only [Phase.marks, List.append_nil, Phase.holds]
    refine h.remove (s.relay.view_clear record other) fun hne => ?_
    by_cases hl : ending.locked = true
    · simp only [hl, if_true, hd hl, Phase.due, List.map_cons, List.mem_cons, Ne.symm hne, false_or]
    · simp [hl]
  | @registers other q registry front hi =>
    rw [Phase.marks_of_registers hi]
    refine h.register hi (own other q rfl) (fun he => ?_) (hf front rfl) ha rfl rfl
    have he : other = id := he
    exact new (by rw [he, (own other q rfl).1 he])
  | changes origin value front => exact h.commit (hf front rfl) me origin value rfl rfl
  | @missed other activity hn =>
    simp only [Phase.marks, List.append_nil]
    refine h.deliver ⟨_, rfl⟩ (fun _ => rfl) fun c hc => .inl ⟨[], ?_, ?_, rfl⟩
    · have hne : other ≠ id := fun he => by simp [he, hc] at hn
      rw [hd rfl, Phase.due, if_neg hne]
    · exact (List.append_nil _).symm
  | greets hc ok =>
    simp only [Phase.marks, List.append_nil]
    exact h.greet hc ok (hd rfl)
  | @fails other c activity e hc bad =>
    simp only [Phase.marks, List.append_nil, Phase.holds, if_true, Phase.due]
    refine h.deliver ⟨_, rfl⟩ (fun _ => rfl) fun d hc' => ?_
    by_cases he : other = id
    · exact .inr ⟨rfl, if_pos (List.mem_singleton.2 he.symm)⟩
    · refine .inl ⟨[], ?_, (List.append_nil _).symm, if_neg fun hm => he ?_⟩
      · rw [hd rfl, Phase.due, if_neg he]
      · exact (List.mem_singleton.1 hm).symm
  | tells origin previous value =>
    simp only [Phase.marks, List.append_nil, Phase.holds, if_true, Phase.due, Phase.clearingOf_ids]
    exact h.tell (hd rfl)
  | @plain origin raw text hc | @command origin raw value hc =>
    exact h.same (s.relay.view_hear origin raw) (by simp [Phase.marks, Mark.Quiet, Mark.value?]) rfl
  | @refuses other q front hi =>
    have hv := ((s.relay.newConnection other q).1.note (.duplicateIgnored other)).view_release q
    rw [Phase.marks_of_refuses hi]
    exact h.quiet rfl (Relay.content_congr (congrArg View.queues hv) queue).1 (by simp)
      (hf front rfl).symm
  | finishes e =>
    refine h.same (Relay.view_lastNote s.relay e.last) (by simp [Phase.marks]) ?_
    by_cases hl : e.locked = true
    · simp [hd hl, hl, Phase.due, Phase.holds]
    · simp [hl, Phase.holds]
  | drops c last failed ending =>
    refine h.same (by simp) (by simp [Phase.marks]) ?_
    by_cases hl : ending.locked = true
    · simp [hd hl, hl, Phase.due, Phase.holds]
    · simp [hl, Phase.holds]
  | ask work =>
    exact h.same rfl (by cases work <;> simp [Phase.marks, Mark.Quiet, Mark.value?]) rfl
  | cleared ending =>
    refine h.same rfl (by simp [Phase.marks]) ?_
    by_cases hl : ending.locked = true
    · simp [hd hl, hl, Phase.due, Phase.holds]
    · simp [hl, Phase.holds]
  | reads front | reports viewers front =>
    exact h.same rfl (by simp [Phase.marks]) (hf front rfl).symm
  | connect | current | status => exact h.same rfl (by simp [Phase.marks]) rfl

namespace Phase
variable {me : Nat} {s s' : Shared} {p p' : Phase}

/-- Whether a task has still to register a viewer with a queue. -/
def toConnect (id : ClientId) (queue : Nat) : Phase → Prop
  | .start op => op = .connect id queue
  | .asking work | .waiting work => work = .connect id queue
  | _ => False

theorem Of.eq_connect {op : Operation} (ho : p.Of op) (h : p.toConnect id queue) :
    op = .connect id queue := by
  cases p with
  | start op' => exact ho.symm.trans h
  | asking work | waiting work => cases h; exact ho
  | _ => exact h.elim

theorem toConnect_of_step (hs : Step me s p s' p') (h : p'.toConnect id queue) :
    p.toConnect id queue ∧ ∀ work, p ≠ .waiting work := by
  cases hs <;> simp_all [toConnect]

theorem registered_mem_marks (h : .registered id queue ∈ p.marks me s) :
    p = .waiting (.connect id queue) := by
  unfold marks at h
  split at h
  · simp at h
  · simp at h
  · split at h <;> simp_all
  · simp at h
  · simp at h

end Phase

namespace System
variable {s t : System} {i : Nat} {ops : List Operation} {r : Relay}

/-- What the task under the activity lock still owes a viewer. -/
def due (s : System) (id : ClientId) : Option (List Event) :=
  s.inside.elim (some []) (Phase.due id)

/-- A session with its own id and queue, at any point of a run. -/
structure Watched (initial : String) (ops : List Operation) (id : ClientId) (queue : Nat)
    (s : System) : Prop where
  orderly : s.Orderly
  follows : s.Follows ops
  activity : s.relay.activity = activityAfter initial s.history
  once : s.history.count (.registered id queue) ≤ 1
  past : .registered id queue ∈ s.history →
    ∀ (i : Nat) p, s.tasks[i]? = some p → ¬ p.toConnect id queue
  heard : Heard initial id queue s.relay s.history (s.due id)

theorem watched_start (sole : Sole r ops id queue) :
    Watched r.activity ops id queue (start r ops) where
  orderly := orderly_start r ops
  follows := follows_start r ops
  activity := rfl
  once := Nat.zero_le 1
  past h := by simp [start] at h
  heard :=
    { own := fun c hc => iff_of_false (sole.fresh c hc).1 (sole.fresh c hc).2
      begins := by
        change r.accepted queue <+: _
        rw [sole.unused]
        exact List.nil_prefix
      whole := fun c hc =>
        absurd (Registry.find?_eq_some_iff.1 hc).2
          (sole.fresh c (Registry.find?_eq_some_iff.1 hc).1).1 }

theorem watched_advance (isPublic : ∀ op ∈ ops, op.isPublic = true) (sole : Sole r ops id queue)
    (w : Watched initial ops id queue s) (h : s.advance i = some t) :
    Watched initial ops id queue t := by
  have orderly := orderly_advance w.orderly h
  have follows : Follows ops t := follows_move (m := .task i) isPublic w.follows h
  have activity := activity_move (m := .task i) isPublic w.follows w.activity h
  obtain ⟨p, p', hp, hs, ht, hh⟩ := advance_cases h
  obtain ⟨op, hop, ho⟩ := w.follows.task i p hp
  have hphase := getElem?_set_task hp p'
  have new : p.toConnect id queue → .registered id queue ∉ s.history := fun hc hm =>
    w.past hm i p hp hc
  refine ⟨orderly, follows, activity, ?_, ?_, ?_⟩
  · rw [hh, List.count_append]
    by_cases hm : .registered id queue ∈ p.marks i s.shared
    · have hn : .registered id queue ∉ s.history := by
        apply new
        rw [Phase.registered_mem_marks hm]
        rfl
      have hc := (List.count_le_length (a := .registered id queue)).trans
        (p.length_marks_le i s.shared)
      rw [List.count_eq_zero_of_not_mem hn]
      omega
    · rw [List.count_eq_zero_of_not_mem hm]
      exact w.once
  · intro hm j q hq hc
    rw [ht, hphase] at hq
    rw [hh, List.mem_append] at hm
    split at hq
    · cases hq
      obtain ⟨hpc, hpw⟩ := Phase.toConnect_of_step hs hc
      rcases hm with hm | hm
      · exact new hpc hm
      · exact hpw _ (Phase.registered_mem_marks hm)
    · next hj =>
      rcases hm with hm | hm
      · exact w.past hm j q hq hc
      · -- the other task would be a second connect of the session
        obtain ⟨op', hop', ho'⟩ := w.follows.task j q hq
        have hpc : p.toConnect id queue := by rw [Phase.registered_mem_marks hm]; rfl
        rw [ho.eq_connect hpc] at hop
        rw [ho'.eq_connect hc] at hop'
        exact hj (sole.once j i hop' hop)
  · rw [hh]
    have hdue : t.due id =
        if p'.holds then p'.due id else if p.holds then some [] else s.due id := by
      rw [due, inside_advance w.orderly orderly hp ht]
      split
      · rfl
      · split <;> rfl
    rw [hdue]
    refine w.heard.step hs (isPublic op (List.mem_of_getElem? hop)) ho w.activity ?_ ?_ ?_ ?_
    · intro hold
      rw [due, inside_of_holds w.orderly hp hold]
      rfl
    · intro front hold
      rw [due, inside_of_front hp front hold]
      rfl
    · rintro other q rfl
      cases ho
      exact sole.own other q (List.mem_of_getElem? hop)
    · rintro rfl
      exact new rfl

theorem watched_move {m : Move} (isPublic : ∀ op ∈ ops, op.isPublic = true)
    (sole : Sole r ops id queue) (w : Watched initial ops id queue s) (h : s.move m = some t) :
    Watched initial ops id queue t := by
  rcases move_cases h with ⟨i, h⟩ | hm
  · exact watched_advance isPublic sole w h
  obtain ⟨marks, a⟩ := aside_of_move hm h
  obtain ⟨queues, order, hr⟩ := a.frame
  have quiet : ∀ mark ∈ marks, mark.Quiet id queue := by
    intro mark hmark
    obtain ⟨q, e, rfl⟩ := a.marks.2 mark hmark
    exact ⟨rfl, by simp⟩
  have hn : .registered id queue ∉ marks := fun hmark => (quiet _ hmark).2 rfl
  refine ⟨orderly_move w.orderly h, follows_move isPublic w.follows h,
    activity_move isPublic w.follows w.activity h, ?_, ?_, ?_⟩
  · rw [a.history, List.count_append, List.count_eq_zero_of_not_mem hn]
    exact w.once
  · rw [a.history, a.tasks]
    exact fun hmark => w.past ((List.mem_append.1 hmark).resolve_right hn)
  · rw [a.history, due, inside_congr a.tasks a.line]
    exact w.heard.quiet (by rw [hr]) (a.accepted queue) quiet rfl

theorem watched_run {moves : List Move} (isPublic : ∀ op ∈ ops, op.isPublic = true)
    (sole : Sole r ops id queue) (h : (start r ops).run moves = some s) :
    Watched r.activity ops id queue s :=
  run_invariant (fun _ _ _ hm w => watched_move isPublic sole w hm) (watched_start sole) h

/-- The history of a run cut at the registration of a viewer, once the viewer is registered. -/
theorem Watched.cut (w : Watched initial ops id queue s)
    (hm : .registered id queue ∈ s.history) : ∃ before after,
      s.history = before ++ .registered id queue :: after ∧
      .registered id queue ∉ before ++ after ∧
      streamOf initial id queue s.history =
        .game (activityAfter initial before) :: (valuesFor id after).map .game := by
  obtain ⟨before, after, hh, hn⟩ := List.eq_append_cons_of_mem hm
  have hc := w.once
  rw [hh, List.count_append, List.count_cons_self] at hc
  have ha : .registered id queue ∉ after := List.count_eq_zero.1 (by omega)
  refine ⟨before, after, hh, by simp [hn, ha], ?_⟩
  rw [hh, streamOf_decomposed hn]

end System
end ActivityRelay
