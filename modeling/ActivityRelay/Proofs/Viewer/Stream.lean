import ActivityRelay.Proofs.Viewer.Watched

/-! What a viewer's queue accepts over a run: the activity at registration, then every value that
another one commits, in the order of the commits, up to the first event that the queue refuses. -/
namespace ActivityRelay

variable {initial : String} {id : ClientId} {queue : Nat}

namespace Phase
variable {me : Nat} {s s' : Shared} {p p' : Phase} {op : Operation}

/-- Who is not registered stays so, unless its own connect takes the step. -/
theorem find?_step (hs : Step me s p s' p') (hop : op.isPublic = true) (ho : p.Of op)
    (hc : ∀ q, p ≠ .waiting (.connect id q)) (hn : s.relay.registry.find? id = none) :
    s'.relay.registry.find? id = none := by
  have same {r : Relay} (hv : r.view.registry = s.relay.view.registry) :
      r.registry.find? id = none := by
    have hr : r.registry = s.relay.registry := hv
    rw [hr, hn]
  have erased {r : Relay} {other : ClientId}
      (hv : r.view.registry = s.relay.registry.erase other) : r.registry.find? id = none := by
    have hr : r.registry = s.relay.registry.erase other := hv
    rw [hr, Registry.find?_erase, hn, ite_self]
  cases hs with
  | register | unregister | sendTo | broadcast | commit | replaces =>
    cases ho
    simp [Operation.isPublic] at hop
  | disconnect other => exact erased (by rw [Relay.view_remove])
  | clears other record failed ending => exact erased (by rw [Relay.view_clear])
  | @registers other q registry front hi =>
    change registry.find? id = none
    rw [Registry.find?_eq_none_iff] at hn ⊢
    intro c hm
    rcases ((Registry.insert?_eq_some hi).2 c).1 hm with rfl | hm
    · exact fun he => hc q (by rw [← he]; rfl)
    · exact hn c hm
  | refuses front hi => exact same (by rw [Relay.view_release]; rfl)
  | @greets other c activity hf ok =>
    obtain ⟨queues, hr⟩ := s.relay.deliver_frame c (.game activity)
    exact same (by rw [hr]; rfl)
  | tells origin previous value =>
    obtain ⟨queues, hr⟩ := s.relay.deliverAll_frame (.game value) (some origin)
    exact same (by rw [hr]; rfl)
  | plain | command => exact same (by rw [Relay.view_hear])
  | drops c last failed ending => exact same (by simp)
  | finishes e => exact same (by simp)
  | _ => exact hn

/-- A task that is bound to unregister a viewer puts nothing into queues, and one that is not under
the lock does not either. -/
theorem queues_step (hs : Step me s p s' p') (hop : op.isPublic = true) (ho : p.Of op)
    (hd : p.holds = true → p.due id = none) : s'.relay.view.queues = s.relay.view.queues := by
  cases hs with
  | register | unregister | sendTo | broadcast | commit | replaces =>
    cases ho
    simp [Operation.isPublic] at hop
  | disconnect other => rw [Relay.view_remove]
  | clears other record failed ending => rw [Relay.view_clear]
  | refuses front hi =>
    rw [Relay.view_release]
    rfl
  | greets | tells => simp [due, holds] at hd
  | plain | command => rw [Relay.view_hear]
  | drops c last failed ending => simp
  | finishes e => simp
  | _ => rfl

/-- A viewer that a task is bound to unregister remains so until that is done. -/
theorem due_step (hs : Step me s p s' p') (hp : p.holds = true) (hd : p.due id = none) :
    s'.relay.registry.find? id = none ∨ p'.holds = true ∧ p'.due id = none := by
  cases hs with
  | clears other record failed ending =>
    have hr : (s.relay.clear record other).1.registry = s.relay.registry.erase other :=
      congrArg View.registry (s.relay.view_clear record other)
    by_cases he : id = other
    · left
      rw [hr, Registry.find?_erase, if_pos he]
    · right
      simp_all [due, holds]
  | drops c last failed ending => exact .inr ⟨hp, hd⟩
  | cleared | finishes => simp [due] at hd
  | _ => simp_all [due, holds]

end Phase

namespace System
variable {s t : System} {i : Nat} {ops : List Operation} {r : Relay}

/-- A session that is no longer registered, or whose queue refused an event and that the task under
the lock is bound to unregister. -/
def Lost (id : ClientId) (queue : Nat) (s : System) : Prop :=
  .registered id queue ∈ s.history ∧ (s.relay.registry.find? id = none ∨ s.due id = none)

theorem lost_advance (isPublic : ∀ op ∈ ops, op.isPublic = true) (sole : Sole r ops id queue)
    (w : Watched initial ops id queue s) (lost : Lost id queue s) (h : s.advance i = some t) :
    Lost id queue t ∧ t.relay.accepted queue = s.relay.accepted queue := by
  have orderly := orderly_advance w.orderly h
  obtain ⟨p, p', hp, hs, ht, hh⟩ := advance_cases h
  obtain ⟨op, hop, ho⟩ := w.follows.task i p hp
  have hpub := isPublic op (List.mem_of_getElem? hop)
  obtain ⟨hm, lost⟩ := lost
  have hm' : .registered id queue ∈ t.history := hh ▸ List.mem_append_left _ hm
  have hinside := inside_advance w.orderly orderly hp ht
  rcases lost with hn | hd
  · have hc : ∀ q, p ≠ .waiting (.connect id q) := by
      rintro q rfl
      cases ho
      have hq := (sole.own id q (List.mem_of_getElem? hop)).1 rfl
      exact w.past hm i _ hp (by rw [hq]; rfl)
    refine ⟨⟨hm', .inl (Phase.find?_step hs hpub ho hc hn)⟩, ?_⟩
    obtain ⟨event, cs, hcs, hq⟩ := Phase.queues_of_step hs
    refine (Relay.content_congr hq queue).1.trans ?_
    exact Relay.accepted_deliverEach_other fun c hc => w.heard.queue_ne hn (hcs c hc)
  · have hdue : p.holds = true → p.due id = none := by
      intro hh
      rwa [due, inside_of_holds w.orderly hp hh] at hd
    refine ⟨⟨hm', ?_⟩, (Relay.content_congr (Phase.queues_step hs hpub ho hdue) queue).1⟩
    by_cases hold : p.holds = true
    · rcases Phase.due_step hs hold (hdue hold) with hn | ⟨hold', hd'⟩
      · exact .inl hn
      · right
        rw [due, hinside, if_pos hold']
        exact hd'
    · -- nobody comes to the front while the task that is bound to unregister is there
      have hout : p'.holds = false := by
        rw [Bool.eq_false_iff]
        intro hold'
        have hn : p.holds = false := Bool.eq_false_iff.2 hold
        rw [due, inside_of_front hp (Phase.front_of_holds hs hn hold') hn] at hd
        simp at hd
      right
      rw [due, hinside, hout, if_neg Bool.false_ne_true, if_neg hold]
      exact hd

theorem lost_move {m : Move} (isPublic : ∀ op ∈ ops, op.isPublic = true)
    (sole : Sole r ops id queue) (w : Watched initial ops id queue s) (lost : Lost id queue s)
    (h : s.move m = some t) :
    Lost id queue t ∧ t.relay.accepted queue = s.relay.accepted queue := by
  rcases move_cases h with ⟨i, h⟩ | hm
  · exact lost_advance isPublic sole w lost h
  obtain ⟨marks, a⟩ := aside_of_move hm h
  obtain ⟨queues, order, hr⟩ := a.frame
  refine ⟨⟨a.history ▸ List.mem_append_left _ lost.1, ?_⟩, a.accepted queue⟩
  rw [hr, due, inside_congr a.tasks a.line]
  exact lost.2

/-- A session that is lost gets nothing any more. -/
theorem lost_run {moves : List Move} (isPublic : ∀ op ∈ ops, op.isPublic = true)
    (sole : Sole r ops id queue) (w : Watched initial ops id queue s) (lost : Lost id queue s)
    (h : s.run moves = some t) : t.relay.accepted queue = s.relay.accepted queue := by
  have hall := run_invariant (P := fun u => Watched initial ops id queue u ∧ Lost id queue u ∧
      u.relay.accepted queue = s.relay.accepted queue) ?_ ⟨w, lost, rfl⟩ h
  · exact hall.2.2
  · rintro u m v hm ⟨w, lost, ha⟩
    obtain ⟨lost', ha'⟩ := lost_move isPublic sole w lost hm
    exact ⟨watched_move isPublic sole w hm, lost', ha'.trans ha⟩

/-- A viewer's queue accepts nothing, or first the activity of the moment of the registration and
then, in the order of the commits and without a gap, what others commit after that moment; while the
viewer is registered and nobody is past the activity lock, all of it. Once an event was refused or
the viewer is no longer registered, nothing is added. -/
theorem viewer_stream {moves : List Move} (isPublic : ∀ op ∈ ops, op.isPublic = true)
    (sole : Sole r ops id queue) (h : (start r ops).run moves = some s) :
    s.relay.activity = activityAfter r.activity s.history ∧
    (s.relay.accepted queue = [] ∨ ∃ before after k,
      s.history = before ++ .registered id queue :: after ∧
      .registered id queue ∉ before ++ after ∧
      s.relay.accepted queue =
        .game (activityAfter r.activity before) :: ((valuesFor id after).take k).map .game) ∧
    (s.relay.registry.find? id ≠ none → s.inside = none → ∃ before after,
      s.history = before ++ .registered id queue :: after ∧
      .registered id queue ∉ before ++ after ∧
      s.relay.accepted queue =
        .game (activityAfter r.activity before) :: (valuesFor id after).map .game) ∧
    ∀ earlier later u, moves = earlier ++ later → (start r ops).run earlier = some u →
      Lost id queue u → s.relay.accepted queue = u.relay.accepted queue := by
  have w := watched_run isPublic sole h
  refine ⟨w.activity, ?_, ?_, ?_⟩
  · by_cases hm : .registered id queue ∈ s.history
    · obtain ⟨before, after, hh, hn, hs⟩ := w.cut hm
      have hb := w.heard.begins
      rw [hs, List.prefix_cons_iff] at hb
      rcases hb with hb | ⟨rest, hb, hr⟩
      · exact .inl hb
      · refine .inr ⟨before, after, rest.length, hh, hn, ?_⟩
        rw [hb, List.map_take, ← List.prefix_iff_eq_take.1 hr]
    · have hb := w.heard.begins
      rw [streamOf_of_notMem hm, List.prefix_nil] at hb
      exact .inl hb
  · intro hf hi
    obtain ⟨c, hc⟩ := Option.ne_none_iff_exists'.1 hf
    obtain ⟨hm, hall⟩ := w.heard.whole c hc
    obtain ⟨before, after, hh, hn, hs⟩ := w.cut hm
    refine ⟨before, after, hh, hn, ?_⟩
    have hd : s.due id = some [] := by rw [due, hi]; rfl
    rw [← hs, ← hall [] hd, List.append_nil]
  · rintro earlier later u rfl hu lost
    rw [run_append, hu] at h
    exact lost_run isPublic sole (watched_run isPublic sole hu) lost h

/-- A viewer that is greeted while another one's command waits, and told of the command after. -/
theorem viewer_stream_greeted_before_change : ∃ s before after,
    (start (.fresh "A" [1]) [.connect ⟨1⟩ 0, .dispatch ⟨2⟩ "aag n B"]).run
      [.task 0, .task 1, .task 1, .task 0, .task 0, .receive 0, .task 0, .task 0, .task 1, .task 1,
        .task 1, .task 1] = some s ∧
    s.history = before ++ .registered ⟨1⟩ 0 :: after ∧
    s.relay.accepted 0 = .game (activityAfter "A" before) :: (valuesFor ⟨1⟩ after).map .game ∧
    s.relay.accepted 0 = [.game "A", .game "B"] := by
  have sole : Sole (.fresh "A" [1]) [.connect ⟨1⟩ 0, .dispatch ⟨2⟩ "aag n B"] ⟨1⟩ 0 :=
    sole_fresh "A" [1] (by simp)
  have hr : ((start (.fresh "A" [1]) [.connect ⟨1⟩ 0, .dispatch ⟨2⟩ "aag n B"]).run
      [.task 0, .task 1, .task 1, .task 0, .task 0, .receive 0, .task 0, .task 0, .task 1, .task 1,
        .task 1, .task 1]).map (fun s => ((s.relay.registry.find? ⟨1⟩).isSome, s.inside.isNone,
        s.relay.accepted 0)) = some (true, true, [.game "A", .game "B"]) := by decide
  obtain ⟨s, hs, hv⟩ := Option.map_eq_some_iff.1 hr
  simp only [Prod.mk.injEq, Option.isSome_iff_ne_none, Option.isNone_iff_eq_none] at hv
  obtain ⟨-, -, hw, -⟩ := viewer_stream (by decide) sole hs
  obtain ⟨before, after, hh, -, ha⟩ := hw hv.1 hv.2.1
  exact ⟨s, before, after, hs, hh, ha, hv.2.2⟩

end System
end ActivityRelay
