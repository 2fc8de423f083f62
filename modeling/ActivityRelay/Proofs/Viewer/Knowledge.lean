import ActivityRelay.Proofs.Viewer.Watched

/-! What a viewer knows of the activity: the values that it sends itself and those that it takes
from its queue, in the order of the run. -/
namespace ActivityRelay

/-- The value that a mark lets a viewer know. -/
def Mark.learnt? (id : ClientId) (queue : Nat) : Mark → Option String
  | .committed _ origin value => if origin = id then some value else none
  | .received q event => if q = queue then some event.value else none
  | _ => none

/-- The values that a viewer comes to know, the latest last. -/
def learnt (id : ClientId) (queue : Nat) (history : List Mark) : List String :=
  history.filterMap (Mark.learnt? id queue)

variable {initial : String} {id : ClientId} {queue : Nat}

theorem learnt_append (id : ClientId) (queue : Nat) (xs ys : List Mark) :
    learnt id queue (xs ++ ys) = learnt id queue xs ++ learnt id queue ys := List.filterMap_append

/-- While nothing is committed a viewer learns what it receives. -/
theorem learnt_of_quiet {xs : List Mark} (h : ∀ m ∈ xs, m.Quiet id queue) :
    learnt id queue xs = (receivedIn queue xs).map Event.value := by
  rw [receivedIn, List.map_filterMap]
  apply List.filterMap_congr
  intro m hm
  cases m with
  | committed task origin value => exact absurd (h _ hm).1 (by simp [Mark.value?])
  | received q event => by_cases hq : q = queue <;> simp [Mark.learnt?, Mark.received?, hq]
  | _ => rfl

/-- A history that is not all quiet, cut at the last mark that is not. -/
theorem exists_last_not_quiet {xs : List Mark} (h : .registered id queue ∈ xs) :
    ∃ before m after, xs = before ++ m :: after ∧ ¬ m.Quiet id queue ∧
      ∀ x ∈ after, x.Quiet id queue := by
  have hs : (xs.reverse.find? fun m => ¬ m.Quiet id queue).isSome := by
    rw [List.find?_isSome]
    exact ⟨_, List.mem_reverse.2 h, by simp [Mark.Quiet]⟩
  obtain ⟨m, hm⟩ := Option.isSome_iff_exists.1 hs
  obtain ⟨hq, after, before, hx, hafter⟩ := List.find?_eq_some_iff_append.1 hm
  refine ⟨before.reverse, m, after.reverse, ?_, by simpa using hq, fun x hx => ?_⟩
  · rw [← List.reverse_reverse xs, hx]
    simp
  · simpa using hafter x (List.mem_reverse.1 hx)

namespace System
variable {s t : System} {ops : List Operation} {r : Relay}

/-- What was taken from a viewer's queue is what was received in the history. -/
theorem received_run {moves : List Move} (sole : Sole r ops id queue)
    (h : (start r ops).run moves = some s) :
    s.relay.received queue = receivedIn queue s.history := by
  refine run_invariant (P := fun s => s.relay.received queue = receivedIn queue s.history)
    (fun u v m hm ih => ?_) ?_ h
  · obtain ⟨marks, -, hh, hr⟩ := history_move hm
    rw [hr, hh, receivedIn_append, ih]
  · exact (List.append_eq_nil_iff.1 ((r.accepted_eq queue).symm.trans sole.unused)).1

/-- At every point of a run a viewer has received the first of the events meant for it by then. -/
theorem receivedIn_timely {moves : List Move} (isPublic : ∀ op ∈ ops, op.isPublic = true)
    (sole : Sole r ops id queue) (h : (start r ops).run moves = some s) {history : List Mark}
    (hp : history <+: s.history) :
    receivedIn queue history <+: streamOf r.activity id queue history := by
  obtain ⟨earlier, u, -, hu, rfl⟩ := exists_earlier h List.nil_prefix hp
  have hb := (watched_run isPublic sole hu).heard.begins
  rw [u.relay.accepted_eq, received_run sole hu] at hb
  exact (List.prefix_append ..).trans hb

/-- The last that a viewer knows when it took the last event that was meant for it. -/
theorem getLast?_learnt_of_caught_up {before after : List Mark} {m : Mark} {value : String}
    (timely : receivedIn queue before <+: streamOf initial id queue before)
    (all : receivedIn queue before ++ receivedIn queue after =
      streamOf initial id queue before ++ [.game value])
    (quiet : ∀ x ∈ after, x.Quiet id queue) :
    (learnt id queue (before ++ m :: after)).getLast? = some value := by
  obtain ⟨rest, hrest⟩ := timely
  rw [← hrest, List.append_assoc, List.append_cancel_left_eq] at all
  have hcons : before ++ m :: after = before ++ [m] ++ after := by simp
  rw [hcons, learnt_append, learnt_of_quiet quiet, all]
  simp [Event.value]

/-- The last value that a registered viewer knows, once it has taken all its events and nobody is
past the activity lock, is the current activity; unless its own command was the last to be committed
and it took events after it that were meant for it before. -/
theorem viewer_knowledge {moves : List Move} (isPublic : ∀ op ∈ ops, op.isPublic = true)
    (sole : Sole r ops id queue) (h : (start r ops).run moves = some s)
    (known : s.relay.registry.find? id ≠ none) (empty : s.relay.queued queue = [])
    (free : s.inside = none) :
    (learnt id queue s.history).getLast? = some s.relay.activity ∨ ∃ before task after,
      s.history = before ++ .committed task id s.relay.activity :: after ∧
      (∀ m ∈ after, m.value? = none) ∧ receivedIn queue after ≠ [] ∧
      receivedIn queue before ++ receivedIn queue after =
        streamOf r.activity id queue before := by
  have w := watched_run isPublic sole h
  obtain ⟨c, hc⟩ := Option.ne_none_iff_exists'.1 known
  obtain ⟨hm, hall⟩ := w.heard.whole c hc
  have caught : receivedIn queue s.history = streamOf r.activity id queue s.history := by
    rw [← hall [] (by rw [due, free]; rfl), s.relay.accepted_eq, empty, received_run sole h]
    simp
  obtain ⟨before, m, after, hh, hq, quiet⟩ := exists_last_not_quiet hm
  have hcons : before ++ m :: after = before ++ [m] ++ after := by simp
  have timely := receivedIn_timely isPublic sole h (hh ▸ List.prefix_append before (m :: after))
  have activity : s.relay.activity = activityAfter r.activity (before ++ [m]) := by
    rw [w.activity, hh, hcons, activityAfter_append,
      activityAfter_of_value? fun x hx => (quiet x hx).1]
  have hn : receivedIn queue [m] = [] := by
    rcases Mark.not_quiet_cases hq with rfl | ⟨task, origin, value, rfl⟩ <;> rfl
  rw [hh, hcons, receivedIn_append, receivedIn_append, hn, List.append_nil,
    streamOf_append_of_quiet quiet] at caught
  rw [hh, activity]
  rcases Mark.not_quiet_cases hq with rfl | ⟨task, origin, value, rfl⟩
  · left
    have hb : .registered id queue ∉ before := by
      have hc := w.once
      rw [hh, List.count_append, List.count_cons_self] at hc
      exact List.count_eq_zero.1 (by omega)
    refine getLast?_learnt_of_caught_up timely ?_ quiet
    rw [caught, streamOf_decomposed hb, streamOf_of_notMem hb, activityAfter_append]
    rfl
  · have hb : .registered id queue ∈ before := by
      rw [hh, List.mem_append, List.mem_cons] at hm
      rcases hm with hm | hm | hm
      · exact hm
      · exact absurd hm (by simp)
      · exact absurd rfl (quiet _ hm).2
    have hv : activityAfter r.activity (before ++ [.committed task origin value]) = value := by
      rw [activityAfter_append]
      rfl
    rw [streamOf_append_of_mem hb] at caught
    rw [hv]
    by_cases ho : origin = id
    · subst ho
      by_cases hnil : receivedIn queue after = []
      · left
        rw [hcons, learnt_append, learnt_of_quiet quiet, hnil]
        simp [learnt, Mark.learnt?]
      · right
        refine ⟨before, task, after, rfl, fun x hx => (quiet x hx).1, hnil, ?_⟩
        simpa [valuesFor, Mark.valueFor?] using caught
    · left
      refine getLast?_learnt_of_caught_up timely ?_ quiet
      simpa [valuesFor, Mark.valueFor?, ho] using caught

/-- A viewer, a peer's command, and a command of the viewer's own. -/
def crossingOps : List Operation :=
  [.connect ⟨1⟩ 0, .dispatch ⟨2⟩ "aag n PEER", .dispatch ⟨1⟩ "aag n OWN"]

/-- One after another, where the viewer takes the peer's value only after its own command. -/
def crossingMoves : List Move :=
  List.replicate 5 (.task 0) ++ [.receive 0] ++ List.replicate 6 (.task 1) ++
    List.replicate 6 (.task 2) ++ [.receive 0]

theorem viewer_knowledge_of_crossing : ∃ s,
    (start (.fresh "Z" [4]) crossingOps).run crossingMoves = some s ∧
    s.relay.activity = "OWN" ∧ ∃ before task after,
      s.history = before ++ .committed task ⟨1⟩ s.relay.activity :: after ∧
      (∀ m ∈ after, m.value? = none) ∧ receivedIn 0 after ≠ [] ∧
      receivedIn 0 before ++ receivedIn 0 after = streamOf "Z" ⟨1⟩ 0 before := by
  have hr : ((start (.fresh "Z" [4]) crossingOps).run crossingMoves).map (fun s =>
      ((s.relay.registry.find? ⟨1⟩).isSome, s.relay.queued 0, s.inside.isNone,
        learnt ⟨1⟩ 0 s.history, s.relay.activity)) =
      some (true, [], true, ["Z", "OWN", "PEER"], "OWN") := by decide
  obtain ⟨s, hs, hv⟩ := Option.map_eq_some_iff.1 hr
  simp only [Prod.mk.injEq, Option.isSome_iff_ne_none, Option.isNone_iff_eq_none] at hv
  obtain ⟨known, empty, free, hl, ha⟩ := hv
  refine ⟨s, hs, ha, ?_⟩
  have hk := viewer_knowledge (by decide) (sole_fresh "Z" [4] (by simp)) hs known empty free
  rw [hl, ha] at hk
  rw [ha]
  exact hk.resolve_left (by decide)

/-- A registered viewer may have nothing more to take, with no task left to run, and still know
another value last than the current activity. -/
theorem viewer_knows_replaced_activity : ¬ ∀ (r : Relay) (ops : List Operation) (id : ClientId)
    (queue : Nat) (moves : List Move) (s : System), (∀ op ∈ ops, op.isPublic = true) →
    Sole r ops id queue → (start r ops).run moves = some s →
    s.relay.registry.find? id ≠ none → s.relay.queued queue = [] →
    (∀ p ∈ s.tasks, p.outcome?.isSome = true) →
    (learnt id queue s.history).getLast? = some s.relay.activity := by
  intro claim
  have hr : ((start (.fresh "Z" [4]) crossingOps).run crossingMoves).map (fun s =>
      ((s.relay.registry.find? ⟨1⟩).isSome, s.relay.queued 0, s.tasks.all (·.outcome?.isSome),
        (learnt ⟨1⟩ 0 s.history).getLast?, s.relay.activity)) =
      some (true, [], true, some "PEER", "OWN") := by decide
  obtain ⟨s, hs, hv⟩ := Option.map_eq_some_iff.1 hr
  simp only [Prod.mk.injEq, Option.isSome_iff_ne_none, List.all_eq_true] at hv
  obtain ⟨known, empty, finished, hl, ha⟩ := hv
  have hk := claim _ crossingOps ⟨1⟩ 0 _ s (by decide) (sole_fresh "Z" [4] (by simp)) hs known
    empty fun p hp => Option.isSome_iff_ne_none.2 (finished p hp)
  rw [hl, ha] at hk
  exact absurd hk (by decide)

end System
end ActivityRelay
