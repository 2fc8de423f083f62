import ActivityRelay.Proofs.Task.Step

/-! Why a viewer is removed. A failed delivery is noted under the lock of the registry, and the
viewer is unregistered later and by its id; by then the id may have gone to another connection. -/
namespace ActivityRelay

/-- The calls of the registry itself. -/
def Operation.isRegistryCall : Operation → Bool
  | .register _ | .unregister _ | .sendTo .. | .broadcast .. => true
  | _ => false

namespace Relay

/-- The connections that do not take an event which is offered to each in turn. -/
def refusing (r : Relay) (event : Event) : List Connection → List Connection
  | [] => []
  | c :: cs =>
    let (r, failure) := r.deliver c event
    if failure = none then r.refusing event cs else c :: r.refusing event cs

theorem refusing_sublist (r : Relay) (event : Event) (cs : List Connection) :
    (r.refusing event cs).Sublist cs := by
  induction cs generalizing r with
  | nil => exact .slnil
  | cons c cs ih =>
    simp only [refusing]
    split
    · exact (ih _).cons c
    · exact (ih _).cons_cons c

theorem refusing_ids (r : Relay) (event : Event) (cs : List Connection) :
    (r.refusing event cs).map (·.id) = (r.deliverEach event cs).2.2.map (·.1) := by
  induction cs generalizing r with
  | nil => rfl
  | cons c cs ih =>
    rw [(r.deliverEach_cons event c cs).2, ← ih]
    simp only [refusing]
    split <;> simp [*]

end Relay

namespace Phase
variable {me : Nat} {s s' : Shared} {p p' : Phase}

/-- The connections whose delivery fails in the next step of a task. -/
def refusing (s : Shared) : Phase → List Connection
  | .start (.sendTo id value) => s.relay.refusing (.game value) (s.relay.registry.find? id).toList
  | .start (.broadcast value exclude) =>
    s.relay.refusing (.game value) (s.relay.addressees exclude)
  | .greeting id activity => s.relay.refusing (.game activity) (s.relay.registry.find? id).toList
  | .telling origin _ value => s.relay.refusing (.game value) (s.relay.addressees (some origin))
  | _ => []

/-- Deliveries are made to registered connections only. -/
theorem registered_of_refusing {c : Connection} (h : c ∈ p.refusing s) :
    c ∈ s.relay.registry.connections := by
  have found {id : ClientId} {event : Event}
      (hc : c ∈ s.relay.refusing event (s.relay.registry.find? id).toList) :
      c ∈ s.relay.registry.connections := by
    have hf := (s.relay.refusing_sublist event _).subset hc
    rw [Option.mem_toList] at hf
    exact (Registry.find?_eq_some_iff.1 hf).1
  have addressed {exclude : Option ClientId} {event : Event}
      (hc : c ∈ s.relay.refusing event (s.relay.addressees exclude)) :
      c ∈ s.relay.registry.connections :=
    (Relay.mem_addressees.1 ((s.relay.refusing_sublist event _).subset hc)).1
  unfold refusing at h
  split at h
  · exact found h
  · exact addressed h
  · exact found h
  · exact addressed h
  · simp at h

/-- The viewers that a task has still to unregister. -/
def owed : Phase → List ClientId
  | .clearing failed _ | .dropping _ _ failed _ => failed.map (·.1)
  | _ => []

/-- A task comes to owe the removal of a viewer only by a delivery that fails. -/
theorem owed_step (h : p.step me s = some (s', p')) {id : ClientId} (hid : id ∈ p'.owed) :
    id ∈ p.owed ∨ ∃ d ∈ p.refusing s, d.id = id := by
  have failed {event : Event} {cs : List Connection} {record : ClientId → DeliveryError → Record}
      (hm : id ∈ (clearingOf record (s.relay.deliverEach event cs).2.2).map (·.1)) :
      ∃ d ∈ s.relay.refusing event cs, d.id = id := by
    rw [clearingOf_ids, ← Relay.refusing_ids] at hm
    exact List.mem_map.1 hm
  have one {c : Connection} {event : Event} (hbad : (s.relay.deliver c event).2 ≠ none)
      (hc : c.id = id) : ∃ d ∈ s.relay.refusing event [c], d.id = id :=
    ⟨c, by simp [Relay.refusing, hbad], hc⟩
  by_cases hsend : ∃ other value, p = .start (.sendTo other value)
  · obtain ⟨other, value, rfl⟩ := hsend
    right
    obtain ⟨ending, rfl | ⟨c, e, hf, hbad, rfl⟩⟩ := step_sendTo h
    · simp [owed] at hid
    · have hother : id = other := by simpa [owed] using hid
      simp only [refusing, hf, Option.toList_some]
      exact one (by simp [hbad]) ((Registry.find?_eq_some_iff.1 hf).2.trans hother.symm)
  · cases step_cases h with
    | sendTo other value failed => exact absurd ⟨other, value, rfl⟩ hsend
    | broadcast value exclude => exact .inr (failed hid)
    | tells origin previous value => exact .inr (failed hid)
    | @fails other c activity e hf hbad =>
      have hother : id = other := by simpa [owed] using hid
      right
      simp only [refusing, hf, Option.toList_some]
      exact one (by simp [hbad]) ((Registry.find?_eq_some_iff.1 hf).2.trans hother.symm)
    | clears other record failed ending => exact .inl (List.mem_cons_of_mem _ hid)
    | drops c last failed ending => exact .inl hid
    | _ => simp [owed] at hid

/-- A step removes whichever connection has the id, and no other one. -/
theorem Step.removed_iff (h : Step me s p s' p') {c : Connection}
    (hc : c ∈ s.relay.registry.connections) :
    c ∉ s'.relay.registry.connections ↔ p.removes? = some c.id := by
  rcases registry_of_step h with ⟨hr, hn, -⟩ | ⟨id, hr, hn, -⟩ | ⟨d, hi, hn, -⟩
  · simp [hr, hn, hc]
  · rw [hr, hn, Registry.mem_erase, Option.some.injEq]
    simp [hc, eq_comm]
  · simp [((Registry.insert?_eq_some hi).2 c).2 (.inr hc), hn]

end Phase

namespace System
variable {r : Relay} {ops : List Operation} {s t : System} {moves : List Move} {c : Connection}

/-- The connections whose delivery fails in a move. -/
def refusing (s : System) : Move → List Connection
  | .task i => (s.tasks[i]?).elim [] (Phase.refusing s.shared)
  | _ => []

theorem registered_of_refusing {m : Move} (h : c ∈ s.refusing m) :
    c ∈ s.relay.registry.connections := by
  cases m with
  | task i =>
    cases hp : s.tasks[i]? with
    | none => simp [refusing, hp] at h
    | some p => exact Phase.registered_of_refusing (p := p) (by simpa [refusing, hp] using h)
  | _ => simp [refusing] at h

/-- Who is owed a removal had a delivery that failed earlier in the run, in the same task. -/
theorem refused_of_owed (h : (start r ops).run moves = some s) {i : Nat} {p : Phase}
    (hp : s.tasks[i]? = some p) {id : ClientId} (hid : id ∈ p.owed) : ∃ before after u d,
      moves = before ++ .task i :: after ∧ (start r ops).run before = some u ∧
        d ∈ u.refusing (.task i) ∧ d.id = id := by
  refine task_run (K := fun moves p => ∀ id ∈ p.owed, ∃ before after u d,
    moves = before ++ .task i :: after ∧ (start r ops).run before = some u ∧
      d ∈ u.refusing (.task i) ∧ d.id = id) ?_ ?_ ?_ h hp id hid
  · intro op id hid
    simp [Phase.owed] at hid
  · intro moves m p earlier id hid
    obtain ⟨before, after, u, d, rfl, found⟩ := earlier id hid
    exact ⟨before, after ++ [m], u, d, by simp, found⟩
  · intro moves u p p' shared hu hp earlier hs id hid
    rcases Phase.owed_step hs hid with howed | ⟨d, hd, he⟩
    · obtain ⟨before, after, v, d, rfl, found⟩ := earlier id howed
      exact ⟨before, after ++ [.task i], v, d, by simp, found⟩
    · exact ⟨moves, [], u, d, rfl, hu, by simpa [refusing, hp] using hd, he⟩

/-- A viewer is removed because someone asks for it, or for a delivery that failed earlier in the
run, in the same task. It is the delivery to this very connection, unless the connection was
registered only after the failure: then it is removed in the place of an earlier one that had its
id. For a removal takes whichever connection has the id. -/
theorem removal_cause (h : (start r ops).run moves = some s) (m : Move) (hm : s.move m = some t)
    (hc : c ∈ s.relay.registry.connections) :
    (c ∉ t.relay.registry.connections ↔
      ∃ i p, m = .task i ∧ s.tasks[i]? = some p ∧ p.removes? = some c.id) ∧
    (c ∉ t.relay.registry.connections →
      (∃ i op, m = .task i ∧ s.tasks[i]? = some (.start op) ∧ op.removes? = some c.id) ∨
      ∃ i before after u d, m = .task i ∧ moves = before ++ .task i :: after ∧
        (start r ops).run before = some u ∧ d ∈ u.relay.registry.connections ∧
        d ∈ u.refusing (.task i) ∧ d.id = c.id ∧
        (d = c ∨ c ∉ u.relay.registry.connections)) := by
  have removed : c ∉ t.relay.registry.connections ↔
      ∃ i p, m = .task i ∧ s.tasks[i]? = some p ∧ p.removes? = some c.id := by
    cases m with
    | task i =>
      obtain ⟨p, p', hp, hs, -⟩ := advance_cases hm
      refine (hs.removed_iff hc).trans ?_
      constructor
      · exact fun hr => ⟨i, p, rfl, hp, hr⟩
      · rintro ⟨j, q, hj, hq, hr⟩
        cases hj
        cases hp.symm.trans hq
        exact hr
    | shuffle | receive | shut | close =>
      obtain ⟨marks, a⟩ := aside_of_move (by simp) hm
      obtain ⟨queues, order, hr⟩ := a.frame
      rw [hr]
      simp [hc]
  refine ⟨removed, fun gone => ?_⟩
  obtain ⟨i, p, rfl, hp, hid⟩ := removed.1 gone
  cases p with
  | start op => exact .inl ⟨i, op, rfl, hp, hid⟩
  | clearing failed ending =>
    have howed : c.id ∈ (Phase.clearing failed ending).owed := by
      cases failed with
      | nil => simp [Phase.removes?] at hid
      | cons f failed => simp_all [Phase.removes?, Phase.owed]
    obtain ⟨before, after, u, d, hsplit, hu, hd, he⟩ := refused_of_owed h hp howed
    have registered := registered_of_refusing hd
    refine .inr ⟨i, before, after, u, d, rfl, hsplit, hu, registered, hd, he, ?_⟩
    by_cases hcu : c ∈ u.relay.registry.connections
    · exact .inl (Registry.eq_of_id_eq registered hcu he)
    · exact .inr hcu
  | _ => simp [Phase.removes?] at hid

/-- A viewer whose queue is closed, and free queues for two others. -/
def deaf : Relay :=
  ({ Relay.fresh "A" [1, 4] with registry := .single ⟨⟨1⟩, 0, 0, 0⟩ } : Relay).onQueue 0 Queue.close

/-- The second connection of the viewer. -/
def newcomer : Connection := ⟨⟨1⟩, 1, 1, 0⟩

def lateOps : List Operation := [.sendTo ⟨1⟩ "B", .unregister ⟨1⟩, .register newcomer]

/-- Between the failed delivery and the removal, the viewer leaves and comes back. -/
def lateMoves : List Move := [.task 0, .task 1, .task 1, .task 2]

theorem removal_cause_deaf : ∃ s t, (start deaf lateOps).run [.task 0] = some s ∧
    s.move (.task 0) = some t ∧ t.relay.registry.connections = [] ∧
    ∃ i before after u d, Move.task 0 = .task i ∧ [Move.task 0] = before ++ .task i :: after ∧
      (start deaf lateOps).run before = some u ∧ d ∈ u.relay.registry.connections ∧
      d ∈ u.refusing (.task i) ∧ d.id = ⟨1⟩ ∧
      (d = ⟨⟨1⟩, 0, 0, 0⟩ ∨ ⟨⟨1⟩, 0, 0, 0⟩ ∉ u.relay.registry.connections) := by
  obtain ⟨s, hs⟩ : ∃ s, (start deaf lateOps).run [.task 0] = some s := ⟨_, rfl⟩
  obtain ⟨t, ht⟩ : ∃ t, s.move (.task 0) = some t := by cases hs; exact ⟨_, rfl⟩
  have cause := (removal_cause (c := ⟨⟨1⟩, 0, 0, 0⟩) hs (.task 0) ht (by cases hs; decide)).2
    (by cases hs; cases ht; decide)
  refine ⟨s, t, hs, ht, by cases hs; cases ht; rfl, cause.resolve_left ?_⟩
  rintro ⟨i, op, hi, hop, -⟩
  cases hi
  cases hs
  cases hop

/-- A connection is removed though nobody asked for it and no delivery to it ever failed. -/
theorem newcomer_removed : ¬ ∀ (r : Relay) (ops : List Operation) (moves : List Move) (m : Move)
    (s t : System) (c : Connection), (∀ op ∈ ops, op.isRegistryCall = true) →
    (start r ops).run moves = some s → s.move m = some t → c ∈ s.relay.registry.connections →
    c ∉ t.relay.registry.connections →
    (∃ i op, m = .task i ∧ s.tasks[i]? = some (.start op) ∧ op.removes? = some c.id) ∨
    ∃ before m' after u, moves = before ++ m' :: after ∧ (start r ops).run before = some u ∧
      c ∈ u.refusing m' := by
  intro claim
  obtain ⟨s, hs⟩ : ∃ s, (start deaf lateOps).run lateMoves = some s := ⟨_, rfl⟩
  obtain ⟨t, ht⟩ : ∃ t, s.move (.task 0) = some t := by cases hs; exact ⟨_, rfl⟩
  have served : ∀ n < 4, ∀ u ∈ (start deaf lateOps).run (lateMoves.take n),
      ∀ m ∈ lateMoves[n]?, newcomer ∉ u.refusing m := by decide
  rcases claim deaf lateOps lateMoves (.task 0) s t newcomer (by decide) hs ht
    (by cases hs; decide) (by cases hs; cases ht; decide) with
    ⟨i, op, hi, hop, -⟩ | ⟨before, m, after, u, hsplit, hu, hc⟩
  · cases hi
    cases hs
    cases hop
  · have hlt : before.length < 4 := by
      have hl := congrArg List.length hsplit
      simp only [lateMoves, List.length_cons, List.length_nil, List.length_append] at hl
      omega
    exact served before.length hlt u (by simpa [hsplit] using hu) m (by simp [hsplit]) hc

end System
end ActivityRelay
