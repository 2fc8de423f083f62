import ActivityRelay.Proofs.Relay.View

/-! What a delivery does to queues: an event reaches the end of each addressed queue or that viewer
is among the failures, and no other queue changes. -/
namespace ActivityRelay
namespace Relay

/-- What a refusal by the queue means for the viewer. -/
def refusalError (id : ClientId) : Queue.Refusal → DeliveryError
  | .full => .queueFull id
  | .closed => .closed id

theorem deliver_missing {r : Relay} {c : Connection} (event : Event)
    (hq : r.queues[c.queue]? = none) : r.deliver c event = (r, some (.closed c.id)) := by
  simp [deliver, hq]

theorem deliver_taken {r : Relay} {c : Connection} {event : Event} {queue queue' : Queue Event}
    (hq : r.queues[c.queue]? = some queue) (hp : queue.push event = .ok queue') :
    r.deliver c event = ({ r with queues := r.queues.set c.queue queue' }, none) := by
  simp [deliver, hq, hp]

theorem deliver_refused {r : Relay} {c : Connection} {event : Event} {queue : Queue Event}
    {e : Queue.Refusal} (hq : r.queues[c.queue]? = some queue) (hp : queue.push event = .error e) :
    r.deliver c event = (r, some (refusalError c.id e)) := by
  cases e <;> simp [deliver, hq, hp, refusalError]

/-- Either the queue of the connection takes the event, or nothing happens to the relay. -/
theorem deliver_cases (r : Relay) (c : Connection) (event : Event) :
    (∃ queue queue', r.queues[c.queue]? = some queue ∧ queue.push event = .ok queue' ∧
      r.deliver c event = ({ r with queues := r.queues.set c.queue queue' }, none)) ∨
    ∃ e, r.deliver c event = (r, some (refusalError c.id e)) := by
  cases hq : r.queues[c.queue]? with
  | none => exact .inr ⟨.closed, deliver_missing event hq⟩
  | some queue =>
    cases hp : queue.push event with
    | error e => exact .inr ⟨e, deliver_refused hq hp⟩
    | ok queue' => exact .inl ⟨queue, queue', rfl, hp, deliver_taken hq hp⟩

theorem deliver_frame (r : Relay) (c : Connection) (event : Event) :
    ∃ queues, (r.deliver c event).1 = { r with queues } := by
  rcases r.deliver_cases c event with ⟨queue, queue', -, -, h⟩ | ⟨e, h⟩
  · rw [h]; exact ⟨_, rfl⟩
  · rw [h]; exact ⟨_, rfl⟩

theorem deliver_congr {r a : Relay} (h : r.view = a.view) (c : Connection) (event : Event) :
    (r.deliver c event).1.view = (a.deliver c event).1.view ∧
      (r.deliver c event).2 = (a.deliver c event).2 := by
  have hq := queue_congr (congrArg View.queues h) c.queue
  cases hr : r.queues[c.queue]? with
  | none =>
    have ha : a.queues[c.queue]? = none := by simpa [hr] using hq.symm
    rw [deliver_missing event hr, deliver_missing event ha]
    exact ⟨h, rfl⟩
  | some x =>
    obtain ⟨y, ha, hxy⟩ : ∃ y, a.queues[c.queue]? = some y ∧ y.bare = x.bare := by
      simpa [hr] using hq.symm
    have hp : (x.push event).map Queue.bare = (y.push event).map Queue.bare := by
      rw [← Queue.push_bare, ← Queue.push_bare, hxy]
    cases hx : x.push event with
    | error e =>
      have hy : y.push event = .error e := by
        cases hy : y.push event <;> simp_all [Except.map]
      rw [deliver_refused hr hx, deliver_refused ha hy]
      exact ⟨h, rfl⟩
    | ok x' =>
      obtain ⟨y', hy, hxy'⟩ : ∃ y', y.push event = .ok y' ∧ x'.bare = y'.bare := by
        cases hy : y.push event <;> simp_all [Except.map]
      have hs : r.queues.map Queue.bare = a.queues.map Queue.bare := congrArg View.queues h
      rw [deliver_taken hr hx, deliver_taken ha hy]
      simp only [view, View.mk.injEq, List.map_set, hxy', hs, and_true] at h ⊢
      exact h

/-- A connection whose queue takes the event gets it behind all the others. -/
theorem accepted_deliver {r : Relay} {c : Connection} {event : Event}
    (h : (r.deliver c event).2 = none) (q : Nat) :
    (r.deliver c event).1.accepted q =
      r.accepted q ++ if c.queue = q then [event] else [] := by
  rcases r.deliver_cases c event with ⟨queue, queue', hq, hp, hd⟩ | ⟨e, hd⟩
  · obtain ⟨hlt, rfl⟩ := List.getElem?_eq_some_iff.1 hq
    rw [hd]
    by_cases hc : c.queue = q
    · subst hc
      simp [accepted, hlt, Queue.accepted_push hp]
    · simp [accepted, hc]
  · rw [hd] at h
    simp at h

theorem deliver_failed {r : Relay} {c : Connection} {event : Event}
    (h : (r.deliver c event).2 ≠ none) : (r.deliver c event).1 = r := by
  rcases r.deliver_cases c event with ⟨queue, queue', -, -, hd⟩ | ⟨e, hd⟩
  · rw [hd] at h
    exact absurd rfl h
  · rw [hd]

theorem accepted_deliver_other {r : Relay} {c : Connection} {event : Event} {q : Nat}
    (h : c.queue ≠ q) : (r.deliver c event).1.accepted q = r.accepted q := by
  by_cases hf : (r.deliver c event).2 = none
  · simp [accepted_deliver hf, h]
  · rw [deliver_failed hf]

theorem received_deliver (r : Relay) (c : Connection) (event : Event) (q : Nat) :
    (r.deliver c event).1.received q = r.received q := by
  rcases r.deliver_cases c event with ⟨queue, queue', hq, hp, hd⟩ | ⟨e, hd⟩
  · obtain ⟨-, -, -, hr, -⟩ := Queue.push_eq_ok hp
    obtain ⟨hlt, rfl⟩ := List.getElem?_eq_some_iff.1 hq
    rw [hd]
    by_cases hc : c.queue = q
    · subst hc
      simp [received, hlt, hr]
    · simp [received, hc]
  · rw [hd]

theorem deliverTo_some {r : Relay} {id : ClientId} {c : Connection} (event : Event)
    (h : r.registry.find? id = some c) : r.deliverTo id event = r.deliver c event := by
  simp [deliverTo, h]

theorem deliverTo_none {r : Relay} {id : ClientId} (event : Event)
    (h : r.registry.find? id = none) : r.deliverTo id event = (r, some (.notRegistered id)) := by
  simp [deliverTo, h]

theorem deliverTo_frame (r : Relay) (id : ClientId) (event : Event) :
    ∃ queues, (r.deliverTo id event).1 = { r with queues } := by
  cases h : r.registry.find? id with
  | none => rw [deliverTo_none event h]; exact ⟨_, rfl⟩
  | some c => rw [deliverTo_some event h]; exact r.deliver_frame c event

theorem deliverEach_cons (r : Relay) (event : Event) (c : Connection) (cs : List Connection) :
    (r.deliverEach event (c :: cs)).1 = ((r.deliver c event).1.deliverEach event cs).1 ∧
    (r.deliverEach event (c :: cs)).2.2.map (·.1) =
      (if (r.deliver c event).2 = none then [] else [c.id]) ++
        ((r.deliver c event).1.deliverEach event cs).2.2.map (·.1) := by
  simp only [deliverEach]
  cases (r.deliver c event).2 <;> simp

theorem deliverEach_frame (r : Relay) (event : Event) (cs : List Connection) :
    ∃ queues, (r.deliverEach event cs).1 = { r with queues } := by
  induction cs generalizing r with
  | nil => exact ⟨_, rfl⟩
  | cons c cs ih =>
    obtain ⟨qs, hd⟩ := r.deliver_frame c event
    obtain ⟨qs', he⟩ := ih (r.deliver c event).1
    exact ⟨qs', by rw [(r.deliverEach_cons event c cs).1, he, hd]⟩

theorem walk_perm (r : Relay) : r.walk.Perm r.registry.connections := Registry.arrange_perm _ _

theorem mem_addressees {r : Relay} {exclude : Option ClientId} {c : Connection} :
    c ∈ r.addressees exclude ↔ c ∈ r.registry.connections ∧ exclude ≠ some c.id := by
  simp [addressees, r.walk_perm.mem_iff]

theorem nodup_addressees (r : Relay) (exclude : Option ClientId) :
    ((r.addressees exclude).map (·.id)).Nodup :=
  ((r.walk_perm.map (·.id)).nodup_iff.2 r.registry.nodup_ids).sublist (List.filter_sublist.map _)

theorem deliverAll_frame (r : Relay) (event : Event) (exclude : Option ClientId) :
    ∃ queues, (r.deliverAll event exclude).1 = { r with queues } :=
  r.deliverEach_frame event (r.addressees exclude)

theorem received_deliverEach (r : Relay) (event : Event) (cs : List Connection) (q : Nat) :
    (r.deliverEach event cs).1.received q = r.received q := by
  induction cs generalizing r with
  | nil => rfl
  | cons c cs ih => rw [(r.deliverEach_cons event c cs).1, ih, received_deliver]

theorem deliverEach_congr {r a : Relay} (h : r.view = a.view) (event : Event)
    (cs : List Connection) :
    (r.deliverEach event cs).1.view = (a.deliverEach event cs).1.view ∧
      (r.deliverEach event cs).2 = (a.deliverEach event cs).2 := by
  induction cs generalizing r a with
  | nil => exact ⟨h, rfl⟩
  | cons c cs ih =>
    obtain ⟨hv, hf⟩ := deliver_congr h c event
    obtain ⟨hv', hf'⟩ := ih hv
    simp only [deliverEach, hf, hf']
    cases (a.deliver c event).2 <;> exact ⟨hv', rfl⟩

/-- Only who was addressed can be among the failures. -/
theorem deliverEach_failed (r : Relay) (event : Event) (cs : List Connection) :
    ∀ id ∈ (r.deliverEach event cs).2.2.map (·.1), ∃ c ∈ cs, c.id = id := by
  induction cs generalizing r with
  | nil => simp [deliverEach]
  | cons c cs ih =>
    intro id hid
    rw [(r.deliverEach_cons event c cs).2, List.mem_append] at hid
    rcases hid with hid | hid
    · split at hid
      · simp at hid
      · exact ⟨c, by simp, (List.mem_singleton.1 hid).symm⟩
    · obtain ⟨d, hd, he⟩ := ih _ id hid
      exact ⟨d, by simp [hd], he⟩

theorem accepted_deliverEach_other {r : Relay} {event : Event} {cs : List Connection} {q : Nat}
    (h : ∀ c ∈ cs, c.queue ≠ q) : (r.deliverEach event cs).1.accepted q = r.accepted q := by
  induction cs generalizing r with
  | nil => rfl
  | cons c cs ih =>
    rw [(r.deliverEach_cons event c cs).1, ih fun d hd => h d (by simp [hd]),
      accepted_deliver_other (h c (by simp))]

/-- Of an addressed viewer whose queue no other connection shares, the queue gets the event once,
unless it is among the failures. -/
theorem accepted_deliverEach_own (r : Relay) (event : Event) {cs : List Connection}
    {c : Connection} (hc : c ∈ cs) (ids : (cs.map (·.id)).Nodup)
    (own : ∀ d ∈ cs, d.queue = c.queue → d.id = c.id) :
    (c.id ∉ (r.deliverEach event cs).2.2.map (·.1) →
      (r.deliverEach event cs).1.accepted c.queue = r.accepted c.queue ++ [event]) ∧
    (c.id ∈ (r.deliverEach event cs).2.2.map (·.1) →
      (r.deliverEach event cs).1.accepted c.queue = r.accepted c.queue) := by
  induction cs generalizing r with
  | nil => simp at hc
  | cons d cs ih =>
    rw [List.map_cons, List.nodup_cons] at ids
    rw [(r.deliverEach_cons event d cs).1, (r.deliverEach_cons event d cs).2]
    rcases List.mem_cons.1 hc with rfl | hc
    · have hothers : ∀ e ∈ cs, e.queue ≠ c.queue := fun e he hq =>
        ids.1 (List.mem_map.2 ⟨e, he, own e (by simp [he]) hq⟩)
      have hnot : c.id ∉ ((r.deliver c event).1.deliverEach event cs).2.2.map (·.1) := by
        intro hm
        obtain ⟨e, he, hid⟩ := deliverEach_failed _ event cs c.id hm
        exact ids.1 (List.mem_map.2 ⟨e, he, hid⟩)
      rw [accepted_deliverEach_other hothers]
      by_cases hf : (r.deliver c event).2 = none
      · simp [hf, hnot, accepted_deliver hf]
      · simp [hf, deliver_failed hf]
    · have hne : d.id ≠ c.id := fun he => ids.1 (List.mem_map.2 ⟨c, hc, he.symm⟩)
      have hq : d.queue ≠ c.queue := fun he => hne (own d (by simp) he)
      have hhead : c.id ∉ if (r.deliver d event).2 = none then [] else [d.id] := by
        split <;> simp [Ne.symm hne]
      obtain ⟨hok, hbad⟩ := ih (r.deliver d event).1 hc ids.2
        fun e he => own e (by simp [he])
      rw [accepted_deliver_other hq] at hok hbad
      simp only [List.mem_append, hhead, false_or]
      exact ⟨hok, hbad⟩

end Relay
end ActivityRelay
