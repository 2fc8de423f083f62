import ActivityRelay.Proofs.Relay.Operations

/-! A viewer is let in as a whole or not at all. A connect that is refused leaves nothing behind but
its records, whether it failed before the registration or had to take this back. What is said here
of a connect at one stroke holds of its task as well, if nobody interrupts it: `Phase.run_alone`. -/
namespace ActivityRelay

/-- What a queue does with an item: one that is closed refuses it for that, full or not. -/
theorem Queue.push_cases {α : Type} (q : Queue α) (a : α) :
    (q.receiver ≠ .listening ∧ q.push a = .error .closed) ∨
    (q.receiver = .listening ∧ q.waiting.length = q.capacity ∧ q.push a = .error .full) ∨
    (q.receiver = .listening ∧ q.waiting.length < q.capacity ∧ ∃ q', q.push a = .ok q') := by
  have hfits := q.fits
  unfold push
  by_cases hr : q.receiver = .listening
  · by_cases hl : q.waiting.length < q.capacity
    · exact .inr (.inr ⟨hr, hl, _, by rw [if_neg (by simp [hr]), dif_pos hl]⟩)
    · exact .inr (.inl ⟨hr, by omega, by rw [if_neg (by simp [hr]), dif_neg hl]⟩)
  · exact .inl ⟨hr, if_pos hr⟩

namespace Relay

/-- A relay that has registered a new viewer, who is still to be greeted. -/
def enroll (r : Relay) (id : ClientId) (registry : Registry) : Relay :=
  { r with
    registry
    created := r.created + 1
    log := r.log ++ [.registered id registry.size] }

/-- A relay that has turned a viewer away: the sender is released, and all of it is in the log. -/
def turnAway (r : Relay) (queue : Nat) (records : List Record) : Relay :=
  { r.release queue with created := r.created + 1, log := r.log ++ records }

section connect
variable {r : Relay} {id : ClientId} {queue : Nat} {q q' : Queue Event} {c : Connection}
  {registry : Registry}

theorem sendTo_refused {event : Event} {e : DeliveryError} (hc : r.registry.find? id = some c)
    (bad : r.deliver c event = (r, some e)) :
    (r.sendTo id event).1 =
        { r.release c.queue with
          registry := r.registry.erase id
          log := r.log ++ [.deliveryFailed id e, .unregistered id (r.registry.erase id).size] } ∧
      (r.sendTo id event).2 = some e := by
  simp only [sendTo, hc, deliverTo_some event hc, bad]
  simp [clear, remove, note, hc, drop, release, onQueue]

/-- A known viewer is turned away before anything else happens. -/
theorem connect_of_known (h : r.registry.insert? (r.newConnection id queue).2 = none) :
    r.connect id queue =
      (r.turnAway queue [.duplicateIgnored id], .error (.duplicate id)) := by
  simp only [connect, register_known (r := (r.newConnection id queue).1) h]
  rfl

/-- A new viewer is registered first, and its greeting decides what becomes of it. -/
theorem connect_of_new (h : r.registry.insert? (r.newConnection id queue).2 = some registry) :
    r.connect id queue =
      match (r.enroll id registry).sendTo id (.game r.activity) with
      | (r', some e) => (r', .error e)
      | (r', none) => (r'.note (.greeted id r.activity), .ok r.activity) := by
  simp only [connect, register_new (r := (r.newConnection id queue).1) h]
  rfl

/-- The viewer that was registered is found under its id. -/
theorem find?_of_new (h : r.registry.insert? (r.newConnection id queue).2 = some registry) :
    registry.find? id = some ⟨id, queue, r.created, r.now⟩ :=
  Registry.find?_eq_some_iff.2 ⟨((Registry.insert?_eq_some h).2 _).2 (.inl rfl), rfl⟩

theorem connect_of_taken (h : r.registry.insert? (r.newConnection id queue).2 = some registry)
    (hq : r.queues[queue]? = some q) (hp : q.push (.game r.activity) = .ok q') :
    r.connect id queue =
      (({ r.enroll id registry with queues := r.queues.set queue q' }).note
        (.greeted id r.activity), .ok r.activity) := by
  have hd : (r.enroll id registry).deliver ⟨id, queue, r.created, r.now⟩ (.game r.activity) =
      ({ r.enroll id registry with queues := r.queues.set queue q' }, none) :=
    deliver_taken hq hp
  rw [connect_of_new h, sendTo_delivered (find?_of_new h) (by rw [hd]), hd]

/-- A refused greeting undoes the registration by the id alone, and this hits nobody else, for
nobody else had the id before. -/
theorem connect_of_refused {e : Queue.Refusal}
    (h : r.registry.insert? (r.newConnection id queue).2 = some registry)
    (hq : r.queues[queue]? = some q) (hp : q.push (.game r.activity) = .error e) :
    r.connect id queue =
      (r.turnAway queue
        [.registered id registry.size, .deliveryFailed id (refusalError id e),
          .unregistered id r.registry.size], .error (refusalError id e)) := by
  have hd : (r.enroll id registry).deliver ⟨id, queue, r.created, r.now⟩ (.game r.activity) =
      (r.enroll id registry, some (refusalError id e)) := deliver_refused hq hp
  have hundone : registry.erase id = r.registry := Registry.erase_insert? h
  obtain ⟨hafter, hanswer⟩ := sendTo_refused (find?_of_new h) hd
  rw [connect_of_new h]
  generalize (r.enroll id registry).sendTo id (.game r.activity) = sent at hafter hanswer
  obtain ⟨after, failure⟩ := sent
  cases hafter
  cases hanswer
  simp [turnAway, release, onQueue, enroll, hundone]

end connect

/-- From one relay to another, a viewer has come whose events go into a queue: the registry has its
connection, made last of all, the queue has the greeting behind all else, and that is all. -/
structure Admitted (r : Relay) (id : ClientId) (queue : Nat) (q : Queue Event) (r' : Relay) :
    Prop where
  activity : r'.activity = r.activity
  forwarded : r'.forwarded = r.forwarded
  found : r'.registry.find? id = some ⟨id, queue, r.created, r.now⟩
  others : r'.registry.erase id = r.registry
  queues : ∃ q', r'.queues = r.queues.set queue q' ∧
    q'.waiting = q.waiting ++ [.game r.activity] ∧ q'.received = q.received ∧
    q'.receiver = q.receiver ∧ q'.senders = q.senders ∧ q'.capacity = q.capacity

/-- From one relay to another, nothing has changed for anyone, and of one queue a sender has been
released. -/
structure Spared (r : Relay) (queue : Nat) (r' : Relay) : Prop where
  activity : r'.activity = r.activity
  forwarded : r'.forwarded = r.forwarded
  registry : r'.registry = r.registry
  queues : r'.queues = r.queues.modify queue Queue.dropSender

theorem spared_turnAway (r : Relay) (queue : Nat) (records : List Record) :
    Spared r queue (r.turnAway queue records) := ⟨rfl, rfl, rfl, rfl⟩

/-- The four ways that a connect can go, and what decides between them. -/
theorem connect_cases {r : Relay} {queue : Nat} {q : Queue Event} (id : ClientId)
    (made : r.queues[queue]? = some q) :
    (r.registry.find? id ≠ none ∧ (r.connect id queue).2 = .error (.duplicate id) ∧
      Spared r queue (r.connect id queue).1) ∨
    (r.registry.find? id = none ∧ q.receiver ≠ .listening ∧
      (r.connect id queue).2 = .error (.closed id) ∧ Spared r queue (r.connect id queue).1) ∨
    (r.registry.find? id = none ∧ q.receiver = .listening ∧ q.waiting.length = q.capacity ∧
      (r.connect id queue).2 = .error (.queueFull id) ∧ Spared r queue (r.connect id queue).1) ∨
    (r.registry.find? id = none ∧ q.receiver = .listening ∧ q.waiting.length < q.capacity ∧
      (r.connect id queue).2 = .ok r.activity ∧
      Admitted r id queue q (r.connect id queue).1) := by
  cases hi : r.registry.insert? (r.newConnection id queue).2 with
  | none =>
    have hknown : r.registry.find? id ≠ none := Registry.insert?_eq_none hi
    rw [connect_of_known hi]
    exact .inl ⟨hknown, rfl, spared_turnAway r queue _⟩
  | some registry =>
    have hnew : r.registry.find? id = none := (Registry.insert?_eq_some hi).1
    rcases q.push_cases (.game r.activity) with ⟨hr, hp⟩ | ⟨hr, hl, hp⟩ | ⟨hr, hl, q', hp⟩
    · rw [connect_of_refused hi made hp]
      exact .inr (.inl ⟨hnew, hr, rfl, spared_turnAway r queue _⟩)
    · rw [connect_of_refused hi made hp]
      exact .inr (.inr (.inl ⟨hnew, hr, hl, rfl, spared_turnAway r queue _⟩))
    · obtain ⟨-, -, hwaiting, hreceived, hreceiver, hsenders, hcapacity⟩ := Queue.push_eq_ok hp
      rw [connect_of_taken hi made hp]
      refine .inr (.inr (.inr ⟨hnew, hr, hl, rfl, ?_⟩))
      exact
        { activity := rfl
          forwarded := rfl
          found := find?_of_new hi
          others := Registry.erase_insert? hi
          queues := ⟨q', rfl, hwaiting, hreceived, hreceiver, hsenders, hcapacity⟩ }

/-- A viewer that connects is let in exactly if its id is new and its queue takes an event; it is
told the activity then, by the answer and by the one event more in its queue. Otherwise the first
reason counts, a known id before a closed queue and this before a full one, and nobody finds
anything changed, not even who has the id already: only the sender that was offered is gone. -/
theorem connect_all_or_nothing {r : Relay} {queue : Nat} {q : Queue Event} (id : ClientId)
    (made : r.queues[queue]? = some q) :
    ((∃ activity, (r.connect id queue).2 = .ok activity) ↔
      r.registry.find? id = none ∧ q.receiver = .listening ∧ q.waiting.length < q.capacity) ∧
    (∀ activity, (r.connect id queue).2 = .ok activity →
      activity = r.activity ∧ Admitted r id queue q (r.connect id queue).1) ∧
    ((r.connect id queue).2 = .error (.duplicate id) ↔ r.registry.find? id ≠ none) ∧
    ((r.connect id queue).2 = .error (.closed id) ↔
      r.registry.find? id = none ∧ q.receiver ≠ .listening) ∧
    ((r.connect id queue).2 = .error (.queueFull id) ↔
      r.registry.find? id = none ∧ q.receiver = .listening ∧ q.waiting.length = q.capacity) ∧
    (∀ e, (r.connect id queue).2 = .error e →
      (e = .duplicate id ∨ e = .closed id ∨ e = .queueFull id) ∧
        Spared r queue (r.connect id queue).1) := by
  rcases connect_cases id made with ⟨hid, ha, hs⟩ | ⟨hid, hr, ha, hs⟩ | ⟨hid, hr, hl, ha, hs⟩ |
    ⟨hid, hr, hl, ha, hs⟩ <;> rw [ha]
  · simp [hid, hs]
  · simp [hid, hr, hs]
  · simp [hid, hr, hl, hs]
  · simp [hid, hr, hl, hs, hl.ne]

/-- A queue that is full and shut as well. -/
def sealedQueue : Queue Event where
  capacity := 1
  waiting := [.game "B"]
  receiver := .shut

/-- A relay with one viewer, and with such a queue for another. -/
def occupied : Relay where
  activity := "A"
  registry := .single ⟨.ofNat 1, 0, 0, 0⟩
  queues := [{ capacity := 3, waiting := [.game "A"] }, sealedQueue]
  created := 1

theorem connect_all_or_nothing_full_and_shut :
    occupied.queues[1]? = some sealedQueue ∧
    (occupied.connect (.ofNat 2) 1).2 = .error (.closed (.ofNat 2)) ∧
    Spared occupied 1 (occupied.connect (.ofNat 2) 1).1 := by
  have made : occupied.queues[1]? = some sealedQueue := rfl
  obtain ⟨-, -, -, closed, -, failed⟩ := connect_all_or_nothing (.ofNat 2) made
  have answer := closed.2 ⟨by decide, by decide⟩
  exact ⟨made, answer, (failed _ answer).2⟩

end Relay
end ActivityRelay
