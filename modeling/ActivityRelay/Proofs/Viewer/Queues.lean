import ActivityRelay.Proofs.Viewer.Refinement

/-! Who reads a queue, and what one more queue changes. -/
namespace ActivityRelay
namespace Relay
variable {r a : Relay}

/-- What became of the receiving end of a queue. -/
def receiver? (r : Relay) (queue : Nat) : Option Receiver :=
  (r.queues[queue]?).map Queue.receiver

theorem receiver?_congr (h : r.view.queues = a.view.queues) (queue : Nat) :
    r.receiver? queue = a.receiver? queue := by
  have hq := congrArg (Option.map Queue.receiver) (queue_congr h queue)
  rwa [Option.map_map, Option.map_map] at hq

theorem receiver?_set {queue : Nat} {x x' : Queue Event} (hx : r.queues[queue]? = some x)
    (hr : x'.receiver = x.receiver) (other : Nat) :
    receiver? { r with queues := r.queues.set queue x' } other = r.receiver? other := by
  obtain ⟨hlt, rfl⟩ := List.getElem?_eq_some_iff.1 hx
  by_cases h : queue = other
  · subst h
    simp [receiver?, hlt, hr]
  · simp [receiver?, h]

theorem receiver?_deliver (r : Relay) (c : Connection) (event : Event) (queue : Nat) :
    (r.deliver c event).1.receiver? queue = r.receiver? queue := by
  rcases r.deliver_cases c event with ⟨x, x', hx, hp, hd⟩ | ⟨e, hd⟩
  · rw [hd]
    exact receiver?_set hx (Queue.push_eq_ok hp).2.2.2.2.1 queue
  · rw [hd]

theorem receiver?_deliverEach (r : Relay) (event : Event) (cs : List Connection) (queue : Nat) :
    (r.deliverEach event cs).1.receiver? queue = r.receiver? queue := by
  induction cs generalizing r with
  | nil => rfl
  | cons c cs ih => rw [(r.deliverEach_cons event c cs).1, ih, receiver?_deliver]

theorem receiver?_receive (r : Relay) (p queue : Nat) :
    (r.receive p).1.receiver? queue = r.receiver? queue := by
  unfold receive
  cases hx : r.queues[p]? with
  | none => rfl
  | some x =>
    refine receiver?_set hx ?_ queue
    unfold Queue.take
    split
    · rfl
    · split
      · rfl
      · split <;> rfl

theorem receiver?_onQueue (r : Relay) (p : Nat) (f : Queue Event → Queue Event) (queue : Nat) :
    (r.onQueue p f).receiver? queue =
      if p = queue then (r.queues[queue]?).map (Queue.receiver ∘ f) else r.receiver? queue := by
  unfold receiver? onQueue
  rw [List.getElem?_modify]
  by_cases h : p = queue <;> cases r.queues[queue]? <;> simp [h]

/-- What a session finds in its queue: what waits, and behind that the end once there is no
sender. -/
def next (r : Relay) (queue : Nat) : Queue.Taken Event :=
  match r.queued queue with
  | event :: _ => .item event
  | [] => if r.senders queue = 0 then .ended else .empty

theorem receive_of_listening {queue : Nat} (h : r.receiver? queue = some .listening) :
    (r.receive queue).2 = r.next queue := by
  obtain ⟨x, hx, hl⟩ := Option.map_eq_some_iff.1 h
  rcases ht : x.take with ⟨event | _ | _, x'⟩
  · have hw := (Queue.take_eq_item ht).1
    simp [next, queued, receive, hx, ht, hw]
  · obtain ⟨-, -, hw, hs⟩ := Queue.take_eq_empty ht
    simp [next, queued, senders, receive, hx, ht, hw, hs]
  · obtain ⟨-, hend⟩ := Queue.take_eq_ended ht
    obtain ⟨hw, hs⟩ : x.waiting = [] ∧ x.senders = 0 := by simpa [hl] using hend
    simp [next, queued, senders, receive, hx, ht, hw, hs]

/-- A new queue is empty, listened to, and has one sender. -/
structure Opened (r a : Relay) (queue : Nat) : Prop where
  unmade : r.queues[queue]? = none
  activity : a.activity = r.activity
  registry : a.registry = r.registry
  accepted : ∀ q, a.accepted q = r.accepted q
  received : ∀ q, a.received q = r.received q
  senders : ∀ q, a.senders q = r.senders q + if q = queue then 1 else 0
  receiver : ∀ q, a.receiver? q = if q = queue then some .listening else r.receiver? q

theorem opened {capacity queue : Nat} (h : r.openQueue capacity = .ok (a, queue)) :
    Opened r a queue := by
  obtain ⟨rfl, rfl⟩ := openQueue_eq_ok h
  have get (q : Nat) : (r.queues ++ [({ capacity } : Queue Event)])[q]? =
      if q = r.queues.length then some { capacity } else r.queues[q]? := by
    rw [List.getElem?_append]
    split
    · next hlt => rw [if_neg hlt.ne]
    · next hge =>
      split
      · next he => simp [he]
      · next hne => rw [List.getElem?_eq_none (by simp; omega), List.getElem?_eq_none (by omega)]
  constructor
  · exact List.getElem?_eq_none le_rfl
  · rfl
  · rfl
  · intro q
    simp only [accepted, get]
    split
    · next he => simp [he, Queue.accepted]
    · rfl
  · intro q
    simp only [received, get]
    split
    · next he => simp [he]
    · rfl
  · intro q
    simp only [Relay.senders, get]
    split
    · next he => simp [he]
    · rfl
  · intro q
    simp only [receiver?, get]
    split <;> rfl

end Relay

/-- No task has to do with who reads a queue. -/
theorem Phase.receiver?_step {me : Nat} {s s' : Shared} {p p' : Phase} (h : Step me s p s' p')
    (queue : Nat) : s'.relay.receiver? queue = s.relay.receiver? queue := by
  obtain ⟨event, cs, -, hq⟩ := queues_of_step h
  rw [Relay.receiver?_congr hq, Relay.receiver?_deliverEach]

namespace System
variable {s t : System}

theorem receiver?_move {m : Move} {queue : Nat} (leaves : m.leaves queue = true)
    (h : s.move m = some t) : t.relay.receiver? queue = s.relay.receiver? queue := by
  cases m with
  | task i =>
    obtain ⟨p, p', -, hs, -, -⟩ := advance_cases h
    exact Phase.receiver?_step hs queue
  | shuffle order => cases h; rfl
  | receive q =>
    cases h
    rw [relay_receive, Relay.receiver?_receive]
  | shut q | close q =>
    have hne : q ≠ queue := by simpa [Move.leaves] using leaves
    cases h
    exact (s.relay.receiver?_onQueue q _ queue).trans (if_neg hne)

end System
end ActivityRelay
