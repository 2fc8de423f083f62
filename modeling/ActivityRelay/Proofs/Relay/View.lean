import ActivityRelay.Proofs.Registry
import ActivityRelay.Relay.Operations

/-! What the operations of a relay decide on: the activity, the registry and what is in the queues,
apart from the log, the forwarded messages and who holds senders. Each operation is described by
its effect on that, and relays that agree on it answer alike. -/
namespace ActivityRelay

namespace Queue
variable {α : Type}

/-- A queue apart from its senders. -/
def bare (q : Queue α) : Queue α := { q with senders := 0 }

theorem push_bare (q : Queue α) (a : α) : q.bare.push a = (q.push a).map bare := by
  unfold push
  by_cases h : q.receiver = .listening <;> by_cases k : q.waiting.length < q.capacity <;>
    simp [bare, h, k, Except.map]

def Taken.toList : Taken α → List α
  | .item a => [a]
  | .empty | .ended => []

theorem received_take (q : Queue α) : q.take.2.received = q.received ++ q.take.1.toList := by
  unfold take
  split
  · exact (List.append_nil _).symm
  · split
    · rfl
    · split <;> exact (List.append_nil _).symm

end Queue

/-- A relay apart from its log, its forwarded messages and the senders of its queues. -/
structure View where
  activity : String
  registry : Registry
  order : List ClientId
  queues : List (Queue Event)
  created : Nat
  now : Nat
  deriving DecidableEq

/-- Without several viewers. -/
def Registry.eraseAll (r : Registry) (ids : List ClientId) : Registry := ids.foldl erase r

theorem Registry.eraseAll_erase (r : Registry) (id : ClientId) (ids : List ClientId) :
    (r.erase id).eraseAll ids = (r.eraseAll ids).erase id := by
  induction ids generalizing r with
  | nil => rfl
  | cons other ids ih =>
    change ((r.erase id).erase other).eraseAll ids = ((r.erase other).eraseAll ids).erase id
    rw [r.erase_comm, ih]

namespace Relay

def view (r : Relay) : View where
  activity := r.activity
  registry := r.registry
  order := r.order
  queues := r.queues.map Queue.bare
  created := r.created
  now := r.now

/-- All that a queue ever accepted. -/
def accepted (r : Relay) (q : Nat) : List Event := (r.queues[q]?).elim [] Queue.accepted

/-- What was taken from a queue. -/
def received (r : Relay) (q : Nat) : List Event := (r.queues[q]?).elim [] Queue.received

/-- What waits in a queue. -/
def queued (r : Relay) (q : Nat) : List Event := (r.queues[q]?).elim [] Queue.waiting

theorem accepted_eq (r : Relay) (q : Nat) : r.accepted q = r.received q ++ r.queued q := by
  unfold accepted received queued
  cases r.queues[q]? <;> rfl

theorem queue_congr {r a : Relay} (h : r.view.queues = a.view.queues) (q : Nat) :
    (r.queues[q]?).map Queue.bare = (a.queues[q]?).map Queue.bare := by
  have hq : r.queues.map Queue.bare = a.queues.map Queue.bare := h
  rw [← List.getElem?_map, ← List.getElem?_map, hq]

/-- Queues that are alike but for their senders have accepted and given out the same. -/
theorem content_congr {r a : Relay} (h : r.view.queues = a.view.queues) (q : Nat) :
    r.accepted q = a.accepted q ∧ r.received q = a.received q := by
  have hq := queue_congr h q
  unfold accepted received
  cases hr : r.queues[q]? with
  | none =>
    have ha : a.queues[q]? = none := by simpa [hr] using hq.symm
    simp [ha]
  | some x =>
    obtain ⟨y, ha, hxy⟩ : ∃ y, a.queues[q]? = some y ∧ y.bare = x.bare := by
      simpa [hr] using hq.symm
    rw [ha]
    exact ⟨(congrArg Queue.accepted hxy).symm, (congrArg Queue.received hxy).symm⟩

theorem content_onQueue (r : Relay) (q : Nat) {f : Queue Event → Queue Event}
    (h : ∀ queue, (f queue).accepted = queue.accepted ∧ (f queue).received = queue.received)
    (other : Nat) : (r.onQueue q f).accepted other = r.accepted other ∧
      (r.onQueue q f).received other = r.received other := by
  unfold accepted received onQueue
  rw [List.getElem?_modify]
  cases r.queues[other]? with
  | none => exact ⟨rfl, rfl⟩
  | some queue =>
    by_cases hq : q = other
    · simpa [hq] using h queue
    · simp [hq]

theorem receive_frame (r : Relay) (q : Nat) : ∃ queues, (r.receive q).1 = { r with queues } := by
  unfold receive
  cases r.queues[q]? <;> exact ⟨_, rfl⟩

/-- Receiving adds what was taken to what was received, and does not touch what was accepted. -/
theorem content_receive (r : Relay) (q other : Nat) :
    (r.receive q).1.accepted other = r.accepted other ∧
      (r.receive q).1.received other =
        r.received other ++ if q = other then (r.receive q).2.toList else [] := by
  unfold receive
  cases hq : r.queues[q]? with
  | none => simp [Queue.Taken.toList]
  | some queue =>
    obtain ⟨hlt, rfl⟩ := List.getElem?_eq_some_iff.1 hq
    by_cases ho : q = other
    · subst ho
      simp [accepted, received, hlt, Queue.accepted_take, Queue.received_take]
    · simp [accepted, received, ho]

@[simp] theorem view_note (r : Relay) (rec : Record) : (r.note rec).view = r.view := rfl

@[simp] theorem view_lastNote (r : Relay) (last : Option Record) :
    (last.elim r r.note).view = r.view := by cases last <;> rfl

@[simp] theorem view_forward (r : Relay) (raw : String) : (r.forward raw).view = r.view := by
  unfold forward
  split <;> rfl

@[simp] theorem view_hear (r : Relay) (origin : ClientId) (raw : String) :
    (r.hear origin raw).view = r.view := by simp [hear]

@[simp] theorem view_release (r : Relay) (q : Nat) : (r.release q).view = r.view := by
  have hq : (r.queues.modify q Queue.dropSender).map Queue.bare = r.queues.map Queue.bare := by
    apply List.ext_getElem?
    intro i
    rw [List.getElem?_map, List.getElem?_map, List.getElem?_modify]
    cases r.queues[i]? with
    | none => rfl
    | some queue => by_cases h : q = i <;> simp [h, Queue.bare, Queue.dropSender]
  simp [view, release, onQueue, hq]

@[simp] theorem view_drop (r : Relay) (c : Option Connection) : (r.drop c).view = r.view := by
  cases c <;> simp [drop]

theorem view_commit (r : Relay) (value : String) :
    (r.commit value).1.view = { r.view with activity := value } := rfl

theorem register_new {r : Relay} {c : Connection} {registry : Registry}
    (h : r.registry.insert? c = some registry) :
    r.register c = ({ r with registry }.note (.registered c.id registry.size), true) := by
  simp [register, h]

theorem register_known {r : Relay} {c : Connection} (h : r.registry.insert? c = none) :
    r.register c = ((r.note (.duplicateIgnored c.id)).release c.queue, false) := by
  simp [register, h]

theorem view_remove (r : Relay) (id : ClientId) :
    (r.remove id).1.view = { r.view with registry := r.registry.erase id } := by
  unfold remove
  cases h : r.registry.find? id with
  | none => simp [view, Registry.erase_of_find?_none h]
  | some c => rfl

theorem view_clear (r : Relay) (rec : Record) (id : ClientId) :
    (r.clear rec id).1.view = { r.view with registry := r.registry.erase id } := by
  rw [clear, view_remove, view_note]
  rfl

theorem view_disconnect (r : Relay) (id : ClientId) :
    (r.disconnect id).view = { r.view with registry := r.registry.erase id } := by
  rw [← view_remove, disconnect]
  rcases r.remove id with ⟨r', _ | c⟩ <;> simp

theorem view_clearAll (r : Relay) (failed : List Failure) :
    (r.clearAll failed).view =
      { r.view with registry := r.registry.eraseAll (failed.map (·.1)) } := by
  induction failed generalizing r with
  | nil => rfl
  | cons f failed ih =>
    obtain ⟨id, e⟩ := f
    have hr : (r.clear (.broadcastFailed id e) id).1.registry = r.registry.erase id :=
      congrArg View.registry (r.view_clear (.broadcastFailed id e) id)
    have hd : ∀ c, ((r.clear (.broadcastFailed id e) id).1.drop c).registry =
        r.registry.erase id := fun c => by
      rw [← hr]; exact congrArg View.registry (view_drop _ c)
    rw [clearAll, ih, view_drop, view_clear, hd]
    rfl

/-- A relay before its first viewer, with empty queues. -/
def fresh (activity : String) (capacities : List Nat) : Relay where
  activity := activity
  queues := capacities.map fun capacity =>
    { capacity, waiting := [], fits := capacity.zero_le }

end Relay
end ActivityRelay
