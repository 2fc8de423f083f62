/-! Bounded first-in first-out queues between senders and one receiver, neither of whom waits. -/
namespace ActivityRelay

/-- The receiving end: taking and accepting, taking what is left, or no longer there. -/
inductive Receiver where
  | listening
  | shut
  | gone
  deriving DecidableEq, Repr

/-- A queue with all it ever accepted: what was received, then what is still waiting. -/
structure Queue (α : Type) where
  capacity : Nat
  received : List α := []
  waiting : List α := []
  receiver : Receiver := .listening
  /-- The sending ends that are still held by someone. -/
  senders : Nat := 1
  fits : waiting.length ≤ capacity := by simp
  deriving DecidableEq, Repr

namespace Queue
variable {α : Type}

/-- Why a queue of some capacity cannot be made. -/
inductive CapacityError where
  | zero
  | tooLarge
  deriving DecidableEq, Repr

/-- The greatest capacity: three bits of a word are taken for other ends. -/
def maxCapacity : Nat := UInt64.size / 8 - 1

def CapacityError.message : CapacityError → String
  | .zero => "mpsc bounded channel requires buffer > 0"
  | .tooLarge =>
    "a semaphore may not have more than MAX_PERMITS permits (2305843009213693951)"

/-- What keeps a queue of this capacity from being made. -/
def capacityError? (capacity : Nat) : Option CapacityError :=
  if capacity = 0 then some .zero
  else if capacity > maxCapacity then some .tooLarge
  else none

/-- An empty queue with one sender. -/
def create (capacity : Nat) : Except CapacityError (Queue α) :=
  match capacityError? capacity with
  | some e => .error e
  | none => .ok { capacity }

def accepted (q : Queue α) : List α := q.received ++ q.waiting

/-- Why a queue does not accept an item. -/
inductive Refusal where
  | full
  | closed
  deriving DecidableEq, Repr

/-- A queue that is both full and closed is closed. -/
def push (q : Queue α) (a : α) : Except Refusal (Queue α) :=
  if q.receiver ≠ .listening then .error .closed
  else if h : q.waiting.length < q.capacity then
    .ok { q with waiting := q.waiting ++ [a], fits := by rw [List.length_append]; exact h }
  else .error .full

theorem push_eq_ok {q q' : Queue α} {a : α} (h : q.push a = .ok q') :
    q.receiver = .listening ∧ q.waiting.length < q.capacity ∧ q'.waiting = q.waiting ++ [a] ∧
      q'.received = q.received ∧ q'.receiver = q.receiver ∧ q'.senders = q.senders ∧
      q'.capacity = q.capacity := by
  unfold push at h
  split at h
  · simp at h
  · split at h
    · simp only [Except.ok.injEq] at h
      subst h
      simp_all
    · simp at h

theorem accepted_push {q q' : Queue α} {a : α} (h : q.push a = .ok q') :
    q'.accepted = q.accepted ++ [a] := by
  obtain ⟨-, -, hw, hr, -⟩ := push_eq_ok h
  simp [accepted, hw, hr]

/-- What the receiver finds. -/
inductive Taken (α : Type) where
  | item (a : α)
  | empty
  | ended
  deriving DecidableEq, Repr

/-- A receiver that is gone finds the end, whatever it left behind. -/
def take (q : Queue α) : Taken α × Queue α :=
  if q.receiver = .gone then (.ended, q)
  else match h : q.waiting with
    | a :: rest =>
      (.item a, { q with
        received := q.received ++ [a]
        waiting := rest
        fits := by have := q.fits; simp [h] at this; omega })
    | [] => if q.receiver = .shut ∨ q.senders = 0 then (.ended, q) else (.empty, q)

theorem take_eq_item {q q' : Queue α} {a : α} (h : q.take = (.item a, q')) :
    q.waiting = a :: q'.waiting ∧ q'.received = q.received ++ [a] ∧ q'.receiver = q.receiver ∧
      q'.senders = q.senders ∧ q'.capacity = q.capacity := by
  unfold take at h
  split at h
  · simp at h
  · split at h
    · next hw =>
      simp only [Prod.mk.injEq, Taken.item.injEq] at h
      obtain ⟨rfl, rfl⟩ := h
      exact ⟨hw, rfl, rfl, rfl, rfl⟩
    · split at h <;> simp at h

theorem take_eq_ended {q q' : Queue α} (h : q.take = (.ended, q')) : q' = q ∧
    (q.receiver = .gone ∨ q.waiting = [] ∧ (q.receiver = .shut ∨ q.senders = 0)) := by
  unfold take at h
  split at h
  · next hg => exact ⟨(Prod.mk.inj h).2.symm, .inl hg⟩
  · split at h
    · simp at h
    · next hw =>
      split at h
      · next hs => exact ⟨(Prod.mk.inj h).2.symm, .inr ⟨hw, hs⟩⟩
      · simp at h

theorem take_eq_empty {q q' : Queue α} (h : q.take = (.empty, q')) :
    q' = q ∧ q.receiver = .listening ∧ q.waiting = [] ∧ q.senders ≠ 0 := by
  unfold take at h
  split at h
  · simp at h
  · next hg =>
    split at h
    · simp at h
    · next hw =>
      split at h
      · simp at h
      · next hs =>
        rw [not_or] at hs
        refine ⟨(Prod.mk.inj h).2.symm, ?_, hw, hs.2⟩
        cases hr : q.receiver with
        | listening => rfl
        | shut => exact absurd hr hs.1
        | gone => exact absurd hr hg

theorem accepted_take (q : Queue α) : q.take.2.accepted = q.accepted := by
  unfold take
  split
  · rfl
  · split
    · next h => simp [accepted, h]
    · split <;> rfl

def shut (q : Queue α) : Queue α :=
  if q.receiver = .listening then { q with receiver := .shut } else q

def close (q : Queue α) : Queue α := { q with receiver := .gone }

def addSender (q : Queue α) : Queue α := { q with senders := q.senders + 1 }

def dropSender (q : Queue α) : Queue α := { q with senders := q.senders - 1 }

end Queue
end ActivityRelay
