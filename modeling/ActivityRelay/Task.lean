import ActivityRelay.Relay.Operations

/-! Operations that run beside others: each is a row of steps, and between two of them any other
task may take its own. The activity lock goes to the tasks in the order in which they ask for it. -/
namespace ActivityRelay

/-- What a task is asked to do. -/
inductive Operation where
  | connect (id : ClientId) (queue : Nat)
  | disconnect (id : ClientId)
  | register (connection : Connection)
  | unregister (id : ClientId)
  | sendTo (id : ClientId) (value : String)
  | broadcast (value : String) (exclude : Option ClientId)
  | dispatch (origin : ClientId) (raw : String)
  | current
  | commit (value : String)
  /-- Reads the viewers and then the activity. -/
  | status
  deriving DecidableEq, Repr

/-- What a finished task answers. -/
inductive Outcome where
  | connected (greeting : Except DeliveryError String)
  | disconnected
  | registered (accepted : Bool)
  | unregistered (found : Bool)
  | sent (failure : Option DeliveryError)
  | broadcast (delivered : Nat)
  | dispatched (result : Dispatched)
  | activity (value : String)
  | committed (previous : String)
  | status (activity : String) (viewers : List ClientId)

/-- The work that needs the activity lock. -/
inductive Locked where
  | connect (id : ClientId) (queue : Nat)
  | change (origin : ClientId) (value : String)
  | current
  | commit (value : String)
  | status (viewers : List ClientId)
  deriving DecidableEq, Repr

/-- How a task ends: its answer, whether it gives the lock back, and its last record. -/
structure Ending where
  outcome : Outcome
  locked : Bool
  last : Option Record := none

/-- Viewers still to be unregistered after failed deliveries, with the record of each failure. -/
abbrev Clearing := List (ClientId × Record)

/-- How far a task has come. -/
inductive Phase where
  | start (op : Operation)
  /-- About to ask for the activity lock. -/
  | asking (work : Locked)
  /-- In the line for the activity lock. -/
  | waiting (work : Locked)
  /-- Registered under the lock, with the greeting to be delivered. -/
  | greeting (id : ClientId) (activity : String)
  /-- Committed under the lock, with the others to be told. -/
  | telling (origin : ClientId) (previous value : String)
  | clearing (failed : Clearing) (ending : Ending)
  /-- Holding a connection that is no longer registered. -/
  | dropping (removed : Option Connection) (last : Option Record) (failed : Clearing)
      (ending : Ending)
  | finishing (ending : Ending)
  | done (outcome : Outcome)

/-- What tasks share: the relay, and the line for the activity lock with its holder in front. -/
structure Shared where
  relay : Relay
  line : List Nat := []

namespace Phase

def clearingOf (record : ClientId → DeliveryError → Record) (failed : List Relay.Failure) :
    Clearing :=
  failed.map fun f => (f.1, record f.1 f.2)

/-- The first step of an operation. -/
def begin (me : Nat) (s : Shared) : Operation → Shared × Phase
  | .connect id queue => ({ s with line := s.line ++ [me] }, .waiting (.connect id queue))
  | .disconnect id =>
    let (relay, c) := s.relay.remove id
    ({ s with relay },
      .dropping c (c.map fun _ => .sessionEnded id) [] ⟨.disconnected, false, none⟩)
  | .register c =>
    let (relay, accepted) := s.relay.register c
    ({ s with relay }, .finishing ⟨.registered accepted, false, none⟩)
  | .unregister id =>
    let (relay, c) := s.relay.remove id
    ({ s with relay }, .dropping c none [] ⟨.unregistered c.isSome, false, none⟩)
  | .sendTo id value =>
    let (relay, failure) := s.relay.deliverTo id (.game value)
    let failed := match failure with
      | some (.notRegistered _) | none => []
      | some e => [(id, e)]
    ({ s with relay },
      .clearing (clearingOf .deliveryFailed failed) ⟨.sent failure, false, none⟩)
  | .broadcast value exclude =>
    let (relay, delivered, failed) := s.relay.deliverAll (.game value) exclude
    ({ s with relay },
      .clearing (clearingOf .broadcastFailed failed) ⟨.broadcast delivered, false, none⟩)
  | .dispatch origin raw =>
    let s := { s with relay := s.relay.hear origin raw }
    match Command.classify raw with
    | .plain _ => (s, .finishing ⟨.dispatched .plain, false, none⟩)
    | .setActivity value => (s, .asking (.change origin value))
  | .current => ({ s with line := s.line ++ [me] }, .waiting .current)
  | .commit value => ({ s with line := s.line ++ [me] }, .waiting (.commit value))
  | .status => (s, .asking (.status s.relay.viewers))

/-- The first step under the lock. -/
def enter (s : Shared) : Locked → Shared × Phase
  | .connect id queue =>
    let activity := s.relay.activity
    let (relay, c) := s.relay.newConnection id queue
    match relay.register c with
    | (relay, true) => ({ s with relay }, .greeting id activity)
    | (relay, false) =>
      ({ s with relay }, .finishing ⟨.connected (.error (.duplicate id)), true, none⟩)
  | .change origin value =>
    let (relay, previous) := s.relay.commit value
    ({ s with relay }, .telling origin previous value)
  | .current => (s, .finishing ⟨.activity s.relay.activity, true, none⟩)
  | .commit value =>
    let (relay, previous) := s.relay.commit value
    ({ s with relay }, .finishing ⟨.committed previous, true, none⟩)
  | .status viewers => (s, .finishing ⟨.status s.relay.activity viewers, true, none⟩)

/-- The next step of a task, none while it waits for the lock and when it is done. -/
def step (me : Nat) (s : Shared) : Phase → Option (Shared × Phase)
  | .start op => some (begin me s op)
  | .asking work => some ({ s with line := s.line ++ [me] }, .waiting work)
  | .waiting work => if s.line.head? = some me then some (enter s work) else none
  | .greeting id activity =>
    let (relay, failure) := s.relay.deliverTo id (.game activity)
    let failed := match failure with
      | some (.notRegistered _) | none => []
      | some e => [(id, e)]
    let ending : Ending := match failure with
      | some e => ⟨.connected (.error e), true, none⟩
      | none => ⟨.connected (.ok activity), true, some (.greeted id activity)⟩
    some ({ s with relay }, .clearing (clearingOf .deliveryFailed failed) ending)
  | .telling origin previous value =>
    let (relay, delivered, failed) := s.relay.deliverAll (.game value) (some origin)
    some ({ s with relay }, .clearing (clearingOf .broadcastFailed failed)
      ⟨.dispatched (.changed value delivered), true,
        some (.activityChanged origin previous value delivered)⟩)
  | .clearing [] ending => some (s, .finishing ending)
  | .clearing ((id, record) :: failed) ending =>
    let (relay, c) := s.relay.clear record id
    some ({ s with relay }, .dropping c none failed ending)
  | .dropping c last failed ending =>
    let relay := last.elim s.relay s.relay.note
    some ({ s with relay := relay.drop c }, .clearing failed ending)
  | .finishing e =>
    let line := if e.locked then s.line.tail else s.line
    some ({ relay := e.last.elim s.relay s.relay.note, line }, .done e.outcome)
  | .done _ => none

/-- A bound on the steps that are left. -/
def rank : Phase → Nat × Nat
  | .start _ => (6, 0)
  | .asking _ => (5, 0)
  | .waiting _ => (4, 0)
  | .greeting .. | .telling .. => (3, 0)
  | .clearing failed _ => (2, 2 * failed.length)
  | .dropping _ _ failed _ => (2, 2 * failed.length + 1)
  | .finishing _ => (1, 0)
  | .done _ => (0, 0)

theorem rank_begin (me : Nat) (s : Shared) (op : Operation) : (begin me s op).2.rank.1 < 6 := by
  cases op with
  | dispatch origin raw => simp only [begin]; split <;> simp [rank]
  | _ => simp [begin, rank]

theorem rank_enter (s : Shared) (work : Locked) : (enter s work).2.rank.1 < 4 := by
  cases work with
  | connect id queue => simp only [enter]; split <;> simp [rank]
  | _ => simp [enter, rank]

/-- Every step of a task brings it nearer to its end. -/
theorem rank_step {me : Nat} {s s' : Shared} {p p' : Phase} (h : p.step me s = some (s', p')) :
    Prod.Lex (· < ·) (· < ·) p'.rank p.rank := by
  unfold step at h
  split at h
  · next op =>
    have hr := rank_begin me s op
    rw [Option.some.inj h] at hr
    exact Prod.lex_def.2 (.inl hr)
  · simp only [Option.some.injEq, Prod.mk.injEq] at h
    rw [← h.2]; exact Prod.lex_def.2 (.inl (by simp [rank]))
  · next work =>
    split at h
    · have hr := rank_enter s work
      rw [Option.some.inj h] at hr
      exact Prod.lex_def.2 (.inl hr)
    · simp at h
  · simp only [Option.some.injEq, Prod.mk.injEq] at h
    rw [← h.2]; exact Prod.lex_def.2 (.inl (by simp [rank]))
  · simp only [Option.some.injEq, Prod.mk.injEq] at h
    rw [← h.2]; exact Prod.lex_def.2 (.inl (by simp [rank]))
  · simp only [Option.some.injEq, Prod.mk.injEq] at h
    rw [← h.2]; exact Prod.lex_def.2 (.inl (by simp [rank]))
  · simp only [Option.some.injEq, Prod.mk.injEq] at h
    rw [← h.2]; exact Prod.lex_def.2 (.inr (by simp [rank]; omega))
  · simp only [Option.some.injEq, Prod.mk.injEq] at h
    rw [← h.2]; exact Prod.lex_def.2 (.inr (by simp [rank]))
  · simp only [Option.some.injEq, Prod.mk.injEq] at h
    rw [← h.2]; exact Prod.lex_def.2 (.inl (by simp [rank]))
  · simp at h

/-- Takes the steps of one task until it waits or is done. -/
def run (me : Nat) (s : Shared) (p : Phase) : Shared × Phase :=
  match _h : p.step me s with
  | none => (s, p)
  | some (s', p') => run me s' p'
termination_by p.rank
decreasing_by exact rank_step _h

def outcome? : Phase → Option Outcome
  | .done outcome => some outcome
  | _ => none

end Phase
end ActivityRelay
