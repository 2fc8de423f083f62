import ActivityRelay.Proofs.Viewer.Leaving
import ActivityRelay.Proofs.Viewer.Senders
import ActivityRelay.Proofs.Viewer.Transcript

/-! A session from its upgrade to its return, whatever comes from its socket, whatever the others do
meanwhile and wherever a write fails. -/
namespace ActivityRelay

theorem Relay.openQueue_eq_ok {r r' : Relay} {capacity queue : Nat}
    (h : r.openQueue capacity = .ok (r', queue)) : queue = r.queues.length ∧
      r' = { r with queues := r.queues ++
        [{ capacity, waiting := [], fits := capacity.zero_le }] } := by
  unfold openQueue Queue.create at h
  cases hc : Queue.capacityError? capacity with
  | some e => simp [hc] at h
  | none =>
    simp only [hc, Except.ok.injEq, Prod.mk.injEq] at h
    exact ⟨h.2.symm, h.1.symm⟩

namespace Viewer

/-- What an act takes from the socket. -/
def Act.inbound? : Act → Option Inbound
  | .take i => some i
  | _ => none

namespace Life
variable {l l' : Life} {r : Relay} {id : ClientId} {capacity : Nat}

theorem taken_resume (h : l.resume = some l') : l'.taken = l.taken := by
  unfold resume at h
  split at h
  · split at h
    · cases h; rfl
    · cases h; rfl
    · simp at h
  · obtain ⟨o, -, rfl⟩ := Option.map_eq_some_iff.1 h
    rfl
  · obtain ⟨o, -, rfl⟩ := Option.map_eq_some_iff.1 h
    rfl
  · simp at h
  · simp at h

theorem taken_flush (l : Life) (writable : Bool) : (l.flush writable).taken = l.taken := by
  unfold flush
  dsimp only
  split
  · cases writable <;> rfl
  · rfl
  · rfl

/-- A session keeps account of what it takes from its socket, and takes nothing else. -/
theorem taken_act {x : Act} (h : l.act x = some l') :
    l'.taken = l.taken ++ x.inbound?.toList := by
  have same (hx : x.inbound? = none) (ht : l'.taken = l.taken) :
      l'.taken = l.taken ++ x.inbound?.toList := by rw [hx, ht, Option.toList_none, List.append_nil]
  cases x with
  | move m =>
    simp only [act, Option.ite_none_right_eq_some, Option.map_eq_some_iff] at h
    obtain ⟨-, system, -, rfl⟩ := h
    exact same rfl rfl
  | begin op =>
    simp only [act, Option.ite_none_right_eq_some, Option.some.injEq] at h
    obtain ⟨-, rfl⟩ := h
    exact same rfl rfl
  | resume => exact same rfl (taken_resume h)
  | take i =>
    simp only [act, Option.ite_none_right_eq_some, Option.some.injEq] at h
    obtain ⟨-, rfl⟩ := h
    rcases i with (_ | _ | _ | _ | _) | _ | _ <;> rfl
  | flush writable =>
    simp only [act, Option.ite_none_right_eq_some, Option.some.injEq] at h
    obtain ⟨-, rfl⟩ := h
    exact same rfl (taken_flush l writable)

theorem taken_run {acts : List Act} (h : l.run acts = some l') :
    l'.taken = l.taken ++ acts.filterMap Act.inbound? := by
  induction acts generalizing l with
  | nil => cases h; simp
  | cons x acts ih =>
    obtain ⟨m, hm, h⟩ := run_cons_iff.1 h
    rw [ih h, taken_act hm, List.append_assoc, List.filterMap_cons]
    cases x.inbound? <;> rfl

/-- Everything that is known of a session at any point of a run. -/
structure Sound (r : Relay) (l : Life) : Prop where
  hosted : Hosted r l
  placed : Placed l
  accounted : l.system.Accounted l.session.queue
  forwards : Forwards l
  channel : l.system.relay.forwarded = r.forwarded ++ forwardedIn l.system.history
  wrote : Wrote l
  ends : Ends l

theorem sound_step (s : Sound r l) (hs : Step l l') : Sound r l' where
  hosted := hosted_step s.hosted hs
  placed := placed_step s.hosted s.placed hs
  accounted := accounted_step s.hosted s.accounted hs
  forwards := forwards_step s.forwards hs
  channel := forwardedIn_step s.channel hs
  wrote := wrote_step s.wrote hs
  ends := ends_step s.ends hs

theorem placed_start (r : Relay) (id : ClientId) (queue : Nat) :
    Placed ⟨.start r [.connect id queue], { id, queue }, .connecting 0, [], []⟩ where
  alone i p hp _ := by
    obtain rfl : i = 0 := by
      have hi := (List.getElem?_eq_some_iff.1 hp).1
      simp only [System.start, List.map_cons, List.map_nil, List.length_singleton] at hi
      omega
    rfl
  connects task stage := by
    obtain rfl : 0 = task := Stage.connecting.inj stage
    exact ⟨.start (.connect id queue), rfl, .inl rfl⟩
  leaves task stage := by simp at stage
  returned stage := by simp at stage

/-- The one sender of a new queue is held by the task that connects its viewer. -/
theorem accounted_start {queue : Nat} (unheld : ∀ c ∈ r.registry.connections, c.queue ≠ queue)
    (one : r.senders queue = 1) : (System.start r [.connect id queue]).Accounted queue := by
  have hregistry : r.registry.holding queue = 0 :=
    List.countP_eq_zero.2 fun c hc => by simpa using unheld c hc
  change r.senders queue = r.registry.holding queue + _
  rw [hregistry, one]
  simp [System.start, Phase.holding]

/-- A session begins with an empty queue that nobody else knows. -/
theorem sound_start (fresh : ∀ c ∈ r.registry.connections,
    c.id ≠ id ∧ c.queue < r.queues.length) (h : start r id capacity = .ok l) :
    l.session = { id, queue := r.queues.length } ∧ l.taken = [] ∧ ∃ made : Relay,
      made.activity = r.activity ∧ made.forwarded = r.forwarded ∧ Sound made l := by
  unfold start at h
  cases ho : r.openQueue capacity with
  | error e => simp [ho] at h
  | ok opened =>
    obtain ⟨made, queue⟩ := opened
    obtain ⟨rfl, hmade⟩ := Relay.openQueue_eq_ok ho
    simp only [ho, Except.ok.injEq] at h
    subst h
    have hq : made.queues[r.queues.length]? = some { capacity } := by simp [hmade]
    have hregistry : made.registry = r.registry := by rw [hmade]
    refine ⟨rfl, rfl, made, by rw [hmade], by rw [hmade], ?_⟩
    have unused : made.accepted r.queues.length = [] := by
      simp [Relay.accepted, hq, Queue.accepted]
    have away : ∀ c ∈ made.registry.connections, c.id ≠ id ∧ c.queue ≠ r.queues.length :=
      fun c hc => ⟨(fresh c (hregistry ▸ hc)).1, (fresh c (hregistry ▸ hc)).2.ne⟩
    have sole := sole_cons away unused fun _ _ hm => absurd hm List.not_mem_nil
    exact
      { hosted := ⟨_, by simp [Operation.isPublic], sole, System.watched_start sole⟩
        placed := placed_start made id r.queues.length
        accounted := accounted_start (fun c hc => (away c hc).2) (by rw [Relay.senders, hq]; rfl)
        forwards :=
          { texts := rfl
            mine := by simp
            begun := by simp
            current := by simp
            numbered := by simp [System.start] }
        channel := (List.append_nil _).symm
        wrote := ⟨[], [], by simp [System.start, System.relay, Relay.received, hq], rfl, by simp,
          by simp⟩
        ends := ⟨by simp, by simp⟩ }

/-- What can be said of a session at any point, whatever has happened around it. -/
structure Faithful (r : Relay) (id : ClientId) (l : Life) : Prop where
  /-- All that was handed to the control channel is in the history. -/
  channel : l.system.relay.forwarded = r.forwarded ++ forwardedIn l.system.history
  /-- What the session handed on are the texts that it took, each once and in their order, but for
  one that is under way. -/
  texts : l.forwarded ++ l.pending = l.texts
  complete : (∀ task, l.stage ≠ .dispatching task) → l.forwarded = l.texts
  /-- Nothing is taken from the socket after it was closed, failed or ended. -/
  ends : (∀ i ∈ l.taken.dropLast, i.isLast = false) ∧
    ∀ i, l.taken.getLast? = some i → i.isLast = true → l.stage.isClosing = true
  /-- What was written are the events of the queue, from the first one on. -/
  written : ∃ events, l.session.written = events.map Event.json ∧
    events <+: l.system.relay.accepted l.session.queue
  /-- The first event is the greeting. -/
  greeted : l.system.relay.accepted l.session.queue = [] ∨ ∃ before after k,
    l.system.history = before ++ .registered id l.session.queue :: after ∧
    .registered id l.session.queue ∉ before ++ after ∧
    l.system.relay.accepted l.session.queue =
      .game (activityAfter r.activity before) :: ((valuesFor id after).take k).map .game
  /-- A session that has returned is not registered. -/
  absent : l.stage = .returned → l.system.relay.registry.find? id = none
  /-- Once the loop is left, the session returns, whatever the others do not do. -/
  returns : ∀ task, l.stage = .leaving task → ∃ n l',
    l.run (List.replicate n (.move (.task task)) ++ [.resume]) = some l' ∧ l'.stage = .returned
  /-- Once it is registered, the session is greeted and comes to its loop, or returns. -/
  connects : ∀ task p, l.stage = .connecting task → l.system.tasks[task]? = some p →
    ¬ p.toConnect id l.session.queue → ∃ n l',
      l.run (List.replicate n (.move (.task task)) ++ [.resume]) = some l' ∧
        (l'.stage = .listening ∨ l'.stage = .returned)
  /-- A session in its loop that is no longer registered, has written all its events and whose
  connection is dropped leaves its loop. -/
  removed : l.stage = .listening → l.system.relay.registry.find? id = none →
    l.system.relay.queued l.session.queue = [] →
    (∀ (i : Nat) c last failed e, l.system.tasks[i]? = some (.dropping (some c) last failed e) →
      c.queue ≠ l.session.queue) →
    ∀ writable, ∃ task, (l.flush writable).stage = .leaving task

theorem Sound.toFaithful {made : Relay} (activity : made.activity = r.activity)
    (forwarded : made.forwarded = r.forwarded) (s : Sound made l) : Faithful r l.session.id l where
  channel := forwarded ▸ s.channel
  texts := s.forwards.texts
  complete := s.forwards.complete
  ends := ⟨s.ends.before, s.ends.last⟩
  written := by
    obtain ⟨events, lost, hr, hw, -⟩ := s.wrote
    refine ⟨events, hw, lost ++ l.system.relay.queued l.session.queue, ?_⟩
    rw [Relay.accepted_eq, hr, List.append_assoc]
  greeted := by
    obtain ⟨ops, h⟩ := s.hosted
    exact activity ▸ h.accepted_cases
  absent := s.placed.returned
  returns _ stage := returns s.placed stage
  connects _ _ stage hp hc := connect_returns s.placed stage hp hc
  removed stage absent drained dropped writable :=
    flush_leaves s.hosted s.accounted (s.placed.settled fun task he => by simp [stage] at he)
      absent drained dropped writable

/-- Whatever comes from the socket, whatever the loop takes up first, wherever a write fails and
whatever the others do: a session hands on the texts that it takes, writes the events of its queue
from the greeting on, and is not registered when it returns. -/
theorem faithful {acts : List Act} (fresh : ∀ c ∈ r.registry.connections,
      c.id ≠ id ∧ c.queue < r.queues.length)
    (h : start r id capacity = .ok l) (hr : l.run acts = some l') :
    l'.taken = acts.filterMap Act.inbound? ∧ Faithful r id l' := by
  obtain ⟨hsession, htaken, made, activity, forwarded, hsound⟩ := sound_start fresh h
  have hsound' := run_invariant (fun _ _ hs s => sound_step s hs) hsound hr
  have hid : l'.session.id = l.session.id :=
    run_invariant (P := fun m => m.session.id = l.session.id)
      (fun _ _ hs hm => (names_step hs).1.trans hm) rfl hr
  have hname : l'.session.id = id := by rw [hid, hsession]
  refine ⟨by rw [taken_run hr, htaken, List.nil_append], ?_⟩
  exact hname ▸ hsound'.toFaithful activity forwarded

/-- A viewer that says something, does not read, and is dropped when another one's command comes. -/
def droppedActs : List Act :=
  [List.replicate 5 (.move (.task 0)), [.resume, .take (.message (.text "hi"))],
    List.replicate 2 (.move (.task 1)), [.resume, .begin (.dispatch ⟨2⟩ "aag n B")],
    List.replicate 8 (.move (.task 2)), [.flush true, .flush true],
    List.replicate 4 (.move (.task 3)), [.resume]].flatten

theorem faithful_of_dropped : ∃ l l', start (.fresh "A" []) ⟨1⟩ 1 = .ok l ∧
    l.run droppedActs = some l' ∧ l'.stage = .returned ∧ l'.forwarded = ["hi"] ∧
    l'.session.written = [(Event.game "A").json] ∧ Faithful (.fresh "A" []) ⟨1⟩ l' := by
  have hl : start (.fresh "A" []) ⟨1⟩ 1 = .ok
    ⟨.start { Relay.fresh "A" [] with queues := [{ capacity := 1 }] } [.connect ⟨1⟩ 0],
      { id := ⟨1⟩, queue := 0 }, .connecting 0, [], []⟩ := rfl
  have hv : (run ⟨.start { Relay.fresh "A" [] with queues := [{ capacity := 1 }] }
      [.connect ⟨1⟩ 0], { id := ⟨1⟩, queue := 0 }, .connecting 0, [], []⟩ droppedActs).map
      (fun l => (l.stage, l.forwarded, l.session.written)) =
      some (.returned, ["hi"], [(Event.game "A").json]) := by decide
  obtain ⟨l', hr, hv⟩ := Option.map_eq_some_iff.1 hv
  simp only [Prod.mk.injEq] at hv
  obtain ⟨hstage, hforwarded, hwritten⟩ := hv
  have fresh : ∀ c ∈ (Relay.fresh "A" []).registry.connections,
      c.id ≠ ⟨1⟩ ∧ c.queue < (Relay.fresh "A" []).queues.length :=
    fun c hc => absurd hc List.not_mem_nil
  exact ⟨_, l', hl, hr, hstage, hforwarded, hwritten, (faithful fresh hl hr).2⟩

end Life
end Viewer
end ActivityRelay
