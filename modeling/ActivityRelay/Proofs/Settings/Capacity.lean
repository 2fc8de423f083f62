import ActivityRelay.Control.Worker
import ActivityRelay.Proofs.Settings.RoundTrip
import ActivityRelay.Startup
import ActivityRelay.Viewer.Session

/-! Which capacities pass the reading of the settings, and which of these a queue can have. -/
namespace ActivityRelay

namespace Queue

theorem capacityError?_eq_some_iff {capacity : Nat} {e : CapacityError} (h : capacity ≠ 0) :
    capacityError? capacity = some e ↔ e = .tooLarge ∧ maxCapacity < capacity := by
  rw [capacityError?, if_neg h]
  split
  · next hlarge => simp [hlarge, eq_comm]
  · next hfits => simp [hfits]

theorem create_eq_error_iff {α : Type} {capacity : Nat} {e : CapacityError} :
    create (α := α) capacity = .error e ↔ capacityError? capacity = some e := by
  unfold create
  split
  · next h => simp [h]
  · next h => simp [h]

end Queue

theorem Control.Worker.create_eq_error_iff {sink : Sink} {capacity : Nat}
    {e : Queue.CapacityError} :
    create sink capacity = .error e ↔ Queue.capacityError? capacity = some e := by
  rw [← Queue.create_eq_error_iff (α := String), create]
  split
  · next h => simp [h]
  · next h => simp [h]

theorem Viewer.Session.start_eq_error_iff {r : Relay} {id : ClientId} {capacity : Nat}
    {e : Queue.CapacityError} :
    start r id capacity = .error e ↔ Queue.capacityError? capacity = some e := by
  rw [← Queue.create_eq_error_iff (α := Event), start, Relay.openQueue]
  cases hc : Queue.create (α := Event) capacity with
  | error e' => simp
  | ok q =>
    dsimp only
    split <;> simp

namespace Settings

theorem queueError?_eq_some_iff {s : Settings} {e : Queue.CapacityError} :
    s.queueError? = some e ↔
      s.control ≠ .log ∧ Queue.capacityError? s.controlQueueCapacity = some e := by
  unfold queueError?
  split
  · next hlog => simp [hlog]
  · next hudp => simp [hudp]
  · next htcp => simp [htcp]

/-- The capacities that were read are not zero, whatever else they are. -/
theorem capacities_of_read {env : Environment} {s : Settings} (h : read env = .ok s) :
    s.controlQueueCapacity ≠ 0 ∧ s.clientQueueCapacity ≠ 0 := by
  have reads := read_eq_ok_iff.1 h
  exact ⟨(readPositive_eq_ok_iff.1 reads.controlQueueCapacity).2,
    (readPositive_eq_ok_iff.1 reads.clientQueueCapacity).2⟩

end Settings

/-- The relay does not start for its queue exactly if its settings are read and ask for it. -/
theorem start_eq_queue_iff {host : Network.Host} {b b' : Bindings} {file : Option String}
    {e : Queue.CapacityError} (hfile : file.elim (.ok b) (EnvFile.apply b) = .ok b') :
    start host b file = .error (.queue e) ↔
      ∃ s, Settings.read b'.environment = .ok s ∧ s.queueError? = some e := by
  simp only [start, hfile]
  cases hread : Settings.read b'.environment with
  | error rejected => simp
  | ok s =>
    cases hqueue : s.queueError? with
    | some e' => simp [hqueue]
    | none => cases hlisten : host.bindText? s.listenAddr <;> simp [hqueue, hlisten]

namespace Settings

/-- An environment in which both capacities are set anew. -/
def withCapacities (env : Environment) (m n : Nat) : Environment
  | .controlQueueCapacity => some (.text (numeral .plain m))
  | .clientQueueCapacity => some (.text (numeral .plain n))
  | v => env v

/-- The readers of all other variables find what they found before. -/
theorem reads_withCapacities {env : Environment} {s : Settings} {m n : Nat} (h : Reads env s)
    (hm : 0 < m ∧ m < UInt64.size) (hn : 0 < n ∧ n < UInt64.size) :
    Reads (withCapacities env m n)
      { s with controlQueueCapacity := m, clientQueueCapacity := n } :=
  { h with
    controlQueueCapacity := readPositive_numeral rfl hm
    clientQueueCapacity := readPositive_numeral rfl hn }

/-- Which queues of a relay cannot be made with the capacities that were read: those that are too
large. Reading stops no capacity of 64 bits but zero, whatever else is set. -/
theorem queue_capacities {env : Environment} {s : Settings} (accepted : read env = .ok s) :
    (∀ host b file b', file.elim (.ok b) (EnvFile.apply b) = .ok b' → b'.environment = env →
      ∀ e, start host b file = .error (.queue e) ↔
        e = .tooLarge ∧ s.control ≠ .log ∧ Queue.maxCapacity < s.controlQueueCapacity) ∧
    (∀ sink e, Control.Worker.create sink s.controlQueueCapacity = .error e ↔
      e = .tooLarge ∧ Queue.maxCapacity < s.controlQueueCapacity) ∧
    (∀ r id e, Viewer.Session.start r id s.clientQueueCapacity = .error e ↔
      e = .tooLarge ∧ Queue.maxCapacity < s.clientQueueCapacity) ∧
    ∀ m n, 0 < m ∧ m < UInt64.size → 0 < n ∧ n < UInt64.size →
      read (withCapacities env m n) =
        .ok { s with controlQueueCapacity := m, clientQueueCapacity := n } := by
  obtain ⟨hcontrol, hclient⟩ := capacities_of_read accepted
  refine ⟨?_, fun sink e => ?_, fun r id e => ?_, fun m n hm hn => ?_⟩
  · rintro host b file b' hfile rfl e
    rw [start_eq_queue_iff hfile]
    constructor
    · rintro ⟨s', hread, hqueue⟩
      cases accepted.symm.trans hread
      obtain ⟨hsocket, hcapacity⟩ := queueError?_eq_some_iff.1 hqueue
      obtain ⟨rfl, hlarge⟩ := (Queue.capacityError?_eq_some_iff hcontrol).1 hcapacity
      exact ⟨rfl, hsocket, hlarge⟩
    · rintro ⟨rfl, hsocket, hlarge⟩
      refine ⟨s, accepted, queueError?_eq_some_iff.2 ⟨hsocket, ?_⟩⟩
      exact (Queue.capacityError?_eq_some_iff hcontrol).2 ⟨rfl, hlarge⟩
  · rw [Control.Worker.create_eq_error_iff, Queue.capacityError?_eq_some_iff hcontrol]
  · rw [Viewer.Session.start_eq_error_iff, Queue.capacityError?_eq_some_iff hclient]
  · exact read_eq_ok_iff.2 (reads_withCapacities (read_eq_ok_iff.1 accepted) hm hn)

/-- An environment that asks for one more than the greatest capacity, for each viewer. -/
def oversized : Environment
  | .clientQueueCapacity => some (.text "2305843009213693952")
  | _ => none

theorem read_oversized : read oversized = .ok { clientQueueCapacity := 2305843009213693952 } := by
  decide

/-- No viewer of such a relay gets a session, while its messages would find their queue. -/
theorem queue_capacities_oversized :
    read oversized = .ok { clientQueueCapacity := 2305843009213693952 } ∧
    (∀ sink e, Control.Worker.create sink 1024 ≠ .error e) ∧
    ∀ r id, Viewer.Session.start r id 2305843009213693952 = .error .tooLarge := by
  obtain ⟨-, worker, viewer, -⟩ := queue_capacities read_oversized
  refine ⟨read_oversized, fun sink e h => ?_, fun r id => (viewer r id _).2 ⟨rfl, by decide⟩⟩
  exact absurd ((worker sink e).1 h).2 (by decide)

/-- A capacity that no queue can have is accepted, and no session can start with it. -/
theorem unusable_capacity_accepted : ¬ ∀ (env : Environment) (s : Settings), read env = .ok s →
    s.queueError? = none ∧ ∀ (r : Relay) (id : ClientId),
      ∃ r' session, Viewer.Session.start r id s.clientQueueCapacity = .ok (r', session) := by
  intro claim
  let r : Relay := ({} : Settings).relay [] 0
  have hfails : Viewer.Session.start r ⟨1⟩ 2305843009213693952 = .error .tooLarge :=
    Viewer.Session.start_eq_error_iff.2 (by decide)
  obtain ⟨r', session, hstart⟩ := (claim oversized _ read_oversized).2 r ⟨1⟩
  rw [hfails] at hstart
  cases hstart

end Settings
end ActivityRelay
