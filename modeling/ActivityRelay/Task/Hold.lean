import ActivityRelay.Task

/-! Tasks started while someone else holds the activity lock: those that need it wait in line. -/
namespace ActivityRelay

/-- Lets each task run, in the order given, until it waits or is done. -/
def Phase.runAll (s : Shared) : List (Nat × Phase) → Shared × List (Nat × Phase)
  | [] => (s, [])
  | (me, p) :: tasks =>
    let (s, p) := p.run me s
    let (s, tasks) := runAll s tasks
    (s, (me, p) :: tasks)

/-- What was seen of tasks that were started under a held lock. -/
structure Held where
  /-- What a value committed by the holder replaced. -/
  previous : Option String
  activity : String
  /-- Which tasks were done before the lock was given back. -/
  done : List Bool
  sent : List String
  outcomes : List (Option Outcome)

namespace Relay

/-- Takes the lock, commits if asked to, starts the tasks, and then gives the lock back. -/
def hold (r : Relay) (value : Option String) (ops : List Operation) : Relay × Held :=
  let (r, previous) := match value with
    | none => (r, none)
    | some v => let (r, p) := r.commit v; (r, some p)
  let tasks := ops.mapIdx fun i op => (i + 1, Phase.start op)
  let (held, tasks) := Phase.runAll ⟨r, [0]⟩ tasks
  let (s, finished) := Phase.runAll { held with line := held.line.tail } tasks
  (s.relay,
    { previous
      activity := held.relay.activity
      done := tasks.map (·.2.outcome?.isSome)
      sent := held.relay.sent
      outcomes := finished.map (·.2.outcome?) })

end Relay
end ActivityRelay
