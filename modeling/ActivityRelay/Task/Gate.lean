import ActivityRelay.Task.System

/-! The lock of the registry, which tasks ask for and give back as their phases say. It is given to
those who ask in the order in which they ask: to one who changes the registry, or to all who only
look into it and ask before the next one who changes it. -/
namespace ActivityRelay

/-- What the lock of the registry is asked for. -/
inductive Access where
  | read
  | write
  deriving DecidableEq, Repr

/-- What a task does on its way through a phase. -/
inductive Instr where
  /-- Asks for the registry, and waits until it is given. -/
  | lock (access : Access)
  /-- The step of the phase. -/
  | work
  /-- Gives the registry back. -/
  | unlock (access : Access)
  deriving DecidableEq, Repr

/-- How a phase is gone through: the guard of the registry is held from its lock to its unlock. -/
def Phase.script : Phase → List Instr
  -- who registers or unregisters keeps the guard to the end
  | .start (.disconnect _) | .start (.register _) | .start (.unregister _)
  | .waiting (.connect ..) | .clearing (_ :: _) _ => [.lock .write, .work, .unlock .write]
  -- who delivers drops the guard before clearing what failed, and a report looks only once
  | .start (.sendTo ..) | .start (.broadcast ..) | .greeting .. | .telling ..
  | .start .status => [.lock .read, .work, .unlock .read]
  | .done _ => []
  | _ => [.work]

/-- A place in the line for the registry. -/
structure Ticket where
  task : Nat
  access : Access
  deriving DecidableEq, Repr

/-- The places in a line that have the lock. -/
def admitted : List Ticket → List Ticket
  | [] => []
  | t :: ts =>
    match t.access with
    | .write => [t]
    | .read => t :: ts.takeWhile (·.access = .read)

/-- Tasks with the line for the registry. -/
structure Guarded where
  system : System
  gate : List Ticket := []
  /-- What each task has to do before its next phase. -/
  scripts : List (List Instr)

namespace Guarded

def start (relay : Relay) (ops : List Operation) : Guarded where
  system := .start relay ops
  scripts := ops.map fun op => (Phase.start op).script

/-- Whether a task stands in the line and has not got the lock. -/
def waits (g : Guarded) (i : Nat) : Bool :=
  (g.gate.drop (admitted g.gate).length).any (·.task = i)

/-- What a task does next, if anything. Who waits for the registry does nothing, and who waits for
the activity does not ask for the registry either. -/
def advance (g : Guarded) (i : Nat) : Option Guarded :=
  if g.waits i then none
  else
    match g.scripts[i]? with
    | some (.lock access :: rest) =>
      (g.system.advance i).map fun _ =>
        { g with gate := g.gate ++ [⟨i, access⟩], scripts := g.scripts.set i rest }
    | some (.work :: rest) =>
      (g.system.advance i).map fun system =>
        let next := (system.tasks[i]?).elim [] Phase.script
        { g with system, scripts := g.scripts.set i (rest ++ next) }
    | some (.unlock access :: rest) =>
      some { g with gate := g.gate.erase ⟨i, access⟩, scripts := g.scripts.set i rest }
    | _ => none

def move (g : Guarded) : Move → Option Guarded
  | .task i => g.advance i
  | m => (g.system.move m).map fun system => { g with system }

/-- A run, if every move in it can be made. -/
def run (g : Guarded) (moves : List Move) : Option Guarded := moves.foldlM move g

theorem run_cons_iff {g k : Guarded} {m : Move} {moves : List Move} :
    g.run (m :: moves) = some k ↔ ∃ u, g.move m = some u ∧ u.run moves = some k := by
  simp only [run, List.foldlM_cons, bind, Option.bind_eq_some_iff]

/-- What holds at the start and is kept by every move holds after every run. -/
theorem run_invariant {P : Guarded → Prop} {g k : Guarded} {moves : List Move}
    (keep : ∀ g m k, g.move m = some k → P g → P k) (hg : P g) (h : g.run moves = some k) :
    P k := by
  induction moves generalizing g with
  | nil => cases h; exact hg
  | cons m moves ih =>
    obtain ⟨u, hu, h⟩ := run_cons_iff.1 h
    exact ih (keep g m u hu hg) h

end Guarded
end ActivityRelay
