import ActivityRelay.Task

/-! Any number of tasks on one relay, with viewers that meanwhile take from their queues or close
them. A run is a list of moves; whatever order they come in is a run. -/
namespace ActivityRelay

/-- What a session or a reader of the activity starts; the others are parts of these. -/
def Operation.isPublic : Operation → Bool
  | .connect .. | .disconnect _ | .dispatch .. | .current | .status => true
  | _ => false

/-- What is remembered of a run: messages handed to the control channel, requests for the activity
lock, registrations, commits, and events taken from queues. -/
inductive Mark where
  | forwarded (task : Nat) (raw : String)
  | asked (task : Nat)
  | registered (id : ClientId) (queue : Nat)
  | committed (task : Nat) (origin : ClientId) (value : String)
  | received (queue : Nat) (event : Event)
  deriving DecidableEq, Repr

/-- What the next step of a task leaves to remember. -/
def Phase.marks (me : Nat) (s : Shared) : Phase → List Mark
  | .start (.dispatch _ raw) => [.forwarded me raw]
  | .asking (.change ..) => [.asked me]
  | .waiting (.connect id queue) =>
    if s.relay.registry.find? id = none then [.registered id queue] else []
  | .waiting (.change origin value) => [.committed me origin value]
  | _ => []

/-- Tasks, each with its place in the list as its number. -/
structure System where
  shared : Shared
  tasks : List Phase
  history : List Mark := []

/-- What can happen next: a task takes its next step, the registry comes to be gone through in
another order, or a viewer does something to its queue. -/
inductive Move where
  | task (i : Nat)
  | shuffle (order : List ClientId)
  | receive (queue : Nat)
  | shut (queue : Nat)
  | close (queue : Nat)
  deriving DecidableEq, Repr

namespace System

def start (relay : Relay) (ops : List Operation) : System :=
  { shared := { relay }, tasks := ops.map .start }

def relay (s : System) : Relay := s.shared.relay

/-- The line for the activity lock, its holder in front. -/
def line (s : System) : List Nat := s.shared.line

def setRelay (s : System) (relay : Relay) : System := { s with shared := { s.shared with relay } }

/-- Someone starts one more task. -/
def spawn (s : System) (op : Operation) : System := { s with tasks := s.tasks ++ [.start op] }

def note (s : System) (rec : Record) : System := s.setRelay (s.relay.note rec)

/-- A task takes its next step, if it has one. -/
def advance (s : System) (i : Nat) : Option System :=
  match s.tasks[i]? with
  | none => none
  | some p =>
    match p.step i s.shared with
    | none => none
    | some (shared, p') =>
      some { shared, tasks := s.tasks.set i p', history := s.history ++ p.marks i s.shared }

/-- A viewer takes the next event from a queue. -/
def receive (s : System) (queue : Nat) : System :=
  let (relay, taken) := s.relay.receive queue
  match taken with
  | .item event => { s.setRelay relay with history := s.history ++ [.received queue event] }
  | _ => s.setRelay relay

def move (s : System) : Move → Option System
  | .task i => s.advance i
  | .shuffle order => some (s.setRelay { s.relay with order })
  | .receive queue => some (s.receive queue)
  | .shut queue => some (s.setRelay (s.relay.onQueue queue Queue.shut))
  | .close queue => some (s.setRelay (s.relay.onQueue queue Queue.close))

/-- A run, if every move in it can be made. -/
def run (s : System) (moves : List Move) : Option System := moves.foldlM move s

theorem run_append (s : System) (xs ys : List Move) :
    s.run (xs ++ ys) = (s.run xs).bind (·.run ys) := by
  simp [run, bind]

theorem run_cons_iff {s t : System} {m : Move} {moves : List Move} :
    s.run (m :: moves) = some t ↔ ∃ u, s.move m = some u ∧ u.run moves = some t := by
  simp only [run, List.foldlM_cons, bind, Option.bind_eq_some_iff]

theorem run_concat_iff {s t : System} {m : Move} {moves : List Move} :
    s.run (moves ++ [m]) = some t ↔ ∃ u, s.run moves = some u ∧ u.move m = some t := by
  rw [run_append, Option.bind_eq_some_iff]
  simp [run]

/-- At the start, every task has its operation before it. -/
theorem task_start {relay : Relay} {ops : List Operation} {i : Nat} {p : Phase}
    (h : (start relay ops).tasks[i]? = some p) : ∃ op, ops[i]? = some op ∧ p = .start op := by
  simp only [start, List.getElem?_map, Option.map_eq_some_iff] at h
  obtain ⟨op, hop, rfl⟩ := h
  exact ⟨op, hop, rfl⟩

/-- What holds at the start and is kept by every move holds after every run. -/
theorem run_invariant {P : System → Prop} {s t : System} {moves : List Move}
    (keep : ∀ s m t, s.move m = some t → P s → P t) (hs : P s) (h : s.run moves = some t) :
    P t := by
  induction moves generalizing s with
  | nil => cases h; exact hs
  | cons m moves ih =>
    obtain ⟨u, hu, h⟩ := run_cons_iff.1 h
    exact ih (keep s m u hu hs) h

end System
end ActivityRelay
