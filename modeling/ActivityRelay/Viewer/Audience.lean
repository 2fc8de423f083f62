import ActivityRelay.Viewer.Life

/-! All sessions on one relay. Each has an id that no other has and a queue that was made for it,
and between any two steps of one the others may take theirs. -/
namespace ActivityRelay.Viewer

/-- What a session does by itself. -/
inductive Deed where
  | resume
  | take (i : Inbound)
  | flush (writable : Bool)
  deriving DecidableEq, Repr

def Deed.toAct : Deed → Act
  | .resume => .resume
  | .take i => .take i
  | .flush writable => .flush writable

/-- A session apart from the system that it shares with the others. -/
structure Member where
  session : Session
  stage : Stage
  taken : List Inbound := []
  dispatches : List Nat := []
  deriving DecidableEq, Repr

/-- The sessions that ever began, each with its place in the list as its number. -/
structure Audience where
  system : System
  members : List Member := []

namespace Audience

/-- A relay before its first session. -/
def start (r : Relay) : Audience := { system := .start r [] }

/-- A session as it is by itself, the others being what goes on around it. -/
def life (a : Audience) (m : Member) : Life where
  system := a.system
  session := m.session
  stage := m.stage
  taken := m.taken
  dispatches := m.dispatches

def put (a : Audience) (k : Nat) (l : Life) : Audience where
  system := l.system
  members := a.members.set k ⟨l.session, l.stage, l.taken, l.dispatches⟩

/-- What can happen next. -/
inductive Act where
  /-- A viewer comes under a new id, and its session makes a queue and begins to connect. -/
  | enter (id : ClientId) (capacity : Nat)
  /-- Someone asks for the activity or for the status. -/
  | request (op : Operation)
  | task (i : Nat)
  | shuffle (order : List ClientId)
  | session (k : Nat) (deed : Deed)
  deriving DecidableEq, Repr

def enter (a : Audience) (id : ClientId) (capacity : Nat) : Option Audience :=
  if a.members.all (·.session.id ≠ id) then
    match a.system.relay.openQueue capacity with
    | .error _ => none
    | .ok (relay, queue) =>
      some
        { system := (a.system.setRelay relay).spawn (.connect id queue)
          members := a.members ++
            [{ session := { id, queue }, stage := .connecting a.system.tasks.length }] }
  else none

def act (a : Audience) : Act → Option Audience
  | .enter id capacity => a.enter id capacity
  | .request op =>
    if op = .current ∨ op = .status then some { a with system := a.system.spawn op } else none
  | .task i => (a.system.advance i).map fun system => { a with system }
  | .shuffle order =>
    some { a with system := a.system.setRelay { a.system.relay with order } }
  | .session k deed =>
    match a.members[k]? with
    | none => none
    | some m => ((a.life m).act deed.toAct).map (a.put k)

/-- A run, if everything in it can happen. -/
def run (a : Audience) (acts : List Act) : Option Audience := acts.foldlM act a

end Audience
end ActivityRelay.Viewer
