import ActivityRelay.Task.System
import ActivityRelay.Viewer.Session

/-! A session among others. What it asks of the relay are tasks, and between any two steps of these
everybody else may go on; the session itself waits for one task before it begins with the next. -/
namespace ActivityRelay

/-- Whether others than the session with an id and a queue may ask for this. -/
def Operation.isForeign (id : ClientId) (queue : Nat) : Operation → Bool
  | .connect other q => other ≠ id ∧ q ≠ queue
  | .dispatch origin _ => origin ≠ id
  | .disconnect _ | .current | .status => true
  | _ => false

/-- Whether a move leaves a queue to its owner. -/
def Move.leaves (queue : Nat) : Move → Bool
  | .task _ | .shuffle _ => true
  | .receive q | .shut q | .close q => q ≠ queue

/-- What a task answered, if it is done. -/
def System.outcome? (s : System) (task : Nat) : Option Outcome :=
  (s.tasks[task]?).bind Phase.outcome?

namespace Viewer

namespace Inbound

def text? : Inbound → Option String
  | .message (.text raw) => some raw
  | _ => none

/-- Whether nothing is taken from the socket after this. -/
def isLast : Inbound → Bool
  | .message .close | .failed | .ended => true
  | .message _ => false

end Inbound

/-- What a session is about, with the number of the task that it waits for. -/
inductive Stage where
  | connecting (task : Nat)
  | listening
  | dispatching (task : Nat)
  | leaving (task : Nat)
  | returned
  deriving DecidableEq, Repr

/-- What can happen next, to the session or around it. -/
inductive Act where
  /-- A task takes a step, the registry is shuffled, or another viewer does something to its
  queue. -/
  | move (m : Move)
  /-- Someone else asks for something. -/
  | begin (op : Operation)
  /-- The task that the session waits for is done, and the session goes on. -/
  | resume
  | take (i : Inbound)
  /-- The next queued event is written, if the socket still accepts it. -/
  | flush (writable : Bool)
  deriving DecidableEq, Repr

/-- A session and all that goes on around it. -/
structure Life where
  system : System
  session : Session
  stage : Stage
  /-- What was taken from the socket. -/
  taken : List Inbound := []
  /-- The tasks that were begun for messages. -/
  dispatches : List Nat := []

namespace Life

/-- A session that has its queue and is about to connect. -/
def start (r : Relay) (id : ClientId) (capacity : Nat) : Except Queue.CapacityError Life :=
  match r.openQueue capacity with
  | .error e => .error e
  | .ok (r, queue) =>
    .ok { system := .start r [.connect id queue], session := { id, queue }, stage := .connecting 0 }

/-- Begins a task and waits for it. -/
def ask (l : Life) (op : Operation) (stage : Nat → Stage) : Life :=
  { l with system := l.system.spawn op, stage := stage l.system.tasks.length }

/-- Leaves the loop: whatever the reason, the viewer is to be unregistered. -/
def leave (l : Life) : Life := l.ask (.disconnect l.session.id) .leaving

/-- Returns; nobody reads the queue any more. -/
def finish (l : Life) (rec : Record) : Life :=
  let relay := (l.system.relay.note rec).onQueue l.session.queue Queue.close
  { l with
    system := l.system.setRelay relay
    session := { l.session with running := false }
    stage := .returned }

/-- Goes on when the task is done that the session waits for. -/
def resume (l : Life) : Option Life :=
  match l.stage with
  | .connecting task =>
    match l.system.outcome? task with
    | some (.connected (.ok _)) =>
      some { l with
        system := l.system.note (.viewerConnected l.session.id)
        stage := .listening }
    | some (.connected (.error e)) => some (l.finish (.greetingFailed l.session.id e))
    | _ => none
  | .dispatching task => (l.system.outcome? task).map fun _ => { l with stage := .listening }
  | .leaving task =>
    (l.system.outcome? task).map fun _ => l.finish (.viewerDisconnected l.session.id)
  | .listening | .returned => none

/-- Takes up what the socket yields. -/
def take (l : Life) (i : Inbound) : Life :=
  let l := { l with taken := l.taken ++ [i] }
  match i with
  | .message (.text raw) =>
    { l.ask (.dispatch l.session.id raw) .dispatching with
      dispatches := l.dispatches ++ [l.system.tasks.length] }
  | .message .close | .failed | .ended => l.leave
  | .message _ => l

/-- Takes up the next queued event. -/
def flush (l : Life) (writable : Bool) : Life :=
  let queue := l.session.queue
  match (l.system.relay.receive queue).2 with
  | .item event =>
    let l := { l with system := (l.system.receive queue).note (.eventSent event) }
    if writable then
      { l with session := { l.session with written := l.session.written ++ [event.json] } }
    else l.leave
  | .ended => leave { l with system := l.system.receive queue }
  | .empty => { l with system := l.system.receive queue }

/-- Only a session that listens takes something up, and only the session touches its queue. -/
def act (l : Life) : Act → Option Life
  | .move m =>
    if m.leaves l.session.queue then (l.system.move m).map fun system => { l with system }
    else none
  | .begin op =>
    if op.isForeign l.session.id l.session.queue then
      some { l with system := l.system.spawn op }
    else none
  | .resume => l.resume
  | .take i => if l.stage = .listening then some (l.take i) else none
  | .flush writable => if l.stage = .listening then some (l.flush writable) else none

/-- A run, if everything in it can happen. -/
def run (l : Life) (acts : List Act) : Option Life := acts.foldlM act l

end Life
end Viewer
end ActivityRelay
