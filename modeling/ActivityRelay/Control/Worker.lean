import ActivityRelay.Control.Sink
import ActivityRelay.Queue

/-! Messages on their way to the controller: a bounded queue, and one worker that empties it. -/
namespace ActivityRelay.Control

/-- What the worker is at. -/
inductive Phase where
  | waiting
  | writing (raw : String)
  | stopped
  | killed
  deriving DecidableEq, Repr

/-- The queue, the worker, what became of every message that was sent, and what was logged. -/
structure Worker where
  sink : Sink
  queue : Queue String
  phase : Phase := .waiting
  written : List String := []
  failed : List (String × Fault) := []
  refused : List (String × Queue.Refusal) := []
  log : List Notice := []
  deriving DecidableEq, Repr

namespace Worker

def create (sink : Sink) (capacity : Nat) : Except Queue.CapacityError Worker :=
  match Queue.create capacity with
  | .ok queue =>
    .ok { sink, queue, log := [.configured sink.transport sink.addr capacity sink.limitMs] }
  | .error e => .error e

/-- Hands over a message without waiting, if there is a handle left to do it with: one that the
queue does not take is lost, with a warning. -/
def send (w : Worker) (raw : String) : Worker :=
  if w.queue.senders = 0 then w
  else match w.queue.push raw with
  | .ok queue => { w with queue }
  | .error why =>
    { w with refused := w.refused ++ [(raw, why)], log := w.log ++ [.dropped w.sink.addr why] }

/-- Drops one handle; behind the last one the worker only empties the queue. -/
def release (w : Worker) : Worker := { w with queue := w.queue.dropSender }

/-- The next message, or the end, with which the connection is closed. -/
def take (w : Worker) : Worker :=
  match w.phase with
  | .waiting =>
    match w.queue.take with
    | (.item raw, queue) => { w with queue, phase := .writing raw }
    | (.ended, _) =>
      { w with sink := w.sink.reset, phase := .stopped, log := w.log ++ [.stopped w.sink.addr] }
    | (.empty, _) => w
  | _ => w

/-- Delivers the message that was taken. One that fails is lost, with a warning, and the connection
that it failed on is given up. -/
def write (w : Worker) (reply : Reply) : Worker :=
  match w.phase with
  | .writing raw =>
    match w.sink.deliver raw reply with
    | (sink, news, none) =>
      { w with
        sink
        phase := .waiting
        written := w.written ++ [raw]
        log := w.log ++ news }
    | (sink, news, some fault) =>
      { w with
        sink := sink.reset
        phase := .waiting
        failed := w.failed ++ [(raw, fault)]
        log := w.log ++ news ++ [.forwardFailed w.sink.addr fault] }
  | _ => w

/-- Ends the worker where it stands; its queue and its connection are lost with it. Of a message
that it had begun to write, some bytes were sent. -/
def kill (w : Worker) (sent : Option Nat := none) : Worker :=
  match w.phase, sent with
  | .stopped, _ | .killed, _ => w
  | .writing raw, some count =>
    { w with
      sink := (w.sink.putPart raw count).reset
      queue := w.queue.close
      phase := .killed
      log := w.log ++ w.sink.opening }
  | _, _ => { w with sink := w.sink.reset, queue := w.queue.close, phase := .killed }

/-- Whether the worker came to its own end. -/
def stopped (w : Worker) : Bool := w.phase == .stopped

/-- Whether the worker is still there for the messages in its queue. -/
def isGoing (w : Worker) : Bool :=
  match w.phase with
  | .waiting | .writing _ => true
  | .stopped | .killed => false

/-- What can happen around the queue, in any order. -/
inductive Step where
  | send (raw : String)
  | release
  | take
  | write (reply : Reply)
  | kill (sent : Option Nat)
  deriving DecidableEq, Repr

def step (w : Worker) : Step → Worker
  | .send raw => w.send raw
  | .release => w.release
  | .take => w.take
  | .write reply => w.write reply
  | .kill sent => w.kill sent

def run (w : Worker) (steps : List Step) : Worker := steps.foldl step w

end Worker
end ActivityRelay.Control
