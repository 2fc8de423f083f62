import ActivityRelay.Relay.Operations
import ActivityRelay.Viewer.Message

/-! A viewer's session: it takes up what arrives from the viewer and what is queued for it, in
whatever order these come, until either of the two ends. -/
namespace ActivityRelay.Viewer

/-- What the socket yields: a message, a fault, or its end. -/
inductive Inbound where
  | message (m : Message)
  | failed
  | ended
  deriving DecidableEq, Repr

/-- A session with the texts that it has written to its viewer. -/
structure Session where
  id : ClientId
  queue : Nat
  written : List String := []
  running : Bool := true
  deriving DecidableEq, Repr

namespace Session

/-- A session that is over leaves nothing in the registry, and nobody reads its queue. -/
def finish (r : Relay) (s : Session) : Relay × Session :=
  let r := (r.disconnect s.id).note (.viewerDisconnected s.id)
  (r.onQueue s.queue Queue.close, { s with running := false })

/-- Makes the queue of a new viewer and connects it. -/
def start (r : Relay) (id : ClientId) (capacity : Nat) :
    Except Queue.CapacityError (Relay × Session) :=
  match r.openQueue capacity with
  | .error e => .error e
  | .ok (r, queue) =>
    match r.connect id queue with
    | (r, .ok _) => .ok (r.note (.viewerConnected id), { id, queue })
    | (r, .error e) =>
      .ok ((r.note (.greetingFailed id e)).onQueue queue Queue.close,
        { id, queue, running := false })

/-- Takes up what the socket yields. -/
def receive (r : Relay) (s : Session) : Inbound → Relay × Session
  | .message (.text raw) => ((r.dispatch s.id raw).1, s)
  | .message .close | .failed | .ended => finish r s
  | .message _ => (r, s)

/-- Takes up the next queued event; `writable` says whether the socket still accepts it. -/
def flush (r : Relay) (s : Session) (writable : Bool) : Relay × Session :=
  match r.receive s.queue with
  | (r, .item event) =>
    let r := r.note (.eventSent event)
    if writable then (r, { s with written := s.written ++ [event.json] }) else finish r s
  | (r, .ended) => finish r s
  | (r, .empty) => (r, s)

/-- What the session takes up next. -/
inductive Turn where
  | inbound (i : Inbound)
  | event (writable : Bool)
  deriving DecidableEq, Repr

/-- A session that is over takes up nothing. -/
def turn (r : Relay) (s : Session) (t : Turn) : Relay × Session :=
  if s.running then
    match t with
    | .inbound i => receive r s i
    | .event writable => flush r s writable
  else (r, s)

end Session
end ActivityRelay.Viewer
