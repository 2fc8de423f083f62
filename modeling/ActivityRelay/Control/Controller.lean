import ActivityRelay.Control.Worker
import ActivityRelay.Network.Host
import ActivityRelay.Text.Lines

/-! The receiving end of control messages, and how it answers each delivery of the sink. -/
namespace ActivityRelay.Control
open Network

/-- What the other end made of a connection: it is there, went away, or said so. -/
inductive Line where
  | live
  | hungUp
  | broken
  deriving DecidableEq, Repr

/-- A controller on the relay's own host. -/
structure Controller where
  host : Host
  endpoint : Endpoint
  listening : Bool := true
  reading : Bool := true
  /-- The connection that the sink holds, or held last. -/
  line : Line := .live
  accepted : Nat := 0
  received : List (List UInt8) := []
  deriving DecidableEq, Repr

namespace Controller

def down (c : Controller) : Controller :=
  { c with listening := false, line := if c.line = .live then .hungUp else c.line }

def up (c : Controller) : Controller := { c with listening := true }

def system (e : SystemError) : Fault := .socket (.system e)

/-- Whether what is sent to an address finds the controller listening. -/
def isAt (c : Controller) (t : Transport) (addr : String) : Bool :=
  match c.host.connectText t addr with
  | .ok e => c.listening && e == c.endpoint
  | .error _ => false

/-- A stream needs a listener; a datagram socket opens wherever a way leads. -/
def accept (c : Controller) (s : Sink) : Controller × Option Fault :=
  match c.host.connectText s.transport s.addr, s.transport with
  | .error f, _ => (c, some (.socket f))
  | .ok _, .udp => ({ c with line := .live }, none)
  | .ok _, .tcp =>
    if c.isAt .tcp s.addr then
      ({ c with line := .live, accepted := c.accepted + 1 }, none)
    else (c, some (system .connectionRefused))

/-- The first write to an end that went away is lost unnoticed, the second fails. -/
def receiveLine (c : Controller) (limitMs : Nat) (message : List UInt8) :
    Controller × Option Fault :=
  match c.line with
  | .broken => (c, some (system .brokenPipe))
  | .hungUp => ({ c with line := .broken }, none)
  | .live =>
    if c.reading then ({ c with received := c.received ++ Text.lines 10 message }, none)
    else (c, some (.timedOut limitMs))

/-- The greatest count of bytes in a datagram. -/
def maxDatagram : Nat := 65507

/-- The first datagram that nobody listens for is lost, the next one on its socket fails. -/
def receiveDatagram (c : Controller) (addr : String) (message : List UInt8) :
    Controller × Option Fault :=
  if maxDatagram < message.length then (c, some (system .messageTooLong))
  else if c.line = .broken then (c, some (system .connectionRefused))
  else if c.isAt .udp addr then
    (if c.reading then { c with received := c.received ++ [message] } else c, none)
  else ({ c with line := .broken }, none)

def receive (c : Controller) (s : Sink) (message : List UInt8) : Controller × Option Fault :=
  match s.transport with
  | .udp => c.receiveDatagram s.addr message
  | .tcp => c.receiveLine s.limitMs message

/-- How the delivery of one message ends. -/
def answer (c : Controller) (s : Sink) (raw : String) : Controller × Reply :=
  let (c, refused) := if s.connection.isSome then (c, none) else c.accept s
  match refused with
  | some fault => (c, { refused := some fault })
  | none =>
    let (c, fault) := c.receive s (s.transport.encode raw)
    (c, { broken := fault.map fun f => (0, f) })

def settleWithin : Nat → Controller → Worker → Controller × Worker
  | 0, c, w => (c, w)
  | fuel + 1, c, w =>
    let w := w.take
    match w.phase with
    | .writing raw =>
      let (c, reply) := c.answer w.sink raw
      settleWithin fuel c (w.write reply)
    | _ => (c, w)

/-- Lets the worker empty its queue. -/
def settle (c : Controller) (w : Worker) : Controller × Worker :=
  c.settleWithin (w.queue.waiting.length + 1) w

end Controller
end ActivityRelay.Control
