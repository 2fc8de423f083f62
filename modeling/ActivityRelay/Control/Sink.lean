import ActivityRelay.Control.Notice

/-! The way to the controller: a connection, opened when it is needed and given up on failure. -/
namespace ActivityRelay.Control
open Network (Transport)

/-- How the network answers one delivery. -/
structure Reply where
  /-- What keeps a connection from being opened, where one has to be. -/
  refused : Option Fault := none
  /-- After how many bytes the write breaks off, and why. -/
  broken : Option (Nat × Fault) := none
  deriving DecidableEq, Repr

/-- The sending side of one target, with the bytes written on each of its connections. -/
structure Sink where
  transport : Transport
  addr : String
  limitMs : Nat
  /-- The connection that is open. -/
  connection : Option (List UInt8) := none
  /-- The connections that were given up, oldest first. -/
  former : List (List UInt8) := []
  deriving DecidableEq, Repr

namespace Sink

/-- Gives up the connection that is open. -/
def reset (s : Sink) : Sink :=
  { s with connection := none, former := s.former ++ s.connection.toList }

/-- What is logged before bytes are sent: that a connection was opened for them, if none was. -/
def opening (s : Sink) : List Notice :=
  if s.connection.isSome then [] else [.opened s.transport s.addr]

/-- Sends bytes on the connection that is open, or on a new one. -/
def put (s : Sink) (bytes : List UInt8) : Sink :=
  { s with connection := some (s.connection.getD [] ++ bytes) }

/-- A write that breaks off; the connection is still there with what went of the message. -/
def putPart (s : Sink) (raw : String) (count : Nat) : Sink :=
  s.put (s.transport.fragment (s.transport.encode raw) count)

/-- Opens a connection if none is open, and writes one message on it. -/
def deliver (s : Sink) (raw : String) (reply : Reply) : Sink × List Notice × Option Fault :=
  match s.connection, reply.refused with
  | none, some fault => (s, [], some fault)
  | _, _ =>
    match reply.broken with
    | none => (s.put (s.transport.encode raw), s.opening, none)
    | some (count, fault) => (s.putPart raw count, s.opening, some fault)

variable (s : Sink)

@[simp] theorem transport_put (bytes : List UInt8) : (s.put bytes).transport = s.transport := rfl

@[simp] theorem former_put (bytes : List UInt8) : (s.put bytes).former = s.former := rfl

@[simp] theorem connection_put (bytes : List UInt8) :
    (s.put bytes).connection = some (s.connection.getD [] ++ bytes) := rfl

@[simp] theorem transport_reset : s.reset.transport = s.transport := rfl

@[simp] theorem connection_reset : s.reset.connection = none := rfl

@[simp] theorem former_reset : s.reset.former = s.former ++ s.connection.toList := rfl

theorem reset_of_closed {s : Sink} (closed : s.connection = none) : s.reset = s := by
  cases s
  simp_all [reset]

/-- A delivery finds no way to open a connection, or it goes well, or it breaks off. -/
theorem deliver_cases (raw : String) (reply : Reply) :
    (∃ fault, s.connection = none ∧ s.deliver raw reply = (s, [], some fault)) ∨
    s.deliver raw reply = (s.put (s.transport.encode raw), s.opening, none) ∨
    ∃ count fault, s.deliver raw reply = (s.putPart raw count, s.opening, some fault) := by
  unfold deliver
  split
  · next fault h _ => exact .inl ⟨fault, h, rfl⟩
  · split
    · exact .inr (.inl rfl)
    · next count fault _ => exact .inr (.inr ⟨count, fault, rfl⟩)

end Sink
end ActivityRelay.Control
