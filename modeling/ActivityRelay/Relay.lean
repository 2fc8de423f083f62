import ActivityRelay.Command
import ActivityRelay.Queue
import ActivityRelay.Record
import ActivityRelay.Registry

/-! The shared state of the relay, and what happens to it under one lock at a time. -/
namespace ActivityRelay

/-- Where forwarded messages go: to the log only, or to a channel that keeps them. -/
inductive ControlChannel where
  | logOnly
  | recorded
  deriving DecidableEq, Repr

/-- The current activity, the registered viewers, all queues ever made, and what left the relay. -/
structure Relay where
  activity : String
  channel : ControlChannel := .recorded
  registry : Registry := {}
  /-- Who is gone through first when all viewers are told something; the registry itself has no
  order that could be relied on. -/
  order : List ClientId := []
  queues : List (Queue Event) := []
  /-- Every message that was handed to the control channel. -/
  forwarded : List String := []
  log : List Record := []
  /-- The connections created so far. -/
  created : Nat := 0
  /-- The time in milliseconds. -/
  now : Nat := 0
  deriving DecidableEq, Repr

namespace Relay

def note (r : Relay) (rec : Record) : Relay := { r with log := r.log ++ [rec] }

/-- What the control channel can show of the forwarded messages. -/
def sent (r : Relay) : List String :=
  match r.channel with
  | .logOnly => []
  | .recorded => r.forwarded

def forward (r : Relay) (raw : String) : Relay :=
  let s := { r with forwarded := r.forwarded ++ [raw] }
  match r.channel with
  | .logOnly => s.note (.forwardLogged raw)
  | .recorded => s

/-- Replaces the activity and tells the one before. -/
def commit (r : Relay) (value : String) : Relay × String :=
  ({ r with activity := value }, r.activity)

/-- Makes a queue; its number and its one sender go to the caller. -/
def openQueue (r : Relay) (capacity : Nat) : Except Queue.CapacityError (Relay × Nat) :=
  match Queue.create capacity with
  | .ok q => .ok ({ r with queues := r.queues ++ [q] }, r.queues.length)
  | .error e => .error e

def onQueue (r : Relay) (q : Nat) (f : Queue Event → Queue Event) : Relay :=
  { r with queues := r.queues.modify q f }

def lend (r : Relay) (q : Nat) : Relay := r.onQueue q Queue.addSender

def release (r : Relay) (q : Nat) : Relay := r.onQueue q Queue.dropSender

/-- Takes the next event from a queue; one that was never made has ended. -/
def receive (r : Relay) (q : Nat) : Relay × Queue.Taken Event :=
  match r.queues[q]? with
  | none => (r, .ended)
  | some queue => ({ r with queues := r.queues.set q queue.take.2 }, queue.take.1)

/-- Makes a connection that owns one sender of the queue. -/
def newConnection (r : Relay) (id : ClientId) (queue : Nat) : Relay × Connection :=
  ({ r with created := r.created + 1 }, ⟨id, queue, r.created, r.now⟩)

/-- Puts an event into the queue of a connection, if the queue takes it. -/
def deliver (r : Relay) (c : Connection) (event : Event) : Relay × Option DeliveryError :=
  match r.queues[c.queue]? with
  | none => (r, some (.closed c.id))
  | some queue =>
    match queue.push event with
    | .ok queue' => ({ r with queues := r.queues.set c.queue queue' }, none)
    | .error .full => (r, some (.queueFull c.id))
    | .error .closed => (r, some (.closed c.id))

/-- Registers a connection; if its viewer has one already, the new one is dropped. -/
def register (r : Relay) (c : Connection) : Relay × Bool :=
  match r.registry.insert? c with
  | none => ((r.note (.duplicateIgnored c.id)).release c.queue, false)
  | some registry => ({ r with registry }.note (.registered c.id registry.size), true)

/-- Takes a viewer's connection out of the registry, still with its sender. -/
def remove (r : Relay) (id : ClientId) : Relay × Option Connection :=
  match r.registry.find? id with
  | none => (r, none)
  | some c =>
    let registry := r.registry.erase id
    ({ r with registry }.note (.unregistered id registry.size), some c)

/-- Drops a removed connection with its sender. -/
def drop (r : Relay) : Option Connection → Relay
  | none => r
  | some c => r.release c.queue

/-- Whether a viewer was registered, which it is no longer. -/
def unregister (r : Relay) (id : ClientId) : Relay × Bool :=
  let (r, c) := r.remove id
  (r.drop c, c.isSome)

/-- A failed delivery: which viewer, and why. -/
abbrev Failure := ClientId × DeliveryError

/-- Offers an event to each connection in turn; counts those that took it. -/
def deliverEach (r : Relay) (event : Event) :
    List Connection → Relay × Nat × List Failure
  | [] => (r, 0, [])
  | c :: cs =>
    let (r, failure) := r.deliver c event
    let (r, delivered, failed) := r.deliverEach event cs
    match failure with
    | none => (r, delivered + 1, failed)
    | some e => (r, delivered, (c.id, e) :: failed)

/-- The registered connections in the order in which they are gone through. -/
def walk (r : Relay) : List Connection := Registry.arrange r.order r.registry.connections

def addressees (r : Relay) (exclude : Option ClientId) : List Connection :=
  r.walk.filter fun c => exclude ≠ some c.id

/-- Offers an event to every connection but the excluded one. -/
def deliverAll (r : Relay) (event : Event) (exclude : Option ClientId) :
    Relay × Nat × List Failure :=
  r.deliverEach event (r.addressees exclude)

/-- Offers an event to the one connection of a viewer. -/
def deliverTo (r : Relay) (id : ClientId) (event : Event) : Relay × Option DeliveryError :=
  match r.registry.find? id with
  | none => (r, some (.notRegistered id))
  | some c => r.deliver c event

/-- Clears one failed delivery: the viewer is unregistered by its id. -/
def clear (r : Relay) (failure : Record) (id : ClientId) : Relay × Option Connection :=
  (r.note failure).remove id

end Relay
end ActivityRelay
