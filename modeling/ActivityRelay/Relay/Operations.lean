import ActivityRelay.Relay

/-! What the relay does for viewers, one operation after another. -/
namespace ActivityRelay

/-- What a viewer's message led to. -/
inductive Dispatched where
  | plain
  | changed (value : String) (delivered : Nat)
  deriving DecidableEq, Repr

namespace Relay

/-- Sends an event to one viewer, who is unregistered if it does not take the event. -/
def sendTo (r : Relay) (id : ClientId) (event : Event) : Relay × Option DeliveryError :=
  match r.registry.find? id with
  | none => (r, some (.notRegistered id))
  | some _ =>
    match r.deliverTo id event with
    | (r, none) => (r, none)
    | (r, some e) =>
      let (r, c) := r.clear (.deliveryFailed id e) id
      (r.drop c, some e)

/-- Unregisters each viewer whose delivery failed. -/
def clearAll (r : Relay) : List Failure → Relay
  | [] => r
  | (id, e) :: failed =>
    let (r, c) := r.clear (.broadcastFailed id e) id
    (r.drop c).clearAll failed

/-- Sends an event to all viewers but one, and counts the deliveries. -/
def broadcast (r : Relay) (event : Event) (exclude : Option ClientId) : Relay × Nat :=
  let (r, delivered, failed) := r.deliverAll event exclude
  (r.clearAll failed, delivered)

/-- Registers a viewer and greets it with the current activity. -/
def connect (r : Relay) (id : ClientId) (queue : Nat) : Relay × Except DeliveryError String :=
  let activity := r.activity
  let (r, c) := r.newConnection id queue
  match r.register c with
  | (r, false) => (r, .error (.duplicate id))
  | (r, true) =>
    match r.sendTo id (.game activity) with
    | (r, some e) => (r, .error e)
    | (r, none) => (r.note (.greeted id activity), .ok activity)

/-- Ends a viewer's session if the viewer is still registered. -/
def disconnect (r : Relay) (id : ClientId) : Relay :=
  match r.remove id with
  | (r, none) => r
  | (r, some c) => (r.note (.sessionEnded id)).drop c

/-- A message is logged and forwarded before anything else happens to it. -/
def hear (r : Relay) (origin : ClientId) (raw : String) : Relay :=
  (r.note (.received origin raw)).forward raw

/-- Forwards a message; if it names an activity, commits it and tells all other viewers. -/
def dispatch (r : Relay) (origin : ClientId) (raw : String) : Relay × Dispatched :=
  let r := r.hear origin raw
  match Command.classify raw with
  | .plain _ => (r, .plain)
  | .setActivity value =>
    let (r, previous) := r.commit value
    let (r, delivered) := r.broadcast (.game value) (some origin)
    (r.note (.activityChanged origin previous value delivered), .changed value delivered)

/-- The registered viewers, the first connected first. -/
def viewers (r : Relay) : List ClientId := r.registry.byAge.map (·.id)

end Relay
end ActivityRelay
