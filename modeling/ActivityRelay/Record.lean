import ActivityRelay.DeliveryError
import ActivityRelay.Event

/-! The relay's own log: each record with its level, its message and its fields. -/
namespace ActivityRelay

inductive Level where
  | debug
  | info
  | warn
  deriving DecidableEq, Repr

def Level.name : Level → String
  | .debug => "DEBUG"
  | .info => "INFO"
  | .warn => "WARN"

/-- One thing that was logged. -/
inductive Record where
  | duplicateIgnored (id : ClientId)
  | registered (id : ClientId) (clients : Nat)
  | unregistered (id : ClientId) (clients : Nat)
  | deliveryFailed (id : ClientId) (error : DeliveryError)
  | broadcastFailed (id : ClientId) (error : DeliveryError)
  | received (id : ClientId) (text : String)
  | activityChanged (id : ClientId) (previous activity : String) (delivered : Nat)
  | greeted (id : ClientId) (activity : String)
  | sessionEnded (id : ClientId)
  | forwardLogged (text : String)
  | logOnly
  | greetingFailed (id : ClientId) (error : DeliveryError)
  | viewerConnected (id : ClientId)
  | viewerDisconnected (id : ClientId)
  | eventSent (event : Event)
  deriving DecidableEq, Repr

namespace Record

/-- The value of a field; a time span is left open. -/
inductive Value where
  | text (s : String)
  | id (id : ClientId)
  | count (n : Nat)
  | span
  deriving DecidableEq, Repr

def level : Record → Level
  | .duplicateIgnored _ | .deliveryFailed .. | .broadcastFailed .. | .logOnly
  | .greetingFailed .. => .warn
  | .eventSent _ => .debug
  | _ => .info

def message : Record → String
  | .duplicateIgnored _ => "registry: duplicate register ignored"
  | .registered .. => "registry: client registered"
  | .unregistered .. => "registry: client unregistered"
  | .deliveryFailed .. => "registry: delivery failed; dropping client"
  | .broadcastFailed .. => "registry: broadcast delivery failed; dropping client"
  | .received .. => "relay: recv message"
  | .activityChanged .. => "relay: activity changed"
  | .greeted .. => "relay: client greeted"
  | .sessionEnded _ => "relay: client session ended"
  | .forwardLogged _ => "control: forward (log only)"
  | .logOnly => "CONTROL_ADDR not set — inbound messages will only be logged"
  | .greetingFailed .. => "ws: greeting failed"
  | .viewerConnected _ => "ws: client connected"
  | .viewerDisconnected _ => "ws: client disconnected"
  | .eventSent _ => "ws: send event"

def fields : Record → List (String × Value)
  | .duplicateIgnored id => [("client_id", .id id)]
  | .registered id clients => [("client_id", .id id), ("clients", .count clients)]
  | .unregistered id clients => [("client_id", .id id), ("clients", .count clients)]
  | .deliveryFailed id error => [("client_id", .id id), ("error", .text error.message)]
  | .broadcastFailed id error => [("client_id", .id id), ("error", .text error.message)]
  | .received id text => [("client_id", .id id), ("text", .text text)]
  | .activityChanged id previous activity delivered =>
    [("client_id", .id id), ("previous", .text previous), ("activity", .text activity),
      ("delivered", .count delivered)]
  | .greeted id activity => [("client_id", .id id), ("activity", .text activity)]
  | .sessionEnded id => [("client_id", .id id), ("connected_ms", .span)]
  | .forwardLogged text => [("text", .text text)]
  | .logOnly => []
  | .greetingFailed id error => [("client_id", .id id), ("error", .text error.message)]
  | .viewerConnected id => [("client_id", .id id)]
  | .viewerDisconnected id => [("client_id", .id id)]
  | .eventSent event => [("event", .text event.name), ("value", .text event.value)]

end Record
end ActivityRelay
