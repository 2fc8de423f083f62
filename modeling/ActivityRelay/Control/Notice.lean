import ActivityRelay.Control.Fault
import ActivityRelay.Network.Transport
import ActivityRelay.Queue
import ActivityRelay.Record

/-! What is logged of the queue to the controller and of the worker behind it. -/
namespace ActivityRelay.Control
open Network (Transport)

inductive Notice where
  | configured (transport : Transport) (addr : String) (capacity limitMs : Nat)
  /-- A connection was opened. -/
  | opened (transport : Transport) (addr : String)
  /-- A message was not taken by the queue. -/
  | dropped (addr : String) (why : Queue.Refusal)
  /-- A message was lost on its way. -/
  | forwardFailed (addr : String) (fault : Fault)
  | stopped (addr : String)
  deriving DecidableEq, Repr

namespace Notice
open Record (Value)

def level : Notice → Level
  | .dropped .. | .forwardFailed .. => .warn
  | .stopped _ => .debug
  | _ => .info

def message : Notice → String
  | .configured .. => "control: socket worker configured"
  | .opened .udp _ => "control: udp socket ready"
  | .opened .tcp _ => "control: tcp stream connected"
  | .dropped _ .full => "control: queue full; dropping message"
  | .dropped _ .closed => "control: worker stopped; dropping message"
  | .forwardFailed .. => "control: forward failed; message dropped"
  | .stopped _ => "control: worker stopped"

def fields : Notice → List (String × Value)
  | .configured transport addr capacity limitMs =>
    [("transport", .text transport.name), ("addr", .text addr), ("capacity", .count capacity),
      ("io_timeout", .text (String.ofList (span limitMs)))]
  | .forwardFailed addr fault => [("addr", .text addr), ("error", .text fault.message)]
  | .opened _ addr | .dropped addr _ | .stopped addr => [("addr", .text addr)]

end Notice
end ActivityRelay.Control
