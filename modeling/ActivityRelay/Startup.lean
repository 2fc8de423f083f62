import ActivityRelay.EnvFile
import ActivityRelay.Network.Host
import ActivityRelay.Queue
import ActivityRelay.Relay
import ActivityRelay.Settings

/-! Starting the relay: variables, settings, its first state, the queue to the controller, and the
listener. -/
namespace ActivityRelay

/-- Why the relay does not start. -/
inductive StartError where
  | unset (e : EnvFile.UnsetError)
  | settings (e : SettingsError)
  | queue (e : Queue.CapacityError)
  | listener (f : Network.Fault)
  deriving DecidableEq, Repr

def StartError.message : StartError → String
  | .unset e => e.message
  | .settings e => "invalid relay configuration: " ++ e.detail
  | .queue e => e.message
  | .listener f => "failed to bind: " ++ f.detail

/-- The status that the program ends with when it does not start. -/
def StartError.status : UInt32 := 101

namespace Settings

/-- Only messages that go to a socket are queued. -/
def queueError? (s : Settings) : Option Queue.CapacityError :=
  match s.control with
  | .log => none
  | .udp _ | .tcp _ => Queue.capacityError? s.controlQueueCapacity

/-- The state that the relay starts with; the queues are those that its viewers bring along. -/
def relay (s : Settings) (queues : List (Queue Event)) (now : Nat) : Relay where
  activity := s.defaultActivity
  channel :=
    match s.control with
    | .log => .logOnly
    | .udp _ | .tcp _ => .recorded
  registry := ⟨[], Registry.sorted_nil⟩
  queues := queues
  now := now

/-- What the relay says of itself once it listens. -/
def summary (s : Settings) : String :=
  "addr=" ++ s.listenAddr ++ " static_dir=" ++ s.staticDir ++ " activity=" ++ s.defaultActivity

end Settings

/-- The settings that the relay listens with on a host. -/
def start (host : Network.Host) (b : Bindings) (file : Option String) :
    Except StartError Settings :=
  match file.elim (.ok b) (EnvFile.apply b) with
  | .error e => .error (.unset e)
  | .ok b =>
    match Settings.read b.environment with
    | .error e => .error (.settings e)
    | .ok s =>
      match s.queueError?, host.bindText? s.listenAddr with
      | some e, _ => .error (.queue e)
      | none, some f => .error (.listener f)
      | none, none => .ok s

end ActivityRelay
