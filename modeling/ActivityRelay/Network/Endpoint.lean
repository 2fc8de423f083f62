import ActivityRelay.Network.Address
import ActivityRelay.Network.Fault
import ActivityRelay.Network.HostName

/-! Hosts with ports, read from text and looked up without asking a name server. -/
namespace ActivityRelay.Network
open Text

/-- One end of a connection. -/
structure Endpoint where
  address : Address
  port : Nat
  deriving DecidableEq, Repr

/-- The zone of the interface that leads to the host itself, and the only one it has. -/
def loopbackZone : Nat := 1

/-- The zone of a number, by the name of an interface only where the number needs one. -/
def zone? (number : Nat) (cs : List Char) : Option Nat :=
  if Address.needsZone number ∧ cs = ['l', 'o'] then some loopbackZone
  else Address.zoneNumber? cs

/-- An address in numbers, or the name of this host. -/
def address? (host : List Char) : Option Address :=
  if host.map Char.toLower = "localhost".toList then some (.v4 0x7F000001)
  else match Address.v4? host with
    | some n => some (.v4 n)
    | none => Address.zoned? zone? host

/-- Any other name is unknown if it cannot be one, and otherwise nobody answers. -/
def lookup (host : List Char) : Except LookupError Address :=
  match address? host with
  | some a => .ok a
  | none => .error (if HostName.isName host then .unanswered else .unknown)

namespace Endpoint

/-- A v6 address in brackets and a port, all in numbers. -/
def bracketed? : List Char → Option Endpoint
  | '[' :: cs => do
    let (host, port) ← splitFirst "]:".toList cs
    let address ← Address.zoned? (fun _ => Address.zoneNumber?) host
    return ⟨address, ← readDigits UInt16.size port⟩
  | _ => none

/-- A host and a port with a colon between them. -/
def separated (cs : List Char) : Except Fault Endpoint :=
  match splitLast ':' cs with
  | none => .error .invalidAddress
  | some (host, port) =>
    match readBelow UInt16.size port with
    | none => .error .invalidPort
    | some port =>
      if '\x00' ∈ host then .error .zeroByte
      else match lookup host with
        | .error e => .error (.lookup e)
        | .ok address => .ok ⟨address, port⟩

/-- Reads either form; outside brackets the last colon stands before the port. -/
def parse (cs : List Char) : Except Fault Endpoint :=
  match bracketed? cs with
  | some e => .ok e
  | none => separated cs

end Endpoint
end ActivityRelay.Network
