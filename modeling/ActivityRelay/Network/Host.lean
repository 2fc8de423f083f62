import ActivityRelay.Network.Endpoint
import ActivityRelay.Network.Transport

/-! A host by itself: which addresses it can listen on, and which it has a way to. -/
namespace ActivityRelay.Network

/-- A host that is connected to itself, or has no network at all. -/
structure Host where
  linked : Bool
  deriving DecidableEq, Repr

namespace Host

/-- A host without any network interface that is up. -/
def isolated : Host := ⟨false⟩

/-- Whether an address is one of the host's own. -/
def owns (a : Address) : Bool :=
  match a.v4Number?, a with
  | some n, _ => n / 0x1000000 == 127
  | none, .v6 n _ => n == 1
  | none, .v4 _ => false

/-- Whether an address stands for all addresses of a host. -/
def isAny (a : Address) : Bool :=
  match a.v4Number?, a with
  | some n, _ => n == 0
  | none, .v6 n _ => n == 0
  | none, .v4 _ => false

/-- Why a v6 address that is not the host's own cannot be listened on. -/
def unowned (number zone : Nat) : SystemError :=
  if Address.isGroup number then .invalidArgument
  else if Address.isLink number then
    if zone = 0 then .invalidArgument
    else if zone = loopbackZone then .addressNotAvailable
    else .noSuchDevice
  else .addressNotAvailable

/-- Without a network every v4 address can be listened on, and of v6 only the one for all. -/
def bind? (h : Host) (a : Address) : Option SystemError :=
  if isAny a || (if h.linked then owns a else a.v4Number?.isSome) then none
  else match a with
    | .v4 _ => some .addressNotAvailable
    | .v6 number zone => some (unowned number zone)

/-- Why there is no way to a v6 address. -/
def unreached (t : Transport) (number zone : Nat) : SystemError :=
  if t = .tcp ∧ Address.isGroup number then .networkUnreachable
  else if zone = 0 ∧ Address.needsZone number then .invalidArgument
  else .addressNotAvailable

/-- Without a network nothing can be reached. -/
def route? (h : Host) (t : Transport) (a : Address) : Option SystemError :=
  if h.linked && (isAny a || owns a) then none
  else match a.v4Number?, a with
    | none, .v6 number zone => some (unreached t number zone)
    | _, _ => some .networkUnreachable

theorem route?_isolated (t : Transport) (a : Address) : isolated.route? t a ≠ none := by
  unfold route?
  split
  · next h => simp [isolated] at h
  · split <;> simp

/-- What keeps a listener from starting at a written address. -/
def bindText? (h : Host) (addr : String) : Option Fault :=
  match Endpoint.parse addr.toList with
  | .error e => some e
  | .ok e => (h.bind? e.address).map .system

/-- What keeps a connection from starting, or else where it leads. -/
def connectText (h : Host) (t : Transport) (addr : String) : Except Fault Endpoint :=
  match Endpoint.parse addr.toList with
  | .error e => .error e
  | .ok e =>
    match h.route? t e.address with
    | some f => .error (.system f)
    | none => .ok e

end Host
end ActivityRelay.Network
