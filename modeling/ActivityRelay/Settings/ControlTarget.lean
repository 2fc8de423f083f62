import ActivityRelay.Settings.Variable
import ActivityRelay.Text.Pieces
import ActivityRelay.Text.White

/-! Where messages are forwarded to, as an address with a scheme in front. -/
namespace ActivityRelay

/-- Messages go to a log, or to a datagram or stream socket at an address. -/
inductive ControlTarget where
  | log
  | udp (addr : String)
  | tcp (addr : String)
  deriving DecidableEq, Repr

namespace ControlTarget
open Text

/-- Reads an address without white space around it; it must hold a colon behind its scheme. -/
def parseAddress (raw : List Char) : Except SettingsError ControlTarget :=
  let refused := Except.error (.controlAddr (String.ofList raw))
  match splitFirst "://".toList raw with
  | none => refused
  | some (scheme, addr) =>
    if ':' ∉ addr then refused
    else if scheme = ['u', 'd', 'p'] then .ok (.udp (String.ofList addr))
    else if scheme = ['t', 'c', 'p'] then .ok (.tcp (String.ofList addr))
    else refused

/-- A value that is absent or blank selects the log. -/
def parse (raw : Option String) : Except SettingsError ControlTarget :=
  match raw with
  | none => .ok .log
  | some raw => if trim raw.toList = [] then .ok .log else parseAddress (trim raw.toList)

end ControlTarget
end ActivityRelay
