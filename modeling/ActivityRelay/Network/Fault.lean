import ActivityRelay.Text.Decimal
import ActivityRelay.Text.Quoted

/-! Why a socket cannot be opened, bound or written to, in words and by parts. -/
namespace ActivityRelay.Network
open Text

/-- A refusal by the operating system. -/
inductive SystemError where
  | noSuchDevice
  | invalidArgument
  | brokenPipe
  | messageTooLong
  | addressNotAvailable
  | networkUnreachable
  | connectionRefused
  deriving DecidableEq, Repr

namespace SystemError

def code : SystemError → Nat
  | .noSuchDevice => 19
  | .invalidArgument => 22
  | .brokenPipe => 32
  | .messageTooLong => 90
  | .addressNotAvailable => 99
  | .networkUnreachable => 101
  | .connectionRefused => 111

/-- The class that a code belongs to. -/
def kind : SystemError → String
  | .noSuchDevice => "Uncategorized"
  | .invalidArgument => "InvalidInput"
  | .brokenPipe => "BrokenPipe"
  | .messageTooLong => "Uncategorized"
  | .addressNotAvailable => "AddrNotAvailable"
  | .networkUnreachable => "NetworkUnreachable"
  | .connectionRefused => "ConnectionRefused"

def text : SystemError → String
  | .noSuchDevice => "No such device"
  | .invalidArgument => "Invalid argument"
  | .brokenPipe => "Broken pipe"
  | .messageTooLong => "Message too long"
  | .addressNotAvailable => "Cannot assign requested address"
  | .networkUnreachable => "Network is unreachable"
  | .connectionRefused => "Connection refused"

theorem code_injective {a b : SystemError} (h : a.code = b.code) : a = b := by
  cases a <;> cases b <;> first | rfl | contradiction

end SystemError

/-- Whether a name that was looked up does not exist, or nobody could be asked. -/
inductive LookupError where
  | unknown
  | unanswered
  deriving DecidableEq, Repr

def LookupError.message : LookupError → String
  | .unknown => "failed to lookup address information: Name or service not known"
  | .unanswered => "failed to lookup address information: Temporary failure in name resolution"

/-- What keeps a socket from its work. -/
inductive Fault where
  | system (e : SystemError)
  | lookup (e : LookupError)
  | invalidAddress
  | invalidPort
  | zeroByte
  deriving DecidableEq, Repr

namespace Fault

def message : Fault → String
  | .system e => e.text ++ " (os error " ++ String.ofList (decimal e.code) ++ ")"
  | .lookup e => e.message
  | .invalidAddress => "invalid socket address"
  | .invalidPort => "invalid port value"
  | .zeroByte => "file name contained an unexpected NUL byte"

/-- The fault with its parts by name, as it stands in a failure at startup. -/
def detail (f : Fault) : String :=
  match f with
  | .system e =>
    "Os \x7b code: " ++ String.ofList (decimal e.code) ++ ", kind: " ++ e.kind ++
      ", message: " ++ quoted e.text ++ " \x7d"
  | .lookup e => "Custom \x7b kind: Uncategorized, error: " ++ quoted e.message ++ " \x7d"
  | .invalidAddress | .invalidPort | .zeroByte =>
    "Error \x7b kind: InvalidInput, message: " ++ quoted f.message ++ " \x7d"

end Fault
end ActivityRelay.Network
