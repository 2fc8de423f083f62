import ActivityRelay.Network.Fault

/-! Why a message did not reach the controller. -/
namespace ActivityRelay.Control
open Text

/-- A time span, to the millisecond: in seconds from one second on, without zeros at the end. -/
def span (ms : Nat) : List Char :=
  if ms = 0 then "0ns".toList
  else if ms < 1000 then decimal ms ++ "ms".toList
  else
    let thousandths := ((decimal (1000 + ms % 1000)).tail.reverse.dropWhile (· = '0')).reverse
    decimal (ms / 1000) ++ (if thousandths = [] then [] else '.' :: thousandths) ++ ['s']

/-- What went wrong with one message. -/
inductive Fault where
  | socket (f : Network.Fault)
  | timedOut (limitMs : Nat)
  deriving DecidableEq, Repr

def Fault.message : Fault → String
  | .socket f => "control socket I/O failed: " ++ f.message
  | .timedOut ms => "control socket timed out after " ++ String.ofList (span ms)

end ActivityRelay.Control
