import ActivityRelay.Text.Utf8

/-! How a text travels to another host. -/
namespace ActivityRelay.Network
open Text

inductive Transport where
  | udp
  | tcp
  deriving DecidableEq, Repr

namespace Transport

def name : Transport → String
  | .udp => "Udp"
  | .tcp => "Tcp"

/-- A datagram holds the text alone; on a stream a line feed ends it. -/
def encode (t : Transport) (raw : String) : List UInt8 :=
  match t with
  | .udp => Utf8.encode raw
  | .tcp => Utf8.encode raw ++ [10]

/-- What is gone when a write breaks off after some bytes: a datagram goes whole or not at all. -/
def fragment (t : Transport) (message : List UInt8) (count : Nat) : List UInt8 :=
  match t with
  | .udp => []
  | .tcp => message.dropLast.take count

end Transport
end ActivityRelay.Network
