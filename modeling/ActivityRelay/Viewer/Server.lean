import ActivityRelay.Viewer.Socket

/-! All viewers' sockets on one relay: after every event each session runs until it is idle. -/
namespace ActivityRelay.Viewer

structure Server where
  relay : Relay
  /-- How many events the queue of a new viewer holds. -/
  capacity : Nat
  sockets : List Socket := []

namespace Server

def drainEach (r : Relay) : List Socket → Relay × List Socket
  | [] => (r, [])
  | s :: rest =>
    let (r, s) := s.drain r
    let (r, rest) := drainEach r rest
    (r, s :: rest)

/-- Lets all sessions run until they are idle. -/
def settle (v : Server) : Server :=
  let (relay, sockets) := drainEach v.relay v.sockets
  { v with relay, sockets }

/-- A new viewer under an id that no other has. -/
def connect (v : Server) (id : ClientId) : Except Queue.CapacityError Server := do
  let (relay, session) ← Session.start v.relay id v.capacity
  let sent := if session.running then [] else [Sent.gone]
  return { v with relay, sockets := v.sockets ++ [{ session, sent }] }

/-- Something happens to the socket of one viewer. -/
def onSocket (v : Server) (id : ClientId) (f : Relay → Socket → Relay × Socket) : Server :=
  match v.sockets.findIdx? (·.session.id = id) with
  | none => v
  | some i =>
    match v.sockets[i]? with
    | none => v
    | some s =>
      let (relay, s) := f v.relay s
      { v with relay, sockets := v.sockets.set i s }

/-- Bytes arrive from a viewer. -/
def feed (v : Server) (id : ClientId) (bytes : List UInt8) : Server :=
  v.onSocket id fun r s => s.feed r bytes

/-- A viewer's connection is gone without a word. -/
def hangUp (v : Server) (id : ClientId) : Server :=
  v.onSocket id fun r s => s.turn r (.inbound .ended)

/-- Sends a row of events while no session runs in between; counts the deliveries of each. -/
def burst (v : Server) (exclude : Option ClientId) : List String → Server × List Nat
  | [] => (v, [])
  | value :: values =>
    let (relay, delivered) := v.relay.broadcast (.game value) exclude
    let (v, counts) := burst { v with relay } exclude values
    (v, delivered :: counts)

def socket? (v : Server) (id : ClientId) : Option Socket :=
  v.sockets.find? (·.session.id = id)

end Server
end ActivityRelay.Viewer
