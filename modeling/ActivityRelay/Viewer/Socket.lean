import ActivityRelay.Viewer.Session

/-! A viewer's socket: the bytes that arrive on it become messages of the session. -/
namespace ActivityRelay.Viewer

/-- What the viewer's side sees. -/
inductive Sent where
  | text (s : String)
  | pong (bytes : List UInt8)
  | gone
  deriving DecidableEq, Repr

structure Socket where
  session : Session
  /-- Bytes of a frame that is not complete. -/
  buffer : List UInt8 := []
  fragments : Option Fragments := none
  sent : List Sent := []

namespace Socket

/-- Lets the session take a turn, and shows the viewer what it wrote and whether it ended. -/
def turn (r : Relay) (s : Socket) (t : Session.Turn) : Relay × Socket :=
  let (r, session) := s.session.turn r t
  let texts := (session.written.drop s.session.written.length).map Sent.text
  let last := if s.session.running && !session.running then [Sent.gone] else []
  (r, { s with session, sent := s.sent ++ texts ++ last })

/-- A ping is answered before the session hears of it. -/
def hear (r : Relay) (s : Socket) (m : Message) : Relay × Socket :=
  let s := match m with
    | .ping bytes => { s with sent := s.sent ++ [Sent.pong bytes] }
    | _ => s
  s.turn r (.inbound (.message m))

def fail (r : Relay) (s : Socket) : Relay × Socket := s.turn r (.inbound .failed)

/-- Reads all frames that are complete, as long as the session runs. -/
def read (r : Relay) (s : Socket) (bytes : List UInt8) : Relay × Socket :=
  if s.session.running then
    match _h : Frame.read bytes with
    | .unfinished => (r, { s with buffer := bytes })
    | .violation _ => s.fail r
    | .frame f rest =>
      match assemble s.fragments f with
      | .error _ => s.fail r
      | .ok (fragments, none) => read r { s with fragments } rest
      | .ok (fragments, some m) =>
        let (r, s) := hear r { s with fragments } m
        read r s rest
  else (r, s)
termination_by bytes.length
decreasing_by all_goals exact Frame.read_length _h

/-- Takes bytes as they arrive. -/
def feed (r : Relay) (s : Socket) (bytes : List UInt8) : Relay × Socket :=
  read r s (s.buffer ++ bytes)

/-- Lets the session take up to a number of queued events. -/
def flush (r : Relay) (s : Socket) : Nat → Relay × Socket
  | 0 => (r, s)
  | n + 1 =>
    let (r, s) := s.turn r (.event true)
    flush r s n

/-- Writes all that is queued, and ends the session where its queue has ended. -/
def drain (r : Relay) (s : Socket) : Relay × Socket :=
  s.flush r (((r.queues[s.session.queue]?).elim 0 (·.waiting.length)) + 1)

end Socket
end ActivityRelay.Viewer
