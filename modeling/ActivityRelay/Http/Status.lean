import ActivityRelay.Json.Quote
import ActivityRelay.Relay.Operations
import ActivityRelay.Text.Decimal

/-! The report on the current activity and the viewers, as one JSON object. -/
namespace ActivityRelay.Http
open Text

/-- A viewer in the report. -/
structure ViewerStatus where
  id : ClientId
  connectedSince : Nat
  deriving DecidableEq, Repr

structure ActivityStatus where
  activity : String
  viewers : List ViewerStatus
  deriving DecidableEq, Repr

/-- The viewers from the first connected to the last, with the current activity. -/
def ActivityStatus.of (r : Relay) : ActivityStatus :=
  ⟨r.activity, r.registry.byAge.map fun c => ⟨c.id, c.since⟩⟩

def member (key : String) (value : List Char) : List Char :=
  Json.quote key.toList ++ [':'] ++ value

def ViewerStatus.json (v : ViewerStatus) : List Char :=
  ['\x7b'] ++ member "id" (Json.quote v.id.chars) ++ [','] ++
    member "connected_since" (decimal v.connectedSince) ++ ['\x7d']

def commaSeparated : List (List Char) → List Char
  | [] => []
  | [x] => x
  | x :: y :: rest => x ++ [','] ++ commaSeparated (y :: rest)

def ActivityStatus.json (s : ActivityStatus) : List Char :=
  ['\x7b'] ++ member "activity" (Json.quote s.activity.toList) ++ [','] ++
    member "connections" (decimal s.viewers.length) ++ [','] ++
    member "viewers" (['['] ++ commaSeparated (s.viewers.map ViewerStatus.json) ++ [']']) ++
    ['\x7d']

end ActivityRelay.Http
