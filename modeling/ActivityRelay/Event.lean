import ActivityRelay.Json.Quote

/-! What viewers are told: the current activity, as an event with a name and a value. -/
namespace ActivityRelay

/-- An event queued for a viewer. -/
inductive Event where
  | game (value : String)
  deriving DecidableEq, Repr

namespace Event

def gameName : String := "game"

def name : Event → String
  | .game _ => gameName

def value : Event → String
  | .game value => value

/-- The key of the member that holds the name. -/
def nameKey : List Char := ['e', 'v', 'e', 'n', 't']

/-- The key of the member that holds the value. -/
def valueKey : List Char := ['v', 'a', 'l', 'u', 'e']

def jsonChars (e : Event) : List Char :=
  ['\x7b'] ++ Json.quote nameKey ++ [':'] ++ Json.quote e.name.toList ++ [','] ++
    Json.quote valueKey ++ [':'] ++ Json.quote e.value.toList ++ ['\x7d']

/-- The text sent to the viewer: one JSON object without blanks. -/
def json (e : Event) : String := String.ofList e.jsonChars

end Event
end ActivityRelay
