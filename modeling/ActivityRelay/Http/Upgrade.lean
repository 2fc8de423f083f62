import ActivityRelay.Http.Message

/-! What a request lacks to open a viewer's socket. -/
namespace ActivityRelay.Http

/-- The first fault of a request for a socket. -/
inductive UpgradeError where
  | method
  | connection
  | upgrade
  | key
  | version
  | noConnection
  deriving DecidableEq, Repr

def lower (s : String) : String := String.ofList (s.toList.map Char.toLower)

/-- Whether a text occurs in another. -/
def occursIn (needle : List Char) : List Char → Bool
  | [] => needle.isEmpty
  | c :: cs => needle.isPrefixOf (c :: cs) || occursIn needle cs

def upgradeError (req : Request) : UpgradeError :=
  let holds (name value : String) := (req.headers.first? name).map lower = some value
  if req.method ≠ "GET" then .method
  else if !((req.headers.first? "connection").any fun v =>
      occursIn "upgrade".toList (lower v).toList) then .connection
  else if !(holds "upgrade" "websocket") then .upgrade
  else if (req.headers.first? "sec-websocket-key").isNone then .key
  else if !(holds "sec-websocket-version" "13") then .version
  else .noConnection

def UpgradeError.response : UpgradeError → Response
  | .method => .plain 405 "Request method must be `GET`"
  | .connection => .plain 400 "Connection header did not include 'upgrade'"
  | .upgrade => .plain 400 "`Upgrade` header did not include 'websocket'"
  | .key => .plain 400 "`Sec-WebSocket-Key` header missing"
  | .version => .plain 400 "`Sec-WebSocket-Version` header did not include '13'"
  | .noConnection =>
    .plain 426 "WebSocket request couldn't be upgraded since no upgrade state was present"

end ActivityRelay.Http
