import ActivityRelay.Http.Compression
import ActivityRelay.Http.Site
import ActivityRelay.Http.Status
import ActivityRelay.Http.Upgrade

/-! All that is served: three fixed paths, and static files everywhere else. -/
namespace ActivityRelay.Http

/-- Where a path leads. -/
inductive Route where
  | socket
  | status
  | health
  | site
  deriving DecidableEq, Repr

def Route.of (path : List Char) : Route :=
  if path = "/ws".toList then .socket
  else if path = "/api/activity".toList then .status
  else if path = "/healthz".toList then .health
  else .site

/-- The answer of a fixed path to a request that reads. -/
def Route.read (r : Relay) (site : Site) (req : Request) : Route → Response
  | .socket => (upgradeError req).response
  | .status =>
    ({ status := 200
       headers := [("content-type", "application/json")]
       body := Text.Utf8.encode (String.ofList (ActivityStatus.of r).json) } : Response).sized
  | .health => ({ status := 200 } : Response).sized
  | .site => site.serve req

def reads (req : Request) : Bool := req.method = "GET" || req.method = "HEAD"

/-- A path that is not part of the site keeps its body from a request for headers only. -/
def answer (gzip : Coder) (r : Relay) (site : Site) (req : Request) : Response :=
  let route := Route.of req.target.path
  if route = .site then compress gzip req.headers (site.serve req)
  else if reads req then
    let response := compress gzip req.headers (route.read r site req)
    if req.method = "HEAD" then { response with body := [] } else response
  else ({ status := 405, headers := [("allow", allowed)] } : Response).sized

/-- The answer to a request that asks what a page of another origin may do. -/
def preflight (req : Request) : Response :=
  let own : Headers :=
    if Route.of req.target.path = .site then [] else [("allow", allowed), ("content-length", "0")]
  ⟨200, own ++
    [("access-control-allow-methods", "*"), ("access-control-allow-headers", "*")], []⟩

/-- Tells the length of a body that can be told, and leaves out the body behind a request for
headers. -/
def Response.measured (r : Response) (method : String) : Response :=
  let told := (r.headers.first? "content-length").isSome ||
    (r.headers.first? "content-encoding").isSome
  let r := if told then r else r.sized
  if method = "HEAD" then { r with body := [] } else r

/-- Every answer may be read by pages of any origin. -/
def respond (r : Relay) (site : Site) (req : Request) (gzip : Coder := .plain) : Response :=
  let response := if req.method = "OPTIONS" then preflight req else answer gzip r site req
  let response := (response.with "access-control-allow-origin" "*").with "vary"
    "origin, access-control-request-method, access-control-request-headers"
  if req.target.isRooted then response else response.measured req.method

end ActivityRelay.Http
