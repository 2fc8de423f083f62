import ActivityRelay.Http.Target
import ActivityRelay.Text.Utf8

/-! Requests and responses. -/
namespace ActivityRelay.Http

abbrev Headers := List (String × String)

/-- A request for a target that is not decoded yet; header names are in lower case. -/
structure Request where
  method : String
  target : Target
  headers : Headers := []
  deriving DecidableEq, Repr

def Request.ofText (method : String) (target : List Char) (headers : Headers) : Request :=
  { method
    target := .read target
    headers := headers.map fun h => (String.ofList (h.1.toList.map Char.toLower), h.2) }

/-- All values of a header, in order. -/
def Headers.all (hs : Headers) (name : String) : List String :=
  (hs.filter (·.1 = name)).map (·.2)

def Headers.first? (hs : Headers) (name : String) : Option String := hs.lookup name

def Headers.without (hs : Headers) (name : String) : Headers := hs.filter (·.1 ≠ name)

/-- Header values that are not printable ASCII with tabs are not read as text. -/
def isPlain (value : String) : Bool :=
  value.toList.all fun c => (0x20 ≤ c.toNat && c.toNat ≤ 0x7E) || c = '\t'

structure Response where
  status : Nat
  headers : Headers := []
  body : List UInt8 := []
  deriving DecidableEq, Repr

def Response.with (r : Response) (name value : String) : Response :=
  { r with headers := r.headers ++ [(name, value)] }

/-- A response with its length among its headers. -/
def Response.sized (r : Response) : Response :=
  r.with "content-length" (toString r.body.length)

/-- A short message to whoever asked. -/
def Response.plain (status : Nat) (text : String) : Response :=
  ({ status, body := Text.Utf8.encode text } : Response).with "content-type"
    "text/plain; charset=utf-8" |>.sized

def allowed : String := "GET,HEAD"

end ActivityRelay.Http
