import ActivityRelay.Http.Message
import ActivityRelay.Http.Range

/-! Which responses may be compressed, and which requests accept that. What compresses them is
left open: all that is asked of it is that a body can be had back. -/
namespace ActivityRelay.Http
open Text

/-- What codes the bodies that are compressed. -/
structure Coder where
  encode : List UInt8 → List UInt8
  decode? : List UInt8 → Option (List UInt8)
  decode?_encode : ∀ body, decode? (encode body) = some body

/-- Every body stands for itself. -/
def Coder.plain : Coder := ⟨id, some, fun _ => rfl⟩

/-- A quality in thousandths: zero or one, with up to three decimals. -/
def quality? (cs : List Char) : Option Nat :=
  let value (whole : Nat) (rest : List Char) : Option Nat :=
    match rest with
    | [] => some whole
    | '.' :: ds =>
      if ds.all isDigit ∧ ds.length ≤ 3 then
        let n := whole + digitsValue ds * Nat.pow 10 (3 - ds.length)
        if n ≤ 1000 then some n else none
      else none
    | _ => none
  match cs with
  | q :: '=' :: '0' :: rest => if q.toLower = 'q' then value 0 rest else none
  | q :: '=' :: '1' :: rest => if q.toLower = 'q' then value 1000 rest else none
  | _ => none

inductive Coding where
  | identity
  | gzip
  deriving DecidableEq, Repr

def coding? (cs : List Char) : Option Coding :=
  let name := String.ofList (cs.map Char.toLower)
  if name = "gzip" ∨ name = "x-gzip" then some .gzip
  else if name = "identity" then some .identity
  else none

/-- An accepted coding with its quality; what is not understood is passed over. -/
def accepted? (entry : List Char) : Option (Coding × Nat) := do
  let coding ← coding? (trim (entry.takeWhile (· ≠ ';')))
  match entry.dropWhile (· ≠ ';') with
  | [] => some (coding, 1000)
  | _ :: parameter => do return (coding, ← quality? (trim parameter))

def acceptedCodings (hs : Headers) : List (Coding × Nat) :=
  (((hs.all "accept-encoding").filter isPlain).flatMap fun v => pieces ',' v.toList).filterMap
    accepted?

def bestQuality (coding : Coding) (codings : List (Coding × Nat)) : Nat :=
  ((codings.filter (·.1 = coding)).map (·.2)).foldl max 0

/-- Whether a body as it is was asked for by name. -/
def wantsIdentity (hs : Headers) : Bool := 0 < bestQuality .identity (acceptedCodings hs)

/-- Whether compression is wanted no less than its absence. -/
def wantsGzip (hs : Headers) : Bool :=
  let codings := acceptedCodings hs
  0 < bestQuality .gzip codings && bestQuality .identity codings ≤ bestQuality .gzip codings

/-- Smaller bodies are sent as they are. -/
def minCompressedSize : Nat := 32

def isCompressibleType (contentType : String) : Bool :=
  !("application/grpc".isPrefixOf contentType) && !("text/event-stream".isPrefixOf contentType) &&
    (!("image/".isPrefixOf contentType) || contentType = "image/svg+xml")

def Response.isCompressible (r : Response) : Bool :=
  minCompressedSize ≤ r.body.length && (r.headers.first? "content-encoding").isNone &&
    (r.headers.first? "content-range").isNone &&
    isCompressibleType ((r.headers.first? "content-type").getD "")

/-- Compresses the body of a response where the request asks for it. -/
def compress (gzip : Coder) (requested : Headers) (r : Response) : Response :=
  if r.isCompressible then
    let r := r.with "vary" "accept-encoding"
    if wantsGzip requested then
      ({ r with
        headers := (r.headers.without "content-length").without "accept-ranges"
        body := gzip.encode r.body } : Response).with "content-encoding" "gzip"
    else r
  else r

/-- The body as its reader gets it, who undoes the coding that the headers tell of. -/
def Response.decoded? (gzip : Coder) (r : Response) : Option (List UInt8) :=
  if r.headers.first? "content-encoding" = some "gzip" then gzip.decode? r.body else some r.body

end ActivityRelay.Http
