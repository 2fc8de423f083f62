import ActivityRelay.Http.Compression
import ActivityRelay.Http.Range
import ActivityRelay.Text.Hex

/-! Static files: a path is decoded, looked up below the site's directory, and served. -/
namespace ActivityRelay.Http
open Text

/-- The files of a site by the components of their paths, and the directory they lie in. -/
structure Site where
  files : List (List String × List UInt8) := []
  root : String := "site"

/-- What a path leads to. -/
inductive Found where
  | file (bytes : List UInt8)
  | directory
  | nothing
  | tooLong
  | zeroByte
  deriving DecidableEq, Repr

namespace Site

def file? (s : Site) (path : List String) : Option (List UInt8) := s.files.lookup path

def isDirectory (s : Site) (path : List String) : Bool :=
  path.isEmpty || s.files.any fun f => path.isPrefixOf f.1 && path.length < f.1.length

/-- The greatest count of bytes in a name. -/
def maxName : Nat := 255

/-- Walks down from a directory that exists. -/
def walk (s : Site) (dir : List String) : List String → Found
  | [] => .directory
  | name :: rest =>
    let here := dir ++ [name]
    if maxName < Utf8.size name.toList then .tooLong
    else match s.file? here with
      | some bytes => if rest.isEmpty then .file bytes else .nothing
      | none => if s.isDirectory here then s.walk here rest else .nothing

/-- The greatest count of bytes in a path from the system's point of view. -/
def maxPath : Nat := 4095

def pathSize (s : Site) (path : List String) : Nat :=
  path.foldl (fun size name => size + 1 + Utf8.size name.toList) (Utf8.size s.root.toList)

/-- Looks a path up, unless the system would not even try. -/
def find (s : Site) (path : List String) : Found :=
  if path.any fun name => '\x00' ∈ name.toList then .zeroByte
  else if maxPath < s.pathSize path then .tooLong
  else s.walk [] path

/-- Replaces each escape of two digits by its byte; anything else stands for itself. -/
def percentDecode : List UInt8 → List UInt8
  | [] => []
  | b :: bs =>
    if b = '%'.toNat.toUInt8 then
      match bs with
      | x :: y :: rest =>
        match hexValue? (Char.ofNat x.toNat), hexValue? (Char.ofNat y.toNat) with
        | some m, some n => (m * 16 + n).toUInt8 :: percentDecode rest
        | _, _ => b :: percentDecode (x :: y :: rest)
      | rest => b :: percentDecode rest
    else b :: percentDecode bs

/-- The names that a decoded path goes through, none when it leaves the site's directory. -/
def components? (decoded : List Char) : Option (List String) :=
  let names := (pieces '/' decoded).map String.ofList
  if decoded.head? = some '/' ∨ ".." ∈ names then none
  else some (names.filter fun p => p ≠ "" && p ≠ ".")

def pathOf? (path : List Char) : Option (List String) := do
  let trimmed := path.dropWhile (· = '/')
  let decoded ← Utf8.decode? (percentDecode (Utf8.encode (String.ofList trimmed)))
  components? decoded.toList

/-- A name up to its last point, and what follows that; a point in front ends no name. -/
def splitExtension (name : String) : List Char × List Char :=
  match splitLast '.' name.toList with
  | some (stem, extension) =>
    if stem = [] then (name.toList, []) else (stem, extension)
  | none => (name.toList, [])

/-- A name is its stem alone, or its stem and its extension with a point between. -/
theorem splitExtension_eq (name : String) :
    splitExtension name = (name.toList, []) ∨
      name.toList = (splitExtension name).1 ++ '.' :: (splitExtension name).2 := by
  unfold splitExtension
  split
  · next h =>
    split
    · exact .inl rfl
    · exact .inr (splitLast_eq_some h)
  · exact .inl rfl

def extension (name : String) : List Char := (splitExtension name).2.map Char.toLower

/-- A path without the extension of its last name. -/
def withoutExtension (path : List String) : List String :=
  path.dropLast ++ path.getLast?.toList.map fun name => String.ofList (splitExtension name).1

def mediaType (name : String) : String :=
  match String.ofList (extension name) with
  | "html" => "text/html"
  | "css" => "text/css"
  | "js" => "text/javascript"
  | "json" => "application/json"
  | "png" => "image/png"
  | "svg" => "image/svg+xml"
  | "txt" => "text/plain"
  | _ => "application/octet-stream"

/-- A file, whole or in the one range asked for; only the headers without a body for `HEAD`. -/
def serveFile (req : Request) (name : String) (bytes : List UInt8) : Response :=
  let size := bytes.length
  let shown (part : List UInt8) := if req.method = "HEAD" then [] else part
  let base : Headers := [("content-type", mediaType name), ("accept-ranges", "bytes")]
  let unmet : Headers := base ++ [("content-range", "bytes */" ++ toString size)]
  match (req.headers.first? "range").filter isPlain with
  | none => ⟨200, base ++ [("content-length", toString size)], shown bytes⟩
  | some value =>
    match ranges? size value.toList with
    | some [(start, last)] =>
      let count := if size = 0 then 0 else last - start + 1
      ⟨206, base ++ [("content-range", "bytes " ++ toString start ++ "-" ++ toString last ++ "/" ++
          toString size), ("content-length", toString count)],
        shown ((bytes.drop start).take count)⟩
    | some _ => ⟨416, unmet, Utf8.encode "Cannot serve multipart range requests"⟩
    | none => ⟨416, unmet, []⟩

def endsInSlash (path : List Char) : Bool := path.getLast? = some '/'

/-- What is served at a path. Where nothing is there, a file of that name without an extension
takes its place for who asks for the body as it is. -/
def fileAt (s : Site) (headers : Headers) (path : List String) : Found :=
  match s.find path with
  | .nothing => if wantsIdentity headers then s.find (withoutExtension path) else .nothing
  | found => found

/-- The file at a path, typed by the name that was asked for. -/
def serveAt (s : Site) (req : Request) (path : List String) : Response :=
  match s.fileAt req.headers path with
  | .file bytes => serveFile req (path.getLast?.getD "") bytes
  | .nothing | .directory => ⟨404, [], []⟩
  | .tooLong => ⟨500, [], []⟩
  | .zeroByte => ⟨if req.method = "HEAD" then 500 else 404, [], []⟩

/-- A directory without a slash at its end is redirected to; with one it means its index page. -/
def serve (s : Site) (req : Request) : Response :=
  if req.method ≠ "GET" ∧ req.method ≠ "HEAD" then ⟨405, [("allow", allowed)], []⟩
  else match pathOf? req.target.path with
    | none => ⟨404, [], []⟩
    | some path =>
      if s.find path ≠ .directory then s.serveAt req path
      else if endsInSlash req.target.path then s.serveAt req (path ++ ["index.html"])
      else match req.target.slashed? with
        | some location => ⟨307, [("location", String.ofList location)], []⟩
        | none => ⟨500, [], []⟩

end Site
end ActivityRelay.Http
