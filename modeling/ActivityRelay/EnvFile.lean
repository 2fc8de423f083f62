import ActivityRelay.Bindings
import ActivityRelay.EnvFile.Line
import ActivityRelay.EnvFile.Value
import ActivityRelay.Text.Quoted

/-! Variables set by a file: those that are set already stay, and a malformed line ends the file. -/
namespace ActivityRelay.EnvFile
open Text

/-- What one line of a file says. -/
inductive Entry where
  | blank
  | set (key value : String)
  | malformed
  deriving DecidableEq, Repr

def isKeyStart (c : Char) : Bool := c.isAlpha || c == '_'

def isKeyChar (c : Char) : Bool := c.isAlphanum || c == '_' || c == '.'

/-- A key and what follows it behind blanks. -/
def key? (cs : List Char) : Option (List Char × List Char) :=
  if cs.head?.any isKeyStart then some (cs.takeWhile isKeyChar, trimStart (cs.dropWhile isKeyChar))
  else none

/-- A key and the text of its value; `export` may stand in front of the key. -/
def assignment? (cs : List Char) : Option (List Char × List Char) :=
  match key? cs with
  | none => none
  | some (key, '=' :: rest) => some (key, trimStart rest)
  | some (key, rest) =>
    if key = "export".toList then
      match key? rest with
      | some (key, '=' :: rest) => some (key, trimStart rest)
      | _ => none
    else none

def isBlank (cs : List Char) : Bool := cs.isEmpty || cs.head? = some '#'

/-- Reads one line, with names in values standing for what `subst` says. -/
def readEntry (subst : List Char → List Char) (line : List Char) : Entry :=
  let line := trimStart (trimEnd line)
  if isBlank line then .blank
  else match assignment? line with
    | none => .malformed
    | some (key, rest) =>
      if isBlank rest then .set (String.ofList key) ""
      else match readValue? subst (.text .bare) rest with
        | some value => .set (String.ofList key) (String.ofList value)
        | none => .malformed

/-- A variable that no value with a zero character can be given to. -/
structure UnsetError where
  key : String
  value : String
  deriving DecidableEq, Repr

def UnsetError.message (e : UnsetError) : String :=
  "failed to set environment variable `" ++ quoted e.key ++ "` to `" ++ quoted e.value ++
    "`: file name contained an unexpected NUL byte"

/-- Sets a variable that has no text yet. -/
def bind (b : Bindings) (key value : String) : Except UnsetError Bindings :=
  match b.textOf? key with
  | some _ => .ok b
  | none =>
    if '\x00' ∈ value.toList then .error ⟨key, value⟩
    else .ok (b.put key value)

/-- Sets what the lines say, each with the values that stand when it is reached. -/
def load (b : Bindings) : List (Option (List Char)) → Except UnsetError Bindings
  | [] | none :: _ => .ok b
  | some line :: lines =>
    match readEntry b.valueOf line with
    | .blank => load b lines
    | .malformed => .ok b
    | .set key value =>
      match bind b key value with
      | .ok b => load b lines
      | .error e => .error e

/-- The variables after a file with this text was read. -/
def apply (b : Bindings) (file : String) : Except UnsetError Bindings :=
  load b (fileLines file.toList)

end ActivityRelay.EnvFile
