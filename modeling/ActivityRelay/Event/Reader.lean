import ActivityRelay.Event
import ActivityRelay.Json.Value

/-! Events read back from JSON: an object with name and value in either order, or a pair. -/
namespace ActivityRelay.Event
open Json

/-- The two members that matter; all others are passed over. -/
inductive Member where
  | name
  | value
  deriving DecidableEq, Repr

def member? (key : List Char) : Option Member :=
  if key = nameKey then some .name else if key = valueKey then some .value else none

/-- The next member that matters, none at the end of the object. -/
def nextMember : (fuel : Nat) → (first : Bool) → List Char →
    Except ReadError (Option Member × List Char)
  | 0, _, _ => .error .ended
  | fuel + 1, first, cs => do
    let (key, rest) ← nextKey first cs
    match key with
    | none => .ok (none, rest)
    | some key =>
      match member? key with
      | some m => .ok (some m, rest)
      | none =>
        let rest ← readColon rest
        let rest ← skipValue rest
        nextMember fuel false rest

def memberFrom (first : Bool) (cs : List Char) : Except ReadError (Option Member × List Char) :=
  nextMember (cs.length + 1) first cs

/-- A name as a string; any but the one known name is a mismatch. -/
def readName (cs : List Char) : Except ReadError (List Char) := do
  let (text, rest) ← readString cs
  if text = gameName.toList then .ok rest else .error .mismatched

def readNull (cs : List Char) : Except ReadError (List Char) :=
  match skipBlank cs with
  | 'n' :: rest => readWord ['u', 'l', 'l'] rest
  | _ => .error (mismatch cs)

/-- A name in an object: a string, or an object whose only key is the name and holds null. -/
def readTag (cs : List Char) : Except ReadError (List Char) :=
  match skipBlank cs with
  | [] => .error .ended
  | '"' :: _ => readName cs
  | '\x7b' :: rest => do
    let rest ← readName rest
    let rest ← readColon rest
    let rest ← readNull rest
    match skipBlank rest with
    | [] => .error .ended
    | c :: rest => if c = '\x7d' then .ok rest else .error .malformed
  | _ => .error .malformed

/-- The end of the object, where neither member may come again. -/
def finish (value : List Char) (cs : List Char) : Except ReadError (Event × List Char) := do
  let (m, rest) ← memberFrom false cs
  match m with
  | none => .ok (.game (String.ofList value), rest)
  | some _ => .error .mismatched

/-- An object behind its opening bracket. -/
def readObject (cs : List Char) : Except ReadError (Event × List Char) := do
  let (m, rest) ← memberFrom true cs
  match m with
  | none => .error .mismatched
  | some .name =>
    let rest ← readColon rest
    let rest ← readTag rest
    let (m, rest) ← memberFrom false rest
    match m with
    | some .value =>
      let rest ← readColon rest
      let (value, rest) ← readString rest
      finish value rest
    | _ => .error .mismatched
  | some .value =>
    let rest ← readColon rest
    let (kept, rest) ← keepValue rest
    let (m, rest) ← memberFrom false rest
    match m with
    | some .name =>
      let rest ← readColon rest
      let rest ← readTag rest
      match kept with
      | some value => finish value rest
      | none => .error .mismatched
    | _ => .error .mismatched

/-- A pair of name and value behind its opening bracket. -/
def readPair (cs : List Char) : Except ReadError (Event × List Char) := do
  match skipBlank cs with
  | [] => .error .ended
  | ']' :: _ => .error .mismatched
  | _ =>
    let rest ← readName cs
    match skipBlank rest with
    | [] => .error .ended
    | ']' :: _ => .error .mismatched
    | ',' :: rest =>
      match skipBlank rest with
      | [] => .error .ended
      | ']' :: _ => .error .malformed
      | _ =>
        let (value, rest) ← readString rest
        match skipBlank rest with
        | [] => .error .ended
        | c :: rest =>
          if c = ']' then .ok (.game (String.ofList value), rest) else .error .malformed
    | _ => .error .malformed

/-- Reads one event; only blanks may follow it. -/
def parseChars (cs : List Char) : Except ReadError Event := do
  let (event, rest) ← match skipBlank cs with
    | '\x7b' :: rest => readObject rest
    | '[' :: rest => readPair rest
    | _ => .error (mismatch cs)
  if (skipBlank rest).isEmpty then .ok event else .error .malformed

def parse (text : String) : Except ReadError Event := parseChars text.toList

end ActivityRelay.Event
