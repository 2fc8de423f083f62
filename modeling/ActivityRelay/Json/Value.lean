import ActivityRelay.Json.Literal
import ActivityRelay.Json.Number

/-! Values of any kind, passed over unread or kept until it is known what they are for. -/
namespace ActivityRelay.Json

/-- A value that is kept is read in full; one that is passed over only has to keep its shape. -/
inductive Purpose where
  | passed
  | kept
  deriving DecidableEq, Repr

def Purpose.number : Purpose → List Char → Except ReadError (List Char)
  | .passed, cs => skipNumber cs
  | .kept, cs => readNumber cs

def Purpose.literal : Purpose → List Char → Except ReadError (List Char)
  | .passed, cs => skipLiteral cs
  | .kept, cs => (readLiteral cs).map (·.2)

/-- A value without others inside, by its first character. -/
def readScalar (p : Purpose) (c : Char) (cs : List Char) : Except ReadError (List Char) :=
  if c = 'n' then readWord ['u', 'l', 'l'] cs
  else if c = 't' then readWord ['r', 'u', 'e'] cs
  else if c = 'f' then readWord ['a', 'l', 's', 'e'] cs
  else if c = '"' then p.literal cs
  else if c = '-' then p.number cs
  else if Text.isDigit c then p.number (c :: cs)
  else .error .malformed

def readColon (cs : List Char) : Except ReadError (List Char) :=
  match skipBlank cs with
  | [] => .error .ended
  | c :: rest => if c = ':' then .ok rest else .error .malformed

/-- What the reader expects next. -/
inductive Part where
  | value
  /-- Items of an array up to its end, from an item on. -/
  | items
  /-- Members of an object up to its end, from a key on. -/
  | members

/-- Whether a container ends right after its opening bracket. -/
def closesWith (close : Char) (cs : List Char) : Bool := (skipBlank cs).head? = some close

/-- Reads one part; `depth` bounds the brackets opened inside it, `fuel` the steps. -/
def readPart (p : Purpose) :
    (fuel depth : Nat) → Part → List Char → Except ReadError (List Char)
  | 0, _, _, _ => .error .ended
  | fuel + 1, depth, .value, cs =>
    match skipBlank cs with
    | [] => .error .ended
    | c :: rest =>
      if c = '[' ∨ c = '\x7b' then
        let close := if c = '[' then ']' else '\x7d'
        match depth with
        | 0 => .error .malformed
        | depth + 1 =>
          if closesWith close rest then .ok (skipBlank rest).tail
          else if (skipBlank rest).isEmpty then .error .ended
          else readPart p fuel depth (if c = '[' then .items else .members) rest
      else readScalar p c rest
  | fuel + 1, depth, .items, cs => do
    let rest ← readPart p fuel depth .value cs
    match skipBlank rest with
    | [] => .error .ended
    | c :: rest =>
      if c = ',' then readPart p fuel depth .items rest
      else if c = ']' then .ok rest
      else .error .malformed
  | fuel + 1, depth, .members, cs =>
    match skipBlank cs with
    | [] => .error .ended
    | c :: rest =>
      if c = '"' then do
        let rest ← p.literal rest
        let rest ← readColon rest
        let rest ← readPart p fuel depth .value rest
        match skipBlank rest with
        | [] => .error .ended
        | c :: rest =>
          if c = ',' then readPart p fuel depth .members rest
          else if c = '\x7d' then .ok rest
          else .error .malformed
      else .error .malformed

/-- Passes over a value; its brackets may nest without bound. -/
def skipValue (cs : List Char) : Except ReadError (List Char) :=
  readPart .passed (2 * cs.length + 2) cs.length .value cs

/-- The greatest count of brackets that may be open at once where values are kept. -/
def maxDepth : Nat := 127

/-- Reads a value inside one open bracket; its text, when it is a string. -/
def keepValue (cs : List Char) : Except ReadError (Option (List Char) × List Char) :=
  match skipBlank cs with
  | '"' :: rest => (readLiteral rest).map fun r => (some r.1, r.2)
  | _ => (readPart .kept (2 * cs.length + 2) (maxDepth - 1) .value cs).map fun rest => (none, rest)

/-- The fault of a value that is not of the kind asked for; brackets are not looked into. -/
def mismatch (cs : List Char) : ReadError :=
  match skipBlank cs with
  | [] => .ended
  | c :: rest =>
    if c = '[' ∨ c = '\x7b' then .mismatched
    else match readScalar .kept c rest with
      | .ok _ => .mismatched
      | .error e => e

/-- The text of a string, behind blanks. -/
def readString (cs : List Char) : Except ReadError (List Char × List Char) :=
  match skipBlank cs with
  | '"' :: rest => readLiteral rest
  | _ => .error (mismatch cs)

/-- The next key of an object, none at its end; a comma precedes every key but the first. -/
def nextKey (first : Bool) (cs : List Char) : Except ReadError (Option (List Char) × List Char) :=
  let key (cs : List Char) : Except ReadError (Option (List Char) × List Char) :=
    match cs with
    | [] => .error .ended
    | '"' :: rest => (readLiteral rest).map fun r => (some r.1, r.2)
    | _ => .error .malformed
  match skipBlank cs with
  | [] => .error .ended
  | '\x7d' :: rest => .ok (none, rest)
  | c :: rest =>
    if first then key (c :: rest)
    else if c = ',' then key (skipBlank rest)
    else .error .malformed

end ActivityRelay.Json
