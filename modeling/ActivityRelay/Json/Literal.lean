import ActivityRelay.Json.ReadError
import ActivityRelay.Text.Hex
import ActivityRelay.Text.Utf8

/-! String literals in JSON: read for the text they denote, or passed over. -/
namespace ActivityRelay.Json
open Text

/-- Where the reader stands inside a literal. -/
inductive Spot where
  | plain
  | escaped
  /-- Inside four hexadecimal digits; a high surrogate may have come before. -/
  | hex (high : Option Nat) (left : Nat) (value : Nat)
  /-- Behind a high surrogate, whose other half must follow as a second escape. -/
  | halfway (high : Nat)
  | halfwayEscaped (high : Nat)

/-- The character of an escape of one letter. -/
def shortEscape? (c : Char) : Option Char :=
  if c = '"' || c = '\\' || c = '/' then some c
  else if c = 'b' then some (Char.ofNat 0x08)
  else if c = 'f' then some (Char.ofNat 0x0C)
  else if c = 'n' then some '\n'
  else if c = 'r' then some '\r'
  else if c = 't' then some '\t'
  else none

/-- What four digits lead to: a character, the wait for a second half, or nothing. -/
inductive Unit16 where
  | char (c : Char)
  | half (high : Nat)
  | lone

def joinUnits (high : Option Nat) (n : Nat) : Unit16 :=
  match high with
  | none =>
    if 0xD800 ≤ n ∧ n ≤ 0xDBFF then .half n
    else if 0xDC00 ≤ n ∧ n ≤ 0xDFFF then .lone
    else .char (Char.ofNat n)
  | some h =>
    if 0xDC00 ≤ n ∧ n ≤ 0xDFFF then
      .char (Char.ofNat (0x10000 + (h - 0xD800) * 0x400 + (n - 0xDC00)))
    else .lone

/-- Puts a character in front of what was read. -/
def withFirst (c : Char) (r : Except ReadError (List Char × List Char)) :
    Except ReadError (List Char × List Char) :=
  r.map fun p => (c :: p.1, p.2)

/-- Four digits need four bytes, else the text counts as ended. -/
def fourBytesLeft (cs : List Char) : Bool := 4 ≤ Utf8.size (cs.take 4)

def readLiteralFrom : Spot → List Char → Except ReadError (List Char × List Char)
  | _, [] => .error .ended
  | .plain, c :: cs =>
    if c = '"' then .ok ([], cs)
    else if c = '\\' then readLiteralFrom .escaped cs
    else if c.toNat < 0x20 then .error .malformed
    else withFirst c (readLiteralFrom .plain cs)
  | .escaped, c :: cs =>
    if c = 'u' then
      if fourBytesLeft cs then readLiteralFrom (.hex none 3 0) cs else .error .ended
    else match shortEscape? c with
      | some d => withFirst d (readLiteralFrom .plain cs)
      | none => .error .malformed
  | .hex high left value, c :: cs =>
    match hexValue? c with
    | none => .error .malformed
    | some d =>
      match left with
      | left + 1 => readLiteralFrom (.hex high left (value * 16 + d)) cs
      | 0 =>
        match joinUnits high (value * 16 + d) with
        | .char c => withFirst c (readLiteralFrom .plain cs)
        | .half h => readLiteralFrom (.halfway h) cs
        | .lone => .error .malformed
  | .halfway high, c :: cs =>
    if c = '\\' then readLiteralFrom (.halfwayEscaped high) cs else .error .malformed
  | .halfwayEscaped high, c :: cs =>
    if c = 'u' then
      if fourBytesLeft cs then readLiteralFrom (.hex (some high) 3 0) cs else .error .ended
    else .error .malformed

/-- The text of a literal whose opening mark is already read. -/
def readLiteral (cs : List Char) : Except ReadError (List Char × List Char) :=
  readLiteralFrom .plain cs

/-- Passes over a literal: any four digits are as good as any other. -/
def skipLiteralFrom : Spot → List Char → Except ReadError (List Char)
  | _, [] => .error .ended
  | .escaped, c :: cs =>
    if c = 'u' then
      if fourBytesLeft cs then skipLiteralFrom (.hex none 3 0) cs else .error .ended
    else if (shortEscape? c).isSome then skipLiteralFrom .plain cs
    else .error .malformed
  | .hex high left _, c :: cs =>
    if (hexValue? c).isNone then .error .malformed
    else match left with
      | left + 1 => skipLiteralFrom (.hex high left 0) cs
      | 0 => skipLiteralFrom .plain cs
  | _, c :: cs =>
    if c = '"' then .ok cs
    else if c = '\\' then skipLiteralFrom .escaped cs
    else if c.toNat < 0x20 then .error .malformed
    else skipLiteralFrom .plain cs

def skipLiteral (cs : List Char) : Except ReadError (List Char) := skipLiteralFrom .plain cs

end ActivityRelay.Json
