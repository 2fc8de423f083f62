import ActivityRelay.Text.Pieces

/-! What a request is for: a path with a query, the origin in front of it, or neither. -/
namespace ActivityRelay.Http
open Text

/-- The target of a request. A path that is not rooted belongs to no origin: an asterisk for the
server as a whole, or nothing behind an authority alone. -/
structure Target where
  /-- Scheme and authority, where they are written. -/
  origin : List Char := []
  path : List Char
  query : Option (List Char) := none
  deriving DecidableEq, Repr

namespace Target

def isSchemeChar (c : Char) : Bool := c.isAlphanum || c ∈ ['+', '-', '.', '~']

/-- The two schemes of the web are shown in lower case. -/
def shownScheme (cs : List Char) : List Char :=
  let lower := cs.map Char.toLower
  if lower = "http".toList ∨ lower = "https".toList then lower else cs

/-- Splits what follows an origin at its first question mark. -/
def below (origin cs : List Char) : Target :=
  let path := cs.takeWhile (· ≠ '?')
  let behind := cs.dropWhile (· ≠ '?')
  { origin
    path := if path = [] then ['/'] else path
    query := if behind = [] then none else some behind.tail }

/-- Reads a target; whatever a number sign begins is no part of it. -/
def read (text : List Char) : Target :=
  let text := text.takeWhile (· ≠ '#')
  let unrooted : Target := { path := if text = ['*'] then text else [] }
  if text.head? = some '/' then below [] text
  else match splitFirst "://".toList text with
    | none => unrooted
    | some (scheme, rest) =>
      if scheme.all isSchemeChar then
        let authority := rest.takeWhile fun c => c ≠ '/' && c ≠ '?'
        below (shownScheme scheme ++ "://".toList ++ authority) (rest.drop authority.length)
      else unrooted

def isRooted (t : Target) : Bool := t.path.head? = some '/'

def queryText (t : Target) : List Char := t.query.elim [] fun q => '?' :: q

/-- The target with a slash behind its path, none without an origin that it could lie below. -/
def slashed? (t : Target) : Option (List Char) :=
  if t.path = [] then none else some (t.origin ++ t.path ++ '/' :: t.queryText)

theorem isRooted_below (origin cs : List Char) (h : cs.head?.all (fun c => c = '/' ∨ c = '?')) :
    (below origin cs).isRooted = true := by
  cases cs with
  | nil => rfl
  | cons c cs =>
    rcases (by simpa using h : c = '/' ∨ c = '?') with rfl | rfl <;> simp [below, isRooted]

/-- Splitting loses nothing but the root that is left out. -/
theorem queryText_below (origin cs : List Char) :
    cs.takeWhile (· ≠ '?') ++ (below origin cs).queryText = cs := by
  have h : (below origin cs).queryText = cs.dropWhile (· ≠ '?') := by
    simp only [below, queryText]
    cases hd : cs.dropWhile (· ≠ '?') with
    | nil => rfl
    | cons c rest =>
      have hc := List.head?_dropWhile_not (· ≠ '?') cs
      rw [hd] at hc
      have : c = '?' := by simpa using hc
      simp [this]
  rw [h, List.takeWhile_append_dropWhile]

end Target
end ActivityRelay.Http
