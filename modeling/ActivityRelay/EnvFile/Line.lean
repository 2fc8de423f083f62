import ActivityRelay.Text.Lines
import ActivityRelay.Text.White

/-! The lines of a file of variables: quotes hold a line open, and comments are cut off. -/
namespace ActivityRelay.EnvFile
open Text

/-- Where a line stands behind some of its characters. -/
inductive Mark where
  | complete
  | blank
  | escape
  | weak
  | weakEscape
  | strong
  | strongEscape
  deriving DecidableEq, Repr

/-- Where a line stands behind a character outside quotes. -/
def Mark.outside (c : Char) : Mark :=
  if c = '\\' then .escape
  else if c = '"' then .weak
  else if c = '\'' then .strong
  else .complete

/-- In a run of blanks only every other one, from the first on, lets a comment follow. -/
def Mark.next : Mark → Char → Mark
  | .complete, c =>
    if isWhite c ∧ c ≠ '\n' ∧ c ≠ '\r' then .blank else outside c
  | .blank, c => outside c
  | .escape, _ => .complete
  | .weak, c => if c = '\\' then .weakEscape else if c = '"' then .complete else .weak
  | .weakEscape, _ => .weak
  | .strong, c => if c = '\\' then .strongEscape else if c = '\'' then .complete else .strong
  | .strongEscape, _ => .strong

/-- What stands in front of a comment, and where the line stands at its end without one. -/
def scan : Mark → List Char → List Char × Option Mark
  | m, [] => ([], some m)
  | m, c :: cs =>
    if m = .blank ∧ c = '#' then ([], none)
    else
      let (kept, last) := scan (m.next c) cs
      (c :: kept, last)

theorem scan_isPrefix (m : Mark) (cs : List Char) : (scan m cs).1 <+: cs := by
  induction cs generalizing m with
  | nil => simp [scan]
  | cons c cs ih =>
    rw [scan]
    split
    · simp
    · exact List.cons_prefix_cons.2 ⟨rfl, ih _⟩

/-- Drops a line feed at the end, and a carriage return in front of it. -/
def chop (cs : List Char) : List Char :=
  if cs.getLast? = some '\n' then
    if cs.dropLast.getLast? = some '\r' then cs.dropLast.dropLast else cs.dropLast
  else cs

def isComment (cs : List Char) : Bool := (trimStart cs).head? = some '#'

/-- Joins lines that quotes hold open; one that the end of the file cuts off is none. -/
def join : List Char → Mark → List (List Char) → List (Option (List Char))
  | _, m, [] => if m = .complete then [] else [none]
  | held, m, l :: ls =>
    if isComment (held ++ l) then some [] :: join [] .complete ls
    else match scan m l with
      | (kept, none) => some (held ++ kept) :: join [] .complete ls
      | (_, some .complete) => some (chop (held ++ l)) :: join [] .complete ls
      | (_, some m) => join (held ++ l) m ls

/-- The lines of a file, behind a mark of its byte order. -/
def fileLines (cs : List Char) : List (Option (List Char)) :=
  join [] .complete (lines '\n' (if cs.head? = some '\uFEFF' then cs.tail else cs))

end ActivityRelay.EnvFile
