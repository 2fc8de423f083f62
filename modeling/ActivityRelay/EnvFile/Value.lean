import ActivityRelay.Text.Alphanumeric

/-! Values in a file of variables: quotes, escapes, and names that stand for other values. -/
namespace ActivityRelay.EnvFile
open Text

/-- Whether double quotes are open around a character. -/
inductive Quoting where
  | bare
  | weak
  deriving DecidableEq, Repr

/-- What the next character of a value belongs to. -/
inductive Mode where
  | text (q : Quoting)
  | literal
  | escaped (q : Quoting)
  | name (q : Quoting) (read : List Char)
  | braced (q : Quoting) (read : List Char)
  | ended
  deriving DecidableEq, Repr

/-- What an escaped character stands for. -/
def unescape? (c : Char) : Option Char :=
  if c = 'n' then some '\n'
  else if c ∈ ['\\', '\'', '"', '$', ' '] then some c
  else none

/-- What is left at the end of a value: quotes and braces must be closed there. -/
def finish? (subst : List Char → List Char) : Mode → Option (List Char)
  | .text .bare | .escaped .bare | .ended => some []
  | .name .bare read => some (subst read)
  | _ => none

/-- The mode behind a character of text, and whether the character is part of the value. -/
def Mode.behind (q : Quoting) (c : Char) : Mode × Bool :=
  if c = '$' then (.name q [], false)
  else if c = '\\' then (.escaped q, false)
  else match q with
    | .weak => if c = '"' then (.text .bare, false) else (.text .weak, true)
    | .bare =>
      if c = '\'' then (.literal, false)
      else if c = '"' then (.text .weak, false)
      else if c = ' ' ∨ c = '\t' then (.ended, false)
      else (.text .bare, true)

/-- Reads a value, none where it is malformed. The character that ends a name without braces is
part of the value even if it is a quote, a blank or a backslash. -/
def readValue? (subst : List Char → List Char) : Mode → List Char → Option (List Char)
  | m, [] => finish? subst m
  | .text q, c :: cs =>
    let (m, kept) := Mode.behind q c
    (readValue? subst m cs).map fun v => if kept then c :: v else v
  | .literal, c :: cs =>
    if c = '\'' then readValue? subst (.text .bare) cs
    else (readValue? subst .literal cs).map (c :: ·)
  | .escaped q, c :: cs => do
    let d ← unescape? c
    return d :: (← readValue? subst (.text q) cs)
  | .name q read, c :: cs =>
    if alphanumeric.contains c then readValue? subst (.name q (read ++ [c])) cs
    else if c = '{' ∧ read = [] then readValue? subst (.braced q []) cs
    else if c = '$' then (readValue? subst (.name q []) cs).map (subst read ++ ·)
    else (readValue? subst (.text q) cs).map fun v => subst read ++ c :: v
  | .braced q read, c :: cs =>
    if c = '}' then (readValue? subst (.text q) cs).map (subst read ++ ·)
    else readValue? subst (.braced q (read ++ [c])) cs
  | .ended, c :: cs =>
    if c = ' ' ∨ c = '\t' then readValue? subst .ended cs
    else if c = '#' then some []
    else none

end ActivityRelay.EnvFile
