import ActivityRelay.Settings.Variable
import ActivityRelay.Text.Lines

/-! All variables that a program runs with, by name. -/
namespace ActivityRelay
open Text

/-- Each variable that is set, with its value; of two entries for one name the first counts. -/
abbrev Bindings := List (String × RawValue)

namespace Bindings

/-- What a name reads from an entry written `key=value`: all behind the name and a `=`, so that a
name with a `=` of its own reaches into the value. -/
def read? (name : String) : String × RawValue → Option RawValue
  | (key, .text value) =>
    let front := name.toList ++ ['=']
    let entry := key.toList ++ '=' :: value.toList
    if front.isPrefixOf entry then some (.text (String.ofList (entry.drop front.length))) else none
  | (key, value) => if key = name then some value else none

/-- The text of a variable; one that is not set or spells no text has none. -/
def textOf? (b : Bindings) (name : String) : Option String :=
  if name = "" then none
  else match b.findSome? (read? name) with
    | some (.text s) => some s
    | _ => none

/-- What a name stands for inside another value: nothing, if it has no text. -/
def valueOf (b : Bindings) (name : List Char) : List Char :=
  ((b.textOf? (String.ofList name)).getD "").toList

/-- Gives a variable a text in place of what it had. -/
def put (b : Bindings) (key value : String) : Bindings :=
  (key, .text value) :: b.filter (·.1 != key)

theorem read?_text (key value : String) : read? key (key, .text value) = some (.text value) := by
  have h : key.toList ++ '=' :: value.toList = (key.toList ++ ['=']) ++ value.toList := by simp
  have hp : (key.toList ++ ['=']).isPrefixOf (key.toList ++ '=' :: value.toList) = true := by
    rw [h]; exact List.isPrefixOf_iff_prefix.2 (List.prefix_append _ _)
  simp only [read?, hp, if_true]
  rw [h, List.drop_left, String.ofList_toList]

theorem textOf?_put (b : Bindings) (key value : String) (h : key ≠ "") :
    (b.put key value).textOf? key = some value := by
  simp [put, textOf?, h, read?_text]

/-- What the settings see of the variables. -/
def environment (b : Bindings) : Environment := fun v => b.lookup v.name

/-- The bytes up to the first separator, and those behind it if there is one. -/
def cut (sep : UInt8) (bytes : List UInt8) : List UInt8 × List UInt8 :=
  (bytes.takeWhile (· != sep), (bytes.dropWhile (· != sep)).drop 1)

/-- One entry `name=value`, if its name spells a text. -/
def ofEntry? (bytes : List UInt8) : Option (String × RawValue) :=
  let (name, value) := cut 61 bytes
  (Utf8.decode? name).map fun name => (name, RawValue.ofBytes value)

/-- The variables of a block in which a zero byte ends each entry. -/
def ofBlock (block : List UInt8) : Bindings :=
  (lines 0 block).filterMap fun entry => ofEntry? (cut 0 entry).1

end Bindings
end ActivityRelay
