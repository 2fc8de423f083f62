import ActivityRelay.Proofs.Event.Codec
import ActivityRelay.Proofs.Json.Grammar
import Mathlib.Data.List.Perm.Basic

/-! The ways in which one event may be presented as an object: with its two members in either order,
each key and text spelled in any way, blanks anywhere, and further members that are passed over. -/
namespace ActivityRelay

namespace Json

/-- A member of an object as it stands in a text, with the blanks around its key. -/
structure MemberText where
  before : List Char
  /-- What stands between the marks of the key. -/
  key : List Char
  behind : List Char
  /-- The value with the blanks around it. -/
  element : List Char
  before_blank : Blank before
  behind_blank : Blank behind
  deriving DecidableEq

def MemberText.chars (m : MemberText) : List Char :=
  m.before ++ (literal m.key ++ (m.behind ++ ':' :: m.element))

/-- An object with these members, a comma between any two. -/
def objectText (ms : List MemberText) : List Char :=
  '\x7b' :: ([','].intercalate (ms.map MemberText.chars) ++ ['\x7d'])

/-- An element that is a literal for a text. -/
def Tells (element text : List Char) : Prop :=
  ∃ before body behind, element = before ++ (literal body ++ behind) ∧ Blank before ∧
    Blank behind ∧ Spells body text

/-- Members as the reader meets them: a comma stands before each but the first of the object. -/
def listed : (first : Bool) → List MemberText → List Char
  | _, [] => []
  | true, m :: ms => m.chars ++ listed false ms
  | false, m :: ms => ',' :: (m.chars ++ listed false ms)

theorem listed_eq_intercalate (ms : List MemberText) :
    listed true ms = [','].intercalate (ms.map MemberText.chars) := by
  induction ms with
  | nil => rfl
  | cons m ms ih =>
    cases ms with
    | nil => simp [listed]
    | cons m' ms =>
      rw [List.map_cons, List.map_cons, List.intercalate_cons_cons, ← List.map_cons, ← ih]
      simp [listed]

theorem apart_listed (ms : List MemberText) (rest : List Char) :
    Apart (listed false ms ++ '\x7d' :: rest) := by
  cases ms with
  | nil => exact apart_cons (.inr (.inr rfl)) rest
  | cons m ms => exact apart_cons (.inl rfl) _

theorem length_le_listed (first : Bool) (ms : List MemberText) :
    ms.length ≤ (listed first ms).length := by
  induction ms generalizing first with
  | nil => simp
  | cons m ms ih =>
    have hms := ih false
    cases first <;> simp [listed, MemberText.chars, literal] <;> omega

theorem nextKey_blank {ws : List Char} (h : Blank ws) (first : Bool) (cs : List Char) :
    nextKey first (ws ++ cs) = nextKey first cs := by
  simp only [nextKey, skipBlank_append ws cs h]

section MemberText
variable {m : MemberText} {key : List Char}

theorem MemberText.chars_append (m : MemberText) (rest : List Char) : m.chars ++ rest =
    m.before ++ '"' :: (m.key ++ '"' :: (m.behind ++ ':' :: (m.element ++ rest))) := by
  simp [chars, literal]

theorem nextKey_chars (h : Spells m.key key) (rest : List Char) :
    nextKey true (m.chars ++ rest) = .ok (some key, m.behind ++ ':' :: (m.element ++ rest)) := by
  rw [m.chars_append, nextKey, m.before_blank.skipBlank rfl]
  simp [readLiteral_spells h, Except.map]

theorem nextKey_comma_chars (h : Spells m.key key) (rest : List Char) :
    nextKey false (',' :: (m.chars ++ rest)) =
      .ok (some key, m.behind ++ ':' :: (m.element ++ rest)) := by
  rw [m.chars_append, nextKey, skipBlank_of_mark rfl]
  simp [m.before_blank.skipBlank (c := '"') rfl, readLiteral_spells h, Except.map]

theorem nextKey_listed (h : Spells m.key key) (first : Bool) (ms : List MemberText)
    (rest : List Char) : nextKey first (listed first (m :: ms) ++ rest) =
      .ok (some key, m.behind ++ ':' :: (m.element ++ (listed false ms ++ rest))) := by
  cases first with
  | true => rw [listed, List.append_assoc, nextKey_chars h]
  | false => rw [listed, List.cons_append, List.append_assoc, nextKey_comma_chars h]

end MemberText

theorem literal_append (before body behind rest : List Char) :
    before ++ (literal body ++ behind) ++ rest =
      before ++ '"' :: (body ++ '"' :: (behind ++ rest)) := by simp [literal]

section Tells
variable {element text : List Char}

theorem Tells.readString (h : Tells element text) :
    ∃ ws, Blank ws ∧ ∀ rest, readString (element ++ rest) = .ok (text, ws ++ rest) := by
  obtain ⟨before, body, behind, rfl, hbefore, hbehind, hbody⟩ := h
  refine ⟨behind, hbehind, fun rest => ?_⟩
  rw [literal_append, Json.readString, hbefore.skipBlank rfl]
  exact readLiteral_spells hbody _

theorem Tells.keepValue (h : Tells element text) :
    ∃ ws, Blank ws ∧ ∀ rest, keepValue (element ++ rest) = .ok (some text, ws ++ rest) := by
  obtain ⟨before, body, behind, rfl, hbefore, hbehind, hbody⟩ := h
  refine ⟨behind, hbehind, fun rest => ?_⟩
  rw [literal_append, Json.keepValue, hbefore.skipBlank rfl]
  simp only [readLiteral_spells hbody, Except.map]

end Tells

end Json

namespace Event
open Json

/-- The member for the name of an event, its key and its text spelled in any way. -/
def Names (m : MemberText) : Prop := Spells m.key nameKey ∧ Tells m.element gameName.toList

/-- The member for the value of an event. -/
def Holds (value : List Char) (m : MemberText) : Prop :=
  Spells m.key valueKey ∧ Tells m.element value

/-- A member under another key. Its value may be anything, but its key spells a text. -/
def Unknown (m : MemberText) : Prop :=
  ∃ key, Spells m.key key ∧ key ≠ nameKey ∧ key ≠ valueKey ∧ Written .element m.element

/-- Members in any order of which one gives the name, one the value, and all others are unknown. -/
def Presents (value : List Char) (ms : List MemberText) : Prop :=
  ∃ name content others, ms.Perm (name :: content :: others) ∧ Names name ∧ Holds value content ∧
    ∀ m ∈ others, Unknown m

theorem member?_nameKey : member? nameKey = some .name := rfl

theorem member?_valueKey : member? valueKey = some .value := rfl

theorem nextMember_blank {ws : List Char} (h : Blank ws) (fuel : Nat) (first : Bool)
    (cs : List Char) : nextMember fuel first (ws ++ cs) = nextMember fuel first cs := by
  cases fuel with
  | zero => rfl
  | succ fuel => simp only [nextMember, nextKey_blank h]

theorem nextMember_known {m : MemberText} {key : List Char} {which : Member}
    (hkey : Spells m.key key) (h : member? key = some which) (fuel : Nat) (first : Bool)
    (ms : List MemberText) (rest : List Char) :
    nextMember (fuel + 1) first (listed first (m :: ms) ++ '\x7d' :: rest) =
      .ok (some which, m.behind ++ ':' :: (m.element ++ (listed false ms ++ '\x7d' :: rest))) := by
  simp [nextMember, nextKey_listed hkey, h, bind, Except.bind]

theorem nextMember_close (fuel : Nat) (first : Bool) (rest : List Char) :
    nextMember (fuel + 1) first ('\x7d' :: rest) = .ok (none, rest) := by
  simp [nextMember, nextKey_close, bind, Except.bind]

/-- A member that is not known is passed over. -/
theorem nextMember_unknown {m : MemberText} (h : Unknown m) (fuel : Nat) (first : Bool)
    (ms : List MemberText) (rest : List Char) :
    nextMember (fuel + 1) first (listed first (m :: ms) ++ '\x7d' :: rest) =
      nextMember fuel false (listed false ms ++ '\x7d' :: rest) := by
  obtain ⟨key, hkey, hname, hvalue, helement⟩ := h
  have hmember : member? key = none := by simp [member?, hname, hvalue]
  obtain ⟨ws, hws, hskip⟩ := skipValue_element helement (apart_listed ms rest)
  simp only [nextMember, nextKey_listed hkey, hmember, bind, Except.bind,
    readColon_blank m.behind_blank, hskip, nextMember_blank hws]

theorem nextMember_others {os : List MemberText} (h : ∀ m ∈ os, Unknown m) (fuel : Nat)
    (first : Bool) (ms : List MemberText) (rest : List Char) :
    nextMember (fuel + os.length) first (listed first (os ++ ms) ++ '\x7d' :: rest) =
      nextMember fuel (first && os.isEmpty)
        (listed (first && os.isEmpty) ms ++ '\x7d' :: rest) := by
  induction os generalizing first with
  | nil => simp
  | cons m os ih =>
    obtain ⟨hm, hos⟩ := List.forall_mem_cons.1 h
    have htail := ih hos false
    rw [Bool.false_and] at htail
    rw [List.length_cons, ← Nat.add_assoc, List.cons_append, nextMember_unknown hm, htail]
    simp

/-- However many members are passed over, there are steps left for the one behind them. -/
theorem memberFrom_others {os : List MemberText} (h : ∀ m ∈ os, Unknown m) {ws : List Char}
    (hws : Blank ws) (first : Bool) (ms : List MemberText) (rest : List Char) :
    ∃ fuel, memberFrom first (ws ++ (listed first (os ++ ms) ++ '\x7d' :: rest)) =
      nextMember (fuel + 1) (first && os.isEmpty)
        (listed (first && os.isEmpty) ms ++ '\x7d' :: rest) := by
  have hlength := length_le_listed first (os ++ ms)
  rw [List.length_append] at hlength
  have hsteps : os.length ≤ (ws ++ (listed first (os ++ ms) ++ '\x7d' :: rest)).length := by
    simp only [List.length_append]
    omega
  obtain ⟨fuel, hfuel⟩ := Nat.exists_eq_add_of_le' hsteps
  refine ⟨fuel, ?_⟩
  rw [memberFrom, nextMember_blank hws, hfuel, Nat.add_right_comm, nextMember_others h]

theorem memberFrom_known {os : List MemberText} (h : ∀ m ∈ os, Unknown m) {ws : List Char}
    (hws : Blank ws) {m : MemberText} {key : List Char} {which : Member} (hkey : Spells m.key key)
    (hwhich : member? key = some which) (first : Bool) (ms : List MemberText) (rest : List Char) :
    memberFrom first (ws ++ (listed first (os ++ m :: ms) ++ '\x7d' :: rest)) =
      .ok (some which, m.behind ++ ':' :: (m.element ++ (listed false ms ++ '\x7d' :: rest))) := by
  obtain ⟨fuel, hread⟩ := memberFrom_others h hws first (m :: ms) rest
  rw [hread, nextMember_known hkey hwhich]

theorem memberFrom_end {os : List MemberText} (h : ∀ m ∈ os, Unknown m) {ws : List Char}
    (hws : Blank ws) (first : Bool) (rest : List Char) :
    memberFrom first (ws ++ (listed first os ++ '\x7d' :: rest)) = .ok (none, rest) := by
  obtain ⟨fuel, hread⟩ := memberFrom_others h hws first [] rest
  rw [List.append_nil] at hread
  rw [hread]
  exact nextMember_close fuel _ rest

theorem readTag_tells {element : List Char} (h : Tells element gameName.toList) :
    ∃ ws, Blank ws ∧ ∀ rest, readTag (element ++ rest) = .ok (ws ++ rest) := by
  obtain ⟨ws, hws, hread⟩ := h.readString
  obtain ⟨before, body, behind, rfl, hbefore, -, -⟩ := h
  refine ⟨ws, hws, fun rest => ?_⟩
  have hname : readName (before ++ (literal body ++ behind) ++ rest) = .ok (ws ++ rest) := by
    rw [readName, hread]
    rfl
  rw [literal_append] at hname ⊢
  rw [readTag, hbefore.skipBlank rfl]
  exact hname

theorem finish_others {os : List MemberText} (h : ∀ m ∈ os, Unknown m) {ws : List Char}
    (hws : Blank ws) (value rest : List Char) :
    finish value (ws ++ (listed false os ++ '\x7d' :: rest)) =
      .ok (.game (String.ofList value), rest) := by
  rw [finish, memberFrom_end h hws]
  rfl

section readObject
variable {name content : MemberText} {value : List Char} {as bs cs : List MemberText}
  (hname : Names name) (hcontent : Holds value content) (has : ∀ m ∈ as, Unknown m)
  (hbs : ∀ m ∈ bs, Unknown m) (hcs : ∀ m ∈ cs, Unknown m)
include hname hcontent has hbs hcs

theorem readObject_name_first (rest : List Char) :
    readObject (listed true (as ++ name :: (bs ++ content :: cs)) ++ '\x7d' :: rest) =
      .ok (.game (String.ofList value), rest) := by
  obtain ⟨ws, hws, htag⟩ := readTag_tells hname.2
  obtain ⟨ws', hws', hvalue⟩ := hcontent.2.readString
  have hfirst :=
    memberFrom_known has blank_nil hname.1 member?_nameKey true (bs ++ content :: cs) rest
  have hsecond := memberFrom_known hbs hws hcontent.1 member?_valueKey false cs rest
  rw [List.nil_append] at hfirst
  simp only [readObject, hfirst, readColon_blank name.behind_blank, htag, hsecond,
    readColon_blank content.behind_blank, hvalue, finish_others hcs hws', bind, Except.bind]

theorem readObject_value_first (rest : List Char) :
    readObject (listed true (as ++ content :: (bs ++ name :: cs)) ++ '\x7d' :: rest) =
      .ok (.game (String.ofList value), rest) := by
  obtain ⟨ws, hws, hvalue⟩ := hcontent.2.keepValue
  obtain ⟨ws', hws', htag⟩ := readTag_tells hname.2
  have hfirst :=
    memberFrom_known has blank_nil hcontent.1 member?_valueKey true (bs ++ name :: cs) rest
  have hsecond := memberFrom_known hbs hws hname.1 member?_nameKey false cs rest
  rw [List.nil_append] at hfirst
  simp only [readObject, hfirst, readColon_blank content.behind_blank, hvalue, hsecond,
    readColon_blank name.behind_blank, htag, finish_others hcs hws', bind, Except.bind]

end readObject

/-- An element that may be taken out is found between what stands before and behind it. -/
theorem exists_append_of_perm_cons {α : Type} {a : α} {l others : List α}
    (h : l.Perm (a :: others)) : ∃ as bs, l = as ++ a :: bs ∧ (as ++ bs).Perm others := by
  obtain ⟨as, bs, rfl⟩ := List.append_of_mem (h.symm.subset List.mem_cons_self)
  exact ⟨as, bs, rfl, List.Perm.cons_inv (List.perm_middle.symm.trans h)⟩

/-- Either of the two members comes first, and unknown ones stand around them. -/
theorem Presents.exists_order {value : List Char} {ms : List MemberText} (h : Presents value ms) :
    ∃ name content as bs cs, Names name ∧ Holds value content ∧ (∀ m ∈ as, Unknown m) ∧
      (∀ m ∈ bs, Unknown m) ∧ (∀ m ∈ cs, Unknown m) ∧
      (ms = as ++ name :: (bs ++ content :: cs) ∨ ms = as ++ content :: (bs ++ name :: cs)) := by
  obtain ⟨name, content, others, hperm, hname, hcontent, hothers⟩ := h
  obtain ⟨ss, ts, rfl, hrest⟩ := exists_append_of_perm_cons hperm
  obtain ⟨us, vs, hsplit, hunknown⟩ := exists_append_of_perm_cons hrest
  have unknown {m : MemberText} (hm : m ∈ us ++ vs) : Unknown m :=
    hothers m (hunknown.subset hm)
  rcases List.append_eq_append_iff.1 hsplit with ⟨bs, rfl, rfl⟩ | ⟨bs, rfl, hvs⟩
  · refine ⟨name, content, ss, bs, vs, hname, hcontent, ?_, ?_, ?_, .inl rfl⟩ <;>
      exact fun m hm => unknown (by simp [hm])
  · cases bs with
    | nil =>
      rw [List.nil_append] at hvs
      subst hvs
      refine ⟨name, content, us, [], vs, hname, hcontent, ?_, by simp, ?_, .inl (by simp)⟩ <;>
        exact fun m hm => unknown (by simp [hm])
    | cons c bs =>
      obtain ⟨rfl, rfl⟩ := List.cons.inj hvs
      refine ⟨name, content, us, bs, ts, hname, hcontent, ?_, ?_, ?_, .inr (by simp)⟩ <;>
        exact fun m hm => unknown (by simp [hm])

theorem readObject_presentation {value : List Char} {ms : List MemberText} (h : Presents value ms)
    (rest : List Char) :
    readObject (listed true ms ++ '\x7d' :: rest) = .ok (.game (String.ofList value), rest) := by
  obtain ⟨name, content, as, bs, cs, hname, hcontent, has, hbs, hcs, rfl | rfl⟩ := h.exists_order
  · exact readObject_name_first hname hcontent has hbs hcs rest
  · exact readObject_value_first hname hcontent has hbs hcs rest

theorem parseChars_presentation {value : List Char} {ms : List MemberText} (h : Presents value ms)
    {before behind : List Char} (hbefore : Blank before) (hbehind : Blank behind) :
    parseChars (before ++ (objectText ms ++ behind)) = .ok (.game (String.ofList value)) := by
  have hend : skipBlank behind = [] := List.dropWhile_eq_nil_iff.2 hbehind
  rw [objectText, ← listed_eq_intercalate, List.cons_append, List.append_assoc, parseChars,
    hbefore.skipBlank rfl]
  simp only [List.cons_append, List.nil_append, readObject_presentation h, bind, Except.bind, hend]
  rfl

/-- An object that presents an event is read as that event, whatever blanks stand around it, and so
is every object with the same members in another order. -/
theorem parse_presentation {value : String} {ms : List MemberText} (h : Presents value.toList ms)
    {before behind : List Char} (hbefore : Blank before) (hbehind : Blank behind) :
    parse (String.ofList (before ++ (objectText ms ++ behind))) = .ok (.game value) ∧
      ∀ ms', ms'.Perm ms →
        parse (String.ofList (before ++ (objectText ms' ++ behind))) = .ok (.game value) := by
  have presented {ms : List MemberText} (h : Presents value.toList ms) :
      parse (String.ofList (before ++ (objectText ms ++ behind))) = .ok (.game value) := by
    rw [parse, String.toList_ofList, parseChars_presentation h hbefore hbehind,
      String.ofList_toList]
  refine ⟨presented h, fun ms' hperm => presented ?_⟩
  obtain ⟨name, content, others, hms, hmembers⟩ := h
  exact ⟨name, content, others, hperm.trans hms, hmembers⟩

/-- An array with a number beyond every double, and a text that no characters make up. -/
theorem written_loose : Written .element " [1e999,\x7b\"a\":\"\\ud800\"\x7d,[ ]] ".toList := by
  have number : Unsigned ['1', 'e', '9', '9', '9'] :=
    .parts (.inr (by decide) : IntegerDigits ['1']) .none
      (.digits (.inl rfl) (by decide : [] ∈ _) (by decide : Digits ['9', '9', '9']))
  have lone : Written .value ['"', '\\', 'u', 'd', '8', '0', '0', '"'] :=
    .string (.unit (by decide : FourDigits ['d', '8', '0', '0'] 0xD800) .nil)
  have member : Written .member "\"a\":\"\\ud800\"".toList :=
    .member blank_nil (spells_plain (by decide : ['a'].all (Plain ·) = true)).body blank_nil
      (.element blank_nil lone blank_nil)
  have empty : Written .value ['[', ' ', ']'] := .emptyArray (by decide : Blank [' '])
  have array : Written .value "[1e999,\x7b\"a\":\"\\ud800\"\x7d,[ ]]".toList :=
    .array (.elements (.element blank_nil (.number number) blank_nil)
      (.elements (.element blank_nil (.object (.lastMember member)) blank_nil)
        (.lastElement (.element blank_nil empty blank_nil))))
  exact .element (by decide : Blank [' ']) array (by decide : Blank [' '])

/-- Members with the value in front of the name, and unknown ones in front of both. -/
def crowdedMembers : List MemberText :=
  [⟨[], ['x'], [' '], " [1e999,\x7b\"a\":\"\\ud800\"\x7d,[ ]] ".toList, blank_nil, by decide⟩,
    ⟨['\n'], "v\\u0061lue".toList, [], " \"\\ud83d\\ude00\\/\" ".toList, by decide, blank_nil⟩,
    ⟨[], [], [], "null".toList, blank_nil, blank_nil⟩,
    ⟨[' '], nameKey, ['\t'], "\"game\"".toList, by decide, by decide⟩]

theorem presents_crowdedMembers : Presents "😀/".toList crowdedMembers := by
  have smile : Tells " \"\\ud83d\\ude00\\/\" ".toList "😀/".toList :=
    ⟨[' '], "\\ud83d\\ude00\\/".toList, [' '], by decide, by decide, by decide,
      .pair (by decide : FourDigits ['d', '8', '3', 'd'] 0xD83D)
        (by decide : FourDigits ['d', 'e', '0', '0'] 0xDE00) (by decide) (by decide)
        (.short (by decide : ('/', '/') ∈ shortEscapes) .nil)⟩
  have key : Spells "v\\u0061lue".toList valueKey :=
    .plain (by decide) (.unit (by decide : FourDigits ['0', '0', '6', '1'] 0x61) (.inl (by decide))
      (spells_plain (by decide)))
  have game : Tells "\"game\"".toList gameName.toList :=
    ⟨[], "game".toList, [], by decide, blank_nil, blank_nil, spells_plain (by decide)⟩
  have null : Written .element "null".toList :=
    .element blank_nil (.word (by decide : ['n', 'u', 'l', 'l'] ∈ words)) blank_nil
  refine ⟨crowdedMembers[3], crowdedMembers[1], [crowdedMembers[0], crowdedMembers[2]], by decide,
    ⟨spells_plain (by decide), game⟩, ⟨key, smile⟩, List.forall_mem_cons.2 ⟨?_, ?_⟩⟩
  · exact ⟨['x'], spells_plain (by decide), by decide, by decide, written_loose⟩
  · exact List.forall_mem_singleton.2 ⟨[], .nil, by decide, by decide, null⟩

/-- The value in front of the name, with units and escapes in it and in its key. -/
theorem parse_presentation_crowded :
    parse ("\x7b\"x\" : [1e999,\x7b\"a\":\"\\ud800\"\x7d,[ ]] ,\n" ++
      "\"v\\u0061lue\": \"\\ud83d\\ude00\\/\" ,\"\":null, \"event\"\t:\"game\"\x7d\r") =
      .ok (.game "😀/") ∧
    parse (String.ofList (objectText crowdedMembers.reverse)) = .ok (.game "😀/") := by
  obtain ⟨there, -⟩ :=
    parse_presentation presents_crowdedMembers blank_nil (by decide : Blank ['\r'])
  obtain ⟨-, permuted⟩ := parse_presentation presents_crowdedMembers blank_nil blank_nil
  have back := permuted _ (List.reverse_perm crowdedMembers)
  rw [List.nil_append, List.append_nil] at back
  exact ⟨there, back⟩

end Event
end ActivityRelay
