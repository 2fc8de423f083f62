import ActivityRelay.Proofs.Event.Codec
import Mathlib.Data.List.Infix
import Mathlib.Data.List.TakeWhile

/-! The text of an event cut off, or with something behind it. A reader that meets the end of the
text finds it ended, wherever it stands; a whole event with more than blanks behind it is
malformed. -/
namespace ActivityRelay

namespace Json
open Text

/-- A reader finds this text ended when it is cut off, wherever that is. -/
def Ends {β : Type} (read : List Char → Except ReadError β) (text : List Char) : Prop :=
  ∀ part, part <+: text → part ≠ text → read part = .error .ended

section Ends
variable {β γ : Type} {read : List Char → Except ReadError β} {text more : List Char} {c : Char}

theorem ends_nil : Ends read [] := fun _ hp hne => absurd (List.prefix_nil.1 hp) hne

/-- A cut behind the first character is a cut in what the reader goes on with. -/
theorem Ends.cons {next : List Char → Except ReadError β} (h : Ends next text)
    (step : ∀ cs, read (c :: cs) = next cs) (nil : read [] = .error .ended) :
    Ends read (c :: text) := by
  intro part hp hne
  cases part with
  | nil => exact nil
  | cons d part =>
    obtain ⟨rfl, htail⟩ := List.cons_prefix_cons.1 hp
    rw [step]
    exact h part htail fun he => hne (by rw [he])

theorem Ends.singleton (nil : read [] = .error .ended) : Ends read [c] :=
  ends_nil.cons (fun _ => rfl) nil

theorem Ends.map (h : Ends read text) (f : β → γ) : Ends (fun cs => (read cs).map f) text := by
  intro part hp hne
  simp only [h part hp hne, Except.map]

theorem Ends.andThen (h : Ends read text) (next : β → Except ReadError γ) :
    Ends (fun cs => read cs >>= next) text := by
  intro part hp hne
  simp only [h part hp hne]
  rfl

/-- Of two readers in a row, a cut ends the first one or else the second. -/
theorem Ends.bind {next : β → Except ReadError γ} {result : List Char → β} (h : Ends read text)
    (whole : ∀ rest, read (text ++ rest) = .ok (result rest))
    (hnext : Ends (fun cs => next (result cs)) more) :
    Ends (fun cs => read cs >>= next) (text ++ more) := by
  intro part hp hne
  by_cases hin : part <+: text ∧ part ≠ text
  · exact h.andThen next part hin.1 hin.2
  · obtain ⟨rest, rfl⟩ : text <+: part := by
      rcases List.prefix_or_prefix_of_prefix hp (List.prefix_append text more) with hpart | htext
      · rw [not_and, not_not] at hin
        rw [hin hpart]
      · exact htext
    simp only [whole]
    exact hnext rest ((List.prefix_append_right_inj text).1 hp) fun he => hne (by rw [he])

end Ends

/-- Where four digits must follow, fewer of them are an end of the text as well. -/
theorem Ends.fourBytes {β : Type} {read : List Char → Except ReadError β} {text : List Char}
    (h : Ends read text) :
    Ends (fun cs => if fourBytesLeft cs then read cs else .error .ended) text := by
  intro part hp hne
  dsimp only
  split
  · exact h part hp hne
  · rfl

theorem ends_withFirst {text : List Char} (h : Ends (readLiteralFrom .plain) text) (c : Char) :
    Ends (fun cs => withFirst c (readLiteralFrom .plain cs)) text := h.map _

theorem ends_digit {high : Option Nat} {left value d : Nat} {text : List Char} (hd : d < 16)
    (h : Ends (readLiteralFrom (.hex high left (value * 16 + d))) text) :
    Ends (readLiteralFrom (.hex high (left + 1) value)) (hexDigit d :: text) :=
  h.cons (readLiteralFrom_digit (hexValue?_hexDigit d hd) high left value) rfl

/-- The four digits of a character that is no half of another one. -/
theorem ends_hexFixed {n : Nat} (hn : n < 0xD800) {text : List Char}
    (h : Ends (readLiteralFrom .plain) text) :
    Ends (readLiteralFrom (.hex none 3 0)) (hexFixed 4 n ++ text) := by
  have hmod : ∀ m, m % 16 < 16 := fun m => Nat.mod_lt m (by decide)
  rw [hexFixed_four]
  refine ends_digit (hmod _) (ends_digit (hmod _) (ends_digit (hmod _) ?_))
  refine (ends_withFirst h (Char.ofNat n)).cons (fun cs => ?_) rfl
  have hvalue : (((0 * 16 + n / 16 / 16 / 16 % 16) * 16 + n / 16 / 16 % 16) * 16 +
      n / 16 % 16) * 16 + n % 16 = n := by omega
  rw [readLiteralFrom_lastDigit (hexValue?_mod n), hvalue, joinUnits_alone (.inl hn), readUnit]

theorem ends_short {c d : Char} (hu : c ≠ 'u') (hd : shortEscape? c = some d) {text : List Char}
    (h : Ends (readLiteralFrom .plain) text) :
    Ends (readLiteralFrom .plain) ('\\' :: c :: text) := by
  have escaped : Ends (readLiteralFrom .escaped) (c :: text) :=
    (ends_withFirst h d).cons (fun cs => by simp [readLiteralFrom, hu, hd]) rfl
  exact escaped.cons (fun cs => by simp [readLiteralFrom]) rfl

/-- A cut inside an escape, or behind it. -/
theorem ends_escape (c : Char) {text : List Char} (h : Ends (readLiteralFrom .plain) text) :
    Ends (readLiteralFrom .plain) (escape c ++ text) := by
  unfold escape
  split_ifs with quote slash b f n r t control
  · exact ends_short (by decide) (d := '"') rfl h
  · exact ends_short (by decide) (d := '\\') rfl h
  · exact ends_short (by decide) (d := Char.ofNat 0x08) rfl h
  · exact ends_short (by decide) (d := Char.ofNat 0x0C) rfl h
  · exact ends_short (by decide) (d := '\n') rfl h
  · exact ends_short (by decide) (d := '\r') rfl h
  · exact ends_short (by decide) (d := '\t') rfl h
  · have digits := (ends_hexFixed (n := c.toNat) (by omega) h).fourBytes
    have escaped : Ends (readLiteralFrom .escaped) ('u' :: (hexFixed 4 c.toNat ++ text)) :=
      digits.cons (fun cs => by simp [readLiteralFrom]) rfl
    exact escaped.cons (fun cs => by simp [readLiteralFrom]) rfl
  · exact (ends_withFirst h c).cons (fun cs => by simp [readLiteralFrom, quote, slash, control]) rfl

theorem ends_readLiteral (cs : List Char) : Ends readLiteral (cs.flatMap escape ++ ['"']) := by
  induction cs with
  | nil => exact Ends.singleton rfl
  | cons c cs ih =>
    rw [List.flatMap_cons, List.append_assoc]
    exact ends_escape c ih

theorem ends_quote {β : Type} {read : List Char → Except ReadError β}
    {f : List Char × List Char → β} (step : ∀ cs, read ('"' :: cs) = (readLiteral cs).map f)
    (nil : read [] = .error .ended) (cs : List Char) : Ends read (quote cs) := by
  have hquote : quote cs = '"' :: (cs.flatMap escape ++ ['"']) := by simp [quote]
  rw [hquote]
  exact ((ends_readLiteral cs).map f).cons step nil

theorem ends_readString (cs : List Char) : Ends readString (quote cs) :=
  ends_quote (fun cs => (congrFun Except.map_id (readLiteral cs)).symm) rfl cs

theorem ends_readColon : Ends readColon [':'] := Ends.singleton rfl

theorem ends_nextKey (key : List Char) : Ends (nextKey true) (quote key) :=
  ends_quote (fun _ => rfl) rfl key

theorem ends_nextKey_comma (key : List Char) : Ends (nextKey false) (',' :: quote key) := by
  have behind : Ends (fun cs => nextKey false (',' :: cs)) (quote key) :=
    ends_quote (fun _ => rfl) rfl key
  exact behind.cons (fun _ => rfl) rfl

end Json

namespace Event
open Json

theorem ends_memberFrom {first : Bool} {text : List Char} (h : Ends (nextKey first) text) :
    Ends (memberFrom first) text := by
  intro part hp hne
  rw [memberFrom, nextMember, h part hp hne]
  rfl

theorem ends_finish (value : List Char) : Ends (finish value) ['\x7d'] := Ends.singleton rfl

theorem ends_readName : Ends readName (quote gameName.toList) := by
  intro part hp hne
  rw [readName, ends_readString _ part hp hne]
  rfl

theorem ends_readTag : Ends readTag (quote gameName.toList) := by
  intro part hp hne
  cases part with
  | nil => rfl
  | cons c part => 
    obtain ⟨rfl, -⟩ := List.cons_prefix_cons.1 hp
    exact ends_readName _ hp hne

theorem ends_readObject (value : List Char) : Ends readObject
    (quote nameKey ++ ([':'] ++ (quote gameName.toList ++ ((',' :: quote valueKey) ++
      ([':'] ++ (quote value ++ ['\x7d'])))))) := by
  refine (ends_memberFrom (ends_nextKey nameKey)).bind
    (fun rest => memberFrom_key (nextKey_quote nameKey rest) rfl) ?_
  refine ends_readColon.bind readColon_colon ?_
  refine ends_readTag.bind readTag_quote ?_
  refine (ends_memberFrom (ends_nextKey_comma valueKey)).bind
    (fun rest => memberFrom_key (nextKey_comma valueKey rest) rfl) ?_
  refine ends_readColon.bind readColon_colon ?_
  refine (ends_readString value).bind (readString_quote value) ?_
  exact ends_finish value

theorem ends_parseChars (e : Event) : Ends parseChars e.jsonChars := by
  obtain ⟨value⟩ := e
  rw [jsonChars_eq]
  exact ((ends_readObject value.toList).andThen _).cons (fun _ => rfl) rfl

/-- What stands behind an event decides whether its text is accepted. -/
theorem parseChars_append (e : Event) (tail : List Char) : parseChars (e.jsonChars ++ tail) =
    if (skipBlank tail).isEmpty then .ok e else .error .malformed := by
  obtain ⟨value⟩ := e
  rw [jsonChars_eq]
  simp only [List.cons_append, List.append_assoc, List.nil_append]
  rw [parseChars, skipBlank_of_mark rfl]
  simp only [readObject_members, String.ofList_toList]
  rfl

theorem isEmpty_skipBlank_iff {cs : List Char} :
    (skipBlank cs).isEmpty = true ↔ ∀ c ∈ cs, isBlank c = true := by
  rw [List.isEmpty_iff, skipBlank, List.dropWhile_eq_nil_iff]

/-- The text of an event cut off anywhere, down to the empty one, is found ended. With nothing but
blanks behind it, it is the event, and with anything else behind it, it is malformed. -/
theorem parse_cut_or_extended (e : Event) :
    (∀ part : String, part.toList <+: e.json.toList → part ≠ e.json →
      parse part = .error .ended) ∧
    (∀ tail : String, (∀ c ∈ tail.toList, isBlank c = true) → parse (e.json ++ tail) = .ok e) ∧
    ∀ tail : String, (∃ c ∈ tail.toList, isBlank c = false) →
      parse (e.json ++ tail) = .error .malformed := by
  have extended (tail : String) : parse (e.json ++ tail) =
      if (skipBlank tail.toList).isEmpty then .ok e else .error .malformed := by
    rw [parse, String.toList_append, json, String.toList_ofList, parseChars_append]
  refine ⟨fun part hp hne => ?_, fun tail blank => ?_, fun tail other => ?_⟩
  · rw [json, String.toList_ofList] at hp
    refine ends_parseChars e part.toList hp fun he => hne ?_
    rw [json, ← he, String.ofList_toList]
  · rw [extended, if_pos (isEmpty_skipBlank_iff.2 blank)]
  · rw [extended, if_neg]
    rw [isEmpty_skipBlank_iff]
    obtain ⟨c, hc, hblank⟩ := other
    exact fun blank => by simp [blank c hc] at hblank

/-- A control character, cut inside the four digits of its escape. -/
theorem parse_cut_or_extended_control :
    parse "\x7b\"event\":\"game\",\"value\":\"\\u00" = .error .ended ∧
    parse ((game "\x01").json ++ "\t\r\n ") = .ok (game "\x01") ∧
    parse ((game "\x01").json ++ " \u00A0") = .error .malformed := by
  obtain ⟨cut, blank, other⟩ := parse_cut_or_extended (game "\x01")
  exact ⟨cut _ (by decide) (by decide), blank _ (List.all_eq_true.1 (by decide)),
    other _ ⟨'\u00A0', by decide, rfl⟩⟩

end Event
end ActivityRelay
