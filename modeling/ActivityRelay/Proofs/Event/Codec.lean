import ActivityRelay.Event.Reader
import ActivityRelay.Proofs.Json.Literal
import Mathlib.Logic.Function.Basic

/-! An event and its text: what is written for an event is read back as that event, whatever
characters its value is made of. -/
namespace ActivityRelay

namespace Json

theorem quote_append (cs rest : List Char) :
    quote cs ++ rest = '"' :: (cs.flatMap escape ++ '"' :: rest) := by simp [quote]

theorem readString_quote (cs rest : List Char) :
    readString (quote cs ++ rest) = .ok (cs, rest) := by
  rw [quote_append, readString, skipBlank_of_mark rfl]
  exact readLiteral_flatMap_escape cs rest

theorem readColon_colon (rest : List Char) : readColon (':' :: rest) = .ok rest := rfl

theorem nextKey_quote (key rest : List Char) :
    nextKey true (quote key ++ rest) = .ok (some key, rest) := by
  rw [quote_append, nextKey, skipBlank_of_mark rfl]
  simp [readLiteral_flatMap_escape, Except.map]

theorem nextKey_comma (key rest : List Char) :
    nextKey false (',' :: (quote key ++ rest)) = .ok (some key, rest) := by
  rw [quote_append, nextKey, skipBlank_of_mark rfl]
  simp [skipBlank_of_mark (c := '"') rfl, readLiteral_flatMap_escape, Except.map]

theorem nextKey_close (first : Bool) (rest : List Char) :
    nextKey first ('\x7d' :: rest) = .ok (none, rest) := by
  rw [nextKey, skipBlank_of_mark rfl]
  rfl

end Json

namespace Event
open Json

theorem memberFrom_key {first : Bool} {cs key rest : List Char} {m : Member}
    (hk : nextKey first cs = .ok (some key, rest)) (hm : member? key = some m) :
    memberFrom first cs = .ok (some m, rest) := by
  simp [memberFrom, nextMember, hk, hm, bind, Except.bind]

theorem memberFrom_close (first : Bool) (rest : List Char) :
    memberFrom first ('\x7d' :: rest) = .ok (none, rest) := by
  simp [memberFrom, nextMember, nextKey_close, bind, Except.bind]

theorem readName_quote (rest : List Char) :
    readName (quote gameName.toList ++ rest) = .ok rest := by
  simp [readName, readString_quote, bind, Except.bind]

theorem readTag_quote (rest : List Char) :
    readTag (quote gameName.toList ++ rest) = .ok rest := by
  have h := readName_quote rest
  rw [quote_append] at h ⊢
  rw [readTag, skipBlank_of_mark rfl]
  exact h

theorem finish_close (value rest : List Char) :
    finish value ('\x7d' :: rest) = .ok (.game (String.ofList value), rest) := by
  simp [finish, memberFrom_close, bind, Except.bind]

/-- The text of an event as the reader meets it: each member behind its mark. -/
theorem jsonChars_eq (value : String) : (game value).jsonChars =
    '\x7b' :: (quote nameKey ++ ':' :: (quote gameName.toList ++ ',' :: (quote valueKey ++
      ':' :: (quote value.toList ++ ['\x7d'])))) := by
  simp [jsonChars, name, Event.value]

theorem readObject_members (value rest : List Char) :
    readObject (quote nameKey ++ ':' :: (quote gameName.toList ++ ',' :: (quote valueKey ++
      ':' :: (quote value ++ '\x7d' :: rest)))) = .ok (.game (String.ofList value), rest) := by
  simp [readObject, memberFrom_key (nextKey_quote nameKey _) (m := .name) rfl, readColon_colon,
    readTag_quote, memberFrom_key (nextKey_comma valueKey _) (m := .value) rfl, readString_quote,
    finish_close, bind, Except.bind]

theorem parse_json_game (value : String) : parse (game value).json = .ok (.game value) := by
  rw [parse, json, String.toList_ofList, jsonChars_eq, parseChars, skipBlank_of_mark rfl]
  simp only [readObject_members, String.ofList_toList]
  rfl

/-- Marks, keys and values alike are written without control characters. -/
theorem printable_jsonChars (e : Event) : ∀ c ∈ e.jsonChars, 0x20 ≤ c.toNat := by
  intro c hc
  simp only [jsonChars, List.mem_append, List.mem_singleton] at hc
  rcases hc with ((((((((rfl | hc) | rfl) | hc) | rfl) | hc) | rfl) | hc) | rfl)
  · decide
  · exact printable_quote nameKey c hc
  · decide
  · exact printable_quote e.name.toList c hc
  · decide
  · exact printable_quote valueKey c hc
  · decide
  · exact printable_quote e.value.toList c hc
  · decide

/-- The text of an event is read back as that event; so no two events share a text, and there is no
raw control character in it. -/
theorem parse_json : (∀ value, parse (game value).json = .ok (.game value)) ∧
    Function.Injective json ∧ ∀ e : Event, ∀ c ∈ e.json.toList, 0x20 ≤ c.toNat := by
  refine ⟨parse_json_game, fun e e' h => ?_, fun e => ?_⟩
  · cases e with
    | game value =>
      cases e' with
      | game value' =>
        have hp := parse_json_game value
        rw [h, parse_json_game value', Except.ok.injEq] at hp
        exact hp.symm
  · rw [json, String.toList_ofList]
    exact printable_jsonChars e

end Event
end ActivityRelay
