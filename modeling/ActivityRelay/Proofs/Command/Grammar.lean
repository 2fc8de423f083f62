import ActivityRelay.Command

/-! The written form of a command: three fields with one space between two of them, and behind the
third the end or a further space. A line asks for an activity exactly if it has this form and its
third character, in whatever field that stands, is a `g`. -/
namespace ActivityRelay
namespace Command
open Text

/-- A line cut behind its third field. -/
structure Cut where
  first : String
  second : String
  value : String
  /-- What stands behind the third field. -/
  rest : String
  first_unspaced : ' ' ∉ first.toList
  second_unspaced : ' ' ∉ second.toList
  value_unspaced : ' ' ∉ value.toList
  value_ne : value ≠ ""
  rest_begins : rest = "" ∨ rest.toList.head? = some ' '

namespace Cut

def line (c : Cut) : String := c.first ++ " " ++ c.second ++ " " ++ c.value ++ c.rest

theorem toList_line (c : Cut) : c.line.toList =
    c.first.toList ++ ' ' :: (c.second.toList ++ ' ' :: (c.value.toList ++ c.rest.toList)) := by
  simp [line]

/-- The pieces of a line begin with the three fields that it was put together from. -/
theorem pieces_line (c : Cut) : ∃ more, pieces ' ' c.line.toList =
    c.first.toList :: c.second.toList :: c.value.toList :: more := by
  rw [toList_line, pieces_append_sep _ _ c.first_unspaced, pieces_append_sep _ _ c.second_unspaced]
  rcases c.rest_begins with hrest | hrest
  · refine ⟨[], ?_⟩
    rw [hrest, String.toList_empty, List.append_nil, pieces_of_not_mem _ c.value_unspaced]
  · obtain ⟨tail, htail⟩ := List.head?_eq_some_iff.1 hrest
    refine ⟨pieces ' ' tail, ?_⟩
    rw [htail, pieces_append_sep _ _ c.value_unspaced]

/-- A line is cut in one way only. -/
theorem line_injective : Function.Injective line := by
  intro c d h
  obtain ⟨more, hc⟩ := c.pieces_line
  obtain ⟨more', hd⟩ := d.pieces_line
  rw [h, hd] at hc
  simp only [List.cons.injEq, String.toList_inj] at hc
  obtain ⟨hfirst, hsecond, hvalue, -⟩ := hc
  have hrest : c.rest = d.rest := by
    have hlines := c.toList_line
    rw [h, d.toList_line, hfirst, hsecond, hvalue] at hlines
    simpa [String.toList_inj] using hlines.symm
  cases c
  cases d
  simp_all

end Cut

theorem pieces_eq_cons_cons {sep : Char} {cs f g : List Char} {fs : List (List Char)}
    (h : pieces sep cs = f :: g :: fs) :
    sep ∉ f ∧ ∃ rest, cs = f ++ sep :: rest ∧ pieces sep rest = g :: fs := by
  obtain ⟨hf, hrest⟩ := pieces_eq_cons h
  refine ⟨hf, hrest.resolve_left ?_⟩
  simp

/-- A line with a third piece that is not empty can be cut behind it. -/
theorem exists_cut {cs value : List Char} (h : (pieces ' ' cs)[2]? = some value)
    (hne : value ≠ []) : ∃ c : Cut, c.line = String.ofList cs ∧ c.value = String.ofList value := by
  obtain ⟨first, second, more, hp⟩ : ∃ first second more,
      pieces ' ' cs = first :: second :: value :: more := by
    match hp : pieces ' ' cs, h with
    | first :: second :: third :: more, h =>
      cases h
      exact ⟨first, second, more, rfl⟩
  obtain ⟨hfirst, behind, hcs, hp⟩ := pieces_eq_cons_cons hp
  obtain ⟨hsecond, behind', hbehind, hp⟩ := pieces_eq_cons_cons hp
  obtain ⟨hvalue, hend⟩ := pieces_eq_cons hp
  obtain ⟨rest, hbehind', hbegins⟩ : ∃ rest, behind' = value ++ rest ∧
      (rest = [] ∨ rest.head? = some ' ') := by
    rcases hend with ⟨-, he⟩ | ⟨tail, he, -⟩
    · exact ⟨[], by rw [he, List.append_nil], .inl rfl⟩
    · exact ⟨' ' :: tail, he, .inr rfl⟩
  let c : Cut :=
    { first := String.ofList first
      second := String.ofList second
      value := String.ofList value
      rest := String.ofList rest
      first_unspaced := by simpa using hfirst
      second_unspaced := by simpa using hsecond
      value_unspaced := by simpa using hvalue
      value_ne := by simpa using hne
      rest_begins := by simpa using hbegins }
  refine ⟨c, ?_, rfl⟩
  apply String.toList_injective
  rw [c.toList_line, hcs, hbehind, hbehind']
  simp [c]

/-- A further space and whatever stands behind it belong to the rest. -/
def Cut.extend (c : Cut) (tail : String) : Cut :=
  { c with
    rest := c.rest ++ " " ++ tail
    rest_begins := by
      right
      rcases c.rest_begins with h | h
      · simp [h]
      · obtain ⟨more, hmore⟩ := List.head?_eq_some_iff.1 h
        simp [hmore] }

theorem Cut.line_extend (c : Cut) (tail : String) :
    (c.extend tail).line = c.line ++ " " ++ tail := by
  simp [Cut.line, Cut.extend, String.append_assoc]

/-- The fields in which the third character of a line can stand. -/
inductive Place where
  | first
  | second
  | value
  deriving DecidableEq, Repr

/-- Whether the third character of a line is a `g` and stands in a field. -/
def Cut.Marked (c : Cut) : Place → Prop
  | .first => c.first.toList[2]? = some 'g'
  | .second => c.first.length < 2 ∧ c.second.toList[1 - c.first.length]? = some 'g'
  | .value => c.first = "" ∧ c.second = "" ∧ c.value.toList[0]? = some 'g'

instance (c : Cut) : (place : Place) → Decidable (c.Marked place)
  | .first => inferInstanceAs (Decidable (c.first.toList[2]? = some 'g'))
  | .second => inferInstanceAs (Decidable (_ ∧ c.second.toList[1 - c.first.length]? = some 'g'))
  | .value => inferInstanceAs (Decidable (_ ∧ _ ∧ c.value.toList[0]? = some 'g'))

/-- Where the sentinel stands: in the first field, or in the second one behind a first of one
character at most, or in front of the third one behind two empty ones. -/
theorem Cut.marked_iff (c : Cut) : c.line.toList[2]? = some 'g' ↔ ∃ place, c.Marked place := by
  have hplace : (∃ place, c.Marked place) ↔
      c.Marked .first ∨ c.Marked .second ∨ c.Marked .value := by
    constructor
    · rintro ⟨_ | _ | _, h⟩
      · exact .inl h
      · exact .inr (.inl h)
      · exact .inr (.inr h)
    · rintro (h | h | h) <;> exact ⟨_, h⟩
  rw [hplace, toList_line]
  simp only [Marked, ← String.length_toList, ← String.toList_eq_nil_iff]
  match c.first.toList with
  | [] =>
    match c.second.toList with
    | [] =>
      have hv : c.value.toList ≠ [] := by simpa using c.value_ne
      cases hc : c.value.toList with
      | nil => exact absurd hc hv
      | cons v vs => simp
    | [b] => simp
    | b :: d :: tail => simp
  | [a] =>
    match c.second.toList with
    | [] => simp
    | b :: tail => simp
  | [a, b] => simp
  | a :: b :: d :: tail =>
    have hlong : ¬ tail.length + 1 + 1 + 1 < 2 := by omega
    simp [hlong]

theorem exists_marked (place : Place) : ∃ c : Cut, c.Marked place := by
  cases place with
  | first =>
    exact ⟨⟨"aag", "n", "v", "", by decide, by decide, by decide, by decide, by decide⟩, by decide⟩
  | second =>
    exact ⟨⟨"a", "g", "v", "", by decide, by decide, by decide, by decide, by decide⟩, by decide⟩
  | value =>
    exact ⟨⟨"", "", "g", "", by decide, by decide, by decide, by decide, by decide⟩, by decide⟩

theorem value?_eq_some_iff {cs value : List Char} : value? cs = some value ↔
    cs[2]? = some 'g' ∧ (pieces ' ' cs)[2]? = some value ∧ value ≠ [] := by
  unfold value?
  split
  · next hg => simp [hg, Option.filter_eq_some_iff]
  · next hg => simp [hg]

theorem classify_eq_setActivity_iff {raw v : String} : classify raw = .setActivity v ↔
    raw.toList[2]? = some 'g' ∧ ∃ c : Cut, c.line = raw ∧ c.value = v := by
  have hvalue : classify raw = .setActivity v ↔ value? raw.toList = some v.toList := by
    unfold classify
    cases h : value? raw.toList with
    | none => simp
    | some value => simp [← String.toList_inj]
  rw [hvalue, value?_eq_some_iff]
  constructor
  · rintro ⟨hg, hthird, hne⟩
    obtain ⟨c, hline, hc⟩ := exists_cut hthird hne
    exact ⟨hg, c, by simpa using hline, by simpa using hc⟩
  · rintro ⟨hg, c, rfl, rfl⟩
    obtain ⟨more, hp⟩ := c.pieces_line
    refine ⟨hg, by rw [hp]; rfl, by simpa using c.value_ne⟩

theorem classify_eq_plain_iff {raw : String} : classify raw = .plain raw ↔
    ¬ (raw.toList[2]? = some 'g' ∧ ∃ c : Cut, c.line = raw) := by
  have hplain : classify raw = .plain raw ↔ ¬ ∃ v, classify raw = .setActivity v := by
    unfold classify
    cases value? raw.toList <;> simp
  rw [hplain, not_congr]
  constructor
  · rintro ⟨v, hv⟩
    obtain ⟨hg, c, hline, -⟩ := classify_eq_setActivity_iff.1 hv
    exact ⟨hg, c, hline⟩
  · rintro ⟨hg, c, hline⟩
    exact ⟨c.value, classify_eq_setActivity_iff.2 ⟨hg, c, hline, rfl⟩⟩

/-- A line asks for an activity exactly if its third character is a `g` and it is cut into fields,
of which the third one, not empty, names the activity; any other line is plain. There is one way to
cut a line, the `g` stands in some field of it and can stand in each, and what follows behind a
further space is of no concern. -/
theorem classify_grammar (raw v : String) :
    (classify raw = .setActivity v ↔
      raw.toList[2]? = some 'g' ∧ ∃ c : Cut, c.line = raw ∧ c.value = v) ∧
    (classify raw = .plain raw ↔ ¬ (raw.toList[2]? = some 'g' ∧ ∃ c : Cut, c.line = raw)) ∧
    (∀ c d : Cut, c.line = raw → d.line = raw → c = d) ∧
    (∀ c : Cut, c.line = raw → (raw.toList[2]? = some 'g' ↔ ∃ place, c.Marked place)) ∧
    (∀ place, ∃ c : Cut, c.Marked place ∧ classify c.line = .setActivity c.value) ∧
    ∀ tail, classify raw = .setActivity v → classify (raw ++ " " ++ tail) = .setActivity v := by
  refine ⟨classify_eq_setActivity_iff, classify_eq_plain_iff, ?_, ?_, ?_, ?_⟩
  · intro c d hc hd
    exact Cut.line_injective (hc.trans hd.symm)
  · rintro c rfl
    exact c.marked_iff
  · intro place
    obtain ⟨c, hc⟩ := exists_marked place
    exact ⟨c, hc, classify_eq_setActivity_iff.2 ⟨c.marked_iff.2 ⟨place, hc⟩, c, rfl, rfl⟩⟩
  · intro tail h
    obtain ⟨hg, c, hline, hvalue⟩ := classify_eq_setActivity_iff.1 h
    have hg' : (raw ++ " " ++ tail).toList[2]? = some 'g' := by
      obtain ⟨hlt, -⟩ := List.getElem?_eq_some_iff.1 hg
      rw [String.toList_append, String.toList_append, List.append_assoc,
        List.getElem?_append_left hlt, hg]
    have hline' : (c.extend tail).line = raw ++ " " ++ tail := by rw [c.line_extend, hline]
    exact classify_eq_setActivity_iff.2 ⟨hg', c.extend tail, hline', hvalue⟩

example : classify "  g rest" = .setActivity "g" := by decide

end Command
end ActivityRelay
