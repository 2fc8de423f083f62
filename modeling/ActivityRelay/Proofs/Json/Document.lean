import ActivityRelay.Proofs.Json.Grammar

/-! What a JSON text denotes: a document of any depth, the reader that makes it of the text, and the
text without blanks that it is written as. The reader gets back what was written. -/
namespace ActivityRelay.Json
open Text

/-- A document; its words and numbers are kept as they are written. -/
inductive Document where
  | token (cs : List Char)
  | text (cs : List Char)
  | array (items : List Document)
  | object (members : List (List Char × Document))

mutual

/-- Reads a document behind blanks; `fuel` bounds the steps. -/
def readDocument : (fuel : Nat) → List Char → Except ReadError (Document × List Char)
  | 0, _ => .error .ended
  | fuel + 1, cs =>
    match skipBlank cs with
    | [] => .error .ended
    | c :: rest =>
      if c = '[' then
        if closesWith ']' rest then .ok (.array [], (skipBlank rest).tail)
        else (readItems fuel rest).map fun r => (.array r.1, r.2)
      else if c = '\x7b' then
        if closesWith '\x7d' rest then .ok (.object [], (skipBlank rest).tail)
        else (readMembers fuel rest).map fun r => (.object r.1, r.2)
      else if c = '"' then (readLiteral rest).map fun r => (.text r.1, r.2)
      else (readScalar .passed c rest).map fun behind =>
        (.token ((c :: rest).take (rest.length + 1 - behind.length)), behind)

/-- Reads the items of an array, from an item on. -/
def readItems : (fuel : Nat) → List Char → Except ReadError (List Document × List Char)
  | 0, _ => .error .ended
  | fuel + 1, cs => do
    let (d, rest) ← readDocument fuel cs
    match skipBlank rest with
    | [] => .error .ended
    | c :: rest =>
      if c = ',' then (readItems fuel rest).map fun r => (d :: r.1, r.2)
      else if c = ']' then .ok ([d], rest)
      else .error .malformed

/-- Reads the members of an object, from a key on. -/
def readMembers : (fuel : Nat) → List Char →
    Except ReadError (List (List Char × Document) × List Char)
  | 0, _ => .error .ended
  | fuel + 1, cs =>
    match skipBlank cs with
    | [] => .error .ended
    | c :: rest =>
      if c = '"' then do
        let (key, rest) ← readLiteral rest
        let rest ← readColon rest
        let (d, rest) ← readDocument fuel rest
        match skipBlank rest with
        | [] => .error .ended
        | c :: rest =>
          if c = ',' then (readMembers fuel rest).map fun r => ((key, d) :: r.1, r.2)
          else if c = '\x7d' then .ok ([(key, d)], rest)
          else .error .malformed
      else .error .malformed

end

namespace Document

/-- The document that a whole text denotes. -/
def read? (cs : List Char) : Option Document :=
  match readDocument (2 * cs.length + 2) cs with
  | .ok (d, rest) => if skipBlank rest = [] then some d else none
  | .error _ => none

mutual

/-- The text of a document, without blanks. -/
def write : Document → List Char
  | .token cs => cs
  | .text cs => quote cs
  | .array items => '[' :: (writeItems items ++ [']'])
  | .object members => '\x7b' :: (writeMembers members ++ ['\x7d'])

def writeItems : List Document → List Char
  | [] => []
  | [d] => d.write
  | d :: e :: ds => d.write ++ ',' :: writeItems (e :: ds)

def writeMembers : List (List Char × Document) → List Char
  | [] => []
  | [(key, d)] => quote key ++ ':' :: d.write
  | (key, d) :: m :: ms => quote key ++ ':' :: (d.write ++ ',' :: writeMembers (m :: ms))

end

/-- A word or a number, which its first character tells from a literal and from a bracket. -/
structure IsToken (cs : List Char) : Prop where
  written : Written .value cs
  first : ∀ c ∈ cs.head?, isBlank c = false ∧ c ≠ '[' ∧ c ≠ '\x7b' ∧ c ≠ '"'

theorem isToken_of_unsigned {cs : List Char} (h : Unsigned cs) : IsToken cs := by
  refine ⟨.number h, fun d hd => ?_⟩
  obtain ⟨c, tail, rfl, hc⟩ := h.exists_cons
  obtain rfl := Option.some.inj hd
  exact ⟨isBlank_of_isDigit hc, ne_of_isDigit hc rfl, ne_of_isDigit hc rfl, ne_of_isDigit hc rfl⟩

/-- A document whose tokens are words and numbers. -/
inductive Valid : Document → Prop
  | token {cs : List Char} (h : IsToken cs) : Valid (.token cs)
  | text (cs : List Char) : Valid (.text cs)
  | array {items : List Document} (h : ∀ d ∈ items, Valid d) : Valid (.array items)
  | object {members : List (List Char × Document)} (h : ∀ m ∈ members, Valid m.2) :
    Valid (.object members)

variable {d : Document} {rest : List Char}

theorem IsToken.exists_cons {cs : List Char} (h : IsToken cs) :
    ∃ c tail, cs = c :: tail ∧ c ≠ ']' := by
  obtain ⟨ws, c, tail, rfl, hws, -, hc, -⟩ := h.written.exists_mark
  cases ws with
  | nil => exact ⟨c, tail, rfl, hc⟩
  | cons w ws =>
    have hblank := hws w List.mem_cons_self
    rw [(h.first w rfl).1] at hblank
    cases hblank

/-- What is written begins with a mark, and with none that ends an array. -/
theorem Valid.exists_mark (h : Valid d) :
    ∃ c tail, d.write = c :: tail ∧ isBlank c = false ∧ c ≠ ']' := by
  cases h with
  | token h =>
    obtain ⟨c, tail, rfl, hc⟩ := h.exists_cons
    exact ⟨c, tail, rfl, (h.first c rfl).1, hc⟩
  | text cs => exact ⟨'"', _, rfl, rfl, by decide⟩
  | array => exact ⟨'[', _, by rw [write], rfl, by decide⟩
  | object => exact ⟨'\x7b', _, by rw [write], rfl, by decide⟩

/-- That a document is read back, if the steps allow for its length. -/
def Reads (d : Document) : Prop := ∀ fuel rest, 2 * d.write.length ≤ fuel → Apart rest →
  readDocument fuel (d.write ++ rest) = .ok (d, rest)

theorem reads_token {cs : List Char} (h : IsToken cs) : Reads (.token cs) := by
  intro fuel rest hfuel hrest
  obtain ⟨c, tail, rfl, -⟩ := h.exists_cons
  obtain ⟨hblank, hitems, hmembers, hquote⟩ := h.first c rfl
  have hskipped := h.written.skipped _ _ rest (Nat.le_refl _) (Nat.le_refl _) hrest
  rw [write, List.length_cons] at hfuel
  rw [List.length_cons, Nat.mul_add, List.cons_append, readPart,
    skipBlank_of_mark hblank] at hskipped
  simp only [hitems, hmembers, or_self, if_false] at hskipped
  obtain ⟨fuel, rfl⟩ := Nat.exists_eq_add_one_of_ne_zero (show fuel ≠ 0 by omega)
  have hlength : (tail ++ rest).length + 1 - rest.length = (c :: tail).length := by
    rw [List.length_append, List.length_cons]
    omega
  rw [write, List.cons_append, readDocument, skipBlank_of_mark hblank]
  simp only [hitems, hmembers, hquote, if_false, hskipped, Except.map, hlength, ← List.cons_append,
    List.take_left]

theorem reads_text (cs : List Char) : Reads (.text cs) := by
  intro fuel rest hfuel _
  have hquote : quote cs ++ rest = '"' :: (cs.flatMap escape ++ '"' :: rest) := by simp [quote]
  have hlength : (quote cs).length ≠ 0 := by simp [quote]
  rw [write] at hfuel ⊢
  obtain ⟨fuel, rfl⟩ := Nat.exists_eq_add_one_of_ne_zero (show fuel ≠ 0 by omega)
  rw [hquote, readDocument, skipBlank_of_mark rfl]
  simp [readLiteral_flatMap_escape, Except.map]

/-- Items are read up to the end of their array. -/
theorem readItems_write {items : List Document} (ih : ∀ d ∈ items, Reads d) (hne : items ≠ [])
    {fuel : Nat} (hfuel : 2 * (writeItems items).length < fuel) (rest : List Char) :
    readItems fuel (writeItems items ++ ']' :: rest) = .ok (items, rest) := by
  induction items generalizing fuel with
  | nil => exact absurd rfl hne
  | cons d ds ihds =>
    obtain ⟨hd, hds⟩ := List.forall_mem_cons.1 ih
    obtain ⟨fuel, rfl⟩ := Nat.exists_eq_add_one_of_ne_zero (show fuel ≠ 0 by omega)
    cases ds with
    | nil =>
      rw [writeItems] at hfuel ⊢
      rw [readItems, hd fuel _ (by omega) (apart_cons (.inr (.inl rfl)) rest)]
      simp [bind, Except.bind, skipBlank_of_mark (c := ']') rfl]
    | cons e ds =>
      rw [writeItems, List.length_append, List.length_cons] at hfuel
      rw [writeItems, List.append_assoc, List.cons_append, readItems,
        hd fuel _ (by omega) (apart_cons (.inl rfl) _)]
      simp [bind, Except.bind, skipBlank_of_mark (c := ',') rfl,
        ihds hds (by simp) (show 2 * (writeItems (e :: ds)).length < fuel by omega), Except.map]

/-- A key and its value lead to the mark behind them. -/
theorem readMembers_member (hd : Reads d) {fuel : Nat} (hfuel : 2 * d.write.length ≤ fuel)
    (key : List Char) {c : Char} (hc : c = ',' ∨ c = '\x7d') (rest : List Char) :
    readMembers (fuel + 1) (quote key ++ ':' :: (d.write ++ c :: rest)) =
      if c = ',' then (readMembers fuel rest).map fun r => ((key, d) :: r.1, r.2)
      else .ok ([(key, d)], rest) := by
  have hquote : quote key ++ ':' :: (d.write ++ c :: rest) =
      '"' :: (key.flatMap escape ++ '"' :: ':' :: (d.write ++ c :: rest)) := by simp [quote]
  have hcolon : readColon (':' :: (d.write ++ c :: rest)) = .ok (d.write ++ c :: rest) := rfl
  have hapart : Apart (c :: rest) := apart_cons (hc.imp_right .inr) rest
  have hblank : isBlank c = false := by rcases hc with rfl | rfl <;> rfl
  rw [hquote, readMembers, skipBlank_of_mark rfl]
  simp only [if_true, readLiteral_flatMap_escape, hcolon, hd fuel _ hfuel hapart, bind, Except.bind,
    skipBlank_of_mark hblank]
  rcases hc with rfl | rfl <;> rfl

/-- Members are read up to the end of their object. -/
theorem readMembers_write {members : List (List Char × Document)}
    (ih : ∀ m ∈ members, Reads m.2) (hne : members ≠ []) {fuel : Nat}
    (hfuel : 2 * (writeMembers members).length < fuel) (rest : List Char) :
    readMembers fuel (writeMembers members ++ '\x7d' :: rest) = .ok (members, rest) := by
  induction members generalizing fuel with
  | nil => exact absurd rfl hne
  | cons m ms ihms =>
    obtain ⟨key, d⟩ := m
    obtain ⟨hd, hms⟩ : Reads d ∧ ∀ m ∈ ms, Reads m.2 := List.forall_mem_cons.1 ih
    obtain ⟨fuel, rfl⟩ := Nat.exists_eq_add_one_of_ne_zero (show fuel ≠ 0 by omega)
    cases ms with
    | nil =>
      simp only [writeMembers, List.length_append, List.length_cons] at hfuel
      simp only [writeMembers, List.append_assoc, List.cons_append]
      exact readMembers_member hd (by omega) key (.inr rfl) rest
    | cons m ms =>
      simp only [writeMembers, List.length_append, List.length_cons] at hfuel
      simp only [writeMembers, List.append_assoc, List.cons_append]
      rw [readMembers_member hd (by omega) key (.inl rfl), if_pos rfl,
        ihms hms (by simp) (show 2 * (writeMembers (m :: ms)).length < fuel by omega)]
      rfl

/-- A document is read back, whatever stands behind it. -/
theorem Valid.reads (h : Valid d) : Reads d := by
  induction h with
  | token h => exact reads_token h
  | text cs => exact reads_text cs
  | @array items h ih =>
    intro fuel rest hfuel _
    rw [write, List.length_cons, List.length_append, List.length_singleton] at hfuel
    obtain ⟨fuel, rfl⟩ := Nat.exists_eq_add_one_of_ne_zero (show fuel ≠ 0 by omega)
    rw [write, List.cons_append, readDocument, skipBlank_of_mark rfl]
    cases items with
    | nil => simp [writeItems, closesWith, skipBlank_of_mark (c := ']') rfl]
    | cons d ds =>
      have hopen : closesWith ']' (writeItems (d :: ds) ++ ']' :: rest) = false := by
        obtain ⟨c, tail, hd, hblank, hc⟩ := (h d List.mem_cons_self).exists_mark
        cases ds <;> simp [writeItems, hd, closesWith, skipBlank_of_mark hblank, hc]
      have hitems := readItems_write ih (by simp)
        (show 2 * (writeItems (d :: ds)).length < fuel by omega) rest
      simp [hopen, hitems, Except.map]
  | @object members h ih =>
    intro fuel rest hfuel _
    rw [write, List.length_cons, List.length_append, List.length_singleton] at hfuel
    obtain ⟨fuel, rfl⟩ := Nat.exists_eq_add_one_of_ne_zero (show fuel ≠ 0 by omega)
    rw [write, List.cons_append, readDocument, skipBlank_of_mark rfl]
    cases members with
    | nil => simp [writeMembers, closesWith, skipBlank_of_mark (c := '\x7d') rfl]
    | cons m ms =>
      have hopen : closesWith '\x7d' (writeMembers (m :: ms) ++ '\x7d' :: rest) = false := by
        cases ms <;> simp [writeMembers, quote, closesWith, skipBlank_of_mark (c := '"') rfl]
      have hmembers := readMembers_write ih (by simp)
        (show 2 * (writeMembers (m :: ms)).length < fuel by omega) rest
      simp [hopen, hmembers, Except.map]

/-- The text of a document denotes this document. -/
theorem read?_write (h : Valid d) : read? d.write = some d := by
  have hapart : Apart [] := by simp [Apart]
  have hread := h.reads (2 * d.write.length + 2) [] (by omega) hapart
  rw [List.append_nil] at hread
  simp [read?, hread, skipBlank]

mutual

/-- The document with every member of a given name emptied. -/
def blank (key : List Char) : Document → Document
  | .token cs => .token cs
  | .text cs => .text cs
  | .array items => .array (blankItems key items)
  | .object members => .object (blankMembers key members)

def blankItems (key : List Char) : List Document → List Document
  | [] => []
  | d :: ds => d.blank key :: blankItems key ds

def blankMembers (key : List Char) : List (List Char × Document) → List (List Char × Document)
  | [] => []
  | (name, d) :: ms =>
    (name, if name = key then .object [] else d.blank key) :: blankMembers key ms

end

theorem blankItems_eq_map (key : List Char) (items : List Document) :
    blankItems key items = items.map (blank key) := by
  induction items with
  | nil => rfl
  | cons d ds ih => rw [blankItems, ih, List.map_cons]

end Document
end ActivityRelay.Json
