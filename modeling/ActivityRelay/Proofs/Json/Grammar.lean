import ActivityRelay.Json.Value
import ActivityRelay.Proofs.Json.Literal
import Mathlib.Data.List.TakeWhile

/-! JSON as it may be written, phrase by phrase, and what the readers make of it: a literal is read
for the text that it spells, and a value of any kind is passed over, however deep it nests. -/
namespace ActivityRelay.Json
open Text

/-- White space between tokens. -/
def Blank (ws : List Char) : Prop := ∀ c ∈ ws, isBlank c = true

instance : DecidablePred Blank := fun ws => List.decidableBAll (isBlank · = true) ws

/-- The letters of the short escapes, each with the character that it stands for. -/
def shortEscapes : List (Char × Char) :=
  [('"', '"'), ('\\', '\\'), ('/', '/'), ('b', '\x08'), ('f', '\x0C'), ('n', '\n'), ('r', '\r'),
    ('t', '\t')]

/-- Four hexadecimal digits and the number that they denote. -/
def FourDigits (ds : List Char) (n : Nat) : Prop := ds.length = 4 ∧ hexRead? ds = some n

instance (ds : List Char) (n : Nat) : Decidable (FourDigits ds n) :=
  inferInstanceAs (Decidable (_ ∧ _))

/-- A character that may stand for itself between the marks of a literal. -/
def Plain (c : Char) : Prop := c ≠ '"' ∧ c ≠ '\\' ∧ 0x20 ≤ c.toNat

instance : DecidablePred Plain := fun _ => inferInstanceAs (Decidable (_ ∧ _ ∧ _))

/-- What may stand between the marks of a literal, whether or not it spells a text. -/
inductive Body : List Char → Prop
  | nil : Body []
  | plain {c : Char} {cs : List Char} (hc : Plain c) (h : Body cs) : Body (c :: cs)
  | short {e : Char × Char} {cs : List Char} (he : e ∈ shortEscapes) (h : Body cs) :
    Body ('\\' :: e.1 :: cs)
  | unit {ds cs : List Char} {n : Nat} (hds : FourDigits ds n) (h : Body cs) :
    Body ('\\' :: 'u' :: (ds ++ cs))

/-- What may stand between the marks of a literal that spells a text. A character beyond the first
plane is spelled by itself or by two units, and neither of these spells one alone. -/
inductive Spells : List Char → List Char → Prop
  | nil : Spells [] []
  | plain {c : Char} {cs text : List Char} (hc : Plain c) (h : Spells cs text) :
    Spells (c :: cs) (c :: text)
  | short {e : Char × Char} {cs text : List Char} (he : e ∈ shortEscapes) (h : Spells cs text) :
    Spells ('\\' :: e.1 :: cs) (e.2 :: text)
  | unit {ds cs text : List Char} {n : Nat} (hds : FourDigits ds n) (hn : n < 0xD800 ∨ 0xE000 ≤ n)
    (h : Spells cs text) : Spells ('\\' :: 'u' :: (ds ++ cs)) (Char.ofNat n :: text)
  | pair {ds es cs text : List Char} {high low : Nat} (hds : FourDigits ds high)
    (hes : FourDigits es low) (hhigh : 0xD800 ≤ high ∧ high < 0xDC00)
    (hlow : 0xDC00 ≤ low ∧ low < 0xE000) (h : Spells cs text) :
    Spells ('\\' :: 'u' :: (ds ++ '\\' :: 'u' :: (es ++ cs)))
      (Char.ofNat (0x10000 + (high - 0xD800) * 0x400 + (low - 0xDC00)) :: text)

/-- What spells a text may be passed over as well. -/
theorem Spells.body {body text : List Char} (h : Spells body text) : Body body := by
  induction h with
  | nil => exact .nil
  | plain hc _ ih => exact .plain hc ih
  | short he _ ih => exact .short he ih
  | unit hds _ _ ih => exact .unit hds ih
  | pair hds hes _ _ _ ih => exact .unit hds (.unit hes ih)

/-- Characters that may stand for themselves spell the text that they make up. -/
theorem spells_plain {cs : List Char} (h : cs.all (Plain ·) = true) : Spells cs cs := by
  induction cs with
  | nil => exact .nil
  | cons c cs ih =>
    rw [List.all_cons, Bool.and_eq_true, decide_eq_true_eq] at h
    exact .plain h.1 (ih h.2)

/-- A literal with its marks. -/
def literal (body : List Char) : List Char := '"' :: (body ++ ['"'])

theorem FourDigits.exists_digits {ds : List Char} {n : Nat} (h : FourDigits ds n) :
    ∃ a b c d i j k l, ds = [a, b, c, d] ∧ hexValue? a = some i ∧ hexValue? b = some j ∧
      hexValue? c = some k ∧ hexValue? d = some l ∧ ((i * 16 + j) * 16 + k) * 16 + l = n := by
  obtain ⟨hlength, hread⟩ := h
  match ds, hlength with
  | [a, b, c, d], _ =>
    simp only [hexRead?, List.foldl_cons, List.foldl_nil, bind, pure, Option.bind_eq_some_iff,
      Option.some.injEq] at hread
    obtain ⟨_, ⟨_, ⟨_, ⟨_, rfl, i, hi, rfl⟩, j, hj, rfl⟩, k, hk, rfl⟩, l, hl, rfl⟩ := hread
    exact ⟨a, b, c, d, i, j, k, l, rfl, hi, hj, hk, hl, by omega⟩

theorem FourDigits.fourBytesLeft {ds : List Char} {n : Nat} (h : FourDigits ds n)
    (rest : List Char) : fourBytesLeft (ds ++ rest) = true :=
  fourBytesLeft_of_length (by rw [List.length_append, h.1]; omega)

theorem shortEscape?_of_mem : ∀ e ∈ shortEscapes, e.1 ≠ 'u' ∧ shortEscape? e.1 = some e.2 := by
  decide

theorem FourDigits.skip {ds : List Char} {n : Nat} (h : FourDigits ds n) (rest : List Char) :
    skipLiteralFrom (.hex none 3 0) (ds ++ rest) = skipLiteralFrom .plain rest := by
  obtain ⟨a, b, c, d, i, j, k, l, rfl, ha, hb, hc, hd, -⟩ := h.exists_digits
  simp [skipLiteralFrom, ha, hb, hc, hd]

/-- A literal is passed over whether or not it spells a text. -/
theorem skipLiteral_body {body : List Char} (h : Body body) (rest : List Char) :
    skipLiteral (body ++ '"' :: rest) = .ok rest := by
  unfold skipLiteral
  induction h with
  | nil => simp [skipLiteralFrom]
  | plain hc _ ih =>
    obtain ⟨hquote, hslash, hprintable⟩ := hc
    have hcontrol := Nat.not_lt.2 hprintable
    simpa [skipLiteralFrom, hquote, hslash, hcontrol] using ih
  | short he _ ih =>
    obtain ⟨hu, hshort⟩ := shortEscape?_of_mem _ he
    simpa [skipLiteralFrom, hu, hshort] using ih
  | unit hds _ ih =>
    rw [List.cons_append, List.cons_append, List.append_assoc]
    simpa [skipLiteralFrom, hds.fourBytesLeft, hds.skip] using ih

theorem FourDigits.read {ds : List Char} {n : Nat} (h : FourDigits ds n) (high : Option Nat)
    (rest : List Char) : readLiteralFrom (.hex high 3 0) (ds ++ rest) =
      readUnit (joinUnits high n) rest := by
  obtain ⟨a, b, c, d, i, j, k, l, rfl, ha, hb, hc, hd, rfl⟩ := h.exists_digits
  have hn : (((0 * 16 + i) * 16 + j) * 16 + k) * 16 + l = ((i * 16 + j) * 16 + k) * 16 + l := by
    omega
  rw [List.cons_append, List.cons_append, List.cons_append, List.cons_append, List.nil_append,
    readLiteralFrom_digit ha, readLiteralFrom_digit hb, readLiteralFrom_digit hc,
    readLiteralFrom_lastDigit hd, hn]

theorem joinUnits_high {n : Nat} (h : 0xD800 ≤ n ∧ n < 0xDC00) : joinUnits none n = .half n := by
  simp only [joinUnits]
  rw [if_pos (by omega)]

theorem joinUnits_low {high low : Nat} (h : 0xDC00 ≤ low ∧ low < 0xE000) :
    joinUnits (some high) low =
      .char (Char.ofNat (0x10000 + (high - 0xD800) * 0x400 + (low - 0xDC00))) := by
  simp only [joinUnits]
  rw [if_pos (by omega)]

/-- A literal that spells a text is read for that text. -/
theorem readLiteral_spells {body text : List Char} (h : Spells body text) (rest : List Char) :
    readLiteral (body ++ '"' :: rest) = .ok (text, rest) := by
  unfold readLiteral
  induction h with
  | nil => simp [readLiteralFrom]
  | plain hc _ ih =>
    obtain ⟨hquote, hslash, hprintable⟩ := hc
    have hcontrol := Nat.not_lt.2 hprintable
    simp [readLiteralFrom, hquote, hslash, hcontrol, ih, withFirst, Except.map]
  | short he _ ih =>
    obtain ⟨hu, hshort⟩ := shortEscape?_of_mem _ he
    simp [readLiteralFrom, hu, hshort, ih, withFirst, Except.map]
  | unit hds hn _ ih =>
    rw [List.cons_append, List.cons_append, List.append_assoc]
    simp [readLiteralFrom, hds.fourBytesLeft, hds.read, joinUnits_alone hn, readUnit, ih,
      withFirst, Except.map]
  | pair hds hes hhigh hlow _ ih =>
    simp only [List.cons_append, List.append_assoc]
    simp [readLiteralFrom, hds.fourBytesLeft, hds.read, joinUnits_high hhigh, readUnit,
      hes.fourBytesLeft, hes.read, joinUnits_low hlow, ih, withFirst, Except.map]

/-- At least one digit. -/
def Digits (ds : List Char) : Prop := ds ≠ [] ∧ ∀ c ∈ ds, isDigit c = true

instance : DecidablePred Digits := fun ds =>
  have : Decidable (∀ c ∈ ds, isDigit c = true) := List.decidableBAll (isDigit · = true) ds
  inferInstanceAs (Decidable (_ ∧ _))

/-- The digits in front of a point; a zero in front stands alone. -/
def IntegerDigits (ds : List Char) : Prop := ds = ['0'] ∨ Digits ds ∧ ds.head? ≠ some '0'

/-- A point and the digits behind it, or neither. -/
inductive Fraction : List Char → Prop
  | none : Fraction []
  | digits {ds : List Char} (h : Digits ds) : Fraction ('.' :: ds)

/-- A power of ten, or nothing. -/
inductive Exponent : List Char → Prop
  | none : Exponent []
  | digits {mark : Char} {sign ds : List Char} (hmark : mark = 'e' ∨ mark = 'E')
    (hsign : sign ∈ [[], ['+'], ['-']]) (h : Digits ds) : Exponent (mark :: (sign ++ ds))

/-- A number behind its sign. -/
inductive Unsigned : List Char → Prop
  | parts {integer fraction exponent : List Char} (hinteger : IntegerDigits integer)
    (hfraction : Fraction fraction) (hexponent : Exponent exponent) :
    Unsigned (integer ++ (fraction ++ exponent))

/-- A text does not begin with a character that would prolong a number. -/
def Apart (rest : List Char) : Prop :=
  ∀ c ∈ rest.head?, isDigit c = false ∧ c ≠ '.' ∧ c ≠ 'e' ∧ c ≠ 'E'

theorem ne_of_isDigit {c d : Char} (hc : isDigit c = true) (hd : isDigit d = false) : c ≠ d :=
  fun he => by simp [he, hd] at hc

theorem isBlank_of_isDigit {c : Char} (h : isDigit c = true) : isBlank c = false := by
  simp [isBlank, ne_of_isDigit h (d := ' ') rfl, ne_of_isDigit h (d := '\t') rfl,
    ne_of_isDigit h (d := '\n') rfl, ne_of_isDigit h (d := '\r') rfl]

section number
variable {rest : List Char}

theorem isDigit_run {ds : List Char} (h : ∀ c ∈ ds, isDigit c = true)
    (hrest : ∀ c ∈ rest.head?, isDigit c = false) :
    (ds ++ rest).takeWhile isDigit = ds ∧ (ds ++ rest).dropWhile isDigit = rest := by
  rw [List.takeWhile_append_of_pos h, List.dropWhile_append_of_pos h]
  cases rest with
  | nil => simp
  | cons c cs => simp [hrest c rfl]

theorem someDigits_append {ds : List Char} (h : Digits ds)
    (hrest : ∀ c ∈ rest.head?, isDigit c = false) : someDigits (ds ++ rest) = .ok (ds, rest) := by
  obtain ⟨hne, hall⟩ := h
  obtain ⟨htake, hdrop⟩ := isDigit_run hall hrest
  obtain ⟨c, ds, rfl⟩ := List.exists_cons_of_ne_nil hne
  rw [List.cons_append] at htake hdrop ⊢
  simp only [someDigits, hall c List.mem_cons_self, htake, hdrop, if_true]

theorem integerPart_append {ds : List Char} (h : IntegerDigits ds)
    (hrest : ∀ c ∈ rest.head?, isDigit c = false) : integerPart (ds ++ rest) = .ok (ds, rest) := by
  rcases h with rfl | ⟨⟨hne, hall⟩, hzero⟩
  · have hhead : rest.head?.any isDigit = false := by
      cases rest with
      | nil => rfl
      | cons c cs => exact hrest c rfl
    simp [integerPart, hhead]
  · obtain ⟨c, ds, rfl⟩ := List.exists_cons_of_ne_nil hne
    obtain ⟨hc, hds⟩ := List.forall_mem_cons.1 hall
    obtain ⟨htake, hdrop⟩ := isDigit_run hds hrest
    have hc0 : c ≠ '0' := fun he => hzero (congrArg some he)
    simp [integerPart, hc, htake, hdrop]

theorem Apart.isDigit (h : Apart rest) : ∀ c ∈ rest.head?, isDigit c = false :=
  fun c hc => (h c hc).1

theorem fractionPart_append {cs : List Char} (h : Fraction cs)
    (hrest : ∀ c ∈ rest.head?, isDigit c = false ∧ c ≠ '.') :
    ∃ ds, fractionPart (cs ++ rest) = .ok (ds, rest) := by
  cases h with
  | none =>
    refine ⟨[], ?_⟩
    cases rest with
    | nil => rfl
    | cons c rest => simp [fractionPart, (hrest c rfl).2]
  | digits h => exact ⟨_, someDigits_append h fun c hc => (hrest c hc).1⟩

theorem powerPart_append {cs : List Char} (h : Exponent cs) (hrest : Apart rest) :
    ∃ power, powerPart (cs ++ rest) = .ok (power, rest) := by
  cases h with
  | none =>
    refine ⟨none, ?_⟩
    cases rest with
    | nil => rfl
    | cons c rest => simp [powerPart, (hrest c rfl).2.2]
  | @digits mark sign ds hmark hsign h =>
    have hread := someDigits_append h hrest.isDigit
    have hmark : (mark = 'e' || mark = 'E') = true := by simpa using hmark
    simp only [List.mem_cons, List.not_mem_nil, or_false] at hsign
    rcases hsign with rfl | rfl | rfl
    · obtain ⟨hne, hall⟩ := h
      obtain ⟨c, ds, rfl⟩ := List.exists_cons_of_ne_nil hne
      have hdigit := hall c List.mem_cons_self
      have hplus : c ≠ '+' := ne_of_isDigit hdigit rfl
      have hminus : c ≠ '-' := ne_of_isDigit hdigit rfl
      rw [List.cons_append] at hread
      simp [powerPart, hmark, hplus, hminus, hread]
    · simp [powerPart, hmark, hread]
    · simp [powerPart, hmark, hread]

theorem Exponent.head?_append {cs : List Char} (h : Exponent cs) (hrest : Apart rest) :
    ∀ c ∈ (cs ++ rest).head?, isDigit c = false ∧ c ≠ '.' := by
  cases h with
  | none => exact fun c hc => ⟨(hrest c hc).1, (hrest c hc).2.1⟩
  | digits hmark =>
    intro c hc
    obtain rfl := Option.some.inj hc
    rcases hmark with rfl | rfl <;> decide

theorem Fraction.head?_append {cs : List Char} (h : Fraction cs)
    (hrest : ∀ c ∈ rest.head?, isDigit c = false) :
    ∀ c ∈ (cs ++ rest).head?, isDigit c = false := by
  cases h with
  | none => exact hrest
  | digits =>
    intro c hc
    obtain rfl := Option.some.inj hc
    decide

theorem skipNumber_append {cs : List Char} (h : Unsigned cs) (hrest : Apart rest) :
    skipNumber (cs ++ rest) = .ok rest := by
  obtain ⟨hinteger, hfraction, hexponent⟩ := h
  have hpower := hexponent.head?_append hrest
  have hpoint := hfraction.head?_append fun c hc => (hpower c hc).1
  obtain ⟨fraction, hfraction⟩ := fractionPart_append hfraction hpower
  obtain ⟨power, hexponent⟩ := powerPart_append hexponent hrest
  simp only [skipNumber, List.append_assoc, integerPart_append hinteger hpoint, hfraction,
    hexponent, bind, Except.bind, pure, Except.pure, Except.mapError]

/-- A number begins with a digit. -/
theorem Unsigned.exists_cons {cs : List Char} (h : Unsigned cs) :
    ∃ c tail, cs = c :: tail ∧ isDigit c = true := by
  obtain ⟨hinteger, -, -⟩ := h
  rcases hinteger with rfl | ⟨⟨hne, hall⟩, -⟩
  · exact ⟨'0', _, rfl, rfl⟩
  · obtain ⟨c, ds, rfl⟩ := List.exists_cons_of_ne_nil hne
    exact ⟨c, _, rfl, hall c List.mem_cons_self⟩

end number

/-- The phrases that a text is put together from. An element is a value with the blanks around it,
a member is an element behind its key. -/
inductive Phrase where
  | value
  | element
  | elements
  | member
  | members

/-- The values that are written as words. -/
def words : List (List Char) :=
  [['n', 'u', 'l', 'l'], ['t', 'r', 'u', 'e'], ['f', 'a', 'l', 's', 'e']]

/-- How each phrase may be written. -/
inductive Written : Phrase → List Char → Prop
  | word {cs : List Char} (h : cs ∈ words) : Written .value cs
  | number {cs : List Char} (h : Unsigned cs) : Written .value cs
  | negative {cs : List Char} (h : Unsigned cs) : Written .value ('-' :: cs)
  | string {body : List Char} (h : Body body) : Written .value (literal body)
  | emptyArray {ws : List Char} (h : Blank ws) : Written .value ('[' :: (ws ++ [']']))
  | array {cs : List Char} (h : Written .elements cs) : Written .value ('[' :: (cs ++ [']']))
  | emptyObject {ws : List Char} (h : Blank ws) : Written .value ('\x7b' :: (ws ++ ['\x7d']))
  | object {cs : List Char} (h : Written .members cs) : Written .value ('\x7b' :: (cs ++ ['\x7d']))
  | element {before cs behind : List Char} (hbefore : Blank before) (h : Written .value cs)
    (hbehind : Blank behind) : Written .element (before ++ (cs ++ behind))
  | lastElement {cs : List Char} (h : Written .element cs) : Written .elements cs
  | elements {cs more : List Char} (h : Written .element cs) (hmore : Written .elements more) :
    Written .elements (cs ++ ',' :: more)
  | member {before key behind cs : List Char} (hbefore : Blank before) (hkey : Body key)
    (hbehind : Blank behind) (h : Written .element cs) :
    Written .member (before ++ (literal key ++ (behind ++ ':' :: cs)))
  | lastMember {cs : List Char} (h : Written .member cs) : Written .members cs
  | members {cs more : List Char} (h : Written .member cs) (hmore : Written .members more) :
    Written .members (cs ++ ',' :: more)

theorem apart_cons {c : Char} (h : c = ',' ∨ c = ']' ∨ c = '\x7d') (rest : List Char) :
    Apart (c :: rest) := by
  intro d hd
  obtain rfl := Option.some.inj hd
  rcases h with rfl | rfl | rfl <;> decide

theorem Apart.blank {ws rest : List Char} (hws : Blank ws) (h : Apart rest) :
    Apart (ws ++ rest) := by
  cases ws with
  | nil => exact h
  | cons c ws =>
    intro d hd
    obtain rfl := Option.some.inj hd
    have hc := hws c List.mem_cons_self
    simp only [isBlank, Bool.or_eq_true, decide_eq_true_eq] at hc
    rcases hc with ((rfl | rfl) | rfl) | rfl <;> decide

theorem blank_nil : Blank [] := by simp [Blank]

theorem Blank.append {ws more : List Char} (h : Blank ws) (hmore : Blank more) :
    Blank (ws ++ more) := fun c hc => (List.mem_append.1 hc).elim (h c) (hmore c)

theorem Blank.skipBlank {ws : List Char} (h : Blank ws) {c : Char} (hc : isBlank c = false)
    (cs : List Char) : skipBlank (ws ++ c :: cs) = c :: cs := by
  rw [skipBlank_append ws _ h, skipBlank_of_mark hc]

/-- Behind its blanks, a phrase begins with a mark of its own, and none that closes a bracket. -/
theorem Written.exists_mark {phrase : Phrase} {cs : List Char} (h : Written phrase cs) :
    ∃ ws c tail, cs = ws ++ c :: tail ∧ Blank ws ∧ isBlank c = false ∧ c ≠ ']' ∧ c ≠ '\x7d' := by
  have here {c : Char} {tail : List Char} (hc : isBlank c = false ∧ c ≠ ']' ∧ c ≠ '\x7d') :
      ∃ ws d more, c :: tail = ws ++ d :: more ∧ Blank ws ∧ isBlank d = false ∧ d ≠ ']' ∧
        d ≠ '\x7d' := ⟨[], c, tail, rfl, blank_nil, hc⟩
  induction h with
  | word h =>
    simp only [words, List.mem_cons, List.not_mem_nil, or_false] at h
    rcases h with rfl | rfl | rfl <;> exact here (by decide)
  | number h =>
    obtain ⟨c, tail, rfl, hc⟩ := h.exists_cons
    exact here ⟨isBlank_of_isDigit hc, ne_of_isDigit hc rfl, ne_of_isDigit hc rfl⟩
  | @element before cs behind hbefore _ _ ih =>
    obtain ⟨ws, c, tail, rfl, hws, hc⟩ := ih
    exact ⟨before ++ ws, c, tail ++ behind, by simp, hbefore.append hws, hc⟩
  | member hbefore => exact ⟨_, _, _, rfl, hbefore, by decide⟩
  | lastElement _ ih | lastMember _ ih => exact ih
  | @elements cs more _ _ ih | @members cs more _ _ ih =>
    obtain ⟨ws, c, tail, rfl, hws, hc⟩ := ih
    exact ⟨ws, c, tail ++ ',' :: more, by simp, hws, hc⟩
  | negative | string | emptyArray | array | emptyObject | object => exact here (by decide)

theorem readPart_blank (p : Purpose) (fuel depth : Nat) (part : Part) {ws : List Char}
    (h : Blank ws) (cs : List Char) :
    readPart p fuel depth part (ws ++ cs) = readPart p fuel depth part cs := by
  induction fuel generalizing part with
  | zero => rfl
  | succ fuel ih =>
    cases part with
    | value => simp only [readPart, skipBlank_append ws cs h]
    | items => simp only [readPart, ih]
    | members => simp only [readPart, skipBlank_append ws cs h]

/-- A bracket with something inside leads to its first item or its first key. -/
theorem readPart_open {phrase : Phrase} {cs : List Char} (h : Written phrase cs) (p : Purpose)
    (fuel depth : Nat) (rest : List Char) :
    readPart p (fuel + 1) (depth + 1) .value ('[' :: (cs ++ rest)) =
      readPart p fuel depth .items (cs ++ rest) ∧
    readPart p (fuel + 1) (depth + 1) .value ('\x7b' :: (cs ++ rest)) =
      readPart p fuel depth .members (cs ++ rest) := by
  obtain ⟨ws, c, tail, rfl, hws, hc, hitems, hmembers⟩ := h.exists_mark
  have hinside := hws.skipBlank hc (tail ++ rest)
  rw [List.append_assoc, List.cons_append]
  constructor
  · simp [readPart, skipBlank_of_mark (c := '[') rfl, closesWith, hinside, hitems]
  · simp [readPart, skipBlank_of_mark (c := '\x7b') rfl, closesWith, hinside, hmembers]

theorem readPart_empty {ws : List Char} (h : Blank ws) (p : Purpose) (fuel depth : Nat)
    (rest : List Char) :
    readPart p (fuel + 1) (depth + 1) .value ('[' :: (ws ++ ']' :: rest)) = .ok rest ∧
    readPart p (fuel + 1) (depth + 1) .value ('\x7b' :: (ws ++ '\x7d' :: rest)) = .ok rest := by
  have hitems := h.skipBlank (c := ']') rfl rest
  have hmembers := h.skipBlank (c := '\x7d') rfl rest
  constructor
  · simp [readPart, skipBlank_of_mark (c := '[') rfl, closesWith, hitems]
  · simp [readPart, skipBlank_of_mark (c := '\x7b') rfl, closesWith, hmembers]

theorem readColon_blank {ws : List Char} (h : Blank ws) (rest : List Char) :
    readColon (ws ++ ':' :: rest) = .ok rest := by
  rw [readColon, h.skipBlank rfl]
  rfl

/-- That a phrase is passed over up to its end, if steps and depth allow for its length. A value
ends where the next token tells it apart, and the blanks behind an element are left. -/
def Skipped : Phrase → List Char → Prop
  | .value, cs => ∀ fuel depth rest, 2 * cs.length ≤ fuel → cs.length ≤ depth → Apart rest →
    readPart .passed fuel depth .value (cs ++ rest) = .ok rest
  | .element, cs => ∀ fuel depth rest, 2 * cs.length ≤ fuel → cs.length ≤ depth → Apart rest →
    ∃ ws, Blank ws ∧ readPart .passed fuel depth .value (cs ++ rest) = .ok (ws ++ rest)
  | .elements, cs => ∀ fuel depth rest, 2 * cs.length < fuel → cs.length ≤ depth →
    readPart .passed fuel depth .items (cs ++ ']' :: rest) = .ok rest
  | .member, cs => ∀ fuel depth rest, 2 * cs.length ≤ fuel → cs.length ≤ depth →
    readPart .passed (fuel + 1) depth .members (cs ++ '\x7d' :: rest) = .ok rest ∧
    readPart .passed (fuel + 1) depth .members (cs ++ ',' :: rest) =
      readPart .passed fuel depth .members rest
  | .members, cs => ∀ fuel depth rest, 2 * cs.length < fuel → cs.length ≤ depth →
    readPart .passed fuel depth .members (cs ++ '\x7d' :: rest) = .ok rest

/-- A value that is no bracket needs one step and no depth. -/
theorem skipped_scalar {c : Char} {cs : List Char} (hblank : isBlank c = false) (hitems : c ≠ '[')
    (hmembers : c ≠ '\x7b')
    (h : ∀ rest, Apart rest → readScalar .passed c (cs ++ rest) = .ok rest) :
    Skipped .value (c :: cs) := by
  intro fuel depth rest hfuel _ hrest
  obtain ⟨fuel, rfl⟩ := Nat.exists_eq_add_one_of_ne_zero (show fuel ≠ 0 by simp at hfuel; omega)
  rw [List.cons_append, readPart, skipBlank_of_mark hblank]
  simp only [hitems, hmembers, or_self, if_false, h rest hrest]

theorem skipped_word {cs : List Char} (h : cs ∈ words) : Skipped .value cs := by
  simp only [words, List.mem_cons, List.not_mem_nil, or_false] at h
  rcases h with rfl | rfl | rfl
  · exact skipped_scalar rfl (by decide) (by decide) fun _ _ => rfl
  · exact skipped_scalar rfl (by decide) (by decide) fun _ _ => rfl
  · exact skipped_scalar rfl (by decide) (by decide) fun _ _ => rfl

theorem skipped_negative {cs : List Char} (h : Unsigned cs) : Skipped .value ('-' :: cs) :=
  skipped_scalar rfl (by decide) (by decide) fun _ hrest => skipNumber_append h hrest

theorem skipped_literal {body : List Char} (h : Body body) : Skipped .value (literal body) := by
  refine skipped_scalar rfl (by decide) (by decide) fun rest _ => ?_
  rw [List.append_assoc]
  exact skipLiteral_body h rest

theorem skipped_number {cs : List Char} (h : Unsigned cs) : Skipped .value cs := by
  obtain ⟨c, tail, rfl, hc⟩ := h.exists_cons
  refine skipped_scalar (isBlank_of_isDigit hc) (ne_of_isDigit hc rfl) (ne_of_isDigit hc rfl)
    fun rest hrest => ?_
  have hscalar : readScalar .passed c (tail ++ rest) = skipNumber (c :: (tail ++ rest)) := by
    simp [readScalar, ne_of_isDigit hc (d := 'n') rfl, ne_of_isDigit hc (d := 't') rfl,
      ne_of_isDigit hc (d := 'f') rfl, ne_of_isDigit hc (d := '"') rfl,
      ne_of_isDigit hc (d := '-') rfl, hc, Purpose.number]
  rw [hscalar]
  exact skipNumber_append h hrest

/-- A bracket takes one step and one level of depth. -/
theorem skipped_bracket {c : Char} {cs : List Char}
    (h : ∀ fuel depth rest, 2 * cs.length < fuel → cs.length ≤ depth →
      readPart .passed (fuel + 1) (depth + 1) .value (c :: (cs ++ rest)) = .ok rest) :
    Skipped .value (c :: cs) := by
  intro fuel depth rest hfuel hdepth _
  rw [List.length_cons] at hfuel hdepth
  obtain ⟨fuel, rfl⟩ := Nat.exists_eq_add_one_of_ne_zero (show fuel ≠ 0 by omega)
  obtain ⟨depth, rfl⟩ := Nat.exists_eq_add_one_of_ne_zero (show depth ≠ 0 by omega)
  exact h fuel depth rest (by omega) (by omega)

/-- A member leads to the mark behind its value. -/
theorem readPart_member {before key behind cs ws rest : List Char} {c : Char} {fuel depth : Nat}
    (hbefore : Blank before) (hkey : Body key) (hbehind : Blank behind)
    (h : readPart .passed fuel depth .value cs = .ok (ws ++ c :: rest)) (hws : Blank ws)
    (hc : isBlank c = false) : readPart .passed (fuel + 1) depth .members
      (before ++ (literal key ++ (behind ++ ':' :: cs))) =
        if c = ',' then readPart .passed fuel depth .members rest
        else if c = '\x7d' then .ok rest else .error .malformed := by
  have hliteral : literal key ++ (behind ++ ':' :: cs) =
      '"' :: (key ++ '"' :: (behind ++ ':' :: cs)) := by simp [literal]
  rw [hliteral, readPart, hbefore.skipBlank rfl]
  simp [Purpose.literal, skipLiteral_body hkey, readColon_blank hbehind, h, hws.skipBlank hc, bind,
    Except.bind]

/-- A phrase of any kind is passed over, however deep it nests. -/
theorem Written.skipped {phrase : Phrase} {cs : List Char} (h : Written phrase cs) :
    Skipped phrase cs := by
  induction h with
  | word h => exact skipped_word h
  | number h => exact skipped_number h
  | negative h => exact skipped_negative h
  | string h => exact skipped_literal h
  | emptyArray h =>
    refine skipped_bracket fun fuel depth rest _ _ => ?_
    rw [List.append_assoc]
    exact (readPart_empty h .passed fuel depth rest).1
  | emptyObject h =>
    refine skipped_bracket fun fuel depth rest _ _ => ?_
    rw [List.append_assoc]
    exact (readPart_empty h .passed fuel depth rest).2
  | array h ih =>
    refine skipped_bracket fun fuel depth rest hfuel hdepth => ?_
    rw [List.length_append] at hfuel hdepth
    rw [List.append_assoc, (readPart_open h .passed fuel depth _).1]
    exact ih fuel depth rest (by omega) (by omega)
  | object h ih =>
    refine skipped_bracket fun fuel depth rest hfuel hdepth => ?_
    rw [List.length_append] at hfuel hdepth
    rw [List.append_assoc, (readPart_open h .passed fuel depth _).2]
    exact ih fuel depth rest (by omega) (by omega)
  | element hbefore _ hbehind ih =>
    intro fuel depth rest hfuel hdepth hrest
    simp only [List.length_append] at hfuel hdepth
    refine ⟨_, hbehind, ?_⟩
    rw [List.append_assoc, readPart_blank .passed fuel depth .value hbefore, List.append_assoc]
    exact ih fuel depth _ (by omega) (by omega) (hrest.blank hbehind)
  | lastElement _ ih =>
    intro fuel depth rest hfuel hdepth
    obtain ⟨fuel, rfl⟩ := Nat.exists_eq_add_one_of_ne_zero (show fuel ≠ 0 by omega)
    obtain ⟨ws, hws, hread⟩ := ih fuel depth _ (by omega) hdepth (apart_cons (.inr (.inl rfl)) rest)
    rw [readPart, hread]
    simp [bind, Except.bind, hws.skipBlank (c := ']') rfl]
  | elements _ _ ih ihmore =>
    intro fuel depth rest hfuel hdepth
    simp only [List.length_append, List.length_cons] at hfuel hdepth
    obtain ⟨fuel, rfl⟩ := Nat.exists_eq_add_one_of_ne_zero (show fuel ≠ 0 by omega)
    obtain ⟨ws, hws, hread⟩ := ih fuel depth _ (by omega) (by omega) (apart_cons (.inl rfl) _)
    rw [List.append_assoc, List.cons_append, readPart, hread]
    simp only [bind, Except.bind, hws.skipBlank (c := ',') rfl]
    exact ihmore fuel depth rest (by omega) (by omega)
  | @member before key behind cs hbefore hkey hbehind _ ih =>
    intro fuel depth rest hfuel hdepth
    have hlength : 2 * cs.length ≤ fuel ∧ cs.length ≤ depth := by
      simp only [List.length_append, List.length_cons] at hfuel hdepth
      omega
    have element (c : Char) (hc : Apart (c :: rest)) := ih fuel depth _ hlength.1 hlength.2 hc
    simp only [List.append_assoc, List.cons_append]
    constructor
    · obtain ⟨ws, hws, hread⟩ := element _ (apart_cons (.inr (.inr rfl)) rest)
      exact readPart_member hbefore hkey hbehind hread hws rfl
    · obtain ⟨ws, hws, hread⟩ := element _ (apart_cons (.inl rfl) rest)
      exact readPart_member hbefore hkey hbehind hread hws rfl
  | lastMember _ ih =>
    intro fuel depth rest hfuel hdepth
    obtain ⟨fuel, rfl⟩ := Nat.exists_eq_add_one_of_ne_zero (show fuel ≠ 0 by omega)
    exact (ih fuel depth rest (by omega) hdepth).1
  | members _ _ ih ihmore =>
    intro fuel depth rest hfuel hdepth
    simp only [List.length_append, List.length_cons] at hfuel hdepth
    obtain ⟨fuel, rfl⟩ := Nat.exists_eq_add_one_of_ne_zero (show fuel ≠ 0 by omega)
    rw [List.append_assoc, List.cons_append, (ih fuel depth _ (by omega) (by omega)).2]
    exact ihmore fuel depth rest (by omega) (by omega)

/-- An element is passed over whatever stands behind it, up to its blanks. -/
theorem skipValue_element {cs rest : List Char} (h : Written .element cs) (hrest : Apart rest) :
    ∃ ws, Blank ws ∧ skipValue (cs ++ rest) = .ok (ws ++ rest) := by
  have hlength : cs.length ≤ (cs ++ rest).length := by simp
  exact h.skipped _ _ rest (by omega) hlength hrest

end ActivityRelay.Json
