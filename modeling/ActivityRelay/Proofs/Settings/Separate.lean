import ActivityRelay.Proofs.Settings.ControlTarget
import ActivityRelay.Proofs.Settings.RoundTrip

/-! Settings variable by variable. Each variable is accepted or rejected for itself, whatever the
others are; the settings are what the variables give one by one, and the first one that is rejected
gives the error. -/
namespace ActivityRelay
open Text

/-- The environment in which one variable only is set, to what it is set to here. -/
def Environment.only (env : Environment) (v : Variable) : Environment := fun w =>
  if w = v then env w else none

namespace Settings

/-- What the settings hold for one variable. -/
inductive Entry where
  | text (s : String)
  | number (n : Nat)
  | target (t : ControlTarget)
  deriving DecidableEq, Repr

def entry (s : Settings) : Variable → Entry
  | .defaultActivity => .text s.defaultActivity
  | .bindAddr => .text s.bindAddr
  | .port => .number s.port
  | .staticDir => .text s.staticDir
  | .controlAddr => .target s.control
  | .controlQueueCapacity => .number s.controlQueueCapacity
  | .controlTimeoutMs => .number s.controlTimeoutMs
  | .clientQueueCapacity => .number s.clientQueueCapacity

def readControl (env : Environment) : Except SettingsError ControlTarget := do
  let text ← readText env .controlAddr
  ControlTarget.parse text

/-- What is read for one variable. -/
def readEntry (env : Environment) : Variable → Except SettingsError Entry
  | .defaultActivity => (readActivity env).map .text
  | .bindAddr => (readText env .bindAddr).map fun t => .text (t.getD ({} : Settings).bindAddr)
  | .port => (readNumber env .port UInt16.size ({} : Settings).port).map .number
  | .staticDir => (readText env .staticDir).map fun t => .text (t.getD ({} : Settings).staticDir)
  | .controlAddr => (readControl env).map .target
  | .controlQueueCapacity =>
    (readPositive env .controlQueueCapacity ({} : Settings).controlQueueCapacity).map .number
  | .controlTimeoutMs =>
    (readPositive env .controlTimeoutMs ({} : Settings).controlTimeoutMs).map .number
  | .clientQueueCapacity =>
    (readPositive env .clientQueueCapacity ({} : Settings).clientQueueCapacity).map .number

section fault
variable {ε α β : Type}

/-- The error of a computation that has failed. -/
def fault? : Except ε α → Option ε
  | .error e => some e
  | .ok _ => none

theorem fault?_eq_some_iff {x : Except ε α} {e : ε} : fault? x = some e ↔ x = .error e := by
  cases x <;> simp [fault?]

theorem fault?_eq_none_iff {x : Except ε α} : fault? x = none ↔ ∃ a, x = .ok a := by
  cases x <;> simp [fault?]

@[simp] theorem fault?_map (f : α → β) (x : Except ε α) : fault? (x.map f) = fault? x := by
  cases x <;> rfl

/-- The fault of two computations in a row is that of the first, or else that of the second. -/
theorem fault?_bind {x : Except ε α} {f : α → Except ε β} {e : Option ε}
    (h : ∀ a, x = .ok a → fault? (f a) = e) : fault? (x >>= f) = (fault? x).or e := by
  cases x with
  | error e' => rfl
  | ok a => exact h a rfl

end fault

section readEntry
variable {env env' : Environment} {v : Variable}

theorem readEntry_congr (h : env v = env' v) : readEntry env v = readEntry env' v := by
  cases v <;>
    simp only [readEntry, readActivity, readControl, readPositive, readNumber, readText, h]

theorem readEntry_unset (h : env v = none) : readEntry env v = .ok (({} : Settings).entry v) := by
  have hread : readEntry env v = readEntry (fun _ => none) v := readEntry_congr h
  rw [hread]
  cases v <;> rfl

theorem readEntry_only (env : Environment) (v : Variable) :
    readEntry (env.only v) v = readEntry env v := readEntry_congr (if_pos rfl)

theorem readEntry_only_of_ne {w : Variable} (h : w ≠ v) :
    readEntry (env.only v) w = .ok (({} : Settings).entry w) := readEntry_unset (if_neg h)

theorem readEntry_of_read {s : Settings} (h : read env = .ok s) (v : Variable) :
    readEntry env v = .ok (s.entry v) := by
  have reads := read_eq_ok_iff.1 h
  cases v with
  | defaultActivity => rw [readEntry, reads.defaultActivity]; rfl
  | bindAddr =>
    obtain ⟨text, hread, hfield⟩ := reads.bindAddr
    rw [readEntry, hread, Except.map, hfield, entry]
  | port => rw [readEntry, reads.port]; rfl
  | staticDir =>
    obtain ⟨text, hread, hfield⟩ := reads.staticDir
    rw [readEntry, hread, Except.map, hfield, entry]
  | controlAddr =>
    obtain ⟨text, hread, hparse⟩ := reads.control
    have hcontrol : readControl env = .ok s.control := by
      rw [readControl, hread]
      exact hparse
    rw [readEntry, hcontrol]; rfl
  | controlQueueCapacity => rw [readEntry, reads.controlQueueCapacity]; rfl
  | controlTimeoutMs => rw [readEntry, reads.controlTimeoutMs]; rfl
  | clientQueueCapacity => rw [readEntry, reads.clientQueueCapacity]; rfl

theorem findSome?_cons_eq_or {α β : Type} (f : α → Option β) (a : α) (l : List α) :
    (a :: l).findSome? f = (f a).or (l.findSome? f) := by
  rw [List.findSome?_cons]
  cases f a <;> rfl

/-- The fault of the settings is that of the first variable that has one. -/
theorem fault?_read (env : Environment) :
    fault? (read env) = Variable.all.findSome? fun v => fault? (readEntry env v) := by
  simp only [Variable.all, findSome?_cons_eq_or, List.findSome?_nil, readEntry, fault?_map]
  refine fault?_bind fun activity _ => fault?_bind fun bindAddr _ => fault?_bind fun port _ =>
    fault?_bind fun staticDir _ => ?_
  -- The text of the address and its parsing are two steps of one entry.
  rw [← bind_assoc]
  exact fault?_bind (x := readControl env) fun control _ => fault?_bind fun queueCapacity _ =>
    fault?_bind fun timeout _ => fault?_bind fun clientCapacity _ => rfl

/-- With one variable alone, only its own entry can be at fault. -/
theorem fault?_read_only (env : Environment) (v : Variable) :
    fault? (read (env.only v)) = fault? (readEntry env v) := by
  rw [fault?_read, ← readEntry_only env v]
  cases hv : fault? (readEntry (env.only v) v) with
  | none =>
    refine List.findSome?_eq_none_iff.2 fun w _ => ?_
    by_cases hw : w = v
    · rw [hw, hv]
    · rw [readEntry_only_of_ne hw, fault?]
  | some e =>
    obtain ⟨before, behind, hall⟩ := List.append_of_mem (Variable.mem_all v)
    refine List.findSome?_eq_some_iff.2 ⟨before, v, behind, hall, hv, fun w hw => ?_⟩
    have hne : w ≠ v := by
      rintro rfl
      have nodup : Variable.all.Nodup := by decide
      rw [hall, List.nodup_append] at nodup
      exact nodup.2.2 w hw w (by simp) rfl
    rw [readEntry_only_of_ne hne, fault?]

theorem accepted_only_iff : (∃ s, read (env.only v) = .ok s) ↔ ∃ x, readEntry env v = .ok x := by
  rw [← fault?_eq_none_iff, ← fault?_eq_none_iff, fault?_read_only]

theorem readEntry_of_read_only {s : Settings} (h : read (env.only v) = .ok s) :
    readEntry env v = .ok (s.entry v) := by
  rw [← readEntry_only]
  exact readEntry_of_read h v

end readEntry

/-- A text that spells a number: at least one digit, behind a plus sign if there is one, with white
space around it. -/
def Spells (text : String) (n : Nat) : Prop :=
  ∃ (p : Padding) (digits : List Char),
    (text.toList = p.around digits ∨ text.toList = p.around ('+' :: digits)) ∧
      digits ≠ [] ∧ (∀ c ∈ digits, isDigit c = true) ∧ digitsValue digits = n

/-- What a text says for a variable. The value of an unset variable has no part in it; for the
address of the controller a blank text says that there is none. -/
def Denotes : Variable → String → Entry → Prop
  | .defaultActivity, text, x => x = .text text ∧ ∃ c ∈ text.toList, isWhite c = false
  | .bindAddr, text, x | .staticDir, text, x => x = .text text
  | .port, text, x => ∃ n, x = .number n ∧ Spells text n ∧ n < UInt16.size
  | .controlAddr, text, x =>
    (x = .target .log ∧ ∀ c ∈ text.toList, isWhite c = true) ∨
      ∃ t addr, x = .target (.socket t addr) ∧ ControlTarget.Holds text.toList t addr.toList
  | .controlQueueCapacity, text, x | .controlTimeoutMs, text, x
  | .clientQueueCapacity, text, x =>
    ∃ n, x = .number n ∧ Spells text n ∧ n < UInt64.size ∧ n ≠ 0

/-- The first variable, in the order of examination, that is rejected for itself. -/
structure FirstRejected (env : Environment) (v : Variable) : Prop where
  rejected : ∃ e, read (env.only v) = .error e
  first : ∃ before behind, Variable.all = before ++ v :: behind ∧
    ∀ w ∈ before, ∃ s, read (env.only w) = .ok s

theorem readBelow_trim_eq_some_iff {text : String} {bound n : Nat} :
    readBelow bound (trim text.toList) = some n ↔ Spells text n ∧ n < bound := by
  rw [readBelow_eq_some_iff]
  constructor
  · rintro ⟨digits, hsign, hne, hdigits, hvalue, hlt⟩
    obtain ⟨-, p, hp⟩ := trim_eq_iff.1 (rfl : trim text.toList = trim text.toList)
    refine ⟨⟨p, digits, ?_, hne, hdigits, hvalue⟩, hlt⟩
    rcases hsign with ⟨he, -⟩ | he
    · exact .inl (he ▸ hp)
    · exact .inr (he ▸ hp)
  · rintro ⟨⟨p, digits, hsign, hne, hdigits, hvalue⟩, hlt⟩
    have white : ∀ c ∈ digits, isWhite c = false := fun c hc => isWhite_of_isDigit (hdigits c hc)
    refine ⟨digits, ?_, hne, hdigits, hvalue, hlt⟩
    rcases hsign with he | he
    · refine .inl ⟨trim_eq_iff.2 ⟨bare_of_forall white, p, he⟩, fun hplus => ?_⟩
      exact absurd (hdigits '+' (List.mem_of_mem_head? hplus)) (by decide)
    · have hbare : Bare ('+' :: digits) :=
        bare_of_forall (List.forall_mem_cons.2 ⟨rfl, white⟩)
      exact .inr (trim_eq_iff.2 ⟨hbare, p, he⟩)

section present
variable {env : Environment} {v : Variable} {x : Entry}

theorem map_eq_ok_iff {ε α β : Type} {f : α → β} {y : Except ε α} {b : β} :
    y.map f = .ok b ↔ ∃ a, y = .ok a ∧ b = f a := by
  cases y <;> simp [Except.map, eq_comm]

theorem readEntry_bytes {b : List UInt8} (h : env v = some (.bytes b)) :
    readEntry env v = .error (.invalidValue v (Utf8.lossy b)) := by
  have hread : readText env v = .error (.invalidValue v (Utf8.lossy b)) := by rw [readText, h]
  cases v <;> simp only [readEntry, readActivity, readControl, readPositive, readNumber, hread,
    bind, Except.bind, Except.map]

theorem readText_of_text {text : String} (h : env v = some (.text text)) :
    readText env v = .ok (some text) := readText_eq_ok_iff.2 h

theorem readNumber_of_text {text : String} {bound unset n : Nat}
    (h : env v = some (.text text)) :
    readNumber env v bound unset = .ok n ↔ Spells text n ∧ n < bound := by
  rw [readNumber_eq_ok_iff, h, ← readBelow_trim_eq_some_iff]
  simp

theorem readPositive_of_text {text : String} {unset n : Nat} (h : env v = some (.text text)) :
    readPositive env v unset = .ok n ↔ Spells text n ∧ n < UInt64.size ∧ n ≠ 0 := by
  rw [readPositive_eq_ok_iff, readNumber_of_text h, and_assoc]

theorem readEntry_text {text : String} (h : env v = some (.text text)) :
    readEntry env v = .ok x ↔ Denotes v text x := by
  have hread := readText_of_text h
  cases v with
  | defaultActivity =>
    rw [readEntry, map_eq_ok_iff, Denotes]
    constructor
    · rintro ⟨activity, hactivity, rfl⟩
      obtain ⟨⟨t, ht, rfl⟩, hblank⟩ := readActivity_eq_ok_iff.1 hactivity
      cases hread.symm.trans ht
      exact ⟨rfl, trim_ne_nil_iff.1 hblank⟩
    · rintro ⟨rfl, hblank⟩
      exact ⟨text, readActivity_eq_ok_iff.2 ⟨⟨_, hread, rfl⟩, trim_ne_nil_iff.2 hblank⟩, rfl⟩
  | bindAddr | staticDir =>
    rw [readEntry, hread, Denotes]
    simp [Except.map, eq_comm]
  | port =>
    rw [readEntry, map_eq_ok_iff, Denotes]
    simp only [readNumber_of_text h, and_comm]
  | controlAddr =>
    rw [readEntry, map_eq_ok_iff, Denotes, readControl, hread]
    change (∃ target, ControlTarget.parse (some text) = .ok target ∧ _) ↔ _
    simp only [ControlTarget.parse_eq_ok_iff]
    constructor
    · rintro ⟨target, ⟨rfl, hblank⟩ | ⟨t, addr, rfl, holds⟩, rfl⟩
      · exact .inl ⟨rfl, hblank⟩
      · exact .inr ⟨t, addr, rfl, holds⟩
    · rintro (⟨rfl, hblank⟩ | ⟨t, addr, rfl, holds⟩)
      · exact ⟨_, .inl ⟨rfl, hblank⟩, rfl⟩
      · exact ⟨_, .inr ⟨t, addr, rfl, holds⟩, rfl⟩
  | controlQueueCapacity | controlTimeoutMs | clientQueueCapacity =>
    rw [readEntry, map_eq_ok_iff, Denotes]
    simp only [readPositive_of_text h, and_comm]

/-- A variable that is set gives what its text says, and nothing else. -/
theorem readEntry_of_set {raw : RawValue} (h : env v = some raw) :
    readEntry env v = .ok x ↔ ∃ text, raw = .text text ∧ Denotes v text x := by
  cases raw with
  | text text => simp [readEntry_text h]
  | bytes b => simp [readEntry_bytes h]

end present

/-- Settings are read exactly if every variable that is set is accepted alone, and each field is the
one that its variable gives alone. Otherwise the error is that of the first variable rejected alone.
A variable that is set is accepted exactly if it is a text that says something for it: for a number,
digits behind a sign that may be missing, white space around them, with a value that fits and is not
zero where zero is forbidden. What it says is then the field: a text that says nothing is an error
and never gives way to the value of the unset variable. -/
theorem read_separately (env : Environment) :
    ((∃ s, read env = .ok s) ↔ ∀ v, env v ≠ none → ∃ s, read (env.only v) = .ok s) ∧
    (∀ s, read env = .ok s → ∀ v, ∃ s', read (env.only v) = .ok s' ∧ s.entry v = s'.entry v) ∧
    (∀ e, read env = .error e ↔ ∃ v, FirstRejected env v ∧ read (env.only v) = .error e) ∧
    ∀ v raw, env v = some raw →
      ((∃ s, read (env.only v) = .ok s) ↔ ∃ text x, raw = .text text ∧ Denotes v text x) ∧
      ∀ s, read env = .ok s → ∃ text, raw = .text text ∧ Denotes v text (s.entry v) := by
  refine ⟨?accepted, fun s hs v => ?field, fun e => ?error, fun v raw hraw => ?set⟩
  case accepted =>
    rw [← fault?_eq_none_iff, fault?_read, List.findSome?_eq_none_iff]
    constructor
    · exact fun h v _ => accepted_only_iff.2 (fault?_eq_none_iff.1 (h v v.mem_all))
    · intro h v _
      rw [fault?_eq_none_iff]
      by_cases hset : env v = none
      · exact ⟨_, readEntry_unset hset⟩
      · exact accepted_only_iff.1 (h v hset)
  case field =>
    have hentry := readEntry_of_read hs v
    obtain ⟨s', hs'⟩ := accepted_only_iff.2 ⟨_, hentry⟩
    exact ⟨s', hs', Except.ok.inj (hentry.symm.trans (readEntry_of_read_only hs'))⟩
  case error =>
    rw [← fault?_eq_some_iff, fault?_read, List.findSome?_eq_some_iff]
    constructor
    · rintro ⟨before, v, behind, hall, hv, hbefore⟩
      rw [← fault?_read_only, fault?_eq_some_iff] at hv
      refine ⟨v, ⟨⟨e, hv⟩, before, behind, hall, fun w hw => ?_⟩, hv⟩
      exact accepted_only_iff.2 (fault?_eq_none_iff.1 (hbefore w hw))
    · rintro ⟨v, ⟨-, before, behind, hall, hbefore⟩, hv⟩
      rw [← fault?_eq_some_iff, fault?_read_only] at hv
      refine ⟨before, v, behind, hall, hv, fun w hw => ?_⟩
      exact fault?_eq_none_iff.2 (accepted_only_iff.1 (hbefore w hw))
  case set =>
    constructor
    · rw [accepted_only_iff]
      simp only [readEntry_of_set hraw]
      exact exists_comm
    · exact fun s hs => (readEntry_of_set hraw).1 (readEntry_of_read hs v)

/-- A port in its widest form, bytes that spell no text for the address, and a timeout of zero. -/
def mixed : Environment
  | .port => some (.text "\u3000+0080 ")
  | .staticDir => some (.bytes [0x61, 0xFF])
  | .controlTimeoutMs => some (.text "0")
  | _ => none

theorem read_separately_mixed : FirstRejected mixed .staticDir ∧
    read mixed = .error (.invalidValue .staticDir "a\uFFFD") ∧
    Denotes .port "\u3000+0080 " (.number 80) ∧ ∃ s, read (mixed.only .port) = .ok s := by
  obtain ⟨-, -, error, set⟩ := read_separately mixed
  have rejected : read (mixed.only .staticDir) = .error (.invalidValue .staticDir "a\uFFFD") := by
    decide
  have port : Denotes .port "\u3000+0080 " (.number 80) := by
    let wide : Padding :=
      ⟨['\u3000'], [' '], List.forall_mem_singleton.2 rfl, List.forall_mem_singleton.2 rfl⟩
    have digits : ∀ c ∈ ['0', '0', '8', '0'], isDigit c = true := List.all_eq_true.1 (by decide)
    exact ⟨80, rfl, ⟨wide, ['0', '0', '8', '0'], .inr rfl, by decide, digits, by decide⟩,
      by decide⟩
  have accepted : ∃ s, read (mixed.only .port) = .ok s :=
    (set .port _ rfl).1.2 ⟨_, _, rfl, port⟩
  have first : FirstRejected mixed .staticDir := by
    refine ⟨⟨_, rejected⟩, [.defaultActivity, .bindAddr, .port], _, rfl, ?_⟩
    simp only [List.forall_mem_cons]
    exact ⟨⟨{}, by decide⟩, ⟨{}, by decide⟩, accepted, by simp⟩
  exact ⟨first, (error _).2 ⟨_, first, rejected⟩, port, accepted⟩

end Settings
end ActivityRelay
