import ActivityRelay.Settings

/-! What each reader of a variable accepts, and from these what settings are read as a whole. -/
namespace ActivityRelay.Settings
open Text

theorem of_bind_eq_ok {ε α β : Type} {x : Except ε α} {f : α → Except ε β} {b : β}
    (h : x >>= f = .ok b) : ∃ a, x = .ok a ∧ f a = .ok b := by
  cases x with
  | error e => simp [bind, Except.bind] at h
  | ok a => exact ⟨a, rfl, h⟩

section readers
variable {env : Environment} {v : Variable} {bound unset n : Nat}

theorem readText_eq_ok_iff {text : Option String} :
    readText env v = .ok text ↔ env v = text.map .text := by
  unfold readText
  cases text <;> split <;> simp_all

theorem readNumber_eq_ok_iff : readNumber env v bound unset = .ok n ↔
    (env v = none ∧ n = unset) ∨
      ∃ raw, env v = some (.text raw) ∧ readBelow bound (trim raw.toList) = some n := by
  constructor
  · intro h
    obtain ⟨text, hread, h⟩ := of_bind_eq_ok h
    rw [readText_eq_ok_iff] at hread
    cases text with
    | none =>
      cases h
      exact .inl ⟨hread, rfl⟩
    | some raw =>
      dsimp only at h
      split at h
      · next hn =>
        cases h
        exact .inr ⟨raw, hread, hn⟩
      · cases h
  · rintro (⟨hread, rfl⟩ | ⟨raw, hread, hn⟩)
    · simp [readNumber, readText, hread, bind, Except.bind]
    · simp [readNumber, readText, hread, hn, bind, Except.bind]

theorem lt_of_readNumber (h : readNumber env v bound unset = .ok n) (hunset : unset < bound) :
    n < bound := by
  rcases readNumber_eq_ok_iff.1 h with ⟨-, rfl⟩ | ⟨raw, -, hn⟩
  · exact hunset
  · obtain ⟨digits, -, -, -, -, hlt⟩ := (readBelow_eq_some_iff ..).1 hn
    exact hlt

theorem readPositive_eq_ok_iff : readPositive env v unset = .ok n ↔
    readNumber env v UInt64.size unset = .ok n ∧ n ≠ 0 := by
  constructor
  · intro h
    obtain ⟨m, hm, h⟩ := of_bind_eq_ok h
    split at h
    · cases h
    · next hzero =>
      cases h
      exact ⟨hm, hzero⟩
  · rintro ⟨hn, hzero⟩
    simp [readPositive, hn, hzero, bind, Except.bind]

theorem readActivity_eq_ok_iff {activity : String} : readActivity env = .ok activity ↔
    (∃ text, readText env .defaultActivity = .ok text ∧
      text.getD ({} : Settings).defaultActivity = activity) ∧ trim activity.toList ≠ [] := by
  constructor
  · intro h
    obtain ⟨text, hread, h⟩ := of_bind_eq_ok h
    dsimp only at h
    split at h
    · cases h
    · next hblank =>
      cases h
      exact ⟨⟨text, hread, rfl⟩, hblank⟩
  · rintro ⟨⟨text, hread, rfl⟩, hblank⟩
    simp [readActivity, hread, hblank, bind, Except.bind]

end readers

/-- Settings of which each field is read from its own variable. -/
structure Reads (env : Environment) (s : Settings) : Prop where
  defaultActivity : readActivity env = .ok s.defaultActivity
  bindAddr : ∃ text, readText env .bindAddr = .ok text ∧
    text.getD ({} : Settings).bindAddr = s.bindAddr
  port : readNumber env .port UInt16.size ({} : Settings).port = .ok s.port
  staticDir : ∃ text, readText env .staticDir = .ok text ∧
    text.getD ({} : Settings).staticDir = s.staticDir
  control : ∃ text, readText env .controlAddr = .ok text ∧
    ControlTarget.parse text = .ok s.control
  controlQueueCapacity : readPositive env .controlQueueCapacity
    ({} : Settings).controlQueueCapacity = .ok s.controlQueueCapacity
  controlTimeoutMs :
    readPositive env .controlTimeoutMs ({} : Settings).controlTimeoutMs = .ok s.controlTimeoutMs
  clientQueueCapacity : readPositive env .clientQueueCapacity
    ({} : Settings).clientQueueCapacity = .ok s.clientQueueCapacity

/-- Reading succeeds exactly when every field can be read, and gives these fields. -/
theorem read_eq_ok_iff {env : Environment} {s : Settings} : read env = .ok s ↔ Reads env s := by
  constructor
  · intro h
    obtain ⟨activity, hactivity, h⟩ := of_bind_eq_ok h
    obtain ⟨bindAddr, hbind, h⟩ := of_bind_eq_ok h
    obtain ⟨port, hport, h⟩ := of_bind_eq_ok h
    obtain ⟨staticDir, hstatic, h⟩ := of_bind_eq_ok h
    obtain ⟨controlAddr, haddr, h⟩ := of_bind_eq_ok h
    obtain ⟨control, hcontrol, h⟩ := of_bind_eq_ok h
    obtain ⟨queueCapacity, hqueue, h⟩ := of_bind_eq_ok h
    obtain ⟨timeout, htimeout, h⟩ := of_bind_eq_ok h
    obtain ⟨clientCapacity, hclient, h⟩ := of_bind_eq_ok h
    cases h
    exact ⟨hactivity, ⟨_, hbind, rfl⟩, hport, ⟨_, hstatic, rfl⟩, ⟨_, haddr, hcontrol⟩, hqueue,
      htimeout, hclient⟩
  · intro h
    obtain ⟨bindAddr, hbind, hbindAddr⟩ := h.bindAddr
    obtain ⟨staticDir, hstatic, hstaticDir⟩ := h.staticDir
    obtain ⟨controlAddr, haddr, hcontrol⟩ := h.control
    simp only [read, h.defaultActivity, hbind, h.port, hstatic, haddr, hcontrol,
      h.controlQueueCapacity, h.controlTimeoutMs, h.clientQueueCapacity, hbindAddr, hstaticDir,
      bind, Except.bind, pure, Except.pure]

theorem activity_ne_empty {env : Environment} {s : Settings} (h : read env = .ok s) :
    s.defaultActivity ≠ "" := by
  intro he
  exact (readActivity_eq_ok_iff.1 (read_eq_ok_iff.1 h).defaultActivity).2 (by rw [he]; rfl)

end ActivityRelay.Settings
