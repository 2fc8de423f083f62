import ActivityRelay.Proofs.Settings.ControlTarget

/-! Settings written to variables and read again. Whatever can be read can be written, and reading
finds it again, in whichever of its forms a number is written. -/
namespace ActivityRelay
open Text

namespace ControlTarget
open Network (Transport)

def addr? : ControlTarget → Option String
  | .log => none
  | .udp addr | .tcp addr => some addr

/-- The text that is read as a target; the log is what an absent variable stands for. -/
def text? (p : Padding) : ControlTarget → Option String
  | .log => none
  | .udp addr => some (String.ofList (p.around (written .udp addr.toList)))
  | .tcp addr => some (String.ofList (p.around (written .tcp addr.toList)))

@[simp] theorem addr?_socket (t : Transport) (addr : String) :
    (socket t addr).addr? = some addr := by cases t <;> rfl

@[simp] theorem text?_socket (p : Padding) (t : Transport) (addr : String) :
    (socket t addr).text? p = some (String.ofList (p.around (written t addr.toList))) := by
  cases t <;> rfl

theorem parse_text? {target : ControlTarget} (p : Padding)
    (h : ∀ addr ∈ target.addr?, IsAddress addr.toList) : parse (target.text? p) = .ok target := by
  rcases target.eq_log_or_socket with rfl | ⟨t, addr, rfl⟩
  · rfl
  · rw [text?_socket]
    exact parse_eq_socket_iff.2 ⟨h addr (addr?_socket t addr), p, by simp⟩

theorem holds_of_parse {raw : Option String} {target : ControlTarget}
    (h : parse raw = .ok target) :
    ∀ addr ∈ target.addr?, ∃ t, ∃ text ∈ raw, Holds text.toList t addr.toList := by
  intro addr haddr
  cases raw with
  | none =>
    cases h
    cases haddr
  | some text =>
    rcases target.eq_log_or_socket with rfl | ⟨t, addr', rfl⟩
    · cases haddr
    · cases (addr?_socket t addr').symm.trans haddr
      exact ⟨t, text, rfl, parse_eq_socket_iff.1 h⟩

theorem zero_not_mem_text? {target : ControlTarget} {p : Padding} {text : String}
    (h : ∀ addr ∈ target.addr?, '\x00' ∉ addr.toList) (htext : target.text? p = some text) :
    '\x00' ∉ text.toList := by
  rcases target.eq_log_or_socket with rfl | ⟨t, addr, rfl⟩
  · cases htext
  · cases (text?_socket p t addr).symm.trans htext
    rw [String.toList_ofList]
    intro hmem
    rcases p.mem_around hmem with hwhite | hmem
    · exact absurd hwhite (by decide)
    · rcases List.mem_append.1 hmem with hmem | hmem
      · cases t <;> exact absurd hmem (by decide)
      · exact h addr (addr?_socket t addr) hmem

end ControlTarget

namespace Settings

/-- The texts among the settings. -/
def texts (s : Settings) : List String :=
  [s.defaultActivity, s.bindAddr, s.staticDir] ++ s.control.addr?.toList

/-- Settings that can be written to variables, where no text can have a zero byte. -/
structure Admissible (s : Settings) : Prop where
  activity : ∃ c ∈ s.defaultActivity.toList, isWhite c = false
  port : s.port < UInt16.size
  control : ∀ addr ∈ s.control.addr?, ControlTarget.IsAddress addr.toList
  controlQueueCapacity : 0 < s.controlQueueCapacity ∧ s.controlQueueCapacity < UInt64.size
  controlTimeoutMs : 0 < s.controlTimeoutMs ∧ s.controlTimeoutMs < UInt64.size
  clientQueueCapacity : 0 < s.clientQueueCapacity ∧ s.clientQueueCapacity < UInt64.size
  zeroless : ∀ text ∈ s.texts, '\x00' ∉ text.toList

/-- How the variables are written: every number in a style, white space around the address. -/
structure Hand where
  port : NumberStyle
  control : Padding
  controlQueueCapacity : NumberStyle
  controlTimeoutMs : NumberStyle
  clientQueueCapacity : NumberStyle

def numeral (w : NumberStyle) (n : Nat) : String := String.ofList (w.write n)

/-- Each variable set to the text of its field. -/
def written (s : Settings) (hand : Hand) : Variable → Option String
  | .defaultActivity => some s.defaultActivity
  | .bindAddr => some s.bindAddr
  | .port => some (numeral hand.port s.port)
  | .staticDir => some s.staticDir
  | .controlAddr => s.control.text? hand.control
  | .controlQueueCapacity => some (numeral hand.controlQueueCapacity s.controlQueueCapacity)
  | .controlTimeoutMs => some (numeral hand.controlTimeoutMs s.controlTimeoutMs)
  | .clientQueueCapacity => some (numeral hand.clientQueueCapacity s.clientQueueCapacity)

def environment (s : Settings) (hand : Hand) : Environment := fun v =>
  (s.written hand v).map .text

/-- No text of an environment has a zero byte in it. -/
def Zeroless (env : Environment) : Prop :=
  ∀ v text, env v = some (.text text) → '\x00' ∉ text.toList

section
variable {s : Settings} {env : Environment} {v : Variable} {bound unset n : Nat}

theorem readText_environment (hand : Hand) :
    readText (s.environment hand) v = .ok (s.written hand v) :=
  readText_eq_ok_iff.2 rfl

theorem readNumber_numeral {w : NumberStyle} (h : env v = some (.text (numeral w n)))
    (hn : n < bound) : readNumber env v bound unset = .ok n := by
  refine readNumber_eq_ok_iff.2 (.inr ⟨_, h, ?_⟩)
  rw [numeral, String.toList_ofList, NumberStyle.readBelow_trim_write hn]

theorem readPositive_numeral {w : NumberStyle} (h : env v = some (.text (numeral w n)))
    (hn : 0 < n ∧ n < UInt64.size) : readPositive env v unset = .ok n :=
  readPositive_eq_ok_iff.2 ⟨readNumber_numeral h hn.2, by omega⟩

theorem reads_environment (h : s.Admissible) (hand : Hand) : Reads (s.environment hand) s where
  defaultActivity := readActivity_eq_ok_iff.2
    ⟨⟨_, readText_environment hand, rfl⟩, trim_ne_nil_iff.2 h.activity⟩
  bindAddr := ⟨_, readText_environment hand, rfl⟩
  port := readNumber_numeral rfl h.port
  staticDir := ⟨_, readText_environment hand, rfl⟩
  control := ⟨_, readText_environment hand, ControlTarget.parse_text? hand.control h.control⟩
  controlQueueCapacity := readPositive_numeral rfl h.controlQueueCapacity
  controlTimeoutMs := readPositive_numeral rfl h.controlTimeoutMs
  clientQueueCapacity := readPositive_numeral rfl h.clientQueueCapacity

theorem read_environment (h : s.Admissible) (hand : Hand) : read (s.environment hand) = .ok s :=
  read_eq_ok_iff.2 (reads_environment h hand)

theorem zeroless_environment (h : s.Admissible) (hand : Hand) :
    Zeroless (s.environment hand) := by
  intro v text hv
  have hwritten : s.written hand v = some text := by simpa [environment] using hv
  have hnumeral : ∀ w n, '\x00' ∉ (numeral w n).toList := by
    intro w n
    simpa [numeral] using w.zero_not_mem_write n
  cases v with
  | controlAddr =>
    refine ControlTarget.zero_not_mem_text? (fun addr haddr => ?_) hwritten
    exact h.zeroless addr (by simp [texts, Option.mem_def.1 haddr])
  | defaultActivity => cases hwritten; exact h.zeroless _ (by simp [texts])
  | bindAddr => cases hwritten; exact h.zeroless _ (by simp [texts])
  | staticDir => cases hwritten; exact h.zeroless _ (by simp [texts])
  | _ => cases hwritten; exact hnumeral _ _

theorem zeroless_getD {text : Option String} {unset : String} (h : Zeroless env)
    (hread : readText env v = .ok text) (hunset : '\x00' ∉ unset.toList) :
    '\x00' ∉ (text.getD unset).toList := by
  rw [readText_eq_ok_iff] at hread
  cases text with
  | none => exact hunset
  | some raw => exact h v raw hread

theorem zeroless_addr (h : Zeroless env) {raw : Option String} {target : ControlTarget}
    (hread : readText env v = .ok raw) (hparse : ControlTarget.parse raw = .ok target) :
    ∀ addr ∈ target.addr?, '\x00' ∉ addr.toList := by
  intro addr haddr hzero
  obtain ⟨t, text, rfl, holds⟩ := ControlTarget.holds_of_parse hparse addr haddr
  obtain ⟨p, hraw⟩ := holds.around
  refine h v text (readText_eq_ok_iff.1 hread) ?_
  rw [hraw, Padding.around, ControlTarget.written]
  simp [hzero]

theorem bounds_of_readPositive (h : readPositive env v unset = .ok n)
    (hunset : unset < UInt64.size) : 0 < n ∧ n < UInt64.size := by
  obtain ⟨hn, hzero⟩ := readPositive_eq_ok_iff.1 h
  exact ⟨Nat.pos_of_ne_zero hzero, lt_of_readNumber hn hunset⟩

theorem admissible_of_read (hzero : Zeroless env) (h : read env = .ok s) : s.Admissible := by
  have reads := read_eq_ok_iff.1 h
  obtain ⟨⟨activity, hactivity, hdefault⟩, hblank⟩ :=
    readActivity_eq_ok_iff.1 reads.defaultActivity
  obtain ⟨bindAddr, hbind, hbindAddr⟩ := reads.bindAddr
  obtain ⟨staticDir, hstatic, hstaticDir⟩ := reads.staticDir
  obtain ⟨controlAddr, haddr, hcontrol⟩ := reads.control
  constructor
  case activity => exact trim_ne_nil_iff.1 hblank
  case port => exact lt_of_readNumber reads.port (by decide)
  case control =>
    intro addr hmem
    obtain ⟨t, text, -, holds⟩ := ControlTarget.holds_of_parse hcontrol addr hmem
    exact holds.toIsAddress
  case controlQueueCapacity => exact bounds_of_readPositive reads.controlQueueCapacity (by decide)
  case controlTimeoutMs => exact bounds_of_readPositive reads.controlTimeoutMs (by decide)
  case clientQueueCapacity => exact bounds_of_readPositive reads.clientQueueCapacity (by decide)
  case zeroless =>
    intro text hmem
    simp only [texts, List.cons_append, List.nil_append, List.mem_cons, Option.mem_toList] at hmem
    rcases hmem with rfl | rfl | rfl | hmem
    · exact hdefault ▸ zeroless_getD hzero hactivity (by decide)
    · exact hbindAddr ▸ zeroless_getD hzero hbind (by decide)
    · exact hstaticDir ▸ zeroless_getD hzero hstatic (by decide)
    · exact zeroless_addr hzero haddr hcontrol text hmem

end

/-- Admissible settings are read from every environment that they are written to. Settings that were
read are admissible, so writing and reading them again changes nothing. -/
theorem round_trip :
    (∀ (s : Settings) (hand : Hand), s.Admissible →
      Zeroless (s.environment hand) ∧ read (s.environment hand) = .ok s) ∧
    ∀ (env : Environment) (s : Settings), Zeroless env → read env = .ok s →
      s.Admissible ∧ ∀ hand : Hand, read (s.environment hand) = .ok s := by
  refine ⟨fun s hand h => ⟨zeroless_environment h hand, read_environment h hand⟩, ?_⟩
  intro env s hzero hread
  have hadmissible := admissible_of_read hzero hread
  exact ⟨hadmissible, read_environment hadmissible⟩

/-- Settings whose address has a scheme of its own inside. -/
def nested : Settings where
  port := 65535
  control := .udp "a://[::1]:9"
  clientQueueCapacity := 18446744073709551615

/-- A hand that pads with an ideographic space and a line feed, and writes a sign and zeros. -/
def ornate : Hand :=
  let wide : Padding :=
    ⟨['\u3000'], ['\n'], List.forall_mem_singleton.2 rfl, List.forall_mem_singleton.2 rfl⟩
  let numbers : NumberStyle := { padding := wide, plus := true, zeros := 2 }
  ⟨numbers, wide, numbers, numbers, numbers⟩

theorem round_trip_ornate : nested.Admissible ∧
    nested.written ornate .controlAddr = some "\u3000udp://a://[::1]:9\n" ∧
    read (nested.environment ornate) = .ok nested := by
  have admissible : nested.Admissible := by
    have hlast : "a://[::1]:9".toList.getLast? = some '9' := by decide
    constructor
    case activity => exact ⟨'D', by decide, rfl⟩
    case control =>
      rintro addr ⟨rfl⟩
      exact ⟨by decide, fun c hc => by cases hlast.symm.trans hc; rfl⟩
    all_goals decide
  exact ⟨admissible, by decide, (round_trip.1 nested ornate admissible).2⟩

end Settings
end ActivityRelay
