import ActivityRelay.Control.Controller
import ActivityRelay.Proofs.Control.Framing
import ActivityRelay.Proofs.Settings.Reading
import ActivityRelay.Proofs.Text.Padding
import ActivityRelay.Settings.ControlTarget

/-! Which addresses of a controller are accepted, and which of these have a host and a port. A
message to an address without one of the two never leaves the relay. -/
namespace ActivityRelay

namespace Control
open Network

section unreached
variable {fault : Network.Fault} {c : Controller} {w : Worker}

/-- An address to which no connection can be started fails a delivery, and leaves the rest alone. -/
theorem Controller.answer_unreached {s : Sink} (raw : String) (closed : s.connection = none)
    (h : c.host.connectText s.transport s.addr = .error fault) :
    c.answer s raw = (c, { refused := some (.socket fault) }) := by
  simp [answer, accept, closed, h]

theorem Sink.deliver_refused {s : Sink} (raw : String) {f : Fault} (closed : s.connection = none) :
    s.deliver raw { refused := some f } = (s, [], some f) := by
  simp [deliver, closed]

/-- Of a worker whose address leads nowhere every message fails. -/
theorem Controller.failed_settleWithin {fuel : Nat} (enough : w.queue.waiting.length < fuel)
    (idle : w.phase = .waiting) (there : w.queue.receiver ≠ .gone)
    (closed : w.sink.connection = none)
    (h : c.host.connectText w.sink.transport w.sink.addr = .error fault) :
    (c.settleWithin fuel w).2.written = w.written ∧
      (c.settleWithin fuel w).2.failed =
        w.failed ++ w.queue.waiting.map fun raw => (raw, .socket fault) := by
  induction fuel generalizing w with
  | zero => omega
  | succ fuel ih =>
    rcases ht : w.queue.take with ⟨raw | _ | _, queue⟩
    · -- The message is taken and fails at once; what is left is a worker with one message less.
      obtain ⟨hw, -, hreceiver, -⟩ := Queue.take_eq_item ht
      have htake : w.take = { w with queue, phase := .writing raw } := by
        simp [Worker.take, idle, ht]
      have hwrite : ({ w with queue, phase := .writing raw } : Worker).write
            { refused := some (.socket fault) } =
          { w with
            queue
            phase := .waiting
            failed := w.failed ++ [(raw, .socket fault)]
            log := w.log ++ [.forwardFailed w.sink.addr (.socket fault)] } := by
        simp [Worker.write, Sink.deliver_refused raw closed, Sink.reset_of_closed closed]
      have hrest := ih (w := { w with
          queue
          phase := .waiting
          failed := w.failed ++ [(raw, .socket fault)]
          log := w.log ++ [.forwardFailed w.sink.addr (.socket fault)] })
        (by simpa [hw] using enough) rfl (by rwa [hreceiver]) closed h
      rw [settleWithin, htake]
      simp only [answer_unreached raw closed h, hwrite]
      simpa [hw] using hrest
    · obtain ⟨-, -, hw, -⟩ := Queue.take_eq_empty ht
      simp [settleWithin, Worker.take, idle, ht, hw]
    · obtain ⟨-, hend⟩ := Queue.take_eq_ended ht
      simp [settleWithin, Worker.take, idle, ht, (hend.resolve_left there).1]

end unreached
end Control

namespace ControlTarget
open Text Network

/-- The target that is an address of a transport. -/
def socket (t : Transport) (addr : String) : ControlTarget :=
  match t with
  | .udp => .udp addr
  | .tcp => .tcp addr

def scheme : Transport → List Char
  | .udp => ['u', 'd', 'p']
  | .tcp => ['t', 'c', 'p']

/-- An address with its scheme in front. -/
def written (t : Transport) (addr : List Char) : List Char := scheme t ++ "://".toList ++ addr

theorem splitFirst_written (t : Transport) (addr : List Char) :
    splitFirst "://".toList (written t addr) = some (scheme t, addr) := by
  cases t <;> rfl

theorem eq_log_or_socket (target : ControlTarget) :
    target = .log ∨ ∃ t addr, target = socket t addr := by
  cases target with
  | log => exact .inl rfl
  | udp addr => exact .inr ⟨.udp, addr, rfl⟩
  | tcp addr => exact .inr ⟨.tcp, addr, rfl⟩

theorem socket_injective {t u : Transport} {addr addr' : String}
    (h : socket t addr = socket u addr') : t = u ∧ addr = addr' := by
  cases t <;> cases u <;> simp_all [socket]

theorem parseAddress_eq_ok_iff {raw : List Char} {target : ControlTarget} :
    parseAddress raw = .ok target ↔
      ∃ t addr, target = socket t addr ∧ raw = written t addr.toList ∧ ':' ∈ addr.toList := by
  constructor
  · intro h
    unfold parseAddress at h
    split at h
    · cases h
    · next s addr hsplit =>
      have hraw := splitFirst_eq_some hsplit
      split at h
      · cases h
      · next hcolon =>
        rw [not_not] at hcolon
        split at h
        · next hs =>
          cases h
          exact ⟨.udp, _, rfl, by simp [written, scheme, hraw, hs], by simpa using hcolon⟩
        · split at h
          · next hs =>
            cases h
            exact ⟨.tcp, _, rfl, by simp [written, scheme, hraw, hs], by simpa using hcolon⟩
          · cases h
  · rintro ⟨t, addr, rfl, rfl, hcolon⟩
    rw [parseAddress, splitFirst_written]
    cases t <;> simp [scheme, socket, hcolon]

theorem eq_of_parseAddress_eq_error {raw : List Char} {e : SettingsError}
    (h : parseAddress raw = .error e) : e = .controlAddr (String.ofList raw) := by
  unfold parseAddress at h
  split at h
  · cases h; rfl
  · split at h
    · cases h; rfl
    · split at h
      · cases h
      · split at h
        · cases h
        · cases h; rfl

/-- An address that can be set: it has a colon and does not end white. -/
structure IsAddress (addr : List Char) : Prop where
  colon : ':' ∈ addr
  last : ∀ c ∈ addr.getLast?, isWhite c = false

/-- A text in which an address stands behind its scheme, with white space around both. -/
structure Holds (raw : List Char) (t : Transport) (addr : List Char) : Prop
    extends IsAddress addr where
  around : ∃ p : Padding, raw = p.around (written t addr)

theorem bare_written_iff {t : Transport} {addr : List Char} (h : addr ≠ []) :
    Bare (written t addr) ↔ ∀ c ∈ addr.getLast?, isWhite c = false := by
  have hlast : (written t addr).getLast? = addr.getLast? := by
    rw [written, List.getLast?_append, List.getLast?_eq_some_getLast h]
    rfl
  constructor
  · intro hbare
    rw [← hlast]
    exact hbare.last
  · intro haddr
    refine ⟨?_, by rwa [hlast]⟩
    cases t <;> simp [written, scheme] <;> decide

theorem parse_of_blank {raw : String} (h : trim raw.toList = []) : parse (some raw) = .ok .log :=
  if_pos h

theorem parse_of_not_blank {raw : String} (h : trim raw.toList ≠ []) :
    parse (some raw) = parseAddress (trim raw.toList) := if_neg h

theorem parse_eq_log_iff {raw : String} :
    parse (some raw) = .ok .log ↔ ∀ c ∈ raw.toList, isWhite c = true := by
  rw [← trim_eq_nil_iff]
  refine ⟨fun h => ?_, parse_of_blank⟩
  by_contra hblank
  rw [parse_of_not_blank hblank, parseAddress_eq_ok_iff] at h
  obtain ⟨t, addr, ht, -⟩ := h
  cases t <;> cases ht

theorem parse_eq_socket_iff {raw : String} {t : Transport} {addr : String} :
    parse (some raw) = .ok (socket t addr) ↔ Holds raw.toList t addr.toList := by
  constructor
  · intro h
    have hblank : trim raw.toList ≠ [] := by
      intro hblank
      rw [parse_of_blank hblank] at h
      cases t <;> cases h
    rw [parse_of_not_blank hblank, parseAddress_eq_ok_iff] at h
    obtain ⟨u, addr', hsocket, htrim, hcolon⟩ := h
    obtain ⟨rfl, rfl⟩ := socket_injective hsocket
    obtain ⟨hbare, haround⟩ := trim_eq_iff.1 htrim
    exact ⟨⟨hcolon, (bare_written_iff (List.ne_nil_of_mem hcolon)).1 hbare⟩, haround⟩
  · intro h
    have hbare : Bare (written t addr.toList) :=
      (bare_written_iff (List.ne_nil_of_mem h.colon)).2 h.last
    have htrim : trim raw.toList = written t addr.toList := trim_eq_iff.2 ⟨hbare, h.around⟩
    have hblank : trim raw.toList ≠ [] := by rw [htrim]; cases t <;> simp [written, scheme]
    rw [parse_of_not_blank hblank, parseAddress_eq_ok_iff]
    exact ⟨t, addr, rfl, htrim, h.colon⟩

/-- A text is read as an address that it holds, and as none if it is blank. -/
theorem parse_eq_ok_iff {raw : String} {target : ControlTarget} :
    parse (some raw) = .ok target ↔ (target = .log ∧ ∀ c ∈ raw.toList, isWhite c = true) ∨
      ∃ t addr, target = socket t addr ∧ Holds raw.toList t addr.toList := by
  constructor
  · intro h
    rcases target.eq_log_or_socket with rfl | ⟨t, addr, rfl⟩
    · exact .inl ⟨rfl, parse_eq_log_iff.1 h⟩
    · exact .inr ⟨t, addr, rfl, parse_eq_socket_iff.1 h⟩
  · rintro (⟨rfl, hblank⟩ | ⟨t, addr, rfl, holds⟩)
    · exact parse_eq_log_iff.2 hblank
    · exact parse_eq_socket_iff.2 holds

theorem eq_of_parse_eq_error {raw : String} {e : SettingsError} (h : parse (some raw) = .error e) :
    e = .controlAddr (String.ofList (trim raw.toList)) := by
  by_cases hblank : trim raw.toList = []
  · rw [parse_of_blank hblank] at h
    cases h
  · exact eq_of_parseAddress_eq_error (by rw [← parse_of_not_blank hblank, h])

/-- Whatever is neither blank nor holds an address is refused. -/
theorem parse_eq_error_iff {raw : String} {e : SettingsError} :
    parse (some raw) = .error e ↔ e = .controlAddr (String.ofList (trim raw.toList)) ∧
      (∃ c ∈ raw.toList, isWhite c = false) ∧
      ∀ t (addr : String), ¬ Holds raw.toList t addr.toList := by
  constructor
  · intro h
    refine ⟨eq_of_parse_eq_error h, ?_, fun t addr holds => ?_⟩
    · rw [← trim_ne_nil_iff]
      intro hblank
      rw [parse_of_blank hblank] at h
      cases h
    · rw [parse_eq_socket_iff.2 holds] at h
      cases h
  · rintro ⟨rfl, ⟨c, hc, hwhite⟩, hnone⟩
    cases hp : parse (some raw) with
    | error e => rw [eq_of_parse_eq_error hp]
    | ok target =>
      exfalso
      rcases target.eq_log_or_socket with rfl | ⟨t, addr, rfl⟩
      · simp [parse_eq_log_iff.1 hp c hc] at hwhite
      · exact hnone t addr (parse_eq_socket_iff.1 hp)

/-- The digits of a port, which fits in 16 bits. -/
structure IsPort (cs : List Char) : Prop where
  nonempty : cs ≠ []
  digits : ∀ c ∈ cs, isDigit c = true
  fits : digitsValue cs < UInt16.size

/-- A host and a port; a host with colons of its own stands in brackets. -/
structure HostPort (host port : List Char) : Prop where
  nonempty : host ≠ []
  bracketed : ':' ∈ host → ∃ literal, host = '[' :: literal ++ [']']
  isPort : IsPort port

/-- An address that is a host and a port with a colon between them. -/
def IsHostPort (addr : List Char) : Prop :=
  ∃ host port, addr = host ++ ':' :: port ∧ HostPort host port

/-- What a port is read from where a connection is opened: it may have a plus sign there. -/
def IsDialled (port : List Char) : Prop :=
  IsPort port ∨ ∃ digits, port = '+' :: digits ∧ IsPort digits

theorem IsPort.colon_not_mem {port : List Char} (h : IsPort port) : ':' ∉ port := fun hc =>
  absurd (h.digits _ hc) (by decide)

theorem exists_lastColon {addr : List Char} (h : ':' ∈ addr) :
    ∃ host port, addr = host ++ ':' :: port ∧ ':' ∉ port := by
  obtain ⟨xs, ys, hsplit, hxs⟩ := List.eq_append_cons_of_mem (List.mem_reverse.2 h)
  refine ⟨ys.reverse, xs.reverse, ?_, by simpa using hxs⟩
  rw [← List.reverse_reverse addr, hsplit]
  simp

theorem lastColon_unique {host port host' port' : List Char}
    (h : host ++ ':' :: port = host' ++ ':' :: port') (hport : ':' ∉ port) (hport' : ':' ∉ port') :
    host = host' ∧ port = port' := by
  have hcut := splitLast_append host port hport
  rw [h, splitLast_append host' port' hport'] at hcut
  cases hcut
  exact ⟨rfl, rfl⟩

/-- The last colon is the only place where a host and a port can be told apart. -/
theorem isHostPort_iff {host port : List Char} (h : ':' ∉ port) :
    IsHostPort (host ++ ':' :: port) ↔ HostPort host port := by
  constructor
  · rintro ⟨host', port', hsplit, hvalid⟩
    obtain ⟨rfl, rfl⟩ := lastColon_unique hsplit h hvalid.isPort.colon_not_mem
    exact hvalid
  · exact fun hvalid => ⟨host, port, rfl, hvalid⟩

theorem isDialled_iff {port : List Char} :
    IsDialled port ↔ ∃ n, readBelow UInt16.size port = some n := by
  simp only [readBelow_eq_some_iff]
  constructor
  · rintro (hport | ⟨digits, rfl, hport⟩)
    · refine ⟨_, port, .inl ⟨rfl, fun hplus => ?_⟩, hport.nonempty, hport.digits, rfl, hport.fits⟩
      exact absurd (hport.digits '+' (List.mem_of_mem_head? hplus)) (by decide)
    · exact ⟨_, digits, .inr rfl, hport.nonempty, hport.digits, rfl, hport.fits⟩
  · rintro ⟨n, digits, ⟨rfl, -⟩ | rfl, hne, hall, rfl, hlt⟩
    · exact .inl ⟨hne, hall, hlt⟩
    · exact .inr ⟨digits, rfl, hne, hall, hlt⟩

theorem isPort_of_readDigits {port : List Char} {n : Nat}
    (h : readDigits UInt16.size port = some n) : IsPort port := by
  unfold readDigits at h
  split at h
  · cases h
  · next hplus =>
    rcases isDialled_iff.2 ⟨n, h⟩ with hport | ⟨digits, rfl, -⟩
    · exact hport
    · exact absurd rfl hplus

/-- What is read in brackets has a port behind its last colon as well. -/
theorem bracketed?_eq_some {cs : List Char} {e : Endpoint} (h : Endpoint.bracketed? cs = some e) :
    ∃ host port, cs = host ++ ':' :: port ∧ IsPort port := by
  unfold Endpoint.bracketed? at h
  split at h
  · next cs =>
    obtain ⟨⟨literal, port⟩, hsplit, h⟩ := Option.bind_eq_some_iff.1 h
    obtain ⟨address, -, h⟩ := Option.bind_eq_some_iff.1 h
    obtain ⟨n, hn, -⟩ := Option.bind_eq_some_iff.1 h
    refine ⟨'[' :: literal ++ [']'], port, ?_, isPort_of_readDigits hn⟩
    rw [splitFirst_eq_some hsplit]
    simp
  · cases h

/-- Without a port there is no endpoint, not even one in brackets. -/
theorem endpoint_of_not_dialled {host port : List Char} (hcolon : ':' ∉ port)
    (h : ¬ IsDialled port) : Endpoint.parse (host ++ ':' :: port) = .error .invalidPort := by
  have hbracketed : Endpoint.bracketed? (host ++ ':' :: port) = none := by
    cases he : Endpoint.bracketed? (host ++ ':' :: port) with
    | none => rfl
    | some e =>
      -- Its port stands behind the last colon, so it is the text that is no port.
      obtain ⟨host', port', hsplit, hport⟩ := bracketed?_eq_some he
      obtain ⟨-, rfl⟩ := lastColon_unique hsplit hcolon hport.colon_not_mem
      exact absurd (.inl hport) h
  have hnone : readBelow UInt16.size port = none := by
    cases hn : readBelow UInt16.size port with
    | none => rfl
    | some n => exact absurd (isDialled_iff.2 ⟨n, hn⟩) h
  simp [Endpoint.parse, hbracketed, Endpoint.separated, splitLast_append host port hcolon, hnone]

theorem endpoint_of_no_host {port : List Char} (hcolon : ':' ∉ port) (h : IsDialled port) :
    Endpoint.parse (':' :: port) = .error (.lookup .unknown) := by
  obtain ⟨n, hn⟩ := isDialled_iff.1 h
  have hsplit : splitLast ':' (':' :: port) = some ([], port) := splitLast_append [] port hcolon
  have hnowhere : lookup [] = .error .unknown := by decide
  simp [Endpoint.parse, Endpoint.bracketed?, Endpoint.separated, hsplit, hn, hnowhere]

/-- Whatever is sent by a worker that has no connection to an address yet is lost to one fault. -/
def Loses (t : Transport) (addr : String) (fault : Network.Fault) : Prop :=
  ∀ (c : Control.Controller) (w : Control.Worker), w.sink.transport = t → w.sink.addr = addr →
    w.sink.connection = none → w.phase = .waiting → w.queue.receiver ≠ .gone →
    (c.settle w).2.written = w.written ∧
      (c.settle w).2.failed = w.failed ++ w.queue.waiting.map fun raw => (raw, .socket fault)

theorem loses_of_parse {t : Transport} {addr : String} {fault : Network.Fault}
    (h : Endpoint.parse addr.toList = .error fault) : Loses t addr fault := by
  intro c w ht haddr hclosed hidle hthere
  have hunreached : c.host.connectText w.sink.transport w.sink.addr = .error fault := by
    simp [Host.connectText, haddr, h]
  exact Control.Controller.failed_settleWithin (Nat.lt_succ_self _) hidle hthere hclosed hunreached

theorem holds_of_hostPort {raw : List Char} {t : Transport} {p : Padding} {host port : List Char}
    (h : HostPort host port) (hraw : raw = p.around (written t (host ++ ':' :: port))) :
    Holds raw t (host ++ ':' :: port) := by
  refine ⟨⟨by simp, fun c hc => isWhite_of_isDigit (h.isPort.digits c ?_)⟩, p, hraw⟩
  rw [List.getLast?_append, List.getLast?_cons, List.getLast?_eq_some_getLast h.isPort.nonempty]
    at hc
  cases hc
  exact List.getLast_mem _

/-- What a present value is read as. -/
structure Grammar (raw : String) : Prop where
  log : parse (some raw) = .ok .log ↔ ∀ c ∈ raw.toList, isWhite c = true
  address : ∀ t addr, parse (some raw) = .ok (socket t addr) ↔ Holds raw.toList t addr.toList
  refused : ∀ e, parse (some raw) = .error e ↔
    e = .controlAddr (String.ofList (trim raw.toList)) ∧ (∃ c ∈ raw.toList, isWhite c = false) ∧
      ∀ t (addr : String), ¬ Holds raw.toList t addr.toList
  /-- The relay starts with what the value is read as, and not with a value that is refused. -/
  startup : ∀ env s, env .controlAddr = some (.text raw) → Settings.read env = .ok s →
    parse (some raw) = .ok s.control
  /-- A host and a port are accepted behind either scheme. -/
  documented : ∀ t (p : Padding) host port, HostPort host port →
    raw.toList = p.around (written t (host ++ ':' :: port)) →
    parse (some raw) = .ok (socket t (String.ofList (host ++ ':' :: port)))
  /-- What is accepted is a host and a port if both sides of the last colon are fit for it. Where
  one of the two is missing nothing is ever delivered. -/
  accepted : ∀ t addr, parse (some raw) = .ok (socket t addr) →
    ∃ host port, addr.toList = host ++ ':' :: port ∧ ':' ∉ port ∧
      (IsHostPort addr.toList ↔ HostPort host port) ∧
      (¬ IsDialled port → Loses t addr .invalidPort) ∧
      (IsDialled port → host = [] → Loses t addr (.lookup .unknown))

theorem parse_grammar (raw : String) : Grammar raw where
  log := parse_eq_log_iff
  address _ _ := parse_eq_socket_iff
  refused _ := parse_eq_error_iff
  startup env s hraw h := by
    obtain ⟨text, hread, hparse⟩ := (Settings.read_eq_ok_iff.1 h).control
    rw [Settings.readText_eq_ok_iff, hraw] at hread
    cases text with
    | none => cases hread
    | some raw' =>
      cases hread
      exact hparse
  documented t p host port h hraw :=
    parse_eq_socket_iff.2 (by simpa using holds_of_hostPort h hraw)
  accepted t addr h := by
    obtain ⟨host, port, hsplit, hcolon⟩ := exists_lastColon (parse_eq_socket_iff.1 h).colon
    refine ⟨host, port, hsplit, hcolon, by rw [hsplit, isHostPort_iff hcolon], ?_, ?_⟩
    · exact fun hport => loses_of_parse (by rw [hsplit, endpoint_of_not_dialled hcolon hport])
    · rintro hport rfl
      exact loses_of_parse (hsplit ▸ endpoint_of_no_host hcolon hport)

example : parse (some " tcp://[::1]:7777\n") = .ok (.tcp "[::1]:7777") := by decide

theorem parse_grammar_portless : parse (some "udp://localhost:") = .ok (.udp "localhost:") ∧
    Loses .udp "localhost:" .invalidPort := by
  have accepted : parse (some "udp://localhost:") = .ok (.udp "localhost:") := by decide
  obtain ⟨host, port, hsplit, hcolon, -, hloses, -⟩ :=
    (parse_grammar "udp://localhost:").accepted .udp "localhost:" accepted
  have hhere : "localhost".toList ++ ':' :: [] = host ++ ':' :: port := hsplit
  obtain ⟨-, rfl⟩ := lastColon_unique hhere List.not_mem_nil hcolon
  refine ⟨accepted, hloses ?_⟩
  rintro (hport | ⟨digits, h, -⟩)
  · exact hport.nonempty rfl
  · cases h

/-- A colon behind the host is enough to be accepted, with nothing for a port. -/
theorem portless_address_accepted : ¬ ∀ (raw : String) (t : Transport) (addr : String),
    parse (some raw) = .ok (socket t addr) → IsHostPort addr.toList := by
  intro claim
  have h := claim "udp://localhost:" .udp "localhost:" (by decide)
  have hport : HostPort "localhost".toList [] := (isHostPort_iff List.not_mem_nil).1 h
  exact hport.isPort.nonempty rfl

end ControlTarget
end ActivityRelay
