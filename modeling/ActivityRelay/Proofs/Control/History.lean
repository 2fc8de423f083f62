import ActivityRelay.Control.Worker
import Mathlib.Data.List.Induction

/-! What is remembered of a run of the worker: each message that was handed over and each delivery
that was tried, with how that went. The messages that the queue took are those that were tried, the
one that is being written and those that wait, one behind the other. -/
namespace ActivityRelay.Control

def Notice.isWarning (n : Notice) : Bool := n.level = .warn

@[simp] theorem Notice.isWarning_dropped (addr : String) (why : Queue.Refusal) :
    (dropped addr why).isWarning := rfl

@[simp] theorem Notice.isWarning_forwardFailed (addr : String) (fault : Fault) :
    (forwardFailed addr fault).isWarning := rfl

@[simp] theorem Notice.isWarning_stopped (addr : String) : (stopped addr).isWarning = false := rfl

@[simp] theorem Sink.warnings_opening (s : Sink) : s.opening.filter Notice.isWarning = [] := by
  unfold opening
  split <;> rfl

namespace Worker

/-- A message handed over, with what kept it out of the queue; or a delivery tried, with what it
failed for. -/
inductive Mark where
  | handed (raw : String) (refusal : Option Queue.Refusal)
  | tried (raw : String) (fault : Option Fault)
  deriving DecidableEq, Repr

namespace Mark

def handed? : Mark → Option String
  | .handed raw _ => some raw
  | .tried .. => none

def accepted? : Mark → Option String
  | .handed raw none => some raw
  | _ => none

def refused? : Mark → Option (String × Queue.Refusal)
  | .handed raw (some why) => some (raw, why)
  | _ => none

def tried? : Mark → Option (String × Option Fault)
  | .tried raw fault => some (raw, fault)
  | .handed .. => none

def written? : Mark → Option String
  | .tried raw none => some raw
  | _ => none

def failed? : Mark → Option (String × Fault)
  | .tried raw (some fault) => some (raw, fault)
  | _ => none

/-- The warning that a mark comes with, about messages to an address. -/
def warning? (addr : String) : Mark → Option Notice
  | .handed _ (some why) => some (.dropped addr why)
  | .tried _ (some fault) => some (.forwardFailed addr fault)
  | _ => none

end Mark

/-- What was logged as a warning. -/
def warnings (w : Worker) : List Notice := w.log.filter Notice.isWarning

/-- What a step leaves to remember. -/
def mark? (w : Worker) : Step → Option Mark
  | .send raw =>
    if w.queue.senders = 0 then none
    else match w.queue.push raw with
      | .ok _ => some (.handed raw none)
      | .error why => some (.handed raw (some why))
  | .write reply =>
    match w.phase with
    | .writing raw => some (.tried raw (w.sink.deliver raw reply).2.2)
    | _ => none
  | _ => none

theorem run_append (w : Worker) (xs ys : List Step) : w.run (xs ++ ys) = (w.run xs).run ys :=
  List.foldl_append

def history (w : Worker) : List Step → List Mark
  | [] => []
  | st :: steps => (w.mark? st).toList ++ (w.step st).history steps

theorem history_append (w : Worker) (xs ys : List Step) :
    w.history (xs ++ ys) = w.history xs ++ (w.run xs).history ys := by
  induction xs generalizing w with
  | nil => rfl
  | cons st xs ih =>
    simp only [List.cons_append, history, ih, List.append_assoc, run, List.foldl_cons]

variable {w w' : Worker} {marks : List Mark}

/-- All that a step can do, with what it leaves to remember. -/
inductive Turn (w : Worker) : List Mark → Worker → Prop
  | accepted {raw : String} {queue : Queue String} (held : w.queue.senders ≠ 0)
      (h : w.queue.push raw = .ok queue) : Turn w [.handed raw none] { w with queue }
  | refused {raw : String} {why : Queue.Refusal} (held : w.queue.senders ≠ 0)
      (h : w.queue.push raw = .error why) : Turn w [.handed raw (some why)]
      { w with
        refused := w.refused ++ [(raw, why)]
        log := w.log ++ [.dropped w.sink.addr why] }
  | released : Turn w [] { w with queue := w.queue.dropSender }
  | took {raw : String} {queue : Queue String} (phase : w.phase = .waiting)
      (h : w.queue.take = (.item raw, queue)) : Turn w [] { w with queue, phase := .writing raw }
  | ended {queue : Queue String} (phase : w.phase = .waiting)
      (h : w.queue.take = (.ended, queue)) : Turn w []
      { w with sink := w.sink.reset, phase := .stopped, log := w.log ++ [.stopped w.sink.addr] }
  | wrote {raw : String} (phase : w.phase = .writing raw) : Turn w [.tried raw none]
      { w with
        sink := w.sink.put (w.sink.transport.encode raw)
        phase := .waiting
        written := w.written ++ [raw]
        log := w.log ++ w.sink.opening }
  | unopened {raw : String} {fault : Fault} (phase : w.phase = .writing raw)
      (closed : w.sink.connection = none) : Turn w [.tried raw (some fault)]
      { w with
        phase := .waiting
        failed := w.failed ++ [(raw, fault)]
        log := w.log ++ [.forwardFailed w.sink.addr fault] }
  | broke {raw : String} {fault : Fault} (phase : w.phase = .writing raw) (count : Nat) :
      Turn w [.tried raw (some fault)]
      { w with
        sink := (w.sink.putPart raw count).reset
        phase := .waiting
        failed := w.failed ++ [(raw, fault)]
        log := w.log ++ w.sink.opening ++ [.forwardFailed w.sink.addr fault] }
  | killed (going : w.isGoing) :
      Turn w [] { w with sink := w.sink.reset, queue := w.queue.close, phase := .killed }
  | cutOff {raw : String} (phase : w.phase = .writing raw) (count : Nat) : Turn w []
      { w with
        sink := (w.sink.putPart raw count).reset
        queue := w.queue.close
        phase := .killed
        log := w.log ++ w.sink.opening }
  | idle : Turn w [] w

theorem turn_send (w : Worker) (raw : String) :
    Turn w (w.mark? (.send raw)).toList (w.send raw) := by
  by_cases hs : w.queue.senders = 0
  · simpa [send, mark?, hs] using Turn.idle
  · cases hp : w.queue.push raw with
    | ok queue => simpa [send, mark?, hs, hp] using Turn.accepted hs hp
    | error why => simpa [send, mark?, hs, hp] using Turn.refused hs hp

theorem turn_take (w : Worker) : Turn w [] w.take := by
  by_cases phase : w.phase = .waiting
  · rcases ht : w.queue.take with ⟨raw | _ | _, queue⟩
    · simpa [take, phase, ht] using Turn.took phase ht
    · simpa [take, phase, ht] using Turn.idle
    · simpa [take, phase, ht] using Turn.ended phase ht
  · have hidle : w.take = w := by
      unfold take
      split
      · contradiction
      · rfl
    rw [hidle]
    exact .idle

theorem turn_write (w : Worker) (reply : Reply) :
    Turn w (w.mark? (.write reply)).toList (w.write reply) := by
  cases phase : w.phase with
  | writing raw =>
    rcases w.sink.deliver_cases raw reply with ⟨fault, closed, hd⟩ | hd | ⟨count, fault, hd⟩
    · simpa [write, mark?, phase, hd, Sink.reset_of_closed closed] using Turn.unopened phase closed
    · simpa [write, mark?, phase, hd] using Turn.wrote phase
    · simpa [write, mark?, phase, hd] using Turn.broke phase count
  | _ => simpa [write, mark?, phase] using Turn.idle

theorem turn_kill (w : Worker) (sent : Option Nat) : Turn w [] (w.kill sent) := by
  cases phase : w.phase with
  | waiting => simpa [kill, phase] using Turn.killed (by simp [isGoing, phase])
  | writing raw =>
    cases sent with
    | none => simpa [kill, phase] using Turn.killed (by simp [isGoing, phase])
    | some count => simpa [kill, phase] using Turn.cutOff phase count
  | _ => simpa [kill, phase] using Turn.idle

theorem turn_step (w : Worker) (st : Step) : Turn w (w.mark? st).toList (w.step st) := by
  cases st with
  | send raw => exact w.turn_send raw
  | release => exact .released
  | take => exact w.turn_take
  | write reply => exact w.turn_write reply
  | kill sent => exact w.turn_kill sent

/-- The message that is being written. -/
def inHand (w : Worker) : List String :=
  match w.phase with
  | .writing raw => [raw]
  | _ => []

/-- What a turn adds to what became of the messages, and to the warnings. -/
structure Added (w : Worker) (marks : List Mark) (w' : Worker) : Prop where
  addr : w'.sink.addr = w.sink.addr
  written : w'.written = w.written ++ marks.filterMap Mark.written?
  failed : w'.failed = w.failed ++ marks.filterMap Mark.failed?
  refused : w'.refused = w.refused ++ marks.filterMap Mark.refused?
  warned : w'.warnings = w.warnings ++ marks.filterMap (Mark.warning? w.sink.addr)

theorem Turn.added (t : Turn w marks w') : Added w marks w' := by
  cases t <;>
    exact
      { addr := rfl
        written := by simp [Mark.written?]
        failed := by simp [Mark.failed?]
        refused := by simp [Mark.refused?]
        warned := by simp [warnings, Mark.warning?] }

/-- How a worker stands to what is remembered of its run. -/
structure Kept (capacity : Nat) (w : Worker) (marks : List Mark) : Prop where
  capacity : w.queue.capacity = capacity
  receiver : w.queue.receiver = if w.phase = .killed then .gone else .listening
  written : w.written = marks.filterMap Mark.written?
  failed : w.failed = marks.filterMap Mark.failed?
  refused : w.refused = marks.filterMap Mark.refused?
  warned : w.warnings = marks.filterMap (Mark.warning? w.sink.addr)
  /-- The queue gives its messages to the worker in their order, and the worker tries each. -/
  order : ∃ left, marks.filterMap Mark.accepted? =
      (marks.filterMap Mark.tried?).map (·.1) ++ left ∧
    (w.phase ≠ .killed → left = w.inHand ++ w.queue.waiting)
  /-- The worker comes to its own end only behind the last message. -/
  ended : w.phase = .stopped → w.queue.senders = 0 ∧ w.queue.waiting = []

theorem create_eq_ok {sink : Sink} {capacity : Nat} (made : create sink capacity = .ok w) : w =
    { sink
      queue := { capacity, waiting := [], fits := capacity.zero_le }
      log := [.configured sink.transport sink.addr capacity sink.limitMs] } := by
  unfold create Queue.create at made
  split at made
  · next queue hq =>
    split at hq
    · simp at hq
    · cases hq
      exact (Except.ok.inj made).symm
  · simp at made

theorem kept_create {sink : Sink} {capacity : Nat} (made : create sink capacity = .ok w) :
    Kept capacity w [] := by
  rw [create_eq_ok made]
  exact ⟨rfl, rfl, rfl, rfl, rfl, rfl, ⟨[], rfl, fun _ => rfl⟩, by simp⟩

/-- Once the message in hand was tried, only those that wait are still to come. -/
theorem Kept.order_tried {capacity : Nat} (k : Kept capacity w marks) {raw : String}
    (phase : w.phase = .writing raw) (fault : Option Fault) :
    (marks ++ [Mark.tried raw fault]).filterMap Mark.accepted? =
      ((marks ++ [Mark.tried raw fault]).filterMap Mark.tried?).map (·.1) ++ w.queue.waiting := by
  obtain ⟨left, hleft, hcurrent⟩ := k.order
  simp [hleft, hcurrent, inHand, phase, Mark.accepted?, Mark.tried?]

/-- What was added agrees with what is remembered; how the queue stands is up to the turn. -/
theorem Kept.after {capacity : Nat} {before : List Mark} (k : Kept capacity w before)
    (a : Added w marks w') (hcapacity : w'.queue.capacity = w.queue.capacity)
    (receiver : w'.queue.receiver = if w'.phase = .killed then .gone else .listening)
    (order : ∃ left, (before ++ marks).filterMap Mark.accepted? =
        ((before ++ marks).filterMap Mark.tried?).map (·.1) ++ left ∧
      (w'.phase ≠ .killed → left = w'.inHand ++ w'.queue.waiting))
    (ended : w'.phase = .stopped → w'.queue.senders = 0 ∧ w'.queue.waiting = []) :
    Kept capacity w' (before ++ marks) where
  capacity := hcapacity.trans k.capacity
  receiver := receiver
  written := by rw [a.written, k.written, List.filterMap_append]
  failed := by rw [a.failed, k.failed, List.filterMap_append]
  refused := by rw [a.refused, k.refused, List.filterMap_append]
  warned := by rw [a.warned, k.warned, a.addr, List.filterMap_append]
  order := order
  ended := ended

theorem Kept.turn {capacity : Nat} {before : List Mark} (k : Kept capacity w before)
    (t : Turn w marks w') : Kept capacity w' (before ++ marks) := by
  obtain ⟨left, hleft, hcurrent⟩ := k.order
  have listening {phase : Phase} (other : phase ≠ .killed) (h : w.phase = phase) :
      w.queue.receiver = .listening := by rw [k.receiver, if_neg (h ▸ other)]
  have a := t.added
  cases t with
  | @accepted raw queue held h =>
    obtain ⟨hr, -, hw, -, hreceiver, hsenders, hcapacity⟩ := Queue.push_eq_ok h
    have alive : w.phase ≠ .killed := fun hk => by simp [k.receiver, hk] at hr
    refine k.after a hcapacity (hreceiver.trans k.receiver) ⟨left ++ [raw], ?_, fun _ => ?_⟩ ?_
    · simp [hleft, Mark.accepted?, Mark.tried?]
    · rw [hcurrent alive, hw, List.append_assoc]
      rfl
    · exact fun hs => absurd (k.ended hs).1 held
  | @refused raw why held h =>
    refine k.after a rfl k.receiver ⟨left, ?_, hcurrent⟩ k.ended
    simp [List.filterMap_cons, hleft, Mark.accepted?, Mark.tried?]
  | released =>
    refine k.after a rfl k.receiver ⟨left, by simpa using hleft, hcurrent⟩ fun hs => ?_
    obtain ⟨hzero, hempty⟩ := k.ended hs
    exact ⟨by rw [Queue.dropSender, hzero], hempty⟩
  | @took raw queue phase h =>
    obtain ⟨hw, -, hreceiver, -, hcapacity⟩ := Queue.take_eq_item h
    refine k.after a hcapacity (hreceiver.trans (listening (by simp) phase))
      ⟨left, by simpa using hleft, fun _ => ?_⟩ (by simp)
    rw [hcurrent (by simp [phase]), hw]
    simp [inHand, phase]
  | ended phase h =>
    obtain ⟨-, hend⟩ := Queue.take_eq_ended h
    have hreceiver := listening (by simp) phase
    refine k.after a rfl hreceiver ⟨left, by simpa using hleft, fun _ => ?_⟩ fun _ => ?_
    · rw [hcurrent (by simp [phase])]
      simp [inHand, phase]
    · simpa [hreceiver, and_comm] using hend
  | wrote phase =>
    exact k.after a rfl (listening (by simp) phase)
      ⟨w.queue.waiting, k.order_tried phase _, fun _ => rfl⟩ (by simp)
  | unopened phase closed =>
    exact k.after a rfl (listening (by simp) phase)
      ⟨w.queue.waiting, k.order_tried phase _, fun _ => rfl⟩ (by simp)
  | broke phase count =>
    exact k.after a rfl (listening (by simp) phase)
      ⟨w.queue.waiting, k.order_tried phase _, fun _ => rfl⟩ (by simp)
  | killed going => exact k.after a rfl rfl ⟨left, by simpa using hleft, by simp⟩ (by simp)
  | cutOff phase count => exact k.after a rfl rfl ⟨left, by simpa using hleft, by simp⟩ (by simp)
  | idle =>
    rw [List.append_nil]
    exact k

theorem Kept.run {capacity : Nat} {before : List Mark} (k : Kept capacity w before)
    (steps : List Step) : Kept capacity (w.run steps) (before ++ w.history steps) := by
  induction steps generalizing w before with
  | nil => simpa [history, run] using k
  | cons st steps ih =>
    have hrest := ih (k.turn (w.turn_step st))
    rwa [List.append_assoc] at hrest

theorem addr_run (w : Worker) (steps : List Step) : (w.run steps).sink.addr = w.sink.addr := by
  induction steps generalizing w with
  | nil => rfl
  | cons st steps ih => exact (ih (w.step st)).trans (w.turn_step st).added.addr

theorem senders_step (w : Worker) (st : Step) : (w.step st).queue.senders =
    if st = .release then w.queue.senders - 1 else w.queue.senders := by
  cases st with
  | send raw =>
    simp only [step, send]
    split
    · rfl
    · split
      · next hp => exact (Queue.push_eq_ok hp).2.2.2.2.2.1
      · rfl
  | release => rfl
  | take =>
    simp only [step, take]
    split
    · split
      · next ht => exact (Queue.take_eq_item ht).2.2.2.1
      · rfl
      · rfl
    · rfl
  | write reply =>
    simp only [step, write]
    split
    · split <;> rfl
    · rfl
  | kill sent =>
    simp only [step, kill]
    split <;> rfl

/-- The handle is there until it is dropped. -/
theorem senders_run (held : w.queue.senders = 1) (steps : List Step) :
    (w.run steps).queue.senders = if .release ∈ steps then 0 else 1 := by
  induction steps using List.reverseRecOn with
  | nil => simpa [run] using held
  | append_singleton steps st ih =>
    have hstep := (w.run steps).senders_step st
    rw [run_append]
    change ((w.run steps).step st).queue.senders = _
    by_cases hst : st = .release
    · subst hst
      rw [hstep, ih]
      by_cases h : .release ∈ steps <;> simp [h]
    · rw [hstep, ih]
      simp [hst, Ne.symm hst]

def Step.sent? : Step → Option String
  | .send raw => some raw
  | _ => none

/-- The messages handed over before the handle is dropped. -/
def handed (steps : List Step) : List String :=
  (steps.takeWhile (· ≠ .release)).filterMap Step.sent?

theorem mark?_handed (held : w.queue.senders ≠ 0) (st : Step) :
    (w.mark? st).toList.filterMap Mark.handed? = st.sent?.toList := by
  cases st with
  | send raw =>
    simp only [mark?, if_neg held]
    split <;> rfl
  | write reply =>
    simp only [mark?]
    split <;> rfl
  | _ => rfl

theorem mark?_released (released : w.queue.senders = 0) (st : Step) :
    (w.mark? st).toList.filterMap Mark.handed? = [] := by
  cases st with
  | send raw => simp [mark?, released]
  | write reply =>
    simp only [mark?]
    split <;> rfl
  | _ => rfl

theorem history_released (released : w.queue.senders = 0) (steps : List Step) :
    (w.history steps).filterMap Mark.handed? = [] := by
  induction steps generalizing w with
  | nil => rfl
  | cons st steps ih =>
    have hnext : (w.step st).queue.senders = 0 := by
      rw [senders_step, released]
      split <;> rfl
    rw [history, List.filterMap_append, mark?_released released, ih hnext, List.append_nil]

theorem history_handed (held : w.queue.senders = 1) (steps : List Step) :
    (w.history steps).filterMap Mark.handed? = handed steps := by
  induction steps generalizing w with
  | nil => rfl
  | cons st steps ih =>
    have hnext := w.senders_step st
    rw [history, List.filterMap_append, mark?_handed (by omega)]
    by_cases hst : st = .release
    · subst hst
      rw [if_pos rfl, held] at hnext
      rw [history_released hnext]
      rfl
    · rw [if_neg hst, held] at hnext
      rw [ih hnext, handed, handed, List.takeWhile_cons_of_pos (by simpa using hst)]
      cases h : st.sent? <;> simp [h]

/-- Only from outside is a worker ended before its time. -/
theorem alive_step (alive : w.phase ≠ .killed) {st : Step} (other : ∀ sent, st ≠ .kill sent) :
    (w.step st).phase ≠ .killed := by
  cases st with
  | send raw =>
    simp only [step, send]
    split
    · exact alive
    · split <;> exact alive
  | release => exact alive
  | take =>
    simp only [step, take]
    split
    · split
      · simp
      · simp
      · exact alive
    · exact alive
  | write reply =>
    simp only [step, write]
    split
    · split <;> simp
    · exact alive
  | kill sent => exact absurd rfl (other sent)

theorem alive_run (alive : w.phase ≠ .killed) {steps : List Step}
    (other : ∀ sent, .kill sent ∉ steps) : (w.run steps).phase ≠ .killed := by
  induction steps generalizing w with
  | nil => exact alive
  | cons st steps ih =>
    refine ih (alive_step alive fun sent h => other sent ?_) fun sent h => other sent ?_
    · exact List.mem_cons.2 (.inl h.symm)
    · exact List.mem_cons_of_mem _ h

end Worker
end ActivityRelay.Control
