import ActivityRelay.Proofs.Control.History
import ActivityRelay.Proofs.Text.Utf8
import ActivityRelay.Text.Lines

/-! What the other end can tell from the bytes of a stream. Each message is written with a line feed
behind it, so the lines are the messages again exactly when no message has a line feed inside. -/
namespace ActivityRelay

namespace Text
variable {α β : Type} [DecidableEq α] {mark : α}

theorem lines_append (xs ys : List α) :
    lines mark (xs ++ mark :: ys) = lines mark (xs ++ [mark]) ++ lines mark ys := by
  induction xs with
  | nil => simp [lines]
  | cons x xs ih =>
    rw [List.cons_append, List.cons_append, lines, lines, ih]
    by_cases hx : x = mark
    · simp [hx]
    · rw [if_neg hx, if_neg hx]
      cases h : lines mark (xs ++ [mark]) with
      | nil => simpa [h] using lines_flatten mark (xs ++ [mark])
      | cons l ls => rfl

theorem lines_flatMap (f : β → List α) (bs : List β) (rest : List α) :
    lines mark ((bs.flatMap fun b => f b ++ [mark]) ++ rest) =
      (bs.flatMap fun b => lines mark (f b ++ [mark])) ++ lines mark rest := by
  induction bs with
  | nil => rfl
  | cons b bs ih =>
    rw [List.flatMap_cons, List.flatMap_cons, List.append_assoc, List.append_assoc,
      List.singleton_append, lines_append, ih, List.append_assoc]

theorem length_lines (xs : List α) : (lines mark (xs ++ [mark])).length = xs.count mark + 1 := by
  induction xs with
  | nil => simp [lines]
  | cons x xs ih =>
    rw [List.cons_append, lines]
    by_cases hx : x = mark
    · simp [hx, ih]
    · rw [if_neg hx, List.count_cons_of_ne hx]
      cases h : lines mark (xs ++ [mark]) with
      | nil => simp [h] at ih
      | cons l ls => simpa [h] using ih

end Text

namespace Control
open Text
open Network (Transport)

/-- The text of a line, if the line is complete. -/
def lineText? (line : List UInt8) : Option String :=
  if line.getLast? = some 10 then Utf8.decode? line.dropLast else none

theorem lineText?_encode (m : String) : lineText? (Transport.tcp.encode m) = some m := by
  simp [lineText?, Transport.encode, Utf8.decode?_encode]

/-- The lines that one message takes. -/
def messageLines (m : String) : List (List UInt8) := lines 10 (Transport.tcp.encode m)

theorem lines_stream (messages : List String) (rest : List UInt8) :
    lines 10 (messages.flatMap Transport.tcp.encode ++ rest) =
      messages.flatMap messageLines ++ lines 10 rest :=
  lines_flatMap Utf8.encode messages rest

theorem messageLines_of_notMem {m : String} (h : '\n' ∉ m.toList) :
    messageLines m = [Transport.tcp.encode m] :=
  lines_append_mark _ [] fun hm => h ((Utf8.lineFeed_mem_encode m).1 hm)

theorem length_messageLines (m : String) :
    (messageLines m).length = (Utf8.encode m).count 10 + 1 := length_lines _

theorem length_le_length_lines (messages : List String) :
    messages.length ≤ (messages.flatMap messageLines).length := by
  induction messages with
  | nil => exact Nat.zero_le _
  | cons m messages ih =>
    rw [List.flatMap_cons, List.length_append, List.length_cons, length_messageLines]
    omega

/-- As many lines as messages are had only where no message takes more than one. -/
theorem notMem_of_length_eq {messages : List String}
    (h : (messages.flatMap messageLines).length = messages.length) :
    ∀ m ∈ messages, '\n' ∉ m.toList := by
  induction messages with
  | nil => simp
  | cons m messages ih =>
    rw [List.flatMap_cons, List.length_append, List.length_cons, length_messageLines] at h
    have hle := length_le_length_lines messages
    rw [List.forall_mem_cons]
    refine ⟨fun hm => ?_, ih (by omega)⟩
    have hc := List.count_pos_iff.2 ((Utf8.lineFeed_mem_encode m).2 hm)
    omega

/-- The lines of a stream say the messages again exactly if no message has a line feed in it. -/
theorem lineText?_lines_iff (messages : List String) :
    (messages.flatMap messageLines).map lineText? = messages.map some ↔
      ∀ m ∈ messages, '\n' ∉ m.toList := by
  constructor
  · intro h
    apply notMem_of_length_eq
    simpa using congrArg List.length h
  · intro h
    induction messages with
    | nil => rfl
    | cons m messages ih =>
      rw [List.forall_mem_cons] at h
      rw [List.flatMap_cons, messageLines_of_notMem h.1, List.map_append, ih h.2]
      simp [lineText?_encode]

theorem fragment_zero (t : Transport) (message : List UInt8) : t.fragment message 0 = [] := by
  cases t <;> simp [Transport.fragment]

/-- What went over one connection: the messages written whole, and what went of the one at which
the connection was given up. -/
structure Carried where
  messages : List String
  fragment : List UInt8

def Carried.bytes (t : Transport) (c : Carried) : List UInt8 :=
  c.messages.flatMap t.encode ++ c.fragment

/-- The messages that were written, connection by connection. -/
structure Framed (s : Sink) (written : List String) (former : List Carried)
    (messages : List String) : Prop where
  past : s.former = former.map (·.bytes s.transport)
  present : s.connection.getD [] = messages.flatMap s.transport.encode
  closed : s.connection = none → messages = []
  all : written = former.flatMap (·.messages) ++ messages
  /-- What went of a message that was not written whole is less than the message. -/
  broken : ∀ c ∈ former, ∃ raw count,
    c.fragment = s.transport.fragment (s.transport.encode raw) count

namespace Framed
variable {s : Sink} {written : List String} {former : List Carried} {messages : List String}

theorem unused {s : Sink} (closed : s.connection = none) (unused : s.former = []) :
    Framed s [] [] [] where
  past := unused
  present := by rw [closed]; rfl
  closed _ := rfl
  all := rfl
  broken := by simp

theorem delivered (f : Framed s written former messages) (raw : String) :
    Framed (s.put (s.transport.encode raw)) (written ++ [raw]) former (messages ++ [raw]) where
  past := f.past
  present := by simp [f.present]
  closed h := by simp at h
  all := by rw [f.all, List.append_assoc]
  broken := f.broken

/-- A connection that breaks off is given up with what went of the message. -/
theorem gaveUp (f : Framed s written former messages) (raw : String) (count : Nat) :
    ∃ former, Framed (s.putPart raw count).reset written former [] := by
  refine ⟨former ++ [⟨messages, s.transport.fragment (s.transport.encode raw) count⟩], ?_⟩
  exact
    { past := by simp [Sink.putPart, f.past, f.present, Carried.bytes]
      present := rfl
      closed := fun _ => rfl
      all := by simp [f.all]
      broken := by
        intro c hc
        rcases List.mem_append.1 hc with hc | hc
        · exact f.broken c hc
        · exact ⟨raw, count, by rw [List.mem_singleton.1 hc]; rfl⟩ }

/-- A connection that is closed between two messages has only whole messages. -/
theorem reset (f : Framed s written former messages) :
    ∃ former, Framed s.reset written former [] := by
  cases hc : s.connection with
  | none =>
    obtain rfl := f.closed hc
    exact ⟨former, by rwa [Sink.reset_of_closed hc]⟩
  | some bytes =>
    -- Giving up an open connection is breaking off before the first byte.
    have hopen : s.putPart "" 0 = s := by
      cases s
      simp_all [Sink.putPart, Sink.put, fragment_zero]
    exact hopen ▸ f.gaveUp "" 0

end Framed

namespace Worker
variable {w w' : Worker} {marks : List Mark}

theorem Turn.transport (t : Turn w marks w') : w'.sink.transport = w.sink.transport := by
  cases t <;> rfl

theorem framed_turn {former : List Carried} {messages : List String}
    (f : Framed w.sink w.written former messages) (t : Turn w marks w') :
    ∃ former messages, Framed w'.sink w'.written former messages := by
  cases t with
  | @wrote raw phase => exact ⟨former, messages ++ [raw], f.delivered raw⟩
  | @broke raw fault phase count | @cutOff raw phase count =>
    obtain ⟨former', f'⟩ := f.gaveUp raw count
    exact ⟨former', [], f'⟩
  | ended | killed =>
    obtain ⟨former', f'⟩ := f.reset
    exact ⟨former', [], f'⟩
  | _ => exact ⟨former, messages, f⟩

theorem transport_run (w : Worker) (steps : List Step) :
    (w.run steps).sink.transport = w.sink.transport := by
  induction steps generalizing w with
  | nil => rfl
  | cons st steps ih => exact (ih (w.step st)).trans (w.turn_step st).transport

theorem framed_run {former : List Carried} {messages : List String} (steps : List Step)
    (f : Framed w.sink w.written former messages) :
    ∃ former messages, Framed (w.run steps).sink (w.run steps).written former messages := by
  induction steps generalizing w former messages with
  | nil => exact ⟨former, messages, f⟩
  | cons st steps ih =>
    obtain ⟨former', messages', f'⟩ := framed_turn f (w.turn_step st)
    exact ih f'

/-- The lines on the stream that is open are those of its messages, one behind the other, and say
the messages again exactly if no message has a line feed in it. On a stream that was given up they
are followed by what went of the message that failed; if nothing did, they say the messages again
on the same condition. -/
theorem stream_lines {sink : Sink} {capacity : Nat} (steps : List Step)
    (tcp : sink.transport = .tcp) (closed : sink.connection = none) (unused : sink.former = [])
    (made : create sink capacity = .ok w) :
    ∃ former messages, Framed (w.run steps).sink (w.run steps).written former messages ∧
      (∀ bytes, (w.run steps).sink.connection = some bytes →
        lines 10 bytes = messages.flatMap messageLines ∧
        ((lines 10 bytes).map lineText? = messages.map some ↔ ∀ m ∈ messages, '\n' ∉ m.toList)) ∧
      ∀ c ∈ former, lines 10 (c.bytes .tcp) =
          c.messages.flatMap messageLines ++ lines 10 c.fragment ∧
        (c.fragment = [] → ((lines 10 (c.bytes .tcp)).map lineText? = c.messages.map some ↔
          ∀ m ∈ c.messages, '\n' ∉ m.toList)) := by
  have hsink : w.sink = sink := by rw [create_eq_ok made]
  have start : Framed w.sink w.written [] [] := by
    rw [create_eq_ok made]
    exact .unused closed unused
  obtain ⟨former, messages, f⟩ := framed_run steps start
  have whole (messages : List String) {bytes : List UInt8}
      (hbytes : bytes = messages.flatMap Transport.tcp.encode) :
      lines 10 bytes = messages.flatMap messageLines ∧
        ((lines 10 bytes).map lineText? = messages.map some ↔
          ∀ m ∈ messages, '\n' ∉ m.toList) := by
    have hlines : lines 10 bytes = messages.flatMap messageLines := by
      simpa [hbytes, lines] using lines_stream messages []
    exact ⟨hlines, by rw [hlines]; exact lineText?_lines_iff messages⟩
  refine ⟨former, messages, f, fun bytes hb => whole messages ?_, fun c _ => ?_⟩
  · have ht : (w.run steps).sink.transport = .tcp := by rw [transport_run, hsink, tcp]
    rw [← ht, ← f.present, hb, Option.getD_some]
  · refine ⟨lines_stream c.messages c.fragment, fun hc => (whole c.messages ?_).2⟩
    rw [Carried.bytes, hc, List.append_nil]

/-- Two messages on one stream, the first of them with a line feed in it. -/
def dividedSteps : List Step :=
  [.send "a\nb", .send "c", .take, .write {}, .take, .write {}]

theorem stream_lines_of_divided : ∃ w, create ⟨.tcp, "", 500, none, []⟩ 2 = .ok w ∧
    (w.run dividedSteps).written = ["a\nb", "c"] ∧ ∃ former messages,
      Framed (w.run dividedSteps).sink (w.run dividedSteps).written former messages ∧
      ∀ bytes, (w.run dividedSteps).sink.connection = some bytes →
        lines 10 bytes = messages.flatMap messageLines ∧
        ((lines 10 bytes).map lineText? = messages.map some ↔
          ∀ m ∈ messages, '\n' ∉ m.toList) := by
  have made : create ⟨.tcp, "", 500, none, []⟩ 2 = .ok
      { sink := ⟨.tcp, "", 500, none, []⟩
        queue := { capacity := 2 }
        log := [.configured .tcp "" 2 500] } := rfl
  obtain ⟨former, messages, f, hb, -⟩ := stream_lines dividedSteps rfl rfl rfl made
  exact ⟨_, made, by decide, former, messages, f, hb⟩

/-- A message with a line feed in it is written without failure and comes out as two lines. -/
theorem line_feed_divides_message : ¬ ∀ (w : Worker) (steps : List Step) (bytes : List UInt8),
    w.sink.transport = .tcp → w.sink.connection = none → w.written = [] →
    (w.run steps).failed = [] → (w.run steps).sink.connection = some bytes →
    (lines 10 bytes).map lineText? = (w.run steps).written.map some := by
  intro claim
  have h := claim { sink := ⟨.tcp, "", 500, none, []⟩, queue := { capacity := 2 } } dividedSteps
    (Utf8.encode "a\nb" ++ [10] ++ (Utf8.encode "c" ++ [10])) rfl rfl rfl (by decide) (by decide)
  exact absurd h (by decide)

end Worker
end Control
end ActivityRelay
