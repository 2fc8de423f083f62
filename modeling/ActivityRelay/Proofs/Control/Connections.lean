import ActivityRelay.Proofs.Control.History

/-! What went over each connection of a stream. A connection carries complete lines until a delivery
on it fails; then it is given up with what went of that one line, and nothing follows. -/
namespace ActivityRelay.Control
open Network (Transport)

theorem fragment_tcp_start (message : List UInt8) (count : Nat) :
    Transport.tcp.fragment message count <+: message := by
  have htake := List.take_prefix count message.dropLast
  exact htake.trans <| List.dropLast_prefix message

theorem length_fragment_tcp_lt (raw : String) (count : Nat) :
    (Transport.tcp.fragment (Transport.tcp.encode raw) count).length <
      (Transport.tcp.encode raw).length := by
  have h : (Transport.tcp.fragment (Transport.tcp.encode raw) count).length ≤
      (Transport.tcp.encode raw).length - 1 := by
    rw [← List.length_dropLast]
    exact List.length_take_le' count _
  have hpos : 0 < (Transport.tcp.encode raw).length := by simp [Transport.encode]
  omega

/-- The deliveries up to one that failed: with no connection, or with one on which all but the last
went well. -/
inductive Stretch where
  | unopened (raw : String) (fault : Fault)
  | torn (delivered : List String) (raw : String) (fault : Fault) (part : List UInt8)
      (start : part <+: Transport.tcp.encode raw)
      (proper : part.length < (Transport.tcp.encode raw).length)

namespace Stretch

def attempts : Stretch → List (String × Option Fault)
  | unopened raw fault => [(raw, some fault)]
  | torn delivered raw fault _ _ _ => delivered.map (·, none) ++ [(raw, some fault)]

def delivered : Stretch → List String
  | unopened .. => []
  | torn delivered .. => delivered

theorem getLast?_attempts (stretch : Stretch) :
    ∃ raw fault, stretch.attempts.getLast? = some (raw, some fault) := by
  cases stretch with
  | unopened raw fault => exact ⟨raw, fault, rfl⟩
  | torn delivered raw fault => exact ⟨raw, fault, by simp [attempts]⟩

/-- What went over the connection, if there was one. -/
def bytes? : Stretch → Option (List UInt8)
  | unopened .. => none
  | torn delivered _ _ part _ _ => some (delivered.flatMap Transport.tcp.encode ++ part)

end Stretch

/-- How the deliveries that were tried lie on the connections: stretches that ended, and the
messages on the connection that is open. -/
structure Laid (s : Sink) (tried : List (String × Option Fault)) (written : List String)
    (stretches : List Stretch) (live : List String) : Prop where
  tcp : s.transport = .tcp
  tried : tried = stretches.flatMap Stretch.attempts ++ live.map (·, none)
  written : written = stretches.flatMap Stretch.delivered ++ live
  former : s.former = stretches.filterMap Stretch.bytes?
  connection : s.connection =
    if live = [] then none else some (live.flatMap Transport.tcp.encode)

namespace Laid
variable {s : Sink} {tried : List (String × Option Fault)} {written : List String}
  {stretches : List Stretch} {live : List String}

theorem getD_connection (l : Laid s tried written stretches live) :
    s.connection.getD [] = live.flatMap Transport.tcp.encode := by
  rw [l.connection]
  split
  · next h => rw [h]; rfl
  · rfl

theorem delivered (l : Laid s tried written stretches live) (raw : String) :
    Laid (s.put (s.transport.encode raw)) (tried ++ [(raw, none)]) (written ++ [raw]) stretches
      (live ++ [raw]) where
  tcp := l.tcp
  tried := by simp [l.tried]
  written := by simp [l.written]
  former := l.former
  connection := by simp [l.getD_connection, l.tcp]

theorem unopened (l : Laid s tried written stretches live) (closed : s.connection = none)
    (raw : String) (fault : Fault) :
    Laid s (tried ++ [(raw, some fault)]) written (stretches ++ [.unopened raw fault]) [] := by
  obtain rfl : live = [] := by
    have h := l.connection
    rw [closed] at h
    by_contra hlive
    simp [hlive] at h
  exact
    { tcp := l.tcp
      tried := by simp [l.tried, Stretch.attempts]
      written := by simp [l.written, Stretch.delivered]
      former := by simp [l.former, Stretch.bytes?]
      connection := closed }

theorem torn (l : Laid s tried written stretches live) (raw : String) (fault : Fault)
    (count : Nat) : ∃ stretch, Laid (s.putPart raw count).reset (tried ++ [(raw, some fault)])
      written (stretches ++ [stretch]) [] := by
  refine ⟨.torn live raw fault (Transport.tcp.fragment (Transport.tcp.encode raw) count)
    (fragment_tcp_start _ count) (length_fragment_tcp_lt raw count), ?_⟩
  exact
    { tcp := l.tcp
      tried := by simp [l.tried, Stretch.attempts]
      written := by simp [l.written, Stretch.delivered]
      former := by simp [Sink.putPart, l.former, Stretch.bytes?, l.getD_connection, l.tcp]
      connection := rfl }

/-- A connection is open exactly behind a delivery that went well. -/
theorem isSome_iff (l : Laid s tried written stretches live) :
    s.connection.isSome ↔ ∃ raw, tried.getLast? = some (raw, none) := by
  rw [l.connection, l.tried]
  rcases live.eq_nil_or_concat with rfl | ⟨front, raw, rfl⟩
  · rcases stretches.eq_nil_or_concat with rfl | ⟨stretches, stretch, rfl⟩
    · simp
    · obtain ⟨raw, fault, h⟩ := stretch.getLast?_attempts
      simp [List.getLast?_append, h]
  · simp

end Laid

/-- How a sink is left when its worker ends: nothing more goes over a connection than, at most, the
start of one more line. -/
structure Closed (s s' : Sink) : Prop where
  connection : s'.connection = none
  former : s'.former = s.former ++ s.connection.toList ∨ ∃ raw part,
    part <+: Transport.tcp.encode raw ∧ part.length < (Transport.tcp.encode raw).length ∧
      s'.former = s.former ++ [s.connection.getD [] ++ part]

theorem closed_reset (s : Sink) : Closed s s.reset where
  connection := rfl
  former := .inl rfl

theorem closed_putPart {s : Sink} (tcp : s.transport = .tcp) (raw : String) (count : Nat) :
    Closed s (s.putPart raw count).reset where
  connection := rfl
  former := .inr ⟨raw, _, fragment_tcp_start _ count, length_fragment_tcp_lt raw count, by
    simp [Sink.putPart, tcp]⟩

def Notice.isOpening : Notice → Bool
  | .opened .. => true
  | _ => false

/-- All connections, oldest first. -/
def Sink.connections (s : Sink) : List (List UInt8) := s.former ++ s.connection.toList

/-- What more writing does to the connections: those that were given up stay as they are, and the
one that is open can only get more. -/
structure Grown (s s' : Sink) : Prop where
  former : s.former <+: s'.former
  connections : ∀ (i : Nat) (bytes : List UInt8), s.connections[i]? = some bytes →
    ∃ more, s'.connections[i]? = some (bytes ++ more)

namespace Grown
variable {s s' s'' : Sink}

theorem refl (s : Sink) : Grown s s where
  former := List.prefix_refl _
  connections i bytes h := ⟨[], by simpa using h⟩

theorem trans (g : Grown s s') (g' : Grown s' s'') : Grown s s'' where
  former := g.former.trans g'.former
  connections i bytes h := by
    obtain ⟨more, hmore⟩ := g.connections i bytes h
    obtain ⟨rest, hrest⟩ := g'.connections i _ hmore
    exact ⟨more ++ rest, by rw [hrest, List.append_assoc]⟩

theorem of_last {extra : List UInt8} (former : s.former <+: s'.former)
    (h : s'.connections = s.former ++ [s.connection.getD [] ++ extra]) : Grown s s' where
  former := former
  connections i bytes hi := by
    rw [h]
    by_cases hlt : i < s.former.length
    · rw [Sink.connections, List.getElem?_append_left hlt] at hi
      exact ⟨[], by rw [List.getElem?_append_left hlt, hi, List.append_nil]⟩
    · rw [Sink.connections, List.getElem?_append_right (by omega)] at hi
      rw [List.getElem?_append_right (by omega)]
      cases hc : s.connection with
      | none => simp [hc] at hi
      | some current =>
        rw [hc, Option.toList_some, List.getElem?_singleton] at hi
        split at hi
        · next hzero =>
          cases hi
          exact ⟨extra, by rw [hzero]; rfl⟩
        · simp at hi

end Grown

theorem Sink.grown_put (s : Sink) (bytes : List UInt8) : Grown s (s.put bytes) :=
  .of_last (List.prefix_refl _) rfl

theorem Sink.grown_reset (s : Sink) : Grown s s.reset where
  former := List.prefix_append _ _
  connections i bytes h := ⟨[], by simpa [connections] using h⟩

namespace Worker
variable {w w' : Worker} {marks : List Mark}

theorem Turn.grown (t : Turn w marks w') : Grown w.sink w'.sink := by
  cases t with
  | wrote => exact w.sink.grown_put _
  | broke | cutOff => exact (w.sink.grown_put _).trans (Sink.grown_reset _)
  | ended | killed => exact w.sink.grown_reset
  | _ => exact .refl w.sink

theorem grown_run (w : Worker) (steps : List Step) : Grown w.sink (w.run steps).sink := by
  induction steps generalizing w with
  | nil => exact .refl w.sink
  | cons st steps ih => exact (w.turn_step st).grown.trans (ih (w.step st))

/-- The log tells of each connection when it is opened. -/
theorem Turn.opened (t : Turn w marks w') :
    w'.log.countP Notice.isOpening + w.sink.connections.length =
      w.log.countP Notice.isOpening + w'.sink.connections.length := by
  have hopening : w.sink.opening.countP Notice.isOpening + w.sink.connection.toList.length = 1 := by
    cases h : w.sink.connection <;> simp [Sink.opening, h, Notice.isOpening]
  cases t <;> simp [Sink.connections, Sink.putPart, Notice.isOpening] <;> omega

theorem opened_logged {addr : String} {transport : Transport} {limitMs capacity : Nat}
    (made : create { transport, addr, limitMs } capacity = .ok w) (steps : List Step) :
    (w.run steps).log.countP Notice.isOpening = (w.run steps).sink.connections.length := by
  induction steps using List.reverseRecOn with
  | nil => rw [create_eq_ok made]; rfl
  | append_singleton steps st ih =>
    have hturn := ((w.run steps).turn_step st).opened
    rw [run_append]
    change ((w.run steps).step st).log.countP _ = ((w.run steps).step st).sink.connections.length
    omega

theorem isGoing_of_waiting (h : w.phase = .waiting) : w.isGoing := by simp [isGoing, h]

theorem isGoing_of_writing {raw : String} (h : w.phase = .writing raw) : w.isGoing := by
  simp [isGoing, h]

/-- A worker that has ended does not go on. -/
theorem Turn.going (t : Turn w marks w') (h : w'.isGoing) : w.isGoing := by
  cases t with
  | took phase | ended phase => exact isGoing_of_waiting phase
  | wrote phase | unopened phase | broke phase | cutOff phase => exact isGoing_of_writing phase
  | killed going => exact going
  | _ => exact h

theorem going_run {steps : List Step} (h : (w.run steps).isGoing) : w.isGoing := by
  induction steps generalizing w with
  | nil => exact h
  | cons st steps ih => exact (w.turn_step st).going (ih h)

/-- Between two deliveries the connection is left alone. -/
theorem Turn.sink_eq (t : Turn w marks w') (going : w'.isGoing)
    (untried : marks.filterMap Mark.tried? = []) : w'.sink = w.sink := by
  cases t with
  | wrote | unopened | broke => simp [Mark.tried?] at untried
  | ended | killed | cutOff => cases going
  | _ => rfl

theorem sink_run {steps : List Step} (going : (w.run steps).isGoing)
    (untried : (w.history steps).filterMap Mark.tried? = []) : (w.run steps).sink = w.sink := by
  induction steps generalizing w with
  | nil => rfl
  | cons st steps ih =>
    rw [history, List.filterMap_append, List.append_eq_nil_iff] at untried
    exact (ih going untried.2).trans ((w.turn_step st).sink_eq (going_run going) untried.1)

/-- How the deliveries that were tried lie on the connections of a worker. While it goes on they lie
in its sink; once it has ended they lie as they did in the sink that was then closed. -/
inductive Lies (w : Worker) (tried : List (String × Option Fault)) (stretches : List Stretch)
    (live : List String) : Prop
  | going (h : w.isGoing) (l : Laid w.sink tried w.written stretches live)
  | ended {s : Sink} (h : w.isGoing = false) (l : Laid s tried w.written stretches live)
      (closed : Closed s w.sink)

theorem Lies.isSome_iff {tried : List (String × Option Fault)} {stretches : List Stretch}
    {live : List String} (l : Lies w tried stretches live) :
    w.sink.connection.isSome ↔ w.isGoing ∧ ∃ raw, tried.getLast? = some (raw, none) := by
  cases l with
  | going h l => simp [h, l.isSome_iff]
  | ended h l closed => simp [h, closed.connection]

theorem laid_turn {tried : List (String × Option Fault)} {stretches : List Stretch}
    {live : List String} (going : w.isGoing) (l : Laid w.sink tried w.written stretches live)
    (t : Turn w marks w') :
    ∃ stretches live, Lies w' (tried ++ marks.filterMap Mark.tried?) stretches live := by
  cases t with
  | @wrote raw phase => exact ⟨stretches, live ++ [raw], .going rfl (l.delivered raw)⟩
  | @unopened raw fault phase closed => exact ⟨_, [], .going rfl (l.unopened closed raw fault)⟩
  | @broke raw fault phase count =>
    obtain ⟨stretch, l'⟩ := l.torn raw fault count
    exact ⟨_, [], .going rfl l'⟩
  | ended phase h => exact ⟨stretches, live, .ended rfl (by simpa using l) (closed_reset _)⟩
  | killed => exact ⟨stretches, live, .ended rfl (by simpa using l) (closed_reset _)⟩
  | @cutOff raw phase count =>
    exact ⟨stretches, live, .ended rfl (by simpa using l) (closed_putPart l.tcp raw count)⟩
  | took => exact ⟨stretches, live, .going rfl (by simpa using l)⟩
  | accepted | refused =>
    exact ⟨stretches, live, .going going (by simpa [List.filterMap_cons, Mark.tried?] using l)⟩
  | released | idle => exact ⟨stretches, live, .going going (by simpa using l)⟩

theorem lies_turn {tried : List (String × Option Fault)} {stretches : List Stretch}
    {live : List String} (l : Lies w tried stretches live) (t : Turn w marks w') :
    ∃ stretches live, Lies w' (tried ++ marks.filterMap Mark.tried?) stretches live := by
  cases l with
  | going h l => exact laid_turn h l t
  | ended h l closed =>
    cases t with
    | took phase | ended phase => simp [isGoing_of_waiting phase] at h
    | wrote phase | unopened phase | broke phase | cutOff phase =>
      simp [isGoing_of_writing phase] at h
    | killed going => simp [going] at h
    | accepted | refused =>
      exact ⟨stretches, live,
        .ended h (by simpa [List.filterMap_cons, Mark.tried?] using l) closed⟩
    | released | idle => exact ⟨stretches, live, .ended h (by simpa using l) closed⟩

theorem lies_run {tried : List (String × Option Fault)} {stretches : List Stretch}
    {live : List String} (l : Lies w tried stretches live) (steps : List Step) :
    ∃ stretches live, Lies (w.run steps)
      (tried ++ (w.history steps).filterMap Mark.tried?) stretches live := by
  induction steps generalizing w tried stretches live with
  | nil => exact ⟨stretches, live, by simpa [history, run] using l⟩
  | cons st steps ih =>
    obtain ⟨stretches', live', l'⟩ := lies_turn l (w.turn_step st)
    obtain ⟨stretches'', live'', l''⟩ := ih l'
    refine ⟨stretches'', live'', ?_⟩
    rwa [List.append_assoc, ← List.filterMap_append] at l''

/-- No line that broke off is ever gone on with. However messages are handed over and however the
network answers, a connection carries the lines of messages delivered one behind the other and then,
at most, the start of one more line, with which it ends. A connection is kept for the next message
exactly if the delivery went well and the worker goes on. -/
theorem no_line_is_continued {addr : String} {limitMs capacity : Nat}
    (made : create { transport := .tcp, addr, limitMs } capacity = .ok w) (steps : List Step) :
    ∃ stretches live,
      Lies (w.run steps) ((w.history steps).filterMap Mark.tried?) stretches live ∧
      ((w.run steps).sink.connection.isSome ↔ (w.run steps).isGoing ∧
        ∃ raw, ((w.history steps).filterMap Mark.tried?).getLast? = some (raw, none)) ∧
      ∀ more, Grown (w.run steps).sink (w.run (steps ++ more)).sink ∧
        ((w.history (steps ++ more)).filterMap Mark.tried? =
            (w.history steps).filterMap Mark.tried? → (w.run (steps ++ more)).isGoing →
          (w.run (steps ++ more)).sink = (w.run steps).sink) := by
  have start : Lies w [] [] [] := by
    rw [create_eq_ok made]
    exact .going rfl
      { tcp := rfl, tried := rfl, written := rfl, former := rfl, connection := rfl }
  obtain ⟨stretches, live, l⟩ := lies_run start steps
  refine ⟨stretches, live, l, l.isSome_iff, fun more => ?_⟩
  rw [run_append, history_append, List.filterMap_append]
  refine ⟨grown_run _ more, fun untried going => sink_run going ?_⟩
  exact List.append_right_eq_self.1 untried

/-- The second message breaks off behind its first byte, the third one goes over a new
connection. -/
def tornSteps : List Step :=
  [.send "a", .send "bb", .take, .write {}, .take, .write { broken := some (1, .timedOut 500) },
    .send "c", .take, .write {}]

theorem no_line_is_continued_torn : ∃ w,
    create { transport := .tcp, addr := "", limitMs := 500 } 2 = .ok w ∧
    (w.run tornSteps).sink.connections = [[97, 10, 98], [99, 10]] ∧
    ∃ stretches live,
      Lies (w.run tornSteps) ((w.history tornSteps).filterMap Mark.tried?) stretches live := by
  have made : create { transport := .tcp, addr := "", limitMs := 500 } 2 = .ok
      { sink := { transport := .tcp, addr := "", limitMs := 500 }
        queue := { capacity := 2 }
        log := [.configured .tcp "" 2 500] } := rfl
  obtain ⟨stretches, live, l, -⟩ := no_line_is_continued made tornSteps
  exact ⟨_, made, by decide, stretches, live, l⟩

end Worker
end ActivityRelay.Control
