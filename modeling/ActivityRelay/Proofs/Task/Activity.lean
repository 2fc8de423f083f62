import ActivityRelay.Proofs.Http.Report
import ActivityRelay.Proofs.Relay.Activity
import ActivityRelay.Proofs.Task.Forwarding

/-! The activity while tasks run beside each other. It is read and replaced under its lock, and
what was read is told before the lock is given back; so nobody is told an activity that has been
replaced, and it is always the one that was committed last. -/
namespace ActivityRelay
namespace Phase
variable {me : Nat} {s s' : Shared} {p p' : Phase} {op : Operation}

/-- The activity that a task has found or put in place, and has yet to tell. -/
def pledged? : Phase → Option String
  | .greeting _ activity => some activity
  | .telling _ _ value => some value
  | .clearing _ e | .dropping _ _ _ e | .finishing e => e.outcome.told?
  | _ => none

/-- Who is not in front of the line for the lock, or is there and has something to tell already,
leaves the activity as it is. -/
theorem activity_kept (h : Step me s p s' p') (hop : op.isPublic = true) (ho : p.Of op)
    (hn : s.line.head? = some me → p.pledged? ≠ none) :
    s'.relay.activity = s.relay.activity := by
  rw [activity_step h hop ho]
  refine activityAfter_of_value? fun m hm => ?_
  cases h with
  | changes origin value front => exact absurd rfl (hn front)
  | registers front hi => exact absurd rfl (hn front)
  | refuses front hi => exact absurd rfl (hn front)
  | plain | command => rw [List.mem_singleton.1 hm]; rfl
  | ask work =>
    cases work with
    | change origin value => rw [List.mem_singleton.1 hm]; rfl
    | _ => simp [marks] at hm
  | _ => simp [marks] at hm

/-- What a task pledges is the activity, as long as it has the lock. -/
def Faithful (activity : String) (p : Phase) : Prop :=
  ∀ value, p.pledged? = some value → p.holds = true ∧ value = activity

theorem faithful_step (h : Step me s p s' p') (hop : op.isPublic = true) (ho : p.Of op)
    (hf : Faithful s.relay.activity p) : Faithful s'.relay.activity p' := by
  intro value hv
  have hkept (hp : p.pledged? ≠ none) : s'.relay.activity = s.relay.activity :=
    activity_kept h hop ho fun _ => hp
  cases h with
  | registers front hi | changes origin new front => exact ⟨rfl, (Option.some.inj hv).symm⟩
  | reads front | reports viewers front => exact ⟨rfl, (Option.some.inj hv).symm⟩
  | greets hc ok | tells origin previous new =>
    rw [hkept (by simp [pledged?])]
    exact ⟨rfl, (hf value hv).2⟩
  | cleared ending => exact hf value hv
  | clears id record failed ending | drops c last failed ending =>
    have hp : ending.outcome.told? = some value := hv
    rw [hkept (by simp [pledged?, hp])]
    exact hf value hv
  | _ => simp [pledged?, Outcome.told?] at hv

/-- Tasks offer the pledged activity to the queues, and nothing else. -/
theorem puts_step (h : Step me s p s' p') (hop : op.isPublic = true) (ho : p.Of op)
    (hf : Faithful s.relay.activity p) : Relay.Puts (.game s'.relay.activity) s.relay s'.relay := by
  have same (hq : s'.relay.view.queues = s.relay.view.queues) :
      Relay.Puts (.game s'.relay.activity) s.relay s'.relay := Relay.puts_of_queues hq
  have hkept (hp : p.pledged? ≠ none) : s'.relay.activity = s.relay.activity :=
    activity_kept h hop ho fun _ => hp
  cases h with
  | register | unregister | sendTo | broadcast | replaces =>
    cases ho
    simp [Operation.isPublic] at hop
  | disconnect id => exact same (by rw [Relay.view_remove])
  | clears id record failed ending => exact same (by rw [Relay.view_clear])
  | refuses front hi => exact same (by rw [Relay.view_release]; rfl)
  | @greets id c activity hc ok =>
    rw [hkept (by simp [pledged?]), ← (hf activity rfl).2]
    exact Relay.puts_deliver s.relay c (.game activity)
  | tells origin previous value =>
    rw [hkept (by simp [pledged?]), ← (hf value rfl).2]
    exact Relay.puts_deliverEach s.relay (.game value) _
  | plain | command => exact same (by rw [Relay.view_hear])
  | drops c last failed ending => exact same (by simp)
  | finishes e => exact same (by simp)
  | _ => exact same rfl

/-- Only the last step of a task answers, and it tells what was pledged. -/
theorem told_step {o : Outcome} {value : String} (h : Step me s p s' p') (hd : p' = .done o)
    (hv : o.told? = some value) (hf : Faithful s.relay.activity p) :
    value = s'.relay.activity := by
  cases h with
  | finishes e =>
    cases hd
    refine (hf value hv).2.trans ?_
    exact (congrArg View.activity (s.relay.view_lastNote e.last)).symm
  | _ => simp at hd

/-- The command of a task is forwarded, pending or committed. -/
def Settles (me : Nat) (value : String) (history : List Mark) (p : Phase) : Prop :=
  (∃ op, p = .start op) ∨ p.pending? = some value ∨ (me, value) ∈ commitsIn history

theorem settles_step {origin : ClientId} {raw value : String} {history : List Mark}
    (h : Step me s p s' p') (ho : p.Of (.dispatch origin raw))
    (hc : Command.classify raw = .setActivity value) (hs : p.Settles me value history) :
    p'.Settles me value (history ++ p.marks me s) := by
  rw [Settles, commitsIn_append, List.mem_append]
  have hmem : (me, value) ∈ commandsIn (p.marks me s) ++ p.pending me →
      p'.pending? = some value ∨ (me, value) ∈ commitsIn (p.marks me s) := by
    rw [pending_step h, List.mem_append]
    rintro (hm | hm)
    · exact .inr hm
    · obtain ⟨pending, hp, he⟩ := Option.map_eq_some_iff.1 (Option.mem_toList.1 hm)
      cases he
      exact .inl hp
  rcases hs with ⟨op, rfl⟩ | hp | hm
  · cases ho
    have hforwarded : (me, value) ∈ commandsIn (marks me s (.start (.dispatch origin raw))) :=
      mem_commandsIn (List.mem_singleton_self _) hc
    have hnow := hmem (List.mem_append_left _ hforwarded)
    exact .inr (hnow.imp_right .inr)
  · have hnow := hmem (List.mem_append_right _ (by simp [pending, hp]))
    exact .inr (hnow.imp_right .inr)
  · exact .inr (.inr (.inl hm))

theorem Settles.mono {value : String} {history : List Mark} (hs : p.Settles me value history)
    (marks : List Mark) : p.Settles me value (history ++ marks) := by
  refine hs.imp_right (Or.imp_right fun hm => ?_)
  rw [commitsIn_append]
  exact List.mem_append_left _ hm

/-- A commit is made by a task that was given a message to that effect. -/
theorem named_of_commit {c : Nat × String} (hc : c ∈ commitsIn (p.marks me s)) (ho : p.Of op) :
    c.1 = me ∧ ∃ origin raw, op = .dispatch origin raw ∧
      Command.classify raw = .setActivity c.2 := by
  have hmade : ∃ origin, p = .waiting (.change origin c.2) ∧ c.1 = me := by
    unfold marks at hc
    split at hc
    · simp [commitsIn, Mark.commit?] at hc
    · simp [commitsIn, Mark.commit?] at hc
    · split at hc <;> simp [commitsIn, Mark.commit?] at hc
    · obtain rfl := List.mem_singleton.1 hc
      exact ⟨_, rfl, rfl⟩
    · simp [commitsIn] at hc
  obtain ⟨origin, rfl, hme⟩ := hmade
  exact ⟨hme, origin, ho⟩

end Phase

namespace System
variable {s t : System} {i : Nat} {ops : List Operation} {r : Relay} {moves : List Move}

/-- The tasks that were not done and now are, by their answers. -/
def answered (s t : System) : List Outcome :=
  (s.tasks.zip t.tasks).filterMap fun (p, p') =>
    if p.outcome?.isNone then p'.outcome? else none

theorem mem_answered {o : Outcome} (h : o ∈ s.answered t) : ∃ (i : Nat) (p p' : Phase),
    s.tasks[i]? = some p ∧ t.tasks[i]? = some p' ∧ p.outcome? = none ∧ p'.outcome? = some o := by
  obtain ⟨⟨p, p'⟩, hmem, ho⟩ := List.mem_filterMap.1 h
  obtain ⟨i, hi⟩ := List.mem_iff_getElem?.1 hmem
  obtain ⟨hp, hp'⟩ := List.getElem?_zip_eq_some.1 hi
  dsimp only at ho
  split at ho
  · next hn => exact ⟨i, p, p', hp, hp', Option.isNone_iff_eq_none.1 hn, ho⟩
  · simp at ho

/-- Whatever the tasks have yet to tell is the activity. -/
structure Faithful (ops : List Operation) (s : System) : Prop where
  orderly : Orderly s
  follows : Follows ops s
  pledged : ∀ (i : Nat) p, s.tasks[i]? = some p → p.Faithful s.relay.activity

theorem faithful_start (r : Relay) (ops : List Operation) : Faithful ops (start r ops) where
  orderly := orderly_start r ops
  follows := follows_start r ops
  pledged i p hp value hv := by
    obtain ⟨op, -, rfl⟩ := task_start hp
    simp [Phase.pledged?] at hv

theorem faithful_move {m : Move} (isPublic : ∀ op ∈ ops, op.isPublic = true) (f : Faithful ops s)
    (h : s.move m = some t) : Faithful ops t := by
  refine ⟨orderly_move f.orderly h, follows_move isPublic f.follows h, fun j q hq => ?_⟩
  rcases move_cases h with ⟨i, h⟩ | hm
  · obtain ⟨p, p', hp, hs, ht, -⟩ := advance_cases h
    obtain ⟨op, hop, ho⟩ := f.follows.task i p hp
    have hop := isPublic op (List.mem_of_getElem? hop)
    rw [ht, getElem?_set_task hp] at hq
    split at hq
    · cases hq
      exact Phase.faithful_step hs hop ho (f.pledged i p hp)
    · next hj =>
      intro value hv
      obtain ⟨hholds, rfl⟩ := f.pledged j q hq value hv
      -- the other task has the lock, so the one that takes a step waits for it at most
      have hbehind : s.line.head? ≠ some i := fun hi =>
        hj (Option.some.inj ((f.orderly.front j q hq hholds).symm.trans hi))
      exact ⟨hholds, (Phase.activity_kept hs hop ho fun hi => absurd hi hbehind).symm⟩
  · obtain ⟨marks, a⟩ := aside_of_move hm h
    obtain ⟨queues, order, hr⟩ := a.frame
    rw [a.tasks] at hq
    rw [hr]
    exact f.pledged j q hq

theorem faithful_run (isPublic : ∀ op ∈ ops, op.isPublic = true)
    (h : (start r ops).run moves = some s) : Faithful ops s :=
  run_invariant (fun _ _ _ hm hs => faithful_move isPublic hs hm) (faithful_start r ops) h

/-- In a move the queues accept, and the tasks that come to their end answer, nothing but the
activity. -/
theorem truthful_move {m : Move} (isPublic : ∀ op ∈ ops, op.isPublic = true) (f : Faithful ops s)
    (h : s.move m = some t) : Relay.Truthful s.relay t.relay (s.answered t) := by
  rcases move_cases h with ⟨i, h⟩ | hm
  · obtain ⟨p, p', hp, hs, ht, -⟩ := advance_cases h
    obtain ⟨op, hop, ho⟩ := f.follows.task i p hp
    have hpledged := f.pledged i p hp
    refine ⟨Phase.puts_step hs (isPublic op (List.mem_of_getElem? hop)) ho hpledged, ?_⟩
    intro o hanswer value hv
    obtain ⟨j, q, q', hq, hq', hn, hd⟩ := mem_answered hanswer
    rw [ht, getElem?_set_task hp] at hq'
    split at hq'
    · cases hq'
      cases p' with
      | done o' =>
        cases hd
        exact Phase.told_step hs rfl hv hpledged
      | _ => simp [Phase.outcome?] at hd
    · rw [hq] at hq'
      cases hq'
      simp [hn] at hd
  · obtain ⟨marks, a⟩ := aside_of_move hm h
    refine ⟨fun q => ⟨0, by simp [a.accepted q]⟩, fun o hanswer => ?_⟩
    obtain ⟨j, q, q', hq, hq', hn, hd⟩ := mem_answered hanswer
    rw [a.tasks, hq] at hq'
    cases hq'
    simp [hn] at hd

/-- What is committed is what messages name, and the message of each task is committed when it is
the task's turn. -/
structure Answering (ops : List Operation) (s : System) : Prop where
  follows : Follows ops s
  named : ∀ c ∈ commitsIn s.history, ∃ origin raw, ops[c.1]? = some (.dispatch origin raw) ∧
    Command.classify raw = .setActivity c.2
  settles : ∀ (i : Nat) p origin raw value, s.tasks[i]? = some p →
    ops[i]? = some (.dispatch origin raw) → Command.classify raw = .setActivity value →
    p.Settles i value s.history

theorem answering_start (r : Relay) (ops : List Operation) : Answering ops (start r ops) where
  follows := follows_start r ops
  named c hc := by simp [start, commitsIn] at hc
  settles i p origin raw value hp hop hc := by
    obtain ⟨op, -, rfl⟩ := task_start hp
    exact .inl ⟨op, rfl⟩

theorem answering_move {m : Move} (isPublic : ∀ op ∈ ops, op.isPublic = true)
    (a : Answering ops s) (h : s.move m = some t) : Answering ops t := by
  refine ⟨follows_move isPublic a.follows h, fun c hc => ?_, ?_⟩
  · rcases move_cases h with ⟨i, h⟩ | hm
    · obtain ⟨p, p', hp, -, -, hh⟩ := advance_cases h
      obtain ⟨op, hop, ho⟩ := a.follows.task i p hp
      rw [hh, commitsIn_append, List.mem_append] at hc
      rcases hc with hc | hc
      · exact a.named c hc
      · obtain ⟨hi, origin, raw, rfl, hraw⟩ := Phase.named_of_commit hc ho
        exact ⟨origin, raw, hi ▸ hop, hraw⟩
    · obtain ⟨marks, b⟩ := aside_of_move hm h
      rw [b.commitsIn_eq] at hc
      exact a.named c hc
  · intro j q origin raw value hq hop hc
    rcases move_cases h with ⟨i, h⟩ | hm
    · obtain ⟨p, p', hp, hs, ht, hh⟩ := advance_cases h
      rw [hh]
      rw [ht, getElem?_set_task hp] at hq
      split at hq
      · next hj =>
        cases hq
        subst hj
        obtain ⟨op, hop', ho⟩ := a.follows.task _ p hp
        obtain rfl : op = .dispatch origin raw := Option.some.inj (hop'.symm.trans hop)
        exact Phase.settles_step hs ho hc (a.settles _ p origin raw value hp hop hc)
      · exact (a.settles j q origin raw value hq hop hc).mono _
    · obtain ⟨marks, b⟩ := aside_of_move hm h
      rw [b.tasks] at hq
      rw [b.history]
      exact (a.settles j q origin raw value hq hop hc).mono _

/-- The activity is the last that was committed. Only messages that name an activity are committed,
and such a message is committed by the time that its task is done. -/
structure Committed (initial : String) (ops : List Operation) (s : System) : Prop where
  holds : Relay.Holds initial ((commitsIn s.history).map (·.2)) s.relay.activity
  named : ∀ c ∈ commitsIn s.history, ∃ origin raw, ops[c.1]? = some (.dispatch origin raw) ∧
    Command.classify raw = .setActivity c.2
  settled : ∀ (i : Nat) origin raw value o, s.tasks[i]? = some (.done o) →
    ops[i]? = some (.dispatch origin raw) → Command.classify raw = .setActivity value →
    (i, value) ∈ commitsIn s.history

theorem committed_run (isPublic : ∀ op ∈ ops, op.isPublic = true) (hr : r.activity ≠ "")
    (h : (start r ops).run moves = some s) : Committed r.activity ops s := by
  have a : Answering ops s :=
    run_invariant (fun _ _ _ hm hs => answering_move isPublic hs hm) (answering_start r ops) h
  have hlast : s.relay.activity =
      ((commitsIn s.history).map (·.2)).getLast?.getD r.activity := by
    rw [activity_run isPublic h, activityAfter_eq_last, List.getLast?_map]
  refine ⟨?_, a.named, fun i origin raw value o hp hop hc => ?_⟩
  · rw [hlast]
    refine Relay.holds_of_last hr fun value hv => ?_
    obtain ⟨c, hc, rfl⟩ := List.mem_map.1 hv
    obtain ⟨origin, raw, -, hraw⟩ := a.named c hc
    exact Command.value_of_setActivity hraw
  · rcases a.settles i _ origin raw value hp hop hc with ⟨op, hstart⟩ | hpending | hm
    · simp at hstart
    · simp [Phase.pending?] at hpending
    · exact hm

/-- Whatever settings the relay starts with. Of anything done to it, one after another, it keeps
the activity of the last message that names one, or the one of the settings; it tells nothing
else, to its viewers, to those that ask for it, and in its report. And this is so for any
operations that run beside each other, after each of their steps, in the order of the commits. -/
theorem activity_invariant {env : Environment} {settings : Settings}
    (accepted : Settings.read env = .ok settings) (queues : List (Queue Event)) (now : Nat) :
    (∀ xs : List Relay.Action, (∀ x ∈ xs, x.isPublic = true) →
      let u := ((settings.relay queues now).acts xs).1
      Relay.Holds settings.defaultActivity (xs.filterMap Relay.Action.named?) u.activity ∧
      (∀ x : Relay.Action, x.isPublic = true →
        Relay.Truthful u (u.act x).1 ((u.act x).2.map (·.2))) ∧
      ∀ (site : Http.Site) (req : Http.Request) (gzip : Http.Coder),
        req.target.path = "/api/activity".toList →
        let response := Http.respond u site req gzip
        if req.method = "GET" then
          (response.decoded? gzip).bind Http.reported? = some u.activity
        else response.body = []) ∧
    ∀ (ops : List Operation) (moves : List Move) (s : System),
      (∀ op ∈ ops, op.isPublic = true) →
      (start (settings.relay queues now) ops).run moves = some s →
      Committed settings.defaultActivity ops s ∧
      ∀ m t, s.move m = some t → Relay.Truthful s.relay t.relay (s.answered t) := by
  have hdefault := Settings.activity_ne_empty accepted
  refine ⟨fun xs hxs => ?_, fun ops moves s hops h => ?_⟩
  · intro u
    refine ⟨Relay.holds_acts (r := settings.relay queues now) hdefault hxs,
      fun x hx => (u.act_truthful hx).2, fun site req gzip path => ?_⟩
    dsimp only
    split
    · next get => exact Http.reported?_respond gzip u site path get
    · next other => exact Http.body_respond gzip u site path other
  · have faithful := faithful_run hops h
    exact ⟨committed_run hops hdefault h, fun m t hm => truthful_move hops faithful hm⟩

/-- Only the activity is set, to one with a space in it. -/
def spacedEnvironment : Environment
  | .defaultActivity => some (.text "A B")
  | _ => none

/-- A viewer comes, another one names an activity, and a reader asks for the report. -/
def reportedOps : List Operation := [.connect ⟨1⟩ 0, .dispatch ⟨2⟩ "aag n C", .status]

/-- They ask for the lock one behind the other, and then have it one after the other. -/
def reportedMoves : List Move :=
  [.task 0, .task 1, .task 1, .task 2, .task 2, .task 0, .task 0, .task 0, .task 0,
    .task 1, .task 1, .task 1, .task 1, .task 2]

/-- A viewer comes, and takes its greeting. -/
def greetedActions : List Relay.Action := [.perform (.connect ⟨1⟩ 0), .receive 0]

/-- A request for the report by someone who reads compressed bodies. -/
def reportRequest : Http.Request where
  method := "GET"
  target := { path := "/api/activity".toList }
  headers := [("accept-encoding", "gzip")]

/-- The first activity is in the greeting, and the next one in the report, which was asked for
before the commit. -/
theorem activity_invariant_reported : ∃ settings s t,
    Settings.read spacedEnvironment = .ok settings ∧
    let first := settings.relay (Relay.fresh "" [4]).queues 0
    (start first reportedOps).run reportedMoves = some s ∧ s.move (.task 2) = some t ∧
    s.relay.accepted 0 = [.game "A B", .game "C"] ∧ commitsIn s.history = [(1, "C")] ∧
    Committed "A B" reportedOps s ∧ (s.answered t).map Outcome.told? = [some "C"] ∧
    Relay.Truthful s.relay t.relay (s.answered t) ∧
    (first.acts greetedActions).1.activity = "A B" ∧
    Relay.Holds "A B" [] (first.acts greetedActions).1.activity ∧
    ∀ gzip : Http.Coder,
      ((Http.respond (first.acts greetedActions).1 {} reportRequest gzip).decoded? gzip).bind
        Http.reported? = some "A B" := by
  have hread : Settings.read spacedEnvironment = .ok { defaultActivity := "A B" } := rfl
  obtain ⟨alone, together⟩ := activity_invariant hread (Relay.fresh "" [4]).queues 0
  obtain ⟨s, hs⟩ : ∃ s, (start (Settings.relay { defaultActivity := "A B" }
    (Relay.fresh "" [4]).queues 0) reportedOps).run reportedMoves = some s := ⟨_, rfl⟩
  obtain ⟨t, ht⟩ : ∃ t, s.move (.task 2) = some t := by cases hs; exact ⟨_, rfl⟩
  obtain ⟨committed, truthful⟩ := together reportedOps reportedMoves s (by decide) hs
  obtain ⟨holds, -, reports⟩ := alone greetedActions (by decide)
  exact ⟨_, s, t, hread, hs, ht, by cases hs; rfl, by cases hs; rfl, committed,
    by cases hs; cases ht; rfl, truthful _ t ht, rfl, holds,
    fun gzip => reports {} reportRequest gzip rfl⟩

end System
end ActivityRelay
