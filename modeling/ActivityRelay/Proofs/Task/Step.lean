import ActivityRelay.Proofs.Relay.Delivery
import ActivityRelay.Proofs.Task.History
import Mathlib.Algebra.GroupWithZero.Nat
import Mathlib.Data.List.Induction

/-! The steps of a task one by one, each under its name, and which phases belong to which
operation. -/
namespace ActivityRelay

/-- The viewer that the caller of an operation wants to have removed. -/
def Operation.removes? : Operation → Option ClientId
  | .disconnect id | .unregister id => some id
  | _ => none

namespace Phase

/-- The viewer that the next step of a task removes, if it is registered. -/
def removes? : Phase → Option ClientId
  | .start op => op.removes?
  | .clearing ((id, _) :: _) _ => some id
  | _ => none

/-- How many connections a task may still register. -/
def arrivals : Phase → Nat
  | .start (.connect ..) | .start (.register _) => 1
  | .asking (.connect ..) | .waiting (.connect ..) => 1
  | _ => 0

/-- All that a task can do next, by the phase it is in. -/
inductive Step (me : Nat) (s : Shared) : Phase → Shared → Phase → Prop
  | connect (id : ClientId) (queue : Nat) : Step me s (.start (.connect id queue))
      { s with line := s.line ++ [me] } (.waiting (.connect id queue))
  | disconnect (id : ClientId) : Step me s (.start (.disconnect id))
      { s with relay := (s.relay.remove id).1 }
      (.dropping (s.relay.remove id).2 ((s.relay.remove id).2.map fun _ => .sessionEnded id) []
        ⟨.disconnected, false, none⟩)
  | register (c : Connection) : Step me s (.start (.register c))
      { s with relay := (s.relay.register c).1 }
      (.finishing ⟨.registered (s.relay.register c).2, false, none⟩)
  | unregister (id : ClientId) : Step me s (.start (.unregister id))
      { s with relay := (s.relay.remove id).1 }
      (.dropping (s.relay.remove id).2 none []
        ⟨.unregistered (s.relay.remove id).2.isSome, false, none⟩)
  | sendTo (id : ClientId) (value : String) (failed : List Relay.Failure) :
      Step me s (.start (.sendTo id value))
      { s with relay := (s.relay.deliverTo id (.game value)).1 }
      (.clearing (clearingOf .deliveryFailed failed)
        ⟨.sent (s.relay.deliverTo id (.game value)).2, false, none⟩)
  | broadcast (value : String) (exclude : Option ClientId) :
      Step me s (.start (.broadcast value exclude))
      { s with relay := (s.relay.deliverAll (.game value) exclude).1 }
      (.clearing (clearingOf .broadcastFailed (s.relay.deliverAll (.game value) exclude).2.2)
        ⟨.broadcast (s.relay.deliverAll (.game value) exclude).2.1, false, none⟩)
  | plain {origin : ClientId} {raw text : String} (h : Command.classify raw = .plain text) :
      Step me s (.start (.dispatch origin raw)) { s with relay := s.relay.hear origin raw }
      (.finishing ⟨.dispatched .plain, false, none⟩)
  | command {origin : ClientId} {raw value : String}
      (h : Command.classify raw = .setActivity value) :
      Step me s (.start (.dispatch origin raw)) { s with relay := s.relay.hear origin raw }
      (.asking (.change origin value))
  | current : Step me s (.start .current) { s with line := s.line ++ [me] } (.waiting .current)
  | commit (value : String) : Step me s (.start (.commit value))
      { s with line := s.line ++ [me] } (.waiting (.commit value))
  | status : Step me s (.start .status) s (.asking (.status s.relay.viewers))
  | ask (work : Locked) : Step me s (.asking work)
      { s with line := s.line ++ [me] } (.waiting work)
  | registers {id : ClientId} {queue : Nat} {registry : Registry}
      (front : s.line.head? = some me)
      (h : s.relay.registry.insert? (s.relay.newConnection id queue).2 = some registry) :
      Step me s (.waiting (.connect id queue))
      { s with
        relay := Relay.note { (s.relay.newConnection id queue).1 with registry }
          (.registered id registry.size) }
      (.greeting id s.relay.activity)
  | refuses {id : ClientId} {queue : Nat} (front : s.line.head? = some me)
      (h : s.relay.registry.insert? (s.relay.newConnection id queue).2 = none) :
      Step me s (.waiting (.connect id queue))
      { s with
        relay := ((s.relay.newConnection id queue).1.note (.duplicateIgnored id)).release queue }
      (.finishing ⟨.connected (.error (.duplicate id)), true, none⟩)
  | changes (origin : ClientId) (value : String) (front : s.line.head? = some me) :
      Step me s (.waiting (.change origin value)) { s with relay := (s.relay.commit value).1 }
      (.telling origin s.relay.activity value)
  | reads (front : s.line.head? = some me) : Step me s (.waiting .current) s
      (.finishing ⟨.activity s.relay.activity, true, none⟩)
  | replaces (value : String) (front : s.line.head? = some me) :
      Step me s (.waiting (.commit value)) { s with relay := (s.relay.commit value).1 }
      (.finishing ⟨.committed s.relay.activity, true, none⟩)
  | reports (viewers : List ClientId) (front : s.line.head? = some me) :
      Step me s (.waiting (.status viewers)) s
      (.finishing ⟨.status s.relay.activity viewers, true, none⟩)
  | missed {id : ClientId} (activity : String) (h : s.relay.registry.find? id = none) :
      Step me s (.greeting id activity) s
      (.clearing [] ⟨.connected (.error (.notRegistered id)), true, none⟩)
  | greets {id : ClientId} {c : Connection} {activity : String}
      (h : s.relay.registry.find? id = some c)
      (ok : (s.relay.deliver c (.game activity)).2 = none) :
      Step me s (.greeting id activity)
      { s with relay := (s.relay.deliver c (.game activity)).1 }
      (.clearing [] ⟨.connected (.ok activity), true, some (.greeted id activity)⟩)
  | fails {id : ClientId} {c : Connection} {activity : String} {e : DeliveryError}
      (h : s.relay.registry.find? id = some c)
      (bad : (s.relay.deliver c (.game activity)).2 = some e) :
      Step me s (.greeting id activity) s
      (.clearing [(id, .deliveryFailed id e)] ⟨.connected (.error e), true, none⟩)
  | tells (origin : ClientId) (previous value : String) : Step me s (.telling origin previous value)
      { s with relay := (s.relay.deliverAll (.game value) (some origin)).1 }
      (.clearing
        (clearingOf .broadcastFailed (s.relay.deliverAll (.game value) (some origin)).2.2)
        ⟨.dispatched (.changed value (s.relay.deliverAll (.game value) (some origin)).2.1), true,
          some (.activityChanged origin previous value
            (s.relay.deliverAll (.game value) (some origin)).2.1)⟩)
  | cleared (ending : Ending) : Step me s (.clearing [] ending) s (.finishing ending)
  | clears (id : ClientId) (record : Record) (failed : Clearing) (ending : Ending) :
      Step me s (.clearing ((id, record) :: failed) ending)
      { s with relay := (s.relay.clear record id).1 }
      (.dropping (s.relay.clear record id).2 none failed ending)
  | drops (c : Option Connection) (last : Option Record) (failed : Clearing) (ending : Ending) :
      Step me s (.dropping c last failed ending)
      { s with relay := (last.elim s.relay s.relay.note).drop c } (.clearing failed ending)
  | finishes (e : Ending) : Step me s (.finishing e)
      { relay := e.last.elim s.relay s.relay.note
        line := if e.locked then s.line.tail else s.line } (.done e.outcome)

variable {me : Nat} {s s' : Shared} {p p' : Phase}

theorem clearingOf_ids (record : ClientId → DeliveryError → Record)
    (failed : List Relay.Failure) : (clearingOf record failed).map (·.1) = failed.map (·.1) := by
  simp [clearingOf]

theorem step_start {op : Operation} (h : (start op).step me s = some (s', p')) :
    Step me s (.start op) s' p' := by
  rw [step, Option.some.injEq] at h
  cases op with
  | connect id queue => cases h; exact .connect id queue
  | disconnect id => cases h; exact .disconnect id
  | register c => cases h; exact .register c
  | unregister id => cases h; exact .unregister id
  | sendTo id value => cases h; exact .sendTo id value _
  | broadcast value exclude => cases h; exact .broadcast value exclude
  | dispatch origin raw =>
    simp only [begin] at h
    split at h
    · next hc => cases h; exact .plain hc
    · next hc => cases h; exact .command hc
  | current => cases h; exact .current
  | commit value => cases h; exact .commit value
  | status => cases h; exact .status

theorem step_waiting {work : Locked} (h : (waiting work).step me s = some (s', p')) :
    Step me s (.waiting work) s' p' := by
  rw [step] at h
  split at h
  · next front =>
    rw [Option.some.injEq] at h
    cases work with
    | connect id queue =>
      cases hi : s.relay.registry.insert? (s.relay.newConnection id queue).2 with
      | none =>
        simp only [enter, Relay.register_known (r := (s.relay.newConnection id queue).1) hi] at h
        cases h
        exact .refuses front hi
      | some registry =>
        simp only [enter, Relay.register_new (r := (s.relay.newConnection id queue).1) hi] at h
        cases h
        exact .registers front hi
    | change origin value => cases h; exact .changes origin value front
    | current => cases h; exact .reads front
    | commit value => cases h; exact .replaces value front
    | status viewers => cases h; exact .reports viewers front
  · simp at h

theorem step_greeting {id : ClientId} {activity : String}
    (h : (greeting id activity).step me s = some (s', p')) :
    Step me s (.greeting id activity) s' p' := by
  rw [step, Option.some.injEq] at h
  cases hf : s.relay.registry.find? id with
  | none =>
    rw [Relay.deliverTo_none _ hf] at h
    cases h
    exact .missed activity hf
  | some c =>
    rw [Relay.deliverTo_some _ hf] at h
    rcases s.relay.deliver_cases c (.game activity) with ⟨queue, queue', -, -, hd⟩ | ⟨e, hd⟩
    · rw [hd] at h
      cases h
      have hg : Step me s (.greeting id activity) _ _ := .greets hf (by rw [hd])
      rwa [hd] at hg
    · rw [hd] at h
      have hb : Step me s (.greeting id activity) _ _ := .fails hf (by rw [hd])
      cases e <;> cases h <;> exact hb

/-- Of a delivery to one viewer, the task notes the failure, unless the viewer is not registered. -/
theorem step_sendTo {id : ClientId} {value : String}
    (h : (start (.sendTo id value)).step me s = some (s', p')) : ∃ ending,
    p' = .clearing [] ending ∨ ∃ c e, s.relay.registry.find? id = some c ∧
      (s.relay.deliver c (.game value)).2 = some e ∧
      p' = .clearing [(id, .deliveryFailed id e)] ending := by
  rw [step, Option.some.injEq] at h
  cases hf : s.relay.registry.find? id with
  | none =>
    simp only [begin, Relay.deliverTo_none _ hf] at h
    cases h
    exact ⟨_, .inl rfl⟩
  | some c =>
    simp only [begin, Relay.deliverTo_some _ hf] at h
    rcases s.relay.deliver_cases c (.game value) with ⟨queue, queue', -, -, hd⟩ | ⟨e, hd⟩
    · rw [hd] at h
      cases h
      exact ⟨_, .inl rfl⟩
    · rw [hd] at h
      refine ⟨⟨.sent (some (Relay.refusalError c.id e)), false, none⟩,
        .inr ⟨c, _, rfl, by rw [hd], ?_⟩⟩
      cases e <;> cases h <;> rfl

/-- Whatever step a task takes is one of those listed. -/
theorem step_cases (h : p.step me s = some (s', p')) : Step me s p s' p' := by
  cases p with
  | start op => exact step_start h
  | asking work => cases h; exact .ask work
  | waiting work => exact step_waiting h
  | greeting id activity => exact step_greeting h
  | telling origin previous value => cases h; exact .tells origin previous value
  | clearing failed ending =>
    cases failed with
    | nil => cases h; exact .cleared ending
    | cons f failed => obtain ⟨id, record⟩ := f; cases h; exact .clears id record failed ending
  | dropping c last failed ending => cases h; exact .drops c last failed ending
  | finishing e => cases h; exact .finishes e
  | done outcome => simp [step] at h

/-- All that a step does to the queues is to offer an event to some of the viewers. -/
theorem queues_of_step (h : Step me s p s' p') : ∃ event cs,
    (∀ c ∈ cs, c ∈ s.relay.registry.connections) ∧
      s'.relay.view.queues = (s.relay.deliverEach event cs).1.view.queues := by
  have same {r : Relay} (hq : r.view.queues = s.relay.view.queues) : ∃ event cs,
      (∀ c ∈ cs, c ∈ s.relay.registry.connections) ∧
        r.view.queues = (s.relay.deliverEach event cs).1.view.queues :=
    ⟨.game "", [], by simp, hq⟩
  have offered {id : ClientId} {c : Connection} (event : Event)
      (hf : s.relay.registry.find? id = some c) : ∃ event' cs,
      (∀ c ∈ cs, c ∈ s.relay.registry.connections) ∧
        (s.relay.deliver c event).1.view.queues =
          (s.relay.deliverEach event' cs).1.view.queues := by
    refine ⟨event, [c], ?_, by rw [(s.relay.deliverEach_cons event c []).1]; rfl⟩
    simpa using (Registry.find?_eq_some_iff.1 hf).1
  have addressed (exclude : Option ClientId) :
      ∀ c ∈ s.relay.addressees exclude, c ∈ s.relay.registry.connections :=
    fun c hc => (Relay.mem_addressees.1 hc).1
  cases h with
  | disconnect id | unregister id => exact same (by rw [Relay.view_remove])
  | clears id record failed ending => exact same (by rw [Relay.view_clear])
  | register c =>
    cases hi : s.relay.registry.insert? c with
    | some registry => exact same (by rw [Relay.register_new hi]; rfl)
    | none => exact same (by rw [Relay.register_known hi]; simp)
  | refuses front hi => exact same (by rw [Relay.view_release]; rfl)
  | sendTo id value failed =>
    cases hf : s.relay.registry.find? id with
    | none => exact same (by rw [Relay.deliverTo_none _ hf])
    | some c =>
      rw [Relay.deliverTo_some _ hf]
      exact offered (.game value) hf
  | broadcast value exclude => exact ⟨.game value, _, addressed exclude, rfl⟩
  | greets hc ok => exact offered _ hc
  | tells origin previous value => exact ⟨.game value, _, addressed (some origin), rfl⟩
  | plain | command => exact same (by rw [Relay.view_hear])
  | drops c last failed ending => exact same (by simp)
  | finishes e => exact same (by simp)
  | _ => exact same rfl

/-- All that a step does to the registry: nothing, or it removes one viewer, or it adds one. -/
theorem registry_of_step (h : Step me s p s' p') :
    (s'.relay.registry = s.relay.registry ∧ p.removes? = none ∧ p'.arrivals ≤ p.arrivals) ∨
    (∃ id, s'.relay.registry = s.relay.registry.erase id ∧ p.removes? = some id ∧
      p'.arrivals ≤ p.arrivals) ∨
    ∃ c, s.relay.registry.insert? c = some s'.relay.registry ∧ p.removes? = none ∧
      p'.arrivals + 1 = p.arrivals := by
  have same (hr : s'.relay.view.registry = s.relay.view.registry) (hn : p.removes? = none)
      (ha : p'.arrivals ≤ p.arrivals) :
      s'.relay.registry = s.relay.registry ∧ p.removes? = none ∧ p'.arrivals ≤ p.arrivals :=
    ⟨hr, hn, ha⟩
  cases h with
  | disconnect id | unregister id =>
    exact .inr (.inl ⟨id, congrArg View.registry (s.relay.view_remove id), rfl, Nat.le_refl _⟩)
  | clears id record failed ending =>
    exact .inr (.inl ⟨id, congrArg View.registry (s.relay.view_clear record id), rfl,
      Nat.le_refl _⟩)
  | register c =>
    cases hi : s.relay.registry.insert? c with
    | some registry =>
      refine .inr (.inr ⟨c, ?_, rfl, rfl⟩)
      rw [Relay.register_new hi]
      exact hi
    | none =>
      refine .inl (same ?_ rfl (Nat.zero_le _))
      rw [Relay.register_known hi, Relay.view_release, Relay.view_note]
  | registers front hi => exact .inr (.inr ⟨_, hi, rfl, rfl⟩)
  | refuses front hi => exact .inl (same (by rw [Relay.view_release]; rfl) rfl (Nat.zero_le _))
  | sendTo id value failed =>
    obtain ⟨queues, hr⟩ := s.relay.deliverTo_frame id (.game value)
    exact .inl (same (by rw [hr]; rfl) rfl (Nat.le_refl _))
  | @greets id c activity hf ok =>
    obtain ⟨queues, hr⟩ := s.relay.deliver_frame c (.game activity)
    exact .inl (same (by rw [hr]; rfl) rfl (Nat.le_refl _))
  | broadcast value exclude =>
    obtain ⟨queues, hr⟩ := s.relay.deliverAll_frame (.game value) exclude
    exact .inl (same (by rw [hr]; rfl) rfl (Nat.le_refl _))
  | tells origin previous value =>
    obtain ⟨queues, hr⟩ := s.relay.deliverAll_frame (.game value) (some origin)
    exact .inl (same (by rw [hr]; rfl) rfl (Nat.le_refl _))
  | plain | command => exact .inl (same (by rw [Relay.view_hear]) rfl (Nat.le_refl _))
  | ask work => exact .inl (same rfl rfl (by cases work <;> exact Nat.le_refl _))
  | drops c last failed ending => exact .inl (same (by simp) rfl (Nat.le_refl _))
  | finishes e => exact .inl (same (by simp) rfl (Nat.le_refl _))
  | _ => exact .inl (same rfl rfl (Nat.le_refl _))

/-- Steps of tasks take nothing from queues. -/
theorem received_step (h : Step me s p s' p') (q : Nat) :
    s'.relay.received q = s.relay.received q := by
  obtain ⟨event, cs, -, hq⟩ := queues_of_step h
  rw [(Relay.content_congr hq q).2, Relay.received_deliverEach]

theorem marks_of_registers {id : ClientId} {queue : Nat} {registry : Registry}
    (h : s.relay.registry.insert? (s.relay.newConnection id queue).2 = some registry) :
    marks me s (.waiting (.connect id queue)) = [.registered id queue] :=
  if_pos (Registry.insert?_eq_some h).1

theorem marks_of_refuses {id : ClientId} {queue : Nat}
    (h : s.relay.registry.insert? (s.relay.newConnection id queue).2 = none) :
    marks me s (.waiting (.connect id queue)) = [] := if_neg (Registry.insert?_eq_none h)

theorem length_marks_le (p : Phase) (me : Nat) (s : Shared) : (p.marks me s).length ≤ 1 := by
  unfold marks
  split
  · simp
  · simp
  · split <;> simp
  · simp
  · simp

end Phase

/-- Whether work under the lock is what an operation needs it for. -/
def Locked.Of (op : Operation) : Locked → Prop
  | .connect id queue => op = .connect id queue
  | .change origin value =>
    ∃ raw, op = .dispatch origin raw ∧ Command.classify raw = .setActivity value
  | .current => op = .current
  | .commit value => op = .commit value
  | .status _ => op = .status

/-- Whether a task that was given a public operation can be in a phase. -/
def Phase.Of (op : Operation) : Phase → Prop
  | .start op' => op' = op
  | .asking work | .waiting work => work.Of op
  | .greeting id _ => ∃ queue, op = .connect id queue
  | .telling origin _ value =>
    ∃ raw, op = .dispatch origin raw ∧ Command.classify raw = .setActivity value
  | .clearing failed e | .dropping _ _ failed e => e.locked = false → failed = []
  | .finishing _ | .done _ => True

/-- What a step remembers as a commit is all that happens to the activity. -/
theorem Phase.activity_step {me : Nat} {s s' : Shared} {p p' : Phase} {op : Operation}
    (h : Step me s p s' p') (hop : op.isPublic = true) (ho : p.Of op) :
    s'.relay.activity = activityAfter s.relay.activity (p.marks me s) := by
  have same {r : Relay} (hv : r.view.activity = s.relay.view.activity) :
      r.activity = activityAfter s.relay.activity [] := hv
  cases h with
  | register | unregister | sendTo | broadcast | replaces =>
    cases ho
    simp [Operation.isPublic] at hop
  | disconnect id => exact same (by rw [Relay.view_remove])
  | clears id record failed ending => exact same (by rw [Relay.view_clear])
  | plain | command => exact same (by rw [Relay.view_hear])
  | ask work => cases work <;> rfl
  | registers front hi =>
    rw [marks_of_registers hi]
    rfl
  | refuses front hi =>
    rw [marks_of_refuses hi]
    exact same (by rw [Relay.view_release]; rfl)
  | @greets id c activity hc ok =>
    obtain ⟨queues, hf⟩ := s.relay.deliver_frame c (.game activity)
    exact same (by rw [hf]; rfl)
  | tells origin previous value =>
    obtain ⟨queues, hf⟩ := s.relay.deliverAll_frame (.game value) (some origin)
    exact same (by rw [hf]; rfl)
  | drops c last failed ending => exact same (by simp)
  | finishes e => exact same (by simp)
  | _ => rfl

theorem Phase.of_step {me : Nat} {s s' : Shared} {p p' : Phase} {op : Operation}
    (h : Step me s p s' p') (hop : op.isPublic = true) (ho : p.Of op) : p'.Of op := by
  cases h with
  | sendTo | broadcast => cases ho; simp [Operation.isPublic] at hop
  | command hc => exact ⟨_, Eq.symm ho, hc⟩
  | registers => exact ⟨_, ho⟩
  | changes => exact ho
  | clears id record failed ending =>
    intro hl
    simpa using ho hl
  | drops => exact ho
  | _ => simp_all [Of, Locked.Of]

theorem sum_map_set {tasks : List Phase} {i : Nat} {p : Phase} (f : Phase → Nat)
    (h : tasks[i]? = some p) (p' : Phase) :
    ((tasks.set i p').map f).sum + f p = (tasks.map f).sum + f p' := by
  induction tasks generalizing i with
  | nil => simp at h
  | cons q tasks ih =>
    cases i with
    | zero =>
      cases h
      simp only [List.set_cons_zero, List.map_cons, List.sum_cons]
      omega
    | succ i =>
      have hi := ih h
      simp only [List.set_cons_succ, List.map_cons, List.sum_cons]
      omega

namespace System
variable {s t : System} {i : Nat} {ops : List Operation}

theorem advance_step (h : s.advance i = some t) :
    ∃ p p', s.tasks[i]? = some p ∧ p.step i s.shared = some (t.shared, p') ∧
      t.tasks = s.tasks.set i p' ∧ t.history = s.history ++ p.marks i s.shared := by
  unfold advance at h
  cases hp : s.tasks[i]? with
  | none => simp [hp] at h
  | some p =>
    cases hs : p.step i s.shared with
    | none => simp [hp, hs] at h
    | some r =>
      obtain ⟨shared, p'⟩ := r
      simp only [hp, hs, Option.some.injEq] at h
      subst h
      exact ⟨p, p', rfl, hs, rfl, rfl⟩

theorem advance_cases (h : s.advance i = some t) :
    ∃ p p', s.tasks[i]? = some p ∧ Phase.Step i s.shared p t.shared p' ∧
      t.tasks = s.tasks.set i p' ∧ t.history = s.history ++ p.marks i s.shared := by
  obtain ⟨p, p', hp, hs, ht, hh⟩ := advance_step h
  exact ⟨p, p', hp, Phase.step_cases hs, ht, hh⟩

/-- The phases after a step: that of the task itself, and all others as before. -/
theorem getElem?_set_task {tasks : List Phase} {p : Phase} (hp : tasks[i]? = some p) (p' : Phase)
    (j : Nat) : (tasks.set i p')[j]? = if j = i then some p' else tasks[j]? := by
  have hi := (List.getElem?_eq_some_iff.1 hp).1
  rw [List.getElem?_set]
  by_cases h : i = j
  · simp [h, h ▸ hi]
  · simp [h, Ne.symm h]

/-- What a viewer does to a queue concerns no task, nor what the queues accepted; and no more does
the order in which the registry is gone through. -/
structure Aside (s t : System) (marks : List Mark) : Prop where
  tasks : t.tasks = s.tasks
  line : t.line = s.line
  frame : ∃ queues order, t.relay = { s.relay with queues, order }
  accepted : ∀ q, t.relay.accepted q = s.relay.accepted q
  received : ∀ q, t.relay.received q = s.relay.received q ++ receivedIn q marks
  history : t.history = s.history ++ marks
  marks : marks.length ≤ 1 ∧ ∀ mark ∈ marks, ∃ q e, mark = .received q e

theorem Aside.filterMap_marks {marks : List Mark} (a : Aside s t marks) {α : Type}
    {f : Mark → Option α} (h : ∀ q e, f (.received q e) = none) : marks.filterMap f = [] := by
  rw [List.filterMap_eq_nil_iff]
  intro mark hmark
  obtain ⟨q, e, rfl⟩ := a.marks.2 mark hmark
  exact h q e

theorem aside_setRelay {relay : Relay}
    (frame : ∃ queues order, relay = { s.relay with queues, order })
    (h : ∀ q, relay.accepted q = s.relay.accepted q ∧ relay.received q = s.relay.received q) :
    Aside s (s.setRelay relay) [] where
  tasks := rfl
  line := rfl
  frame := frame
  accepted q := (h q).1
  received q := (h q).2.trans (List.append_nil _).symm
  history := (List.append_nil _).symm
  marks := by simp

theorem aside_receive (s : System) (q : Nat) : ∃ marks, Aside s (s.receive q) marks := by
  have frame : ∃ queues order, (s.relay.receive q).1 = { s.relay with queues, order } := by
    obtain ⟨queues, h⟩ := s.relay.receive_frame q
    exact ⟨queues, s.relay.order, h⟩
  have content := s.relay.content_receive q
  unfold receive
  generalize s.relay.receive q = taken at frame content
  obtain ⟨relay, event | _ | _⟩ := taken
  · refine ⟨[.received q event], rfl, rfl, frame, fun other => (content other).1, fun other => ?_,
      rfl, by simp⟩
    refine (content other).2.trans ?_
    by_cases ho : q = other <;> simp [receivedIn, Mark.received?, ho, Queue.Taken.toList]
  · exact ⟨[], aside_setRelay frame fun other => by simpa [Queue.Taken.toList] using content other⟩
  · exact ⟨[], aside_setRelay frame fun other => by simpa [Queue.Taken.toList] using content other⟩

theorem aside_of_move {m : Move} (hm : ∀ i, m ≠ .task i) (h : s.move m = some t) :
    ∃ marks, Aside s t marks := by
  cases m with
  | task i => exact absurd rfl (hm i)
  | shuffle order =>
    cases h
    exact ⟨[], aside_setRelay ⟨_, _, rfl⟩ fun _ => ⟨rfl, rfl⟩⟩
  | receive q => cases h; exact s.aside_receive q
  | shut q =>
    cases h
    refine ⟨[], aside_setRelay ⟨_, _, rfl⟩ (s.relay.content_onQueue q fun queue => ?_)⟩
    unfold Queue.shut
    split <;> exact ⟨rfl, rfl⟩
  | close q =>
    cases h
    exact ⟨[], aside_setRelay ⟨_, _, rfl⟩ (s.relay.content_onQueue q fun _ => ⟨rfl, rfl⟩)⟩

/-- A move is a step of a task, or something that concerns no task. -/
theorem move_cases {m : Move} (h : s.move m = some t) :
    (∃ i, s.advance i = some t) ∨ ∀ i, m ≠ .task i := by
  cases m with
  | task i => exact .inl ⟨i, h⟩
  | _ => exact .inr (by simp)

/-- A move adds at most one mark to the history, and what it takes from a queue is marked. -/
theorem history_move {m : Move} (h : s.move m = some t) : ∃ marks,
    marks.length ≤ 1 ∧ t.history = s.history ++ marks ∧
      ∀ q, t.relay.received q = s.relay.received q ++ receivedIn q marks := by
  rcases move_cases h with ⟨i, h⟩ | hm
  · obtain ⟨p, p', hp, hs, -, hh⟩ := advance_cases h
    refine ⟨p.marks i s.shared, p.length_marks_le i s.shared, hh, fun q => ?_⟩
    have hn : receivedIn q (p.marks i s.shared) = [] := by
      unfold Phase.marks
      split <;> first | rfl | (split <;> rfl)
    rw [hn, List.append_nil]
    exact Phase.received_step hs q
  · obtain ⟨marks, a⟩ := aside_of_move hm h
    exact ⟨marks, a.marks.1, a.history, a.received⟩

/-- What holds of a task that has not begun, is kept whatever happens, and is carried over by the
steps of the task itself, holds of the task after every run. -/
theorem task_run {r : Relay} {ops : List Operation} {i : Nat} {K : List Move → Phase → Prop}
    (first : ∀ op, K [] (.start op)) (keep : ∀ moves m p, K moves p → K (moves ++ [m]) p)
    (own : ∀ moves u p p' shared, (start r ops).run moves = some u → u.tasks[i]? = some p →
      K moves p → p.step i u.shared = some (shared, p') → K (moves ++ [.task i]) p')
    {moves : List Move} {p : Phase} (h : (start r ops).run moves = some t)
    (hp : t.tasks[i]? = some p) : K moves p := by
  induction moves using List.reverseRecOn generalizing t p with
  | nil =>
    cases h
    obtain ⟨op, -, rfl⟩ := task_start hp
    exact first op
  | append_singleton moves m ih =>
    obtain ⟨u, hu, hm⟩ := run_concat_iff.1 h
    by_cases hn : ∀ j, m ≠ .task j
    · obtain ⟨marks, a⟩ := aside_of_move hn hm
      rw [a.tasks] at hp
      exact keep moves m p (ih hu hp)
    · obtain ⟨j, rfl⟩ : ∃ j, m = .task j := by simpa using hn
      obtain ⟨q, q', hq, hs, ht, -⟩ := advance_step hm
      rw [ht, getElem?_set_task hq] at hp
      split at hp
      · next hij =>
        cases hp
        subst hij
        exact own moves u q p t.shared hu hq (ih hu hq) hs
      · exact keep moves (.task j) p (ih hu hp)

/-- Whatever a history begins with was the whole history at an earlier point of the run. -/
theorem exists_earlier {moves : List Move} {history : List Mark} (h : s.run moves = some t)
    (first : s.history <+: history) (hp : history <+: t.history) :
    ∃ earlier u, earlier <+: moves ∧ s.run earlier = some u ∧ u.history = history := by
  induction moves using List.reverseRecOn generalizing t with
  | nil =>
    cases h
    exact ⟨[], s, List.prefix_rfl, rfl, first.eq_of_length_le hp.length_le⟩
  | append_singleton moves m ih =>
    by_cases he : history = t.history
    · exact ⟨moves ++ [m], t, List.prefix_rfl, h, he.symm⟩
    · obtain ⟨u, hu, h⟩ := run_concat_iff.1 h
      obtain ⟨marks, hl, hh, -⟩ := history_move h
      have hshort : history.length < t.history.length :=
        lt_of_le_of_ne hp.length_le fun hlen => he (hp.eq_of_length hlen)
      rw [hh] at hp hshort
      rw [List.length_append] at hshort
      have hpu := List.prefix_of_prefix_length_le hp (List.prefix_append ..) (by omega)
      obtain ⟨earlier, v, hle, hv, hhv⟩ := ih hu hpu
      exact ⟨earlier, v, hle.trans (List.prefix_append ..), hv, hhv⟩

/-- Each task is on the way of its operation. -/
structure Follows (ops : List Operation) (s : System) : Prop where
  length : s.tasks.length = ops.length
  task : ∀ (i : Nat) p, s.tasks[i]? = some p → ∃ op, ops[i]? = some op ∧ p.Of op

theorem follows_start (r : Relay) (ops : List Operation) : Follows ops (start r ops) where
  length := by simp [start]
  task i p hp := by
    obtain ⟨op, hop, rfl⟩ := task_start hp
    exact ⟨op, hop, rfl⟩

theorem follows_move {m : Move} (isPublic : ∀ op ∈ ops, op.isPublic = true) (f : Follows ops s)
    (h : s.move m = some t) : Follows ops t := by
  rcases move_cases h with ⟨i, h⟩ | hm
  · obtain ⟨p, p', hp, hs, ht, -⟩ := advance_cases h
    refine ⟨by rw [ht, List.length_set, f.length], fun j q hq => ?_⟩
    rw [ht, getElem?_set_task hp] at hq
    split at hq
    · next hj =>
      cases hq
      subst hj
      obtain ⟨op, hop, ho⟩ := f.task _ p hp
      exact ⟨op, hop, Phase.of_step hs (isPublic op (List.mem_of_getElem? hop)) ho⟩
    · exact f.task j q hq
  · obtain ⟨marks, a⟩ := aside_of_move hm h
    exact ⟨by rw [a.tasks, f.length], by rw [a.tasks]; exact f.task⟩

theorem activity_move {m : Move} {initial : String} (isPublic : ∀ op ∈ ops, op.isPublic = true)
    (f : Follows ops s) (ha : s.relay.activity = activityAfter initial s.history)
    (h : s.move m = some t) : t.relay.activity = activityAfter initial t.history := by
  rcases move_cases h with ⟨i, h⟩ | hm
  · obtain ⟨p, p', hp, hs, -, hh⟩ := advance_cases h
    obtain ⟨op, hop, ho⟩ := f.task i p hp
    rw [hh, activityAfter_append, ← ha]
    exact Phase.activity_step hs (isPublic op (List.mem_of_getElem? hop)) ho
  · obtain ⟨marks, a⟩ := aside_of_move hm h
    obtain ⟨queues, order, hr⟩ := a.frame
    rw [a.history, activityAfter_append, ← ha, hr, activityAfter_of_value?]
    intro mark hmark
    obtain ⟨q, e, rfl⟩ := a.marks.2 mark hmark
    rfl

/-- The activity is what the history makes of the first one. -/
theorem activity_run {moves : List Move} {r : Relay} (isPublic : ∀ op ∈ ops, op.isPublic = true)
    (h : (start r ops).run moves = some s) :
    s.relay.activity = activityAfter r.activity s.history := by
  have both := run_invariant
    (P := fun s => Follows ops s ∧ s.relay.activity = activityAfter r.activity s.history)
    (fun _ _ _ hm hs => ⟨follows_move isPublic hs.1 hm, activity_move isPublic hs.1 hs.2 hm⟩)
    ⟨follows_start r ops, rfl⟩ h
  exact both.2

end System
end ActivityRelay
