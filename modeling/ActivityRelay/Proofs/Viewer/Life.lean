import ActivityRelay.Proofs.Viewer.Hosted

/-! What happens to a session one thing at a time, each under its name, and where the session stands
in the registry meanwhile. -/
namespace ActivityRelay

variable {id : ClientId} {queue : Nat}

namespace Phase
variable {me : Nat} {s s' : Shared} {p p' : Phase} {op : Operation}

/-- The answer that a task will give, once nothing can change it any more. -/
def ending? : Phase → Option Outcome
  | .clearing _ e | .dropping _ _ _ e | .finishing e => some e.outcome
  | .done outcome => some outcome
  | _ => none

theorem ending?_step {o : Outcome} (hs : Step me s p s' p') (h : p.ending? = some o) :
    p'.ending? = some o := by
  cases hs <;> simp_all [ending?]

/-- A task that connects a viewer: the viewer is registered only if that is answered, or one is
bound to unregister it. -/
def Connects (id : ClientId) (queue : Nat) (r : Relay) (p : Phase) : Prop :=
  p.toConnect id queue ∨ (∃ activity, p = .greeting id activity) ∨
    ∃ x, p.ending? = some (.connected x) ∧
      ∀ e, x = .error e → r.registry.find? id = none ∨ p.due id = none

theorem connects_step (hs : Step me s p s' p') (hop : op.isPublic = true) (ho : p.Of op)
    (absent : p.toConnect id queue → s.relay.registry.find? id = none)
    (h : p.Connects id queue s.relay) : p'.Connects id queue s'.relay := by
  rcases h with hc | ⟨activity, rfl⟩ | ⟨x, hx, hf⟩
  · cases hs with
    | connect => exact .inl (by simpa [toConnect] using hc)
    | ask => exact .inl hc
    | registers =>
      cases hc
      exact .inr (.inl ⟨_, rfl⟩)
    | refuses front hi =>
      cases hc
      exact absurd (absent rfl) (Registry.insert?_eq_none hi)
    | _ => simp [toConnect] at hc
  · cases hs with
    | @missed _ _ hn => exact .inr (.inr ⟨_, rfl, fun _ _ => .inl hn⟩)
    | greets => exact .inr (.inr ⟨.ok activity, rfl, by simp⟩)
    | fails => exact .inr (.inr ⟨_, rfl, fun _ _ => .inr (by simp [due])⟩)
  · refine .inr (.inr ⟨x, ending?_step hs hx, fun e he => ?_⟩)
    rcases hf e he with hn | hd
    · refine .inl (find?_step hs hop ho ?_ hn)
      rintro q rfl
      simp [ending?] at hx
    · cases hs with
      | clears other record failed ending =>
        have hr : (s.relay.clear record other).1.registry = s.relay.registry.erase other :=
          congrArg View.registry (s.relay.view_clear record other)
        by_cases hid : id = other
        · exact .inl (by rw [hr, Registry.find?_erase, if_pos hid])
        · exact .inr (by simp_all [due])
      | drops => exact .inr hd
      | _ => simp_all [due, ending?]

end Phase

theorem System.outcome?_eq_some {s : System} {task : Nat} {o : Outcome}
    (h : s.outcome? task = some o) : s.tasks[task]? = some (.done o) := by
  obtain ⟨p, hp, ho⟩ := Option.bind_eq_some_iff.1 h
  cases p <;> simp_all [Phase.outcome?]

namespace Viewer

/-- Whether the loop of a session is left. -/
def Stage.isClosing : Stage → Bool
  | .leaving _ | .returned => true
  | _ => false

namespace Life
variable {l l' : Life} {r : Relay}

/-- All that can happen to a session, and around it. -/
inductive Step (l : Life) : Life → Prop
  | move {m : Move} {system : System} (leaves : m.leaves l.session.queue = true)
      (h : l.system.move m = some system) : Step l { l with system }
  | begin {op : Operation} (foreign : op.isForeign l.session.id l.session.queue = true) :
      Step l { l with system := l.system.spawn op }
  | connected {task : Nat} {greeting : String} (stage : l.stage = .connecting task)
      (done : l.system.tasks[task]? = some (.done (.connected (.ok greeting)))) :
      Step l { l with
        system := l.system.note (.viewerConnected l.session.id)
        stage := .listening }
  | refused {task : Nat} {e : DeliveryError} (stage : l.stage = .connecting task)
      (done : l.system.tasks[task]? = some (.done (.connected (.error e)))) :
      Step l (l.finish (.greetingFailed l.session.id e))
  | dispatched {task : Nat} {o : Outcome} (stage : l.stage = .dispatching task)
      (done : l.system.tasks[task]? = some (.done o)) : Step l { l with stage := .listening }
  | left {task : Nat} {o : Outcome} (stage : l.stage = .leaving task)
      (done : l.system.tasks[task]? = some (.done o)) :
      Step l (l.finish (.viewerDisconnected l.session.id))
  | text {raw : String} (stage : l.stage = .listening) :
      Step l { ask { l with taken := l.taken ++ [.message (.text raw)] }
          (.dispatch l.session.id raw) .dispatching with
        dispatches := l.dispatches ++ [l.system.tasks.length] }
  | last {i : Inbound} (stage : l.stage = .listening) (hi : i.isLast = true) :
      Step l (leave { l with taken := l.taken ++ [i] })
  | other {i : Inbound} (stage : l.stage = .listening) (hi : i.isLast = false)
      (ht : i.text? = none) : Step l { l with taken := l.taken ++ [i] }
  | wrote {event : Event} (stage : l.stage = .listening)
      (he : (l.system.relay.receive l.session.queue).2 = .item event) :
      Step l { l with
        system := (l.system.receive l.session.queue).note (.eventSent event)
        session := { l.session with written := l.session.written ++ [event.json] } }
  | lost {event : Event} (stage : l.stage = .listening)
      (he : (l.system.relay.receive l.session.queue).2 = .item event) :
      Step l (leave { l with
        system := (l.system.receive l.session.queue).note (.eventSent event) })
  | ended (stage : l.stage = .listening)
      (he : (l.system.relay.receive l.session.queue).2 = .ended) :
      Step l (leave { l with system := l.system.receive l.session.queue })
  | idle (stage : l.stage = .listening)
      (he : (l.system.relay.receive l.session.queue).2 = .empty) :
      Step l { l with system := l.system.receive l.session.queue }

theorem step_resume (h : l.resume = some l') : Step l l' := by
  unfold resume at h
  split at h
  · next task hs =>
    split at h
    · next hd => cases h; exact .connected hs (System.outcome?_eq_some hd)
    · next hd => cases h; exact .refused hs (System.outcome?_eq_some hd)
    · simp at h
  · next task hs =>
    obtain ⟨o, hd, rfl⟩ := Option.map_eq_some_iff.1 h
    exact .dispatched hs (System.outcome?_eq_some hd)
  · next task hs =>
    obtain ⟨o, hd, rfl⟩ := Option.map_eq_some_iff.1 h
    exact .left hs (System.outcome?_eq_some hd)
  · simp at h
  · simp at h

theorem step_take (stage : l.stage = .listening) (i : Inbound) : Step l (l.take i) := by
  rcases i with (raw | bytes | bytes | bytes | _) | _ | _
  · exact .text stage
  · exact .other stage rfl rfl
  · exact .other stage rfl rfl
  · exact .other stage rfl rfl
  · exact .last stage rfl
  · exact .last stage rfl
  · exact .last stage rfl

theorem step_flush (stage : l.stage = .listening) (writable : Bool) :
    Step l (l.flush writable) := by
  unfold flush
  cases he : (l.system.relay.receive l.session.queue).2 with
  | item event =>
    cases writable with
    | true => simpa only [he, if_true] using Step.wrote stage he
    | false => simpa only [he, Bool.false_eq_true, if_false] using Step.lost stage he
  | ended => simpa only [he] using Step.ended stage he
  | empty => simpa only [he] using Step.idle stage he

/-- Whatever happens is one of these. -/
theorem act_cases {x : Act} (h : l.act x = some l') : Step l l' := by
  cases x with
  | move m =>
    simp only [act, Option.ite_none_right_eq_some, Option.map_eq_some_iff] at h
    obtain ⟨leaves, system, hm, rfl⟩ := h
    exact .move leaves hm
  | begin op =>
    simp only [act, Option.ite_none_right_eq_some, Option.some.injEq] at h
    obtain ⟨foreign, rfl⟩ := h
    exact .begin foreign
  | resume => exact step_resume h
  | take i =>
    simp only [act, Option.ite_none_right_eq_some, Option.some.injEq] at h
    obtain ⟨stage, rfl⟩ := h
    exact step_take stage i
  | flush writable =>
    simp only [act, Option.ite_none_right_eq_some, Option.some.injEq] at h
    obtain ⟨stage, rfl⟩ := h
    exact step_flush stage writable

theorem run_cons_iff {x : Act} {acts : List Act} :
    l.run (x :: acts) = some l' ↔ ∃ m, l.act x = some m ∧ m.run acts = some l' := by
  simp only [run, List.foldlM_cons, bind, Option.bind_eq_some_iff]

/-- What holds at first and is kept by all that can happen holds after every run. -/
theorem run_invariant {P : Life → Prop} {acts : List Act}
    (keep : ∀ l l', Step l l' → P l → P l') (hl : P l) (h : l.run acts = some l') : P l' := by
  induction acts generalizing l with
  | nil => cases h; exact hl
  | cons x acts ih =>
    obtain ⟨m, hm, h⟩ := run_cons_iff.1 h
    exact ih (keep l m (act_cases hm) hl) h

/-- A session keeps its id and its queue. -/
theorem names_step (h : Step l l') :
    l'.session.id = l.session.id ∧ l'.session.queue = l.session.queue := by
  cases h <;> exact ⟨rfl, rfl⟩

/-- The id and the queue of a session are its own in the system around it. -/
def Hosted (r : Relay) (l : Life) : Prop :=
  ∃ ops, Hosts r ops l.session.id l.session.queue l.system

theorem Hosted.ask (h : Hosted r l) {op : Operation} (hop : op.isPublic = true)
    (new : ∀ other q, op ≠ .connect other q) (stage : Nat → Stage) : Hosted r (l.ask op stage) := by
  obtain ⟨ops, h⟩ := h
  exact ⟨_, h.spawn hop fun other q he => absurd he (new other q)⟩

theorem Hosted.leave (h : Hosted r l) : Hosted r l.leave := h.ask rfl (by simp) .leaving

theorem Hosted.finish (h : Hosted r l) (rec : Record) : Hosted r (l.finish rec) := by
  obtain ⟨ops, h⟩ := h
  have hn := h.same (l.system.relay.view_note rec)
  exact ⟨ops, hn.move (m := .close l.session.queue) rfl⟩

theorem Hosted.receive (h : Hosted r l) :
    Hosted r { l with system := l.system.receive l.session.queue } := by
  obtain ⟨ops, h⟩ := h
  exact ⟨ops, h.move (m := .receive l.session.queue) rfl⟩

theorem Hosted.note (h : Hosted r l) (rec : Record) :
    Hosted r { l with system := l.system.note rec } := by
  obtain ⟨ops, h⟩ := h
  exact ⟨ops, h.same (l.system.relay.view_note rec)⟩

theorem hosted_step (h : Hosted r l) (hs : Step l l') : Hosted r l' := by
  cases hs with
  | move leaves hm =>
    obtain ⟨ops, h⟩ := h
    exact ⟨ops, h.move hm⟩
  | @begin op foreign =>
    obtain ⟨ops, h⟩ := h
    refine ⟨ops ++ [op], h.spawn ?_ ?_⟩
    · cases op <;> simp_all [Operation.isForeign, Operation.isPublic]
    · rintro other q rfl
      simpa [Operation.isForeign] using foreign
  | connected => exact h.note _
  | refused | left => exact h.finish _
  | dispatched | other => exact h
  | text => exact Hosted.ask (l := { l with taken := _ }) h rfl (by simp) .dispatching
  | last => exact Hosted.leave (l := { l with taken := _ }) h
  | wrote => exact h.receive.note _
  | lost => exact (h.receive.note _).leave
  | ended => exact h.receive.leave
  | idle => exact h.receive

end Life
end Viewer
end ActivityRelay
