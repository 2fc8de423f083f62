import ActivityRelay.Proofs.Relay.Delivery
import ActivityRelay.Task

/-! A task that nobody interrupts: its steps together are one operation of the relay. -/
namespace ActivityRelay

/-- What an operation does at one stroke, and its answer. -/
def Relay.perform (r : Relay) : Operation → Relay × Outcome
  | .connect id queue => ((r.connect id queue).1, .connected (r.connect id queue).2)
  | .disconnect id => (r.disconnect id, .disconnected)
  | .register c => ((r.register c).1, .registered (r.register c).2)
  | .unregister id => ((r.unregister id).1, .unregistered (r.unregister id).2)
  | .sendTo id value => ((r.sendTo id (.game value)).1, .sent (r.sendTo id (.game value)).2)
  | .broadcast value exclude =>
    ((r.broadcast (.game value) exclude).1, .broadcast (r.broadcast (.game value) exclude).2)
  | .dispatch origin raw => ((r.dispatch origin raw).1, .dispatched (r.dispatch origin raw).2)
  | .current => (r, .activity r.activity)
  | .commit value => ((r.commit value).1, .committed (r.commit value).2)
  | .status => (r, .status r.activity r.viewers)

namespace Phase
variable {me : Nat} {s s' : Shared} {p p' : Phase}

theorem run_of_step (h : p.step me s = some (s', p')) : p.run me s = p'.run me s' := by
  rw [run]
  split
  · next hn => simp [hn] at h
  · next hs =>
    rw [hs, Option.some.injEq, Prod.mk.injEq] at h
    rw [h.1, h.2]

theorem run_done (me : Nat) (s : Shared) (o : Outcome) : (done o).run me s = (s, .done o) := by
  rw [run]
  rfl

theorem run_finishing (me : Nat) (r : Relay) (line : List Nat) (e : Ending) :
    (finishing e).run me ⟨r, line⟩ =
      (⟨e.last.elim r r.note, if e.locked then line.tail else line⟩, .done e.outcome) := by
  rw [run_of_step rfl, run_done]

theorem run_clearing_broadcast (me : Nat) (r : Relay) (line : List Nat)
    (failed : List Relay.Failure) (e : Ending) :
    (clearing (clearingOf .broadcastFailed failed) e).run me ⟨r, line⟩ =
      (finishing e).run me ⟨r.clearAll failed, line⟩ := by
  induction failed generalizing r with
  | nil => exact run_of_step rfl
  | cons f failed ih =>
    obtain ⟨id, error⟩ := f
    rw [clearingOf, List.map_cons, run_of_step rfl, run_of_step rfl]
    exact ih _

theorem sendTo_snd (r : Relay) (id : ClientId) (event : Event) :
    (r.sendTo id event).2 = (r.deliverTo id event).2 := by
  cases hf : r.registry.find? id with
  | none => simp [Relay.sendTo, Relay.deliverTo, hf]
  | some c =>
    simp only [Relay.sendTo, hf]
    rcases r.deliverTo id event with ⟨r', _ | e⟩ <;> rfl

theorem run_clearing_delivery (me : Nat) (r : Relay) (line : List Nat) (id : ClientId)
    (event : Event) (e : Ending) :
    (clearing (clearingOf .deliveryFailed (match (r.deliverTo id event).2 with
      | some (.notRegistered _) | none => []
      | some e => [(id, e)])) e).run me ⟨(r.deliverTo id event).1, line⟩ =
      (finishing e).run me ⟨(r.sendTo id event).1, line⟩ := by
  cases hf : r.registry.find? id with
  | none =>
    rw [Relay.sendTo, hf, Relay.deliverTo_none event hf]
    exact run_of_step rfl
  | some c =>
    rw [Relay.sendTo, hf, Relay.deliverTo_some event hf]
    rcases r.deliver_cases c event with ⟨queue, queue', -, -, hd⟩ | ⟨error, hd⟩
    · rw [hd]
      exact run_of_step rfl
    · rw [hd]
      cases error <;> exact (run_of_step rfl).trans ((run_of_step rfl).trans (run_of_step rfl))

theorem run_greeting (me : Nat) (r : Relay) (line : List Nat) (id : ClientId)
    (activity : String) : (greeting id activity).run me ⟨r, line⟩ =
      (finishing (match (r.sendTo id (.game activity)).2 with
        | some e => ⟨.connected (.error e), true, none⟩
        | none => ⟨.connected (.ok activity), true, some (.greeted id activity)⟩)).run me
        ⟨(r.sendTo id (.game activity)).1, line⟩ := by
  rw [sendTo_snd]
  exact (run_of_step rfl).trans (run_clearing_delivery me r line id (.game activity) _)

theorem run_waiting_first (me : Nat) (r : Relay) (work : Locked) :
    (waiting work).run me ⟨r, [me]⟩ = (enter ⟨r, [me]⟩ work).2.run me (enter ⟨r, [me]⟩ work).1 :=
  run_of_step (if_pos rfl)

theorem run_connect_alone (r : Relay) (me : Nat) (id : ClientId) (queue : Nat) :
    (start (.connect id queue)).run me ⟨r, []⟩ =
      (⟨(r.connect id queue).1, []⟩, .done (.connected (r.connect id queue).2)) := by
  rw [run_of_step rfl]
  refine (run_waiting_first me r (.connect id queue)).trans ?_
  simp only [enter, Relay.connect]
  rcases (r.newConnection id queue).1.register (r.newConnection id queue).2 with ⟨r', _ | _⟩
  · exact run_finishing me r' [me] _
  · simp only
    rw [run_greeting, run_finishing]
    rcases r'.sendTo id (.game r.activity) with ⟨r'', _ | e⟩ <;> rfl

theorem run_dispatch_alone (r : Relay) (me : Nat) (origin : ClientId) (raw : String) :
    (start (.dispatch origin raw)).run me ⟨r, []⟩ =
      (⟨(r.dispatch origin raw).1, []⟩, .done (.dispatched (r.dispatch origin raw).2)) := by
  unfold Relay.dispatch
  cases hc : Command.classify raw with
  | plain text =>
    have hfirst : (start (.dispatch origin raw)).step me ⟨r, []⟩ =
        some (⟨r.hear origin raw, []⟩, .finishing ⟨.dispatched .plain, false, none⟩) := by
      simp [step, begin, hc]
    rw [run_of_step hfirst, run_finishing]
    rfl
  | setActivity value =>
    have hfirst : (start (.dispatch origin raw)).step me ⟨r, []⟩ =
        some (⟨r.hear origin raw, []⟩, .asking (.change origin value)) := by
      simp [step, begin, hc]
    rw [run_of_step hfirst, run_of_step rfl]
    refine (run_waiting_first me (r.hear origin raw) (.change origin value)).trans ?_
    rw [enter, run_of_step rfl]
    refine (run_clearing_broadcast me _ [me] _ _).trans ?_
    rw [run_finishing]
    rfl

/-- Alone, a task does what its operation does at one stroke. -/
theorem run_alone (r : Relay) (me : Nat) (op : Operation) :
    (start op).run me ⟨r, []⟩ = (⟨(r.perform op).1, []⟩, .done (r.perform op).2) := by
  cases op with
  | connect id queue => exact run_connect_alone r me id queue
  | disconnect id =>
    rw [run_of_step rfl, run_of_step rfl, run_of_step rfl, run_finishing, Relay.perform,
      Relay.disconnect, Relay.remove]
    cases r.registry.find? id <;> rfl
  | register c => rw [run_of_step rfl, run_finishing]; rfl
  | unregister id =>
    rw [run_of_step rfl, run_of_step rfl, run_of_step rfl, run_finishing]
    rfl
  | sendTo id value =>
    rw [run_of_step rfl]
    refine (run_clearing_delivery me r [] id (.game value) _).trans ?_
    rw [run_finishing, Relay.perform, sendTo_snd]
    rfl
  | broadcast value exclude =>
    rw [run_of_step rfl]
    refine (run_clearing_broadcast me _ [] _ _).trans ?_
    rw [run_finishing]
    rfl
  | dispatch origin raw => exact run_dispatch_alone r me origin raw
  | current =>
    rw [run_of_step rfl]
    exact (run_waiting_first me r .current).trans (run_finishing me r [me] _)
  | commit value =>
    rw [run_of_step rfl]
    exact (run_waiting_first me r (.commit value)).trans (run_finishing me _ [me] _)
  | status =>
    rw [run_of_step rfl, run_of_step rfl]
    exact (run_waiting_first me r (.status r.viewers)).trans (run_finishing me r [me] _)

end Phase
end ActivityRelay
