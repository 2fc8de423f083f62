import ActivityRelay.Proofs.Task.SessionEnd
import ActivityRelay.Proofs.Viewer.Audience

/-! What the log tells of the ends of sessions, while any number of them go on beside each other. A
session that was greeted and has returned has its end on record once, unless its viewer was dropped
in a fan-out. -/
namespace ActivityRelay
open Record

namespace System
variable {s t u : System}

theorem silent_of_frame (tasks : t.tasks = s.tasks)
    (h : ∃ queues order, t.relay = { s.relay with queues, order }) : Silent s t := by
  obtain ⟨queues, order, hr⟩ := h
  exact ⟨tasks, hr ▸ ⟨rfl, [], (List.append_nil _).symm, by simp⟩⟩

theorem Silent.note {rec : Record} (h : Silent s t) (aside : rec.isAside = true) :
    Silent s (t.note rec) :=
  ⟨h.tasks, h.relay.trans (Relay.silent_note aside t.relay)⟩

theorem silent_receive (s : System) (queue : Nat) : Silent s (s.receive queue) := by
  obtain ⟨marks, a⟩ := s.aside_receive queue
  exact silent_of_frame a.tasks a.frame

theorem silent_refl (s : System) : Silent s s :=
  silent_of_frame rfl ⟨s.relay.queues, s.relay.order, rfl⟩

/-- Something goes on that has to do neither with the coming of a viewer nor with its leaving. -/
inductive Elsewhere (id : ClientId) (s : System) : System → Prop
  | silent {t : System} (h : Silent s t) : Elsewhere id s t
  | spawn {t : System} {op : Operation} (h : Silent s t)
      (arriving : (Phase.start op).arriving id = 0) (parting : (Phase.start op).parting id = 0) :
      Elsewhere id s (t.spawn op)

theorem Ledger.elsewhere {r : Relay} {id : ClientId} {came left : Nat} {written : List Record}
    (h : Ledger r id came left written s) (he : Elsewhere id s t) :
    ∃ written', Ledger r id came left written' t := by
  cases he with
  | silent hst =>
    obtain ⟨new, h⟩ := h.silent hst
    exact ⟨_, h⟩
  | @spawn u op hst arriving parting =>
    obtain ⟨new, h⟩ := h.silent hst
    have h := h.spawn op
    rw [arriving, parting] at h
    exact ⟨_, h⟩

end System

namespace Phase

/-- A task whose connect succeeds is bound to write that the viewer is greeted. -/
theorem greeted_of_step {me : Nat} {s s' : Shared} {p p' : Phase} {greeting : String}
    (h : Step me s p s' p') (hp : p.ending? = none)
    (hp' : p'.ending? = some (.connected (.ok greeting))) :
    ∃ id, p = .greeting id greeting ∧ p'.unwritten = [.greeted id greeting] := by
  cases h with
  | @greets id c activity hc ok =>
    cases hp'
    exact ⟨id, rfl, rfl⟩
  | _ => simp_all [ending?]

end Phase

namespace Viewer
namespace Life
variable {l l' : Life}

/-- What a session does by itself, as far as it has to do with the end of it: where it stands after
that, and in which system. -/
inductive Goes (l : Life) : System → Stage → Prop
  | connected {task : Nat} {greeting : String} {t : System} (stage : l.stage = .connecting task)
      (done : l.system.tasks[task]? = some (.done (.connected (.ok greeting))))
      (h : l.system.Silent t) : Goes l t .listening
  | refused {task : Nat} {t : System} (stage : l.stage = .connecting task)
      (h : l.system.Silent t) : Goes l t .returned
  | dispatched {task : Nat} (stage : l.stage = .dispatching task) : Goes l l.system .listening
  | left {task : Nat} {o : Outcome} {t : System} (stage : l.stage = .leaving task)
      (done : l.system.tasks[task]? = some (.done o)) (h : l.system.Silent t) : Goes l t .returned
  | stays {t : System} (stage : l.stage = .listening) (h : l.system.Silent t) : Goes l t .listening
  | asks {t : System} (raw : String) (stage : l.stage = .listening) (h : l.system.Silent t) :
      Goes l (t.spawn (.dispatch l.session.id raw)) (.dispatching t.tasks.length)
  | leaves {t : System} (stage : l.stage = .listening) (h : l.system.Silent t) :
      Goes l (t.spawn (.disconnect l.session.id)) (.leaving t.tasks.length)

theorem silent_finish (l : Life) {rec : Record} (aside : rec.isAside = true) :
    l.system.Silent (l.finish rec).system :=
  let noted := l.system.silent_refl.note aside
  ⟨noted.tasks, noted.relay.trans (Relay.silent_of_frame ⟨_, rfl⟩)⟩

theorem goes_resume (h : l.resume = some l') : Goes l l'.system l'.stage := by
  unfold resume at h
  split at h
  · next task stage =>
    split at h
    · next done =>
      cases h
      exact .connected stage (System.outcome?_eq_some done) (l.system.silent_refl.note rfl)
    · cases h
      exact .refused stage (l.silent_finish rfl)
    · simp at h
  · next task stage =>
    obtain ⟨o, -, rfl⟩ := Option.map_eq_some_iff.1 h
    exact .dispatched stage
  · next task stage =>
    obtain ⟨o, done, rfl⟩ := Option.map_eq_some_iff.1 h
    exact .left stage (System.outcome?_eq_some done) (l.silent_finish rfl)
  · simp at h
  · simp at h

theorem goes_take (stage : l.stage = .listening) (i : Inbound) :
    Goes l (l.take i).system (l.take i).stage := by
  have same := l.system.silent_refl
  rcases i with (raw | bytes | bytes | bytes | _) | _ | _
  · exact .asks raw stage same
  · simpa only [take, stage] using Goes.stays stage same
  · simpa only [take, stage] using Goes.stays stage same
  · simpa only [take, stage] using Goes.stays stage same
  · exact .leaves stage same
  · exact .leaves stage same
  · exact .leaves stage same

theorem goes_flush (stage : l.stage = .listening) (writable : Bool) :
    Goes l (l.flush writable).system (l.flush writable).stage := by
  have received := l.system.silent_receive l.session.queue
  unfold flush
  cases he : (l.system.relay.receive l.session.queue).2 with
  | item event =>
    have noted : l.system.Silent ((l.system.receive l.session.queue).note (.eventSent event)) :=
      received.note rfl
    cases writable with
    | true => simpa only [he, if_true, stage] using Goes.stays stage noted
    | false =>
      simp only [he, Bool.false_eq_true, if_false]
      exact .leaves stage noted
  | ended =>
    simp only [he]
    exact .leaves stage received
  | empty => simpa only [he, stage] using Goes.stays stage received

theorem goes (deed : Deed) (h : l.act deed.toAct = some l') : Goes l l'.system l'.stage := by
  cases deed with
  | resume => exact goes_resume h
  | take i =>
    simp only [Deed.toAct, act, Option.ite_none_right_eq_some, Option.some.injEq] at h
    obtain ⟨stage, rfl⟩ := h
    exact goes_take stage i
  | flush writable =>
    simp only [Deed.toAct, act, Option.ite_none_right_eq_some, Option.some.injEq] at h
    obtain ⟨stage, rfl⟩ := h
    exact goes_flush stage writable

end Life

/-- Where a session stands, by what is written of its viewer: it comes to its loop only when it was
greeted, and to decide that it ends is up to the one task that it leaves by. -/
def Stage.Bears (s : System) (id : ClientId) (left : Nat) (written : List Record) : Stage → Prop
  | .connecting task => left = 0 ∧ ∀ p greeting, s.tasks[task]? = some p →
      p.ending? = some (.connected (.ok greeting)) →
        0 < written.countP (greets id) + p.unwritten.countP (greets id)
  | .listening | .dispatching _ => left = 0 ∧ 0 < written.countP (greets id)
  | .leaving task => left = 1 ∧ 0 < written.countP (greets id) ∧
      ∀ (i : Nat) p, s.tasks[i]? = some p → p.parting id ≠ 0 → i = task
  | .returned => left ≤ 1 ∧ (0 < left → 0 < written.countP (greets id)) ∧
      ∀ p ∈ s.tasks, p.parting id = 0

namespace Stage
variable {r : Relay} {id : ClientId} {s t : System} {left : Nat} {written : List Record}
  {stage : Stage}

theorem Bears.silent (h : stage.Bears s id left written) (hst : s.Silent t) (new : List Record) :
    stage.Bears t id left (written ++ new) := by
  have more : written.countP (greets id) ≤ (written ++ new).countP (greets id) :=
    (List.sublist_append_left written new).countP_le
  cases stage with
  | connecting task =>
    refine ⟨h.1, fun p greeting hp he => ?_⟩
    rw [hst.tasks] at hp
    have hgreeted := h.2 p greeting hp he
    omega
  | listening | dispatching => exact ⟨h.1, h.2.trans_le more⟩
  | leaving task =>
    refine ⟨h.1, h.2.1.trans_le more, ?_⟩
    rw [hst.tasks]
    exact h.2.2
  | returned =>
    refine ⟨h.1, fun hl => (h.2.1 hl).trans_le more, ?_⟩
    rw [hst.tasks]
    exact h.2.2

/-- A task that has nothing to do with the end of the session begins. -/
theorem Bears.spawn (h : stage.Bears s id left written) {op : Operation}
    (hop : (Phase.start op).parting id = 0) : stage.Bears (s.spawn op) id left written := by
  have htasks : (s.spawn op).tasks = s.tasks ++ [.start op] := rfl
  cases stage with
  | connecting task =>
    refine ⟨h.1, fun p greeting hp he => ?_⟩
    rw [System.getElem?_spawn] at hp
    split at hp
    · cases hp
      simp [Phase.ending?] at he
    · exact h.2 p greeting hp he
  | listening | dispatching => exact h
  | leaving task =>
    refine ⟨h.1, h.2.1, fun i p hp hne => ?_⟩
    rw [System.getElem?_spawn] at hp
    split at hp
    · cases hp
      exact absurd hop hne
    · exact h.2.2 i p hp hne
  | returned =>
    refine ⟨h.1, h.2.1, ?_⟩
    rw [htasks]
    exact List.forall_mem_append.2 ⟨h.2.2, by simpa using hop⟩

theorem Bears.advance {new : List Record} {i : Nat} {p p' : Phase}
    (h : stage.Bears s id left written) (hp : s.tasks[i]? = some p)
    (ht : t.tasks = s.tasks.set i p') (hs : Phase.Step i s.shared p t.shared p')
    (pays : Phase.Pays id s.relay p new t.relay p')
    (own : ∀ task other greeting, stage = .connecting task →
      s.tasks[task]? = some (.greeting other greeting) → other = id) :
    stage.Bears t id left (written ++ new) := by
  have more : written.countP (greets id) ≤ (written ++ new).countP (greets id) :=
    (List.sublist_append_left written new).countP_le
  have hparted := pays.parted
  cases stage with
  | connecting task =>
    refine ⟨h.1, fun q greeting hq he => ?_⟩
    rw [ht, System.getElem?_set_task hp] at hq
    split at hq
    · next htask =>
      cases hq
      subst htask
      cases ho : p.ending? with
      | some o =>
        have hsame := (Phase.ending?_step hs ho).symm.trans he
        rw [hsame] at ho
        have hgreeted := h.2 p greeting hp ho
        have hkept := pays.kept
        rw [List.countP_append]
        omega
      | none =>
        obtain ⟨other, rfl, hwritten⟩ := Phase.greeted_of_step hs ho he
        obtain rfl := own task other greeting rfl hp
        simp [hwritten, greets]
    · have hgreeted := h.2 q greeting hq he
      omega
  | listening | dispatching => exact ⟨h.1, h.2.trans_le more⟩
  | leaving task =>
    refine ⟨h.1, h.2.1.trans_le more, fun j q hq hne => ?_⟩
    rw [ht, System.getElem?_set_task hp] at hq
    split at hq
    · next hj =>
      cases hq
      exact hj.trans (h.2.2 i p hp (by omega))
    · exact h.2.2 j q hq hne
  | returned =>
    refine ⟨h.1, fun hl => (h.2.1 hl).trans_le more, ?_⟩
    rw [ht]
    intro q hq
    have hzero := h.2.2 p (List.mem_of_getElem? hp)
    rcases List.mem_or_eq_of_mem_set hq with hq | rfl
    · exact h.2.2 q hq
    · omega

/-- Of a viewer that was greeted and whose session has returned, the one registration is accounted
for by the end of the session or by a failure in a fan-out. -/
theorem Bears.ended_or_dropped (h : returned.Bears s id left written)
    (ledger : s.Ledger r id 1 left written) (absent : s.relay.registry.find? id = none)
    (greeted : 0 < written.countP (greets id)) :
    written.count (.sessionEnded id) = 1 ∨
      written.count (.sessionEnded id) = 0 ∧ ∃ e, .broadcastFailed id e ∈ written := by
  have hclosing : (s.tasks.map (Phase.closing id)).sum = 0 := by
    refine List.sum_eq_zero_iff_forall_eq_nat.2 fun n hn => ?_
    obtain ⟨p, hp, rfl⟩ := List.mem_map.1 hn
    have hparting := h.2.2 p hp
    have hle := p.closing_le_parting id
    omega
  have hgone : s.relay.registry.here id = 0 :=
    Registry.here_of_notMem (Registry.notMem_ids_iff.2 absent)
  have arrived := ledger.arrived
  have welcomed := ledger.welcomed
  have upper := ledger.upper
  have lower := ledger.lower
  by_cases hended : written.count (.sessionEnded id) = 1
  · exact .inl hended
  · exact .inr ⟨by omega, exists_dropped (by omega)⟩

/-- The end of a session is on record only if the viewer was greeted and the session ends. -/
theorem Bears.closing_of_ended (h : stage.Bears s id left written)
    (ledger : s.Ledger r id 1 left written) (ended : .sessionEnded id ∈ written) :
    stage.isClosing = true ∧ ∃ activity, .greeted id activity ∈ written := by
  have hcount := List.count_pos_iff.2 ended
  have hparted := ledger.parted
  have hleft : 0 < left := by omega
  rw [← countP_greets_pos]
  cases stage with
  | connecting | listening | dispatching => exact absurd h.1 hleft.ne'
  | leaving => exact ⟨rfl, h.2.1⟩
  | returned => exact ⟨rfl, h.2.1 hleft⟩

/-- What is written of a viewer agrees with where its session stands. -/
def Recorded (r : Relay) (id : ClientId) (s : System) (stage : Stage) : Prop :=
  ∃ written left, s.Ledger r id 1 left written ∧ stage.Bears s id left written

theorem Recorded.silent (h : stage.Recorded r id s) (hst : s.Silent t) : stage.Recorded r id t := by
  obtain ⟨written, left, ledger, bears⟩ := h
  obtain ⟨new, ledger⟩ := ledger.silent hst
  exact ⟨written ++ new, left, ledger, bears.silent hst new⟩

theorem Recorded.spawn (h : stage.Recorded r id s) {op : Operation}
    (arriving : (Phase.start op).arriving id = 0) (parting : (Phase.start op).parting id = 0) :
    stage.Recorded r id (s.spawn op) := by
  obtain ⟨written, left, ledger, bears⟩ := h
  have ledger := ledger.spawn op
  rw [arriving, parting] at ledger
  exact ⟨written, left, ledger, bears.spawn parting⟩

theorem Recorded.elsewhere (h : stage.Recorded r id s) (he : s.Elsewhere id t) :
    stage.Recorded r id t := by
  cases he with
  | silent hst => exact h.silent hst
  | spawn hst arriving parting => exact (h.silent hst).spawn arriving parting

theorem recorded_connecting (h : s.Ledger r id 0 0 written) (queue : Nat) :
    (connecting s.tasks.length).Recorded r id (s.spawn (.connect id queue)) := by
  have ledger := h.spawn (.connect id queue)
  have arriving : (Phase.start (.connect id queue)).arriving id = 1 := if_pos rfl
  have parting : (Phase.start (.connect id queue)).parting id = 0 := rfl
  rw [arriving, parting] at ledger
  refine ⟨written, 0, ledger, rfl, fun p greeting hp he => ?_⟩
  rw [System.getElem?_spawn, if_pos rfl] at hp
  cases hp
  simp [Phase.ending?] at he

theorem Recorded.connected {task : Nat} {greeting : String}
    (h : (connecting task).Recorded r id s)
    (done : s.tasks[task]? = some (.done (.connected (.ok greeting)))) :
    listening.Recorded r id s := by
  obtain ⟨written, left, ledger, bears⟩ := h
  have hgreeted := bears.2 _ greeting done rfl
  have hnone : (Phase.done (.connected (.ok greeting))).unwritten = [] := rfl
  rw [hnone, List.countP_nil] at hgreeted
  exact ⟨written, left, ledger, bears.1, hgreeted⟩

theorem Recorded.refused {task : Nat} (h : (connecting task).Recorded r id s) :
    returned.Recorded r id s := by
  obtain ⟨written, left, ledger, bears⟩ := h
  obtain rfl := bears.1
  exact ⟨written, 0, ledger, Nat.zero_le _, by simp, ledger.parting_eq_zero⟩

theorem Recorded.gone {task : Nat} {o : Outcome} (h : (leaving task).Recorded r id s)
    (done : s.tasks[task]? = some (.done o)) : returned.Recorded r id s := by
  obtain ⟨written, left, ledger, bears⟩ := h
  refine ⟨written, left, ledger, bears.1.le, fun _ => bears.2.1, fun p hp => ?_⟩
  by_contra hne
  obtain ⟨j, hj, rfl⟩ := List.getElem_of_mem hp
  have hj := List.getElem?_eq_getElem hj
  obtain rfl := bears.2.2 j _ hj hne
  rw [Option.some.inj (hj.symm.trans done)] at hne
  exact hne rfl

/-- Nobody but the one task that the session leaves by decides how it ends. -/
theorem Recorded.leaves (h : listening.Recorded r id s) :
    (leaving s.tasks.length).Recorded r id (s.spawn (.disconnect id)) := by
  obtain ⟨written, left, ledger, bears⟩ := h
  obtain rfl := bears.1
  have unparted := ledger.parting_eq_zero
  have ledger := ledger.spawn (.disconnect id)
  have arriving : (Phase.start (.disconnect id)).arriving id = 0 := rfl
  have parting : (Phase.start (.disconnect id)).parting id = 1 := if_pos rfl
  rw [arriving, parting] at ledger
  refine ⟨written, 1, ledger, rfl, bears.2, fun i p hp hne => ?_⟩
  rw [System.getElem?_spawn] at hp
  split at hp
  · next hi => exact hi
  · exact absurd (unparted p (List.mem_of_getElem? hp)) hne

end Stage

namespace Life
variable {l : Life} {r : Relay} {t : System} {stage : Stage}

theorem recorded_goes (h : l.stage.Recorded r l.session.id l.system) (hg : Goes l t stage) :
    stage.Recorded r l.session.id t := by
  cases hg with
  | connected hstage done hst =>
    rw [hstage] at h
    exact (h.connected done).silent hst
  | refused hstage hst =>
    rw [hstage] at h
    exact h.refused.silent hst
  | dispatched hstage => rwa [hstage] at h
  | left hstage done hst =>
    rw [hstage] at h
    exact (h.gone done).silent hst
  | stays hstage hst =>
    rw [hstage] at h
    exact h.silent hst
  | asks raw hstage hst =>
    rw [hstage] at h
    exact (h.silent hst).spawn rfl rfl
  | leaves hstage hst =>
    rw [hstage] at h
    exact (h.silent hst).leaves

theorem recorded_advance (h : l.stage.Recorded r l.session.id l.system) (seated : Seated r l)
    {i : Nat} (hm : l.system.advance i = some t) : l.stage.Recorded r l.session.id t := by
  obtain ⟨written, left, ledger, bears⟩ := h
  obtain ⟨⟨ops, hosts⟩, placed, -⟩ := seated
  obtain ⟨new, p, p', hp, ht, hs, pays, ledger⟩ :=
    ledger.advance hosts.isPublic hosts.watched.follows hm
  refine ⟨written ++ new, left, ledger, bears.advance hp ht hs pays ?_⟩
  intro task other greeting hstage htask
  obtain ⟨q, hq, hc⟩ := placed.connects task hstage
  cases hq.symm.trans htask
  rcases hc with hc | ⟨activity, hc⟩ | ⟨x, hx, -⟩
  · exact hc.elim
  · exact (Phase.greeting.inj hc).1
  · simp [Phase.ending?] at hx

theorem Goes.elsewhere (hg : Goes l t stage) {id : ClientId} (hid : l.session.id ≠ id) :
    l.system.Elsewhere id t := by
  cases hg with
  | dispatched => exact .silent l.system.silent_refl
  | connected _ _ hst | refused _ hst | left _ _ hst | stays _ hst => exact .silent hst
  | asks raw _ hst => exact .spawn hst rfl rfl
  | leaves _ hst => exact .spawn hst rfl (if_neg hid)

end Life

namespace Audience
variable {r : Relay} {a b : Audience}

/-- What is written of every viewer agrees with where its session stands, and of nobody else it is
written that a session ended. -/
structure Told (r : Relay) (a : Audience) : Prop where
  members : ∀ (k : Nat) m, a.members[k]? = some m → m.stage.Recorded r m.session.id a.system
  strangers : ∀ id, (∀ (k : Nat) m, a.members[k]? = some m → m.session.id ≠ id) →
    ∃ written, a.system.Ledger r id 0 0 written

theorem told_start (unconnected : r.registry.connections = []) : Told r (start r) where
  members k m hk := by simp [start] at hk
  strangers id _ := ⟨[], .start unconnected id⟩

/-- A new session makes its queue in silence. -/
theorem silent_enter {id : ClientId} {capacity : Nat} (h : a.enter id capacity = some b) :
    ∃ t queue, a.system.Silent t ∧ b.system = t.spawn (.connect id queue) ∧ b.members =
      a.members ++ [{ session := { id, queue }, stage := .connecting t.tasks.length }] := by
  unfold enter at h
  split at h
  · split at h
    · simp at h
    · next relay queue ho =>
      cases h
      obtain ⟨-, hrelay⟩ := Relay.openQueue_eq_ok ho
      exact ⟨a.system.setRelay relay, queue, System.silent_of_frame rfl ⟨_, _, hrelay⟩, rfl, rfl⟩
  · simp at h

theorem told_enter (told : Told r a) {id : ClientId} {capacity : Nat}
    (h : a.enter id capacity = some b) : Told r b := by
  obtain ⟨fresh, -⟩ := enter_eq_some h
  obtain ⟨u, queue, hst, hs, hm⟩ := silent_enter h
  have others {other : ClientId} (hne : id ≠ other) : a.system.Elsewhere other b.system := by
    rw [hs]
    exact .spawn hst (if_neg hne) rfl
  constructor
  · intro k m hk
    rw [hm, List.getElem?_append] at hk
    split at hk
    · exact (told.members k m hk).elsewhere (others (Ne.symm (fresh k m hk)))
    · obtain ⟨-, rfl⟩ := List.getElem?_eq_some_iff.1 hk
      obtain ⟨written, ledger⟩ := told.strangers id fresh
      obtain ⟨new, ledger⟩ := ledger.silent hst
      rw [hs]
      simpa using Stage.recorded_connecting ledger queue
  · intro other away
    have hlast : b.members[a.members.length]? =
        some { session := { id, queue }, stage := .connecting u.tasks.length } := by
      rw [hm]
      exact List.getElem?_concat_length
    have hid : id ≠ other := away _ _ hlast
    obtain ⟨written, ledger⟩ := told.strangers other fun k m hk => away k m (by
      rw [hm, List.getElem?_append_left (List.getElem?_eq_some_iff.1 hk).1, hk])
    exact ledger.elsewhere (others hid)

/-- Something goes on that is no viewer's coming or leaving. -/
theorem Told.elsewhere (told : Told r a) {t : System} (h : ∀ id, a.system.Elsewhere id t) :
    Told r { a with system := t } where
  members k m hk := (told.members k m hk).elsewhere (h _)
  strangers id away := by
    obtain ⟨written, ledger⟩ := told.strangers id away
    exact ledger.elsewhere (h id)

theorem told_advance (t : Together r a) (told : Told r a) {i : Nat} {system : System}
    (h : a.system.advance i = some system) : Told r { a with system } where
  members k m hk :=
    Life.recorded_advance (l := a.life m) (told.members k m hk) (t.seated k m hk) h
  strangers id away := by
    obtain ⟨written, ledger⟩ := told.strangers id away
    obtain ⟨ops, sane, -⟩ := t.sane
    obtain ⟨new, _, _, -, -, -, -, ledger⟩ := ledger.advance sane.isPublic sane.follows h
    exact ⟨_, ledger⟩

/-- What one session does makes a difference to its own viewer only. -/
theorem told_put (t : Together r a) (told : Told r a) {j : Nat} {n : Member} {deed : Deed}
    {l : Life} (hn : a.members[j]? = some n) (hl : (a.life n).act deed.toAct = some l) :
    Told r (a.put j l) := by
  have goes : Life.Goes (a.life n) l.system l.stage := Life.goes deed hl
  constructor
  · intro k m hk
    by_cases hj : j = k
    · subst hj
      have hlt := (List.getElem?_eq_some_iff.1 hn).1
      obtain rfl : _ = m := Option.some.inj ((List.getElem?_set_self hlt).symm.trans hk)
      have names := (Life.names_step (Life.act_cases hl)).1
      change l.stage.Recorded r l.session.id l.system
      rw [names]
      exact Life.recorded_goes (l := a.life n) (told.members j n hn) goes
    · rw [put, List.getElem?_set_ne hj] at hk
      have away : (a.life n).session.id ≠ m.session.id := (t.apart j k n m hn hk hj).1
      exact (told.members k m hk).elsewhere (goes.elsewhere away)
  · intro other away
    have before : ∀ (k : Nat) m, a.members[k]? = some m → m.session.id ≠ other := by
      intro k m hk
      obtain ⟨m', hk', hid, -⟩ := names_put hn hl hk
      exact hid ▸ away k m' hk'
    obtain ⟨written, ledger⟩ := told.strangers other before
    exact ledger.elsewhere (goes.elsewhere (before j n hn))

theorem told_act {x : Act} (t : Together r a) (told : Told r a) (h : a.act x = some b) :
    Told r b := by
  cases x with
  | enter id capacity => exact told_enter told h
  | request op =>
    simp only [act, Option.ite_none_right_eq_some, Option.some.injEq] at h
    obtain ⟨rfl | rfl, rfl⟩ := h <;>
      exact told.elsewhere fun _ => .spawn a.system.silent_refl rfl rfl
  | task i =>
    obtain ⟨system, hm, rfl⟩ := Option.map_eq_some_iff.1 h
    exact told_advance t told hm
  | shuffle order =>
    cases h
    exact told.elsewhere fun _ => .silent (System.silent_of_frame rfl ⟨_, order, rfl⟩)
  | session j deed =>
    obtain ⟨n, l, hn, hl, rfl⟩ := session_eq_some h
    exact told_put t told hn hl

theorem told_run {acts : List Act} (t : Together r a) (told : Told r a)
    (h : a.run acts = some b) : Told r b := by
  induction acts generalizing a with
  | nil => cases h; exact told
  | cons x acts ih =>
    rw [run_cons, Option.bind_eq_some_iff] at h
    obtain ⟨c, hc, h⟩ := h
    exact ih (together_act t hc) (told_act t told hc) h

/-- What is written of a viewer, whether it had a session or not. -/
theorem Told.record (told : Told r a) (id : ClientId) :
    ∃ written, a.system.relay.log = r.log ++ written ∧
      ((∃ (k : Nat) (m : Member) (left : Nat), a.members[k]? = some m ∧ m.session.id = id ∧
        a.system.Ledger r id 1 left written ∧ m.stage.Bears a.system id left written) ∨
      (∀ m ∈ a.members, m.session.id ≠ id) ∧ written.count (.sessionEnded id) = 0) := by
  by_cases hid : ∃ (k : Nat) (m : Member), a.members[k]? = some m ∧ m.session.id = id
  · obtain ⟨k, m, hk, rfl⟩ := hid
    obtain ⟨written, left, ledger, bears⟩ := told.members k m hk
    exact ⟨written, ledger.log, .inl ⟨k, m, left, hk, rfl, ledger, bears⟩⟩
  · have away : ∀ (k : Nat) m, a.members[k]? = some m → m.session.id ≠ id :=
      fun k m hk he => hid ⟨k, m, hk, he⟩
    obtain ⟨written, ledger⟩ := told.strangers id away
    have hparted := ledger.parted
    refine ⟨written, ledger.log, .inr ⟨fun m hm => ?_, by omega⟩⟩
    obtain ⟨k, hk, rfl⟩ := List.getElem_of_mem hm
    exact away k _ (List.getElem?_eq_getElem hk)

/-- What is written of the end of a viewer's session while any number of them go on beside each
other. -/
theorem ends_run {acts : List Act} (unconnected : r.registry.connections = [])
    (unmade : r.queues = []) (h : (start r).run acts = some a) (id : ClientId) : ∃ written,
      a.system.relay.log = r.log ++ written ∧ written.count (.sessionEnded id) ≤ 1 ∧
      (∀ m ∈ a.members, m.session.id = id → m.stage = .returned →
        (∃ activity, .greeted id activity ∈ written) → written.count (.sessionEnded id) = 1 ∨
          written.count (.sessionEnded id) = 0 ∧ ∃ e, .broadcastFailed id e ∈ written) ∧
      (.sessionEnded id ∈ written → ∃ m ∈ a.members, m.session.id = id ∧
        m.stage.isClosing = true ∧ ∃ activity, .greeted id activity ∈ written) := by
  have t := together_run (together_start unconnected unmade) h
  have told := told_run (together_start unconnected unmade) (told_start unconnected) h
  obtain ⟨written, hlog, ⟨k, n, left, hk, rfl, ledger, bears⟩ | ⟨away, hnone⟩⟩ := told.record id
  · have arrived := ledger.arrived
    have upper := ledger.upper
    refine ⟨written, hlog, by omega, fun m hm hid stage hgreeted => ?_, fun ended => ?_⟩
    · obtain ⟨j, hj, rfl⟩ := List.getElem_of_mem hm
      have hj := List.getElem?_eq_getElem hj
      obtain rfl : k = j := by
        by_contra hne
        exact (t.apart k j _ _ hk hj hne).1 hid.symm
      obtain rfl := Option.some.inj (hk.symm.trans hj)
      rw [stage] at bears
      exact bears.ended_or_dropped ledger ((t.seated k _ hk).placed.returned stage)
        (countP_greets_pos.2 hgreeted)
    · exact ⟨n, List.mem_of_getElem? hk, rfl, bears.closing_of_ended ledger ended⟩
  · refine ⟨written, hlog, by omega, fun m hm hid => absurd hid (away m hm), fun ended => ?_⟩
    exact absurd (List.count_pos_iff.2 ended) (by omega)

/-- How the session of a viewer ends, by the log; where the end is on record, it is with the time of
being connected. While operations come one after another, a viewer with an id of its own that
connects with success and disconnects later has the end of its session on record once if it is still
registered when it disconnects; if it was dropped in a fan-out before, that is on record once, and
the end of its session is not. The end is on record for no other viewer. While any number of
sessions go on beside each other, the end of a session is never on record twice; a session that was
greeted and has returned has its end on record, or its viewer was dropped in a fan-out; and nobody
has who was not greeted or has not left the loop of its session. -/
theorem session_ends (r : Relay) (id : ClientId) :
    (∀ rec : Record, rec.message = "relay: client session ended" ↔
      ∃ other, rec = .sessionEnded other ∧
        rec.fields = [("client_id", .id other), ("connected_ms", .span)]) ∧
    (∀ (queue : Nat) (left s : Relay) (before between after : List Operation),
      r.Visits id queue before between left after s → id ∉ r.ids →
      (∀ q, .connect id q ∉ before ++ between ++ after) → .disconnect id ∉ between →
      ∃ written, s.log = r.log ++ written ∧
        written.count (.sessionEnded id) = (if id ∈ left.ids then 1 else 0) ∧
        written.countP (drops id) = if id ∈ left.ids then 0 else 1) ∧
    (∀ (s : Relay) (ops : List Operation) (written : List Record),
      r.Serves ops s → id ∉ r.ids → s.log = r.log ++ written → .sessionEnded id ∈ written →
      ∃ (before between after : List Operation) (queue : Nat) (left : Relay),
        ops = before ++ .connect id queue :: (between ++ .disconnect id :: after) ∧
        r.Visits id queue before between left after s ∧ id ∈ left.ids) ∧
    ∀ (acts : List Act) (a : Audience), r.registry.connections = [] → r.queues = [] →
      (start r).run acts = some a → ∃ written,
        a.system.relay.log = r.log ++ written ∧ written.count (.sessionEnded id) ≤ 1 ∧
        (∀ m ∈ a.members, m.session.id = id → m.stage = .returned →
          (∃ activity, .greeted id activity ∈ written) → written.count (.sessionEnded id) = 1 ∨
            written.count (.sessionEnded id) = 0 ∧ ∃ e, .broadcastFailed id e ∈ written) ∧
        (.sessionEnded id ∈ written → ∃ m ∈ a.members, m.session.id = id ∧
          m.stage.isClosing = true ∧ ∃ activity, .greeted id activity ∈ written) := by
  refine ⟨fun rec => message_eq_session_ended_iff, ?_, ?_, ?_⟩
  · exact fun queue left s before between after h new once stayed => h.settles new once stayed
  · exact fun s ops written h new hlog ended => h.exists_visit new hlog ended
  · exact fun acts a unconnected unmade h => ends_run unconnected unmade h id

/-- A relay with room for one event more in one queue than in the other. -/
def uneven : Relay := .fresh "A" [2, 1]

/-- The command of the first of two viewers finds the queue of the second one full. -/
def unevenTold : Relay :=
  let r := ((uneven.connect ⟨1⟩ 0).1.connect ⟨2⟩ 1).1
  r.dispatchIn r.registry.connections ⟨1⟩ "a g B"

/-- Both disconnect after that. -/
def unevenLeft : Relay := (unevenTold.disconnect ⟨2⟩).disconnect ⟨1⟩

theorem uneven_evicted : uneven.Visits ⟨2⟩ 1 [.connect ⟨1⟩ 0] [.dispatch ⟨1⟩ "a g B"] unevenTold
    [.disconnect ⟨1⟩] unevenLeft :=
  ⟨(uneven.connect ⟨1⟩ 0).1, _, "A", .next .nothing (.connect ⟨1⟩ 0), rfl,
    .next .nothing (.dispatch (.refl _) ⟨1⟩ "a g B"), .next .nothing (.disconnect ⟨1⟩)⟩

theorem uneven_stayed : uneven.Visits ⟨1⟩ 0 []
    [.connect ⟨2⟩ 1, .dispatch ⟨1⟩ "a g B", .disconnect ⟨2⟩] (unevenTold.disconnect ⟨2⟩)
    [] unevenLeft :=
  ⟨uneven, _, "A", .nothing, rfl,
    .next (.next (.next .nothing (.connect ⟨2⟩ 1)) (.dispatch (.refl _) ⟨1⟩ "a g B"))
      (.disconnect ⟨2⟩), .nothing⟩

/-- A viewer that was dropped has no end of its session on record. -/
theorem evicted_session_unrecorded :
    ¬ ∀ (id : ClientId) (queue : Nat) (r left s : Relay) (before between after : List Operation),
      r.Visits id queue before between left after s → id ∉ r.ids →
      (∀ q, .connect id q ∉ before ++ between ++ after) → .disconnect id ∉ between →
      ∃ written, s.log = r.log ++ written ∧ written.count (.sessionEnded id) = 1 := by
  intro h
  obtain ⟨written, hlog, hcount⟩ :=
    h ⟨2⟩ 1 _ _ _ _ _ _ uneven_evicted (by decide) (by simp) (by simp)
  have hwritten : unevenLeft.log = written := hlog
  rw [← hwritten] at hcount
  exact absurd hcount (by decide)

/-- One session loses its viewer in a fan-out and learns of it when its queue ends, another one is
left by its viewer. -/
def partedActs : List Act :=
  [[.enter ⟨1⟩ 1], List.replicate 5 (.task 0), [.session 0 .resume, .enter ⟨2⟩ 1],
    List.replicate 5 (.task 1), [.session 1 .resume],
    [.session 1 (.take (.message (.text "aag n B")))], List.replicate 8 (.task 2),
    [.session 1 .resume, .session 0 (.flush true), .session 0 (.flush true)],
    List.replicate 4 (.task 3), [.session 0 .resume, .session 1 (.take .ended)],
    List.replicate 4 (.task 4), [.session 1 .resume]].flatten

theorem session_ends_parted :
    (∃ written, unevenLeft.log = uneven.log ++ written ∧ written.count (.sessionEnded ⟨2⟩) = 0 ∧
      written.countP (drops ⟨2⟩) = 1) ∧
    (∃ written, unevenLeft.log = uneven.log ++ written ∧ written.count (.sessionEnded ⟨1⟩) = 1 ∧
      written.countP (drops ⟨1⟩) = 0) ∧
    (∃ (before between after : List Operation) (queue : Nat) (left : Relay),
      [.connect ⟨1⟩ 0, .connect ⟨2⟩ 1, .dispatch ⟨1⟩ "a g B", .disconnect ⟨2⟩, .disconnect ⟨1⟩] =
        before ++ .connect ⟨1⟩ queue :: (between ++ .disconnect ⟨1⟩ :: after) ∧
      uneven.Visits ⟨1⟩ queue before between left after unevenLeft ∧ ⟨1⟩ ∈ left.ids) ∧
    ∃ a, (start (.fresh "A" [])).run partedActs = some a ∧
      a.members.map (fun m => (m.session.id, m.stage)) = [(⟨1⟩, .returned), (⟨2⟩, .returned)] ∧
      (∃ e, .broadcastFailed ⟨1⟩ e ∈ a.system.relay.log) ∧
      a.system.relay.log.count (.sessionEnded ⟨1⟩) = 0 ∧
      a.system.relay.log.count (.sessionEnded ⟨2⟩) = 1 := by
  obtain ⟨-, visits, -, -⟩ := session_ends uneven ⟨2⟩
  obtain ⟨-, visits', recorded, -⟩ := session_ends uneven ⟨1⟩
  obtain ⟨-, -, -, beside⟩ := session_ends (.fresh "A" []) ⟨1⟩
  have served : uneven.Serves [.connect ⟨1⟩ 0, .connect ⟨2⟩ 1, .dispatch ⟨1⟩ "a g B",
      .disconnect ⟨2⟩, .disconnect ⟨1⟩] unevenLeft :=
    .next (.next (.next (.next (.next .nothing (.connect ⟨1⟩ 0)) (.connect ⟨2⟩ 1))
      (.dispatch (.refl _) ⟨1⟩ "a g B")) (.disconnect ⟨2⟩)) (.disconnect ⟨1⟩)
  refine ⟨?_, ?_, ?_, ?_⟩
  · exact visits _ _ _ _ _ _ uneven_evicted (by decide) (by simp) (by simp)
  · exact visits' _ _ _ _ _ _ uneven_stayed (by decide) (by simp) (by simp)
  · exact recorded unevenLeft _ unevenLeft.log served (by decide) rfl (by decide)
  · have hv : ((start (.fresh "A" [])).run partedActs).map (fun a =>
        (a.members.map (fun m => (m.session.id, m.stage)),
          decide (.greeted ⟨1⟩ "A" ∈ a.system.relay.log),
          a.system.relay.log.count (.sessionEnded ⟨1⟩),
          a.system.relay.log.count (.sessionEnded ⟨2⟩))) =
        some ([(⟨1⟩, .returned), (⟨2⟩, .returned)], true, 0, 1) := by decide
    obtain ⟨a, ha, hv⟩ := Option.map_eq_some_iff.1 hv
    simp only [Prod.mk.injEq, decide_eq_true_eq] at hv
    obtain ⟨hmembers, hgreeted, hfirst, hsecond⟩ := hv
    obtain ⟨written, hlog, -, returned, -⟩ := beside partedActs a rfl rfl ha
    have hlog : a.system.relay.log = written := hlog
    subst hlog
    have hmem : (⟨1⟩, .returned) ∈ a.members.map (fun m => (m.session.id, m.stage)) := by
      simp [hmembers]
    obtain ⟨m, hm, hpair⟩ := List.mem_map.1 hmem
    obtain ⟨hid, hstage⟩ := Prod.mk.inj hpair
    have ended := returned m hm hid hstage ⟨"A", hgreeted⟩
    rw [hfirst] at ended
    exact ⟨a, ha, hmembers, (ended.resolve_left (by decide)).2, hfirst, hsecond⟩

end Audience
end Viewer
end ActivityRelay
