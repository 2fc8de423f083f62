import ActivityRelay.Proofs.Viewer.Life
import Mathlib.Algebra.GroupWithZero.Nat

/-! Who holds the senders of a queue. Each belongs to a registered connection, to a connection that
is about to be dropped, or to one that is still to be registered, so that the queue of a viewer that
was taken out of the registry ends, and the viewer's session learns of it. -/
namespace ActivityRelay

namespace Registry

/-- The senders of a queue that are held by registered connections. -/
def holding (r : Registry) (queue : Nat) : Nat := r.connections.countP (·.queue = queue)

theorem holding_insert? {r r' : Registry} {c : Connection} (h : r.insert? c = some r')
    (queue : Nat) : r'.holding queue = r.holding queue + if c.queue = queue then 1 else 0 := by
  unfold insert? at h
  split at h
  · cases h
    rw [holding, (perm_insertSorted c r.connections).countP_eq, List.countP_cons]
    simp [holding]
  · simp at h

theorem holding_erase {r : Registry} {id : ClientId} {c : Connection} (h : r.find? id = some c)
    (queue : Nat) :
    r.holding queue = (r.erase id).holding queue + if c.queue = queue then 1 else 0 :=
  holding_insert? (insert?_erase h) queue

end Registry

/-- A queue that is empty and that nobody sends to any more has ended. -/
theorem Queue.take_of_abandoned {α : Type} (q : Queue α) (drained : q.waiting = [])
    (abandoned : q.senders = 0) : q.take.1 = .ended := by
  obtain ⟨capacity, received, waiting, receiver, senders, fits⟩ := q
  cases drained
  cases abandoned
  cases receiver <;> rfl

namespace Relay

/-- The senders of a queue. -/
def senders (r : Relay) (queue : Nat) : Nat := (r.queues[queue]?).elim 0 Queue.senders

theorem senders_release (r : Relay) (p queue : Nat) :
    (r.release p).senders queue = r.senders queue - if p = queue then 1 else 0 := by
  unfold senders release onQueue
  rw [List.getElem?_modify]
  cases r.queues[queue]? with
  | none => simp
  | some x => by_cases h : p = queue <;> simp [h, Queue.dropSender]

theorem senders_onQueue (r : Relay) (p : Nat) {f : Queue Event → Queue Event}
    (hf : ∀ x, (f x).senders = x.senders) (queue : Nat) :
    (r.onQueue p f).senders queue = r.senders queue := by
  unfold senders onQueue
  rw [List.getElem?_modify]
  cases r.queues[queue]? with
  | none => rfl
  | some x => by_cases h : p = queue <;> simp [h, hf]

theorem senders_receive (r : Relay) (p queue : Nat) :
    (r.receive p).1.senders queue = r.senders queue := by
  unfold receive senders
  cases h : r.queues[p]? with
  | none => rfl
  | some x =>
    have hx : x.take.2.senders = x.senders := by
      unfold Queue.take
      split
      · rfl
      · split
        · rfl
        · split <;> rfl
    obtain ⟨hlt, rfl⟩ := List.getElem?_eq_some_iff.1 h
    by_cases hp : p = queue
    · subst hp
      simp [hlt, hx]
    · simp [hp]

theorem senders_deliver (r : Relay) (c : Connection) (event : Event) (queue : Nat) :
    (r.deliver c event).1.senders queue = r.senders queue := by
  rcases r.deliver_cases c event with ⟨x, x', hq, hp, hd⟩ | ⟨e, hd⟩
  · obtain ⟨-, -, -, -, -, hs, -⟩ := Queue.push_eq_ok hp
    obtain ⟨hlt, rfl⟩ := List.getElem?_eq_some_iff.1 hq
    rw [hd]
    by_cases hc : c.queue = queue
    · subst hc
      simp [senders, hlt, hs]
    · simp [senders, hc]
  · rw [hd]

theorem senders_deliverEach (r : Relay) (event : Event) (cs : List Connection) (queue : Nat) :
    (r.deliverEach event cs).1.senders queue = r.senders queue := by
  induction cs generalizing r with
  | nil => rfl
  | cons c cs ih => rw [(r.deliverEach_cons event c cs).1, ih, senders_deliver]

end Relay

namespace Phase
variable {me : Nat} {s s' : Shared} {p p' : Phase} {op : Operation}

/-- The senders of a queue that a task holds. -/
def holding (queue : Nat) : Phase → Nat
  | .start (.connect _ q) | .asking (.connect _ q) | .waiting (.connect _ q) =>
    if q = queue then 1 else 0
  | .dropping (some c) _ _ _ => if c.queue = queue then 1 else 0
  | _ => 0

theorem holding_removed (r : Relay) (id : ClientId) (queue : Nat) (last : Option Record)
    (failed : Clearing) (e : Ending) : (r.remove id).1.senders queue = r.senders queue ∧
      r.registry.holding queue = (r.remove id).1.registry.holding queue +
        (dropping (r.remove id).2 last failed e).holding queue := by
  unfold Relay.remove
  cases h : r.registry.find? id with
  | none => exact ⟨rfl, rfl⟩
  | some c => exact ⟨rfl, Registry.holding_erase h queue⟩

/-- A step passes senders on, between the task and the registry, or gives them up. -/
theorem holding_step (hs : Step me s p s' p') (hop : op.isPublic = true) (ho : p.Of op)
    (queue : Nat) (held : p.holding queue ≤ s.relay.senders queue) :
    s'.relay.senders queue + s.relay.registry.holding queue + p.holding queue =
      s.relay.senders queue + s'.relay.registry.holding queue + p'.holding queue := by
  cases hs with
  | register | unregister | sendTo | broadcast | commit | replaces =>
    cases ho
    simp [Operation.isPublic] at hop
  | disconnect id =>
    obtain ⟨hq, hr⟩ := holding_removed s.relay id queue
      ((s.relay.remove id).2.map fun _ => .sessionEnded id) [] ⟨.disconnected, false, none⟩
    have hp : (start (.disconnect id)).holding queue = 0 := rfl
    simp only [hq, hr, hp]
    omega
  | clears id record failed ending =>
    obtain ⟨hq, hr⟩ := holding_removed (s.relay.note record) id queue none failed ending
    have hq : (s.relay.clear record id).1.senders queue = s.relay.senders queue := hq
    have hr : s.relay.registry.holding queue =
      (s.relay.clear record id).1.registry.holding queue +
        (dropping (s.relay.clear record id).2 none failed ending).holding queue := hr
    have hp : (clearing ((id, record) :: failed) ending).holding queue = 0 := rfl
    simp only [hq, hr, hp]
    omega
  | @registers id q registry front hi =>
    have hr : registry.holding queue = s.relay.registry.holding queue +
        (waiting (.connect id q)).holding queue := Registry.holding_insert? hi queue
    have hp : (greeting id s.relay.activity).holding queue = 0 := rfl
    change s.relay.senders queue + _ + _ = s.relay.senders queue + registry.holding queue + _
    rw [hr, hp]
    omega
  | @refuses id q front hi =>
    have hq : (((s.relay.newConnection id q).1.note (.duplicateIgnored id)).release q).senders
        queue = s.relay.senders queue - (waiting (.connect id q)).holding queue :=
      Relay.senders_release _ q queue
    change _ + s.relay.registry.holding queue + _ = _ + s.relay.registry.holding queue + 0
    rw [hq]
    omega
  | drops c last failed ending =>
    have hl : (last.elim s.relay s.relay.note).senders queue = s.relay.senders queue := by
      cases last <;> rfl
    have hr : ((last.elim s.relay s.relay.note).drop c).registry = s.relay.registry := by
      cases last <;> cases c <;> rfl
    have hq : ((last.elim s.relay s.relay.note).drop c).senders queue =
        s.relay.senders queue - (dropping c last failed ending).holding queue := by
      cases c with
      | none => exact hl
      | some c => exact (Relay.senders_release _ c.queue queue).trans (by rw [hl]; rfl)
    have hp : (clearing failed ending).holding queue = 0 := rfl
    simp only [hr, hq, hp]
    omega
  | @greets id c activity hc ok =>
    have hq := s.relay.senders_deliver c (.game activity) queue
    obtain ⟨queues, hf⟩ := s.relay.deliver_frame c (.game activity)
    have hr : (s.relay.deliver c (.game activity)).1.registry = s.relay.registry := by rw [hf]
    simp only [hq, hr, holding]
  | tells origin previous value =>
    have hq : (s.relay.deliverAll (.game value) (some origin)).1.senders queue =
        s.relay.senders queue := Relay.senders_deliverEach _ _ _ queue
    obtain ⟨queues, hf⟩ := s.relay.deliverAll_frame (.game value) (some origin)
    have hr : (s.relay.deliverAll (.game value) (some origin)).1.registry = s.relay.registry := by
      rw [hf]
    simp only [hq, hr, holding]
  | plain hc | command hc =>
    have hv : ∀ (origin : ClientId) (raw : String),
        (s.relay.hear origin raw).senders queue = s.relay.senders queue ∧
          (s.relay.hear origin raw).registry = s.relay.registry := by
      intro origin raw
      unfold Relay.hear Relay.forward
      split <;> exact ⟨rfl, rfl⟩
    simp only [hv, holding]
  | finishes e =>
    have hv : (e.last.elim s.relay s.relay.note).senders queue = s.relay.senders queue ∧
        (e.last.elim s.relay s.relay.note).registry = s.relay.registry := by
      cases e.last <;> exact ⟨rfl, rfl⟩
    simp only [hv, holding]
  | ask work => cases work <;> rfl
  | _ => rfl

/-- No task makes more senders of a queue than there are. -/
theorem senders_step (hs : Step me s p s' p') (hop : op.isPublic = true) (ho : p.Of op)
    (queue : Nat) : s'.relay.senders queue ≤ s.relay.senders queue := by
  cases hs with
  | register | unregister | sendTo | broadcast | commit | replaces =>
    cases ho
    simp [Operation.isPublic] at hop
  | disconnect id =>
    exact (holding_removed s.relay id queue none [] ⟨.disconnected, false, none⟩).1.le
  | clears id record failed ending =>
    exact (holding_removed (s.relay.note record) id queue none failed ending).1.le
  | @refuses id q front hi =>
    refine (Relay.senders_release _ q queue).trans_le ?_
    exact Nat.sub_le _ _
  | drops c last failed ending =>
    have hl : (last.elim s.relay s.relay.note).senders queue = s.relay.senders queue := by
      cases last <;> rfl
    cases c with
    | none => exact hl.le
    | some c =>
      refine (Relay.senders_release _ c.queue queue).trans_le ?_
      rw [hl]
      exact Nat.sub_le _ _
  | @greets id c activity hc ok => exact (s.relay.senders_deliver c (.game activity) queue).le
  | tells origin previous value => exact (Relay.senders_deliverEach _ _ _ queue).le
  | plain hc | command hc =>
    change (s.relay.hear _ _).senders queue ≤ _
    unfold Relay.hear Relay.forward
    split <;> exact le_rfl
  | finishes e =>
    change (e.last.elim s.relay s.relay.note).senders queue ≤ _
    cases e.last <;> exact le_rfl
  | _ => exact le_rfl

/-- A task that holds no sender of the queue of a viewer that nobody is to register. -/
theorem holding_eq_zero {id : ClientId} {queue : Nat} (ho : p.Of op)
    (own : ∀ other, op = .connect other queue → other = id) (hc : ¬ p.toConnect id queue)
    (kept : ∀ c last failed e, p = .dropping (some c) last failed e → c.queue ≠ queue) :
    p.holding queue = 0 := by
  unfold holding
  split
  · next other q =>
    refine if_neg ?_
    rintro rfl
    cases ho
    exact hc (by rw [own other rfl]; rfl)
  · next other q =>
    refine if_neg ?_
    rintro rfl
    exact hc (by rw [own other ho]; rfl)
  · next other q =>
    refine if_neg ?_
    rintro rfl
    exact hc (by rw [own other ho]; rfl)
  · exact if_neg (kept _ _ _ _ rfl)
  · rfl

end Phase

namespace System
variable {s t : System} {queue : Nat}

/-- Every sender of a queue is held by someone. -/
def Accounted (queue : Nat) (s : System) : Prop :=
  s.relay.senders queue =
    s.relay.registry.holding queue + (s.tasks.map (Phase.holding queue)).sum

theorem Accounted.advance {ops : List Operation} (a : Accounted queue s)
    (isPublic : ∀ op ∈ ops, op.isPublic = true) (f : Follows ops s) {i : Nat}
    (hm : s.advance i = some t) : Accounted queue t := by
  obtain ⟨p, p', hp, hs, ht, -⟩ := advance_cases hm
  obtain ⟨op, hop, ho⟩ := f.task i p hp
  -- a task that holds nothing in the place of this one shows what the others hold
  have hothers := sum_map_set (Phase.holding queue) hp (.done .disconnected)
  have hset := sum_map_set (Phase.holding queue) hp p'
  have hzero : (Phase.done .disconnected).holding queue = 0 := rfl
  have ha : s.shared.relay.senders queue =
    s.shared.relay.registry.holding queue + (s.tasks.map (Phase.holding queue)).sum := a
  have hstep := Phase.holding_step hs (isPublic op (List.mem_of_getElem? hop)) ho queue
    (by omega)
  change t.shared.relay.senders queue = t.shared.relay.registry.holding queue + _
  rw [ht]
  omega

/-- What viewers do to queues leaves the senders alone. -/
theorem senders_aside {m : Move} (hn : ∀ i, m ≠ .task i) (hm : s.move m = some t) :
    t.relay.senders queue = s.relay.senders queue := by
  cases m with
  | task i => exact absurd rfl (hn i)
  | shuffle order => cases hm; rfl
  | receive p => cases hm; rw [relay_receive, Relay.senders_receive]
  | shut p =>
    cases hm
    refine s.relay.senders_onQueue p (fun x => ?_) queue
    unfold Queue.shut
    split <;> rfl
  | close p => cases hm; exact s.relay.senders_onQueue p (f := Queue.close) (fun _ => rfl) queue

theorem Accounted.move {ops : List Operation} (a : Accounted queue s)
    (isPublic : ∀ op ∈ ops, op.isPublic = true) (f : Follows ops s) {m : Move}
    (hm : s.move m = some t) : Accounted queue t := by
  rcases move_cases hm with ⟨i, hi⟩ | hn
  · exact a.advance isPublic f hi
  · obtain ⟨marks, aside⟩ := aside_of_move hn hm
    obtain ⟨queues, order, hr⟩ := aside.frame
    have hreg : t.relay.registry = s.relay.registry := by rw [hr]
    rw [Accounted, senders_aside hn hm, hreg, aside.tasks]
    exact a

theorem accounted_move {r : Relay} {ops : List Operation} {id : ClientId} {q : Nat} {m : Move}
    (h : Hosts r ops id q s) (a : Accounted queue s) (hm : s.move m = some t) :
    Accounted queue t := a.move h.isPublic h.watched.follows hm

theorem senders_move {ops : List Operation} (isPublic : ∀ op ∈ ops, op.isPublic = true)
    (f : Follows ops s) {m : Move} (hm : s.move m = some t) :
    t.relay.senders queue ≤ s.relay.senders queue := by
  rcases move_cases hm with ⟨i, hi⟩ | hn
  · obtain ⟨p, p', hp, hs, -, -⟩ := advance_cases hi
    obtain ⟨op, hop, ho⟩ := f.task i p hp
    exact Phase.senders_step hs (isPublic op (List.mem_of_getElem? hop)) ho queue
  · exact (senders_aside hn hm).le

theorem Accounted.spawn (a : Accounted queue s) {op : Operation}
    (h : (Phase.start op).holding queue = 0) : Accounted queue (s.spawn op) := by
  have ha : s.relay.senders queue =
    s.relay.registry.holding queue + (s.tasks.map (Phase.holding queue)).sum := a
  change s.relay.senders queue = s.relay.registry.holding queue + _
  rw [ha, System.spawn, List.map_append, List.sum_append]
  simp [h]

end System

/-- Nobody holds a sender of the queue of a viewer that is not registered, unless someone is to
register it or has its connection still to drop. -/
theorem Hosts.senders_eq_zero {r : Relay} {ops : List Operation} {id : ClientId} {queue : Nat}
    {s : System} (h : Hosts r ops id queue s) (a : s.Accounted queue)
    (settled : ∀ (i : Nat) p, s.tasks[i]? = some p → ¬ p.toConnect id queue)
    (absent : s.relay.registry.find? id = none)
    (dropped : ∀ (i : Nat) c last failed e,
      s.tasks[i]? = some (.dropping (some c) last failed e) → c.queue ≠ queue) :
    s.relay.senders queue = 0 := by
  have hregistry : s.relay.registry.holding queue = 0 := by
    refine List.countP_eq_zero.2 fun c hc => ?_
    simpa using h.watched.heard.queue_ne absent hc
  have htasks : (s.tasks.map (Phase.holding queue)).sum = 0 := by
    refine List.sum_eq_zero_iff_forall_eq_nat.2 fun n hn => ?_
    obtain ⟨p, hp, rfl⟩ := List.mem_map.1 hn
    obtain ⟨i, hi, rfl⟩ := List.getElem_of_mem hp
    have hi := List.getElem?_eq_getElem hi
    obtain ⟨op, hop, ho⟩ := h.watched.follows.task i _ hi
    refine Phase.holding_eq_zero ho (fun other he => ?_) (settled i _ hi)
      fun c last failed e he => dropped i c last failed e (hi.trans (congrArg some he))
    exact (h.sole.own other _ (he ▸ List.mem_of_getElem? hop)).2 rfl
  rw [a, hregistry, htasks]

namespace Viewer
namespace Life
variable {l l' : Life} {r : Relay}

theorem accounted_step (h : Hosted r l) (a : l.system.Accounted l.session.queue) (hs : Step l l') :
    l'.system.Accounted l'.session.queue := by
  obtain ⟨ops, h⟩ := h
  have receiving : (l.system.receive l.session.queue).Accounted l.session.queue :=
    System.accounted_move (m := .receive l.session.queue) h a rfl
  cases hs with
  | move leaves hm => exact System.accounted_move h a hm
  | @begin op foreign =>
    refine a.spawn ?_
    cases op with
    | connect other q =>
      have hq : other ≠ l.session.id ∧ q ≠ l.session.queue := by
        simpa [Operation.isForeign] using foreign
      exact if_neg hq.2
    | _ => rfl
  | connected | dispatched | other => exact a
  | refused | left =>
    exact System.accounted_move (m := .close l.session.queue)
      (h.same (l.system.relay.view_note _)) a rfl
  | text | last => exact a.spawn rfl
  | wrote | idle => exact receiving
  | lost | ended => exact receiving.spawn rfl

/-- A viewer that was taken out of the registry learns of it: once its queue is empty and nobody is
just dropping its connection, the session leaves its loop. -/
theorem flush_leaves (h : Hosted r l) (a : l.system.Accounted l.session.queue)
    (settled : ∀ (i : Nat) p, l.system.tasks[i]? = some p →
      ¬ p.toConnect l.session.id l.session.queue)
    (absent : l.system.relay.registry.find? l.session.id = none)
    (drained : l.system.relay.queued l.session.queue = [])
    (dropped : ∀ (i : Nat) c last failed e,
      l.system.tasks[i]? = some (.dropping (some c) last failed e) → c.queue ≠ l.session.queue)
    (writable : Bool) : ∃ task, (l.flush writable).stage = .leaving task := by
  obtain ⟨ops, h⟩ := h
  have hsenders := h.senders_eq_zero a settled absent dropped
  have hended : (l.system.relay.receive l.session.queue).2 = .ended := by
    unfold Relay.receive
    unfold Relay.senders at hsenders
    unfold Relay.queued at drained
    cases hq : l.system.relay.queues[l.session.queue]? with
    | none => rfl
    | some x =>
      rw [hq] at hsenders drained
      exact x.take_of_abandoned drained hsenders
  exact ⟨(l.system.receive l.session.queue).tasks.length, by simp only [flush, hended]; rfl⟩

end Life
end Viewer
end ActivityRelay
