import ActivityRelay.Proofs.Viewer.Audience

/-! What becomes of a session whose viewer is no longer registered. While the viewer is registered,
its connection holds the one sender of its queue; whoever takes the connection out of the registry
drops it, and the session finds what its queue had accepted and then the end. -/
namespace ActivityRelay
open Relation (ReflTransGen)

variable {r : Relay} {ops : List Operation} {id : ClientId} {queue : Nat}

namespace System
variable {s t : System}

/-- A viewer that was registered and is so no longer. -/
def Removed (id : ClientId) (queue : Nat) (s : System) : Prop :=
  .registered id queue ∈ s.history ∧ s.relay.registry.find? id = none

/-- A task that has a connection to a queue out of the registry and is about to drop it. -/
def Dropping (queue i : Nat) (s : System) : Prop :=
  ∃ c last failed e, s.tasks[i]? = some (.dropping (some c) last failed e) ∧ c.queue = queue

/-- Nothing keeps a task from dropping a connection. -/
theorem advance_dropping {i : Nat} {c : Connection} {last : Option Record} {failed : Clearing}
    {e : Ending} (hp : s.tasks[i]? = some (.dropping (some c) last failed e)) :
    ∃ t, s.advance i = some t ∧ t.relay.senders c.queue = s.relay.senders c.queue - 1 := by
  have hl : (last.elim s.relay s.relay.note).senders c.queue = s.relay.senders c.queue := by
    cases last <;> rfl
  unfold advance
  rw [hp]
  refine ⟨_, rfl, ?_⟩
  refine (Relay.senders_release _ c.queue c.queue).trans ?_
  rw [if_pos rfl]
  exact congrArg (· - 1) hl

end System

/-- The step that takes a viewer out of the registry puts nothing into queues. -/
theorem Phase.Step.queues_of_removal {me : Nat} {s s' : Shared} {p p' : Phase} {op : Operation}
    (hs : Step me s p s' p') (hop : op.isPublic = true) (ho : p.Of op)
    (hf : s.relay.registry.find? id ≠ none) (hn : s'.relay.registry.find? id = none) :
    s'.relay.view.queues = s.relay.view.queues := by
  have still (hr : s'.relay.registry = s.relay.registry) : False := by
    rw [hr] at hn
    exact hf hn
  cases hs with
  | register | unregister | sendTo | broadcast | commit | replaces =>
    cases ho
    simp [Operation.isPublic] at hop
  | disconnect other => rw [Relay.view_remove]
  | clears other record failed ending => rw [Relay.view_clear]
  | @registers other q registry front hi =>
    exfalso
    obtain ⟨c, hc⟩ := Option.ne_none_iff_exists'.1 hf
    obtain ⟨hmem, hid⟩ := Registry.find?_eq_some_iff.1 hc
    have hstays : c ∈ registry.connections := ((Registry.insert?_eq_some hi).2 c).2 (.inr hmem)
    exact (registry.find?_eq_none_iff id).1 hn c hstays hid
  | @greets other c activity hc ok =>
    obtain ⟨queues, hr⟩ := s.relay.deliver_frame c (.game activity)
    exact (still (by rw [hr])).elim
  | tells origin previous value =>
    obtain ⟨queues, hr⟩ := s.relay.deliverAll_frame (.game value) (some origin)
    exact (still (by rw [hr])).elim
  | plain | command => rw [Relay.view_hear]
  | refuses front hi =>
    rw [Relay.view_release]
    rfl
  | drops c last failed ending => simp
  | finishes e => simp
  | _ => rfl

namespace Hosts
variable {s t : System}

theorem senders_of_registered (h : Hosts r ops id queue s) (a : s.Accounted queue)
    (single : s.relay.senders queue ≤ 1) (hf : s.relay.registry.find? id ≠ none) :
    s.relay.senders queue = 1 := by
  obtain ⟨c, hc⟩ := Option.ne_none_iff_exists'.1 hf
  obtain ⟨hmem, hid⟩ := Registry.find?_eq_some_iff.1 hc
  have hpos : 0 < s.relay.registry.holding queue :=
    List.countP_pos_iff.2 ⟨c, hmem, by simpa using (h.watched.heard.own c hmem).1 hid⟩
  have ha : s.relay.senders queue =
    s.relay.registry.holding queue + (s.tasks.map (Phase.holding queue)).sum := a
  omega

theorem removed_move {m : Move} (h : Hosts r ops id queue s) (removed : s.Removed id queue)
    (hm : s.move m = some t) :
    t.Removed id queue ∧ t.relay.accepted queue = s.relay.accepted queue := by
  obtain ⟨hreg, habsent⟩ := removed
  obtain ⟨marks, -, hh, -⟩ := System.history_move hm
  refine ⟨⟨by rw [hh]; exact List.mem_append_left _ hreg, ?_⟩, ?_⟩
  · exact h.absent_move hm (fun i p _ hp => h.watched.past hreg i p hp) habsent
  · exact (System.lost_move h.isPublic h.sole h.watched ⟨hreg, .inl habsent⟩ hm).2

end Hosts

/-- A viewer that is out of the registry, with what its queue had accepted and at most so many
senders left. -/
structure Severed (r : Relay) (id : ClientId) (queue : Nat) (events : List Event) (n : Nat)
    (s : System) : Prop where
  hosted : ∃ ops, Hosts r ops id queue s
  removed : s.Removed id queue
  accepted : s.relay.accepted queue = events
  senders : s.relay.senders queue ≤ n

namespace Severed
variable {events : List Event} {n : Nat} {s t : System}

theorem move {m : Move} (v : Severed r id queue events n s) (hm : s.move m = some t) :
    Severed r id queue events n t := by
  obtain ⟨ops, h⟩ := v.hosted
  obtain ⟨removed, accepted⟩ := h.removed_move v.removed hm
  have senders : t.relay.senders queue ≤ s.relay.senders queue :=
    System.senders_move h.isPublic h.watched.follows hm
  exact ⟨⟨ops, h.move hm⟩, removed, accepted.trans v.accepted, senders.trans v.senders⟩

theorem note (v : Severed r id queue events n s) (rec : Record) :
    Severed r id queue events n (s.note rec) := by
  obtain ⟨ops, h⟩ := v.hosted
  exact ⟨⟨ops, h.same (s.relay.view_note rec)⟩, v.removed, v.accepted, v.senders⟩

theorem spawn {op : Operation} (v : Severed r id queue events n s) (hop : op.isPublic = true)
    (new : ∀ other q, op = .connect other q → other ≠ id ∧ q ≠ queue) :
    Severed r id queue events n (s.spawn op) := by
  obtain ⟨ops, h⟩ := v.hosted
  exact ⟨⟨_, h.spawn hop new⟩, v.removed, v.accepted, v.senders⟩

theorem opened {relay : Relay} {q : Nat} (v : Severed r id queue events n s)
    (o : s.relay.Opened relay q) (other : q ≠ queue) :
    Severed r id queue events n (s.setRelay relay) := by
  obtain ⟨ops, h⟩ := v.hosted
  have watched := h.watched.setRelay o.activity o.registry (o.accepted queue)
  refine ⟨⟨ops, h.isPublic, h.sole, watched⟩, ⟨v.removed.1, ?_⟩, ?_, ?_⟩
  · change relay.registry.find? id = none
    rw [o.registry]
    exact v.removed.2
  · exact (o.accepted queue).trans v.accepted
  · have hs := o.senders queue
    rw [if_neg (Ne.symm other)] at hs
    exact hs.trans_le v.senders

theorem touch (v : Severed r id queue events n s) (touch : s.Touch id queue t) :
    Severed r id queue events n t := by
  cases touch with
  | receive => exact v.move (m := .receive queue) rfl
  | close => exact v.move (m := .close queue) rfl
  | note rec => exact v.note rec
  | dispatch raw => exact v.spawn rfl (by simp)
  | disconnect => exact v.spawn rfl (by simp)

theorem outer (v : Severed r id queue events n s) (outer : s.Outer id queue t) :
    Severed r id queue events n t := by
  cases outer with
  | move leaves hm => exact v.move hm
  | @begin op foreign =>
    refine v.spawn ?_ ?_
    · cases op <;> simp_all [Operation.isForeign, Operation.isPublic]
    · rintro other q rfl
      simpa [Operation.isForeign] using foreign
  | note rec => exact v.note rec
  | opened o other => exact v.opened o other

theorem touches (v : Severed r id queue events n s)
    (touches : ReflTransGen (System.Touch id queue) s t) : Severed r id queue events n t := by
  induction touches with
  | refl => exact v
  | tail _ touch ih => exact ih.touch touch

theorem outers (v : Severed r id queue events n s)
    (outers : ReflTransGen (System.Outer id queue) s t) : Severed r id queue events n t := by
  induction outers with
  | refl => exact v
  | tail _ outer ih => exact ih.outer outer

/-- Of the events that were accepted, those wait that were not yet received. -/
theorem queued_eq {m : Nat} (v : Severed r id queue events n s) (w : Severed r id queue events m t)
    (hr : t.relay.received queue = s.relay.received queue) :
    t.relay.queued queue = s.relay.queued queue := by
  have hs := s.relay.accepted_eq queue
  have ht := t.relay.accepted_eq queue
  rw [v.accepted] at hs
  rw [w.accepted, hr, hs] at ht
  exact (List.append_cancel_left ht).symm

end Severed

theorem System.received_outers {s t : System} (outers : ReflTransGen (System.Outer id queue) s t) :
    t.relay.received queue = s.relay.received queue := by
  induction outers with
  | refl => rfl
  | tail _ outer ih =>
    rw [← ih]
    cases outer with
    | move leaves hm => exact Viewer.Life.received_move leaves hm
    | begin | note => rfl
    | opened o other => exact o.received queue

namespace Viewer
namespace Life
variable {l l' : Life}

theorem received_finish (l : Life) (rec : Record) :
    (l.finish rec).system.relay.received l.session.queue =
      l.system.relay.received l.session.queue :=
  received_close (l.system.relay.note rec) l.session.queue l.session.queue

/-- Only in its loop does a session take from its queue. -/
theorem received_resume (h : l.resume = some l') :
    l'.system.relay.received l.session.queue = l.system.relay.received l.session.queue := by
  unfold resume at h
  split at h
  · split at h
    · cases h
      rfl
    · cases h
      exact l.received_finish _
    · simp at h
  · obtain ⟨o, -, rfl⟩ := Option.map_eq_some_iff.1 h
    rfl
  · obtain ⟨o, -, rfl⟩ := Option.map_eq_some_iff.1 h
    exact l.received_finish _
  · simp at h
  · simp at h

theorem received_take (l : Life) (i : Inbound) :
    (l.take i).system.relay.received l.session.queue =
      l.system.relay.received l.session.queue := by
  rcases i with (raw | bytes | bytes | bytes | _) | _ | _ <;> rfl

/-- One turn at the queue of a viewer that is gone: the next event is taken up, or the session
leaves its loop. -/
theorem flush_severed {events : List Event}
    (v : Severed r l.session.id l.session.queue events 0 l.system) (a : Attentive l)
    (stage : l.stage = .listening) (writable : Bool) :
    (l.flush writable).stage.isClosing = true ∨
      (l.system.relay.queued l.session.queue).length =
        ((l.flush writable).system.relay.queued l.session.queue).length + 1 := by
  have hnext := Relay.receive_of_listening (a.of_listening (by simp [stage]))
  have hsenders : l.system.relay.senders l.session.queue = 0 := Nat.le_zero.1 v.senders
  cases hq : l.system.relay.queued l.session.queue with
  | nil =>
    left
    simp only [Relay.next, hq, hsenders, if_true] at hnext
    simp only [flush, hnext]
    rfl
  | cons event rest =>
    simp only [Relay.next, hq] at hnext
    cases writable with
    | false =>
      left
      simp only [flush, hnext, Bool.false_eq_true, if_false]
      rfl
    | true =>
      right
      have hreceived := received_receive l.system l.session.queue
      have hs := l.system.relay.accepted_eq l.session.queue
      have ht := (l.system.receive l.session.queue).relay.accepted_eq l.session.queue
      have haccepted := (v.touch .receive).accepted
      rw [hnext] at hreceived
      rw [v.accepted, hq] at hs
      rw [haccepted, hreceived, hs, List.append_assoc] at ht
      have hrest := List.append_cancel_left ht
      simp only [flush, hnext, if_true]
      change _ = ((l.system.receive l.session.queue).relay.queued l.session.queue).length + 1
      rw [hrest]
      simp [Queue.Taken.toList, Nat.add_comm]

end Life

namespace Audience
variable {a b : Audience} {k : Nat} {m : Member}

/-- How often a session looks into its queue. -/
def flushes (k : Nat) (acts : List Act) : Nat :=
  acts.countP fun
    | .session j (.flush _) => j = k
    | _ => false

theorem flushes_own (k : Nat) (writable : Bool) (acts : List Act) :
    flushes k (.session k (.flush writable) :: acts) = flushes k acts + 1 := by
  simp [flushes]

theorem flushes_other {x : Act} (h : ∀ writable, x ≠ .session k (.flush writable))
    (acts : List Act) : flushes k (x :: acts) = flushes k acts := by
  refine List.countP_cons_of_neg ?_
  cases x with
  | session j deed =>
    cases deed with
    | flush writable =>
      have hj : j ≠ k := fun hj => h writable (by rw [hj])
      simpa using hj
    | _ => simp
  | _ => simp

theorem closing_run {acts : List Act} (t : Together r a) (hk : a.members[k]? = some m)
    (closing : m.stage.isClosing = true) (h : a.run acts = some b) :
    ∃ n, b.members[k]? = some n ∧ n.stage.isClosing = true := by
  induction acts generalizing a m with
  | nil => cases h; exact ⟨m, hk, closing⟩
  | cons x acts ih =>
    obtain ⟨c, t', h, ⟨deed, l, rfl, hl, rfl, hk', -⟩ | ⟨-, hk', -⟩⟩ := run_around t hk h
    · exact ih t' hk' (Life.isClosing_step (Life.act_cases hl) closing) h
    · exact ih t' hk' closing h

/-- A viewer that was taken out of the registry does not come back, and nothing is added to what
its queue had accepted. -/
theorem severed_run {acts : List Act} {events : List Event} {n : Nat} (t : Together r a)
    (hk : a.members[k]? = some m)
    (v : Severed r m.session.id m.session.queue events n a.system) (h : a.run acts = some b) :
    ∃ m', b.members[k]? = some m' ∧ m'.session.id = m.session.id ∧
      m'.session.queue = m.session.queue ∧
      Severed r m.session.id m.session.queue events n b.system := by
  induction acts generalizing a m with
  | nil => cases h; exact ⟨m, hk, rfl, rfl, v⟩
  | cons x acts ih =>
    obtain ⟨c, t', h, ⟨deed, l, rfl, hl, rfl, hk', hid, hq⟩ | ⟨-, hk', outers⟩⟩ :=
      run_around t hk h
    · have v' := v.touches (Life.touches deed hl)
      have hrest := ih t' hk' (by rw [hid, hq]; exact v') h
      simp only [hid, hq] at hrest
      exact hrest
    · exact ih t' hk' (v.outers outers) h

/-- Once its connection is dropped, a session has left its loop when it has looked into its queue
more often than there are events. -/
theorem severed_closes {acts : List Act} {events : List Event} (t : Together r a)
    (hk : a.members[k]? = some m)
    (v : Severed r m.session.id m.session.queue events 0 a.system) (h : a.run acts = some b)
    (enough : (a.system.relay.queued m.session.queue).length < flushes k acts) :
    ∃ m', b.members[k]? = some m' ∧ m'.stage.isClosing = true := by
  induction acts generalizing a m with
  | nil => simp [flushes] at enough
  | cons x acts ih =>
    obtain ⟨c, t', h, ⟨deed, l, rfl, hl, rfl, hk', hid, hq⟩ | ⟨hne, hk', outers⟩⟩ :=
      run_around t hk h
    · have v' := v.touches (Life.touches deed hl)
      -- a deed that leaves the queue alone leaves as much to do as before
      have same (hother : ∀ writable, Act.session k deed ≠ .session k (.flush writable))
          (hr : l.system.relay.received m.session.queue =
            a.system.relay.received m.session.queue) :
          ∃ m', b.members[k]? = some m' ∧ m'.stage.isClosing = true := by
        refine ih t' hk' (by rw [hid, hq]; exact v') h ?_
        rw [flushes_other hother] at enough
        rw [hq]
        exact (congrArg List.length (v.queued_eq v' hr)).trans_lt enough
      cases deed with
      | resume => exact same (by simp) (Life.received_resume hl)
      | take i =>
        simp only [Deed.toAct, Life.act, Option.ite_none_right_eq_some, Option.some.injEq] at hl
        obtain ⟨-, rfl⟩ := hl
        exact same (by simp) ((a.life m).received_take i)
      | flush writable =>
        simp only [Deed.toAct, Life.act, Option.ite_none_right_eq_some, Option.some.injEq] at hl
        obtain ⟨stage, rfl⟩ := hl
        rcases (a.life m).flush_severed v (t.seated k m hk).attentive stage writable with
          closing | hless
        · exact closing_run t' hk' closing h
        · refine ih t' hk' (by rw [hid, hq]; exact v') h ?_
          have hless : (a.system.relay.queued m.session.queue).length =
            (((a.life m).flush writable).system.relay.queued m.session.queue).length + 1 := hless
          rw [flushes_own] at enough
          rw [hq]
          change (((a.life m).flush writable).system.relay.queued m.session.queue).length < _
          omega
    · have v' := v.outers outers
      refine ih t' hk' v' h ?_
      rw [flushes_other fun writable => hne (.flush writable)] at enough
      rw [v.queued_eq v' (System.received_outers outers)]
      exact enough

/-- How the queue of a session hangs on the entry of its viewer in the registry. -/
structure Tethered (a : Audience) (k : Nat) (m : Member) : Prop where
  /-- The connection in the registry holds the one sender, so that the queue does not end. -/
  registered : a.system.relay.registry.find? m.session.id ≠ none →
    a.system.relay.senders m.session.queue = 1 ∧
      (a.system.relay.receive m.session.queue).2 ≠ .ended
  /-- Whatever takes the connection out, nothing is added to the queue meanwhile. -/
  cut : a.system.relay.registry.find? m.session.id ≠ none → ∀ x b, a.act x = some b →
    b.system.relay.registry.find? m.session.id = none →
    b.system.Removed m.session.id m.session.queue ∧
      b.system.relay.accepted m.session.queue = a.system.relay.accepted m.session.queue
  /-- Behind that there is a sender just as long as the one who took the connection out has it. -/
  held : a.system.Removed m.session.id m.session.queue →
    (a.system.relay.senders m.session.queue = 0 ↔ ∀ i, ¬ a.system.Dropping m.session.queue i)
  dropped : ∀ i, a.system.Dropping m.session.queue i →
    ∃ b, a.act (.task i) = some b ∧ b.system.relay.senders m.session.queue = 0
  /-- Whatever happens later, the viewer does not come back, and the session gets what its queue
  had accepted, in that order, and then the end. -/
  removed : a.system.Removed m.session.id m.session.queue → ∀ acts b, a.run acts = some b →
    ∃ m', b.members[k]? = some m' ∧ m'.session.id = m.session.id ∧
      m'.session.queue = m.session.queue ∧
      b.system.Removed m.session.id m.session.queue ∧
      b.system.relay.senders m.session.queue ≤ a.system.relay.senders m.session.queue ∧
      receivedIn m.session.queue b.system.history ++ b.system.relay.queued m.session.queue =
        a.system.relay.accepted m.session.queue ∧
      (m'.stage ≠ .returned → (b.system.relay.receive m.session.queue).2 =
        b.system.relay.next m.session.queue)
  /-- The session goes round its loop at most once for each event that is left. -/
  closes : a.system.Removed m.session.id m.session.queue →
    a.system.relay.senders m.session.queue = 0 → ∀ acts b, a.run acts = some b →
    (a.system.relay.queued m.session.queue).length < flushes k acts →
    ∃ m', b.members[k]? = some m' ∧ m'.stage.isClosing = true

theorem registry_touches {s u : System} {q : Nat} {other : ClientId}
    (touches : ReflTransGen (System.Touch other q) s u) :
    u.relay.registry = s.relay.registry := by
  induction touches with
  | refl => rfl
  | @tail v w _ touch ih =>
    rw [← ih]
    cases touch with
    | receive =>
      obtain ⟨queues, hr⟩ := v.relay.receive_frame q
      rw [System.relay_receive, hr]
    | _ => rfl

/-- What takes a connection out of the registry is a step of a task, which does nothing else. -/
theorem Together.accepted_of_removal {x : Act} (t : Together r a) (hk : a.members[k]? = some m)
    (hf : a.system.relay.registry.find? m.session.id ≠ none) (h : a.act x = some b)
    (hn : b.system.relay.registry.find? m.session.id = none) :
    b.system.Removed m.session.id m.session.queue ∧
      b.system.relay.accepted m.session.queue = a.system.relay.accepted m.session.queue := by
  have still (hr : b.system.relay.registry = a.system.relay.registry) : False := by
    rw [hr] at hn
    exact hf hn
  cases x with
  | enter id capacity =>
    obtain ⟨-, relay, queue, o, hs, -⟩ := enter_eq_some h
    exact (still (by rw [hs]; exact o.registry)).elim
  | request op =>
    obtain ⟨-, -, -, rfl⟩ := request_eq_some h
    exact (still rfl).elim
  | shuffle order =>
    cases h
    exact (still rfl).elim
  | session j deed =>
    obtain ⟨n, l, -, hl, rfl⟩ := session_eq_some h
    exact (still (registry_touches (Life.touches deed hl))).elim
  | task i =>
    obtain ⟨system, hs, rfl⟩ := Option.map_eq_some_iff.1 h
    obtain ⟨⟨ops, hosts⟩, -, -⟩ := t.seated k m hk
    change Hosts r ops m.session.id m.session.queue a.system at hosts
    obtain ⟨c, hc⟩ := Option.ne_none_iff_exists'.1 hf
    have hreg := (hosts.watched.heard.whole c hc).1
    obtain ⟨p, p', hp, hstep, -, hh⟩ := System.advance_cases hs
    obtain ⟨op, hop, ho⟩ := hosts.watched.follows.task i p hp
    refine ⟨⟨by rw [hh]; exact List.mem_append_left _ hreg, hn⟩, ?_⟩
    have hqueues := hstep.queues_of_removal (hosts.isPublic op (List.mem_of_getElem? hop)) ho hf hn
    exact (Relay.content_congr hqueues m.session.queue).1

theorem Together.tethered (t : Together r a) (hk : a.members[k]? = some m) : Tethered a k m := by
  obtain ⟨⟨ops, h⟩, placed, attentive⟩ := t.seated k m hk
  obtain ⟨ops', sane, -⟩ := t.sane
  change Hosts r ops m.session.id m.session.queue a.system at h
  have accounted := sane.accounted m.session.queue
  have single := sane.single m.session.queue
  constructor
  · intro hf
    have one := h.senders_of_registered accounted single hf
    have open' : m.stage ≠ .returned := fun stage => hf (placed.returned stage)
    have hnext : (a.system.relay.receive m.session.queue).2 = a.system.relay.next m.session.queue :=
      Relay.receive_of_listening (attentive.of_listening open')
    refine ⟨one, ?_⟩
    rw [hnext, Relay.next]
    split
    · simp
    · simp [one]
  · intro hf x b hx hn
    exact t.accepted_of_removal hk hf hx hn
  · rintro ⟨hreg, habsent⟩
    constructor
    · rintro hzero i ⟨c, last, failed, e, hp, hq⟩
      have hsum : (a.system.tasks.map (Phase.holding m.session.queue)).sum = 0 := by
        have ha : a.system.relay.senders m.session.queue = _ + _ := accounted
        omega
      have hall := List.sum_eq_zero_iff_forall_eq_nat.1 hsum _
        (List.mem_map_of_mem (List.mem_of_getElem? hp))
      simp [Phase.holding, hq] at hall
    · intro hnot
      refine h.senders_eq_zero accounted (h.watched.past hreg) habsent ?_
      exact fun i c last failed e hp hq => hnot i ⟨c, last, failed, e, hp, hq⟩
  · rintro i ⟨c, last, failed, e, hp, hq⟩
    obtain ⟨system, hs, hsenders⟩ := System.advance_dropping hp
    refine ⟨{ a with system }, by simp only [act, hs, Option.map_some], ?_⟩
    rw [hq] at hsenders
    change system.relay.senders m.session.queue = 0
    omega
  · intro gone acts b hb
    have v : Severed r m.session.id m.session.queue _ _ a.system := ⟨⟨ops, h⟩, gone, rfl, le_rfl⟩
    obtain ⟨m', hk', hid, hq, v'⟩ := severed_run t hk v hb
    have t' := together_run t hb
    obtain ⟨ops'', sane', -⟩ := t'.sane
    refine ⟨m', hk', hid, hq, v'.removed, v'.senders, ?_, fun stage => ?_⟩
    · rw [← sane'.received, ← Relay.accepted_eq, v'.accepted]
    · have attentive' := (t'.seated k m' hk').attentive.of_listening stage
      rw [← hq]
      exact Relay.receive_of_listening attentive'
  · intro gone dropped acts b hb enough
    have v : Severed r m.session.id m.session.queue _ 0 a.system :=
      ⟨⟨ops, h⟩, gone, rfl, dropped.le⟩
    exact severed_closes t hk v hb enough

/-- No session goes on without an entry in the registry: in whatever order the sessions and what
they asked for take their steps, the queue of a session has its one sender as long as its viewer is
registered, and ends when the viewer is not. -/
theorem no_session_outlives_entry {acts : List Act} (unconnected : r.registry.connections = [])
    (unmade : r.queues = []) (h : (start r).run acts = some a) (hk : a.members[k]? = some m) :
    Tethered a k m :=
  (together_run (together_start unconnected unmade) h).tethered hk

/-- A viewer that does not read is greeted, and the command of another one finds its queue full. -/
def evictedActs : List Act :=
  [[.enter ⟨1⟩ 1], List.replicate 5 (.task 0), [.session 0 .resume, .enter ⟨2⟩ 1],
    List.replicate 5 (.task 1), [.session 1 .resume],
    [.session 1 (.take (.message (.text "aag n B")))], List.replicate 6 (.task 2)].flatten

theorem no_session_outlives_entry_evicted : ∃ a m,
    (start (.fresh "A" [])).run evictedActs = some a ∧ a.members[0]? = some m ∧
    m.stage = .listening ∧ a.system.Removed m.session.id m.session.queue ∧
    a.system.relay.senders m.session.queue = 0 ∧
    a.system.relay.queued m.session.queue = [.game "A"] ∧ Tethered a 0 m := by
  have hv : ((start (.fresh "A" [])).run evictedActs).map (fun a =>
      (a.members[0]?, decide (.registered ⟨1⟩ 0 ∈ a.system.history),
        (a.system.relay.registry.find? ⟨1⟩).isNone, a.system.relay.senders 0,
        a.system.relay.queued 0)) =
      some (some { session := { id := ⟨1⟩, queue := 0 }, stage := .listening }, true, true, 0,
        [.game "A"]) := by decide
  obtain ⟨a, ha, hv⟩ := Option.map_eq_some_iff.1 hv
  simp only [Prod.mk.injEq, decide_eq_true_eq, Option.isNone_iff_eq_none] at hv
  obtain ⟨hk, hreg, habsent, hsenders, hqueued⟩ := hv
  exact ⟨a, _, ha, hk, rfl, ⟨hreg, habsent⟩, hsenders, hqueued,
    no_session_outlives_entry rfl rfl ha hk⟩

end Audience
end Viewer
end ActivityRelay
