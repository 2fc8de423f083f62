import ActivityRelay.Proofs.Viewer.Queues
import ActivityRelay.Viewer.Audience

/-! Any number of sessions on one relay. To each of them the others are what goes on around it, so
all that is known of one session among others holds of every session at once. -/
namespace ActivityRelay

variable {r : Relay} {ops : List Operation} {op : Operation} {id : ClientId} {queue : Nat}

theorem Sole.of_append (sole : Sole r (ops ++ [op]) id queue) : Sole r ops id queue where
  once i j hi hj := by
    have old : ∀ k : Nat, ops[k]? = some (.connect id queue) →
        (ops ++ [op])[k]? = some (.connect id queue) := fun k hk =>
      (List.getElem?_append_left (List.getElem?_eq_some_iff.1 hk).1).trans hk
    exact sole.once i j (old i hi) (old j hj)
  own other q hm := sole.own other q (List.mem_append_left _ hm)
  fresh := sole.fresh
  unused := sole.unused

/-- A session that comes behind others, none of which has its id or its queue. -/
theorem sole_last (unconnected : r.registry.connections = []) (unmade : r.queues = [])
    (others : ∀ other q, .connect other q ∈ ops → other ≠ id ∧ q ≠ queue) :
    Sole r (ops ++ [.connect id queue]) id queue where
  once i j hi hj := by
    have last : ∀ k : Nat, (ops ++ [.connect id queue])[k]? = some (.connect id queue) →
        k = ops.length := by
      intro k hk
      rw [List.getElem?_append] at hk
      split at hk
      · exact absurd rfl (others id queue (List.mem_of_getElem? hk)).1
      · have hlt := (List.getElem?_eq_some_iff.1 hk).1
        rw [List.length_singleton] at hlt
        omega
    rw [last i hi, last j hj]
  own other q hm := by
    rcases List.mem_append.1 hm with hm | hm
    · exact iff_of_false (others other q hm).1 (others other q hm).2
    · cases List.mem_singleton.1 hm
      exact iff_of_true rfl rfl
  fresh c hc := by simp [unconnected] at hc
  unused := by simp [Relay.accepted, unmade]

/-- What holds of a system that began as a relay, whoever connects to it. -/
structure Sane (r : Relay) (ops : List Operation) (s : System) : Prop where
  isPublic : ∀ op ∈ ops, op.isPublic = true
  follows : s.Follows ops
  watched : ∀ id queue, Sole r ops id queue → System.Watched r.activity ops id queue s
  accounted : ∀ queue, s.Accounted queue
  single : ∀ queue, s.relay.senders queue ≤ 1
  connects : ∀ id queue, .registered id queue ∈ s.history → .connect id queue ∈ ops
  received : ∀ queue, s.relay.received queue = receivedIn queue s.history

namespace Sane
variable {s t : System}

theorem connects_move {m : Move} (h : Sane r ops s) (hm : s.move m = some t)
    (hr : .registered id queue ∈ t.history) : .connect id queue ∈ ops := by
  rcases System.move_cases hm with ⟨i, hi⟩ | hn
  · obtain ⟨p, p', hp, -, -, hh⟩ := System.advance_cases hi
    rw [hh, List.mem_append] at hr
    rcases hr with hr | hr
    · exact h.connects id queue hr
    · obtain ⟨op, hop, ho⟩ := h.follows.task i p hp
      obtain rfl := Phase.registered_mem_marks hr
      obtain rfl : op = .connect id queue := ho
      exact List.mem_of_getElem? hop
  · obtain ⟨marks, a⟩ := System.aside_of_move hn hm
    rw [a.history, List.mem_append] at hr
    refine h.connects id queue (hr.resolve_right fun hmark => ?_)
    obtain ⟨q, e, he⟩ := a.marks.2 _ hmark
    simp at he

theorem move {m : Move} (h : Sane r ops s) (hm : s.move m = some t) : Sane r ops t where
  isPublic := h.isPublic
  follows := System.follows_move h.isPublic h.follows hm
  watched id queue sole := System.watched_move h.isPublic sole (h.watched id queue sole) hm
  accounted queue := (h.accounted queue).move h.isPublic h.follows hm
  single queue := (System.senders_move h.isPublic h.follows hm).trans (h.single queue)
  connects _ _ hr := h.connects_move hm hr
  received queue := by
    obtain ⟨marks, -, hh, hq⟩ := System.history_move hm
    rw [hh, hq, h.received, receivedIn_append]

theorem note (h : Sane r ops s) (rec : Record) : Sane r ops (s.note rec) where
  isPublic := h.isPublic
  follows := ⟨h.follows.length, h.follows.task⟩
  watched id queue sole := (h.watched id queue sole).same (s.relay.view_note rec)
  accounted := h.accounted
  single := h.single
  connects := h.connects
  received := h.received

theorem spawn (h : Sane r ops s) (hop : op.isPublic = true)
    (new : ∀ other q, op ≠ .connect other q) : Sane r (ops ++ [op]) (s.spawn op) where
  isPublic o ho := by
    rcases List.mem_append.1 ho with ho | ho
    · exact h.isPublic o ho
    · rw [List.mem_singleton.1 ho, hop]
  follows := System.follows_spawn h.follows op
  watched id queue sole := (h.watched id queue sole.of_append).spawn (new id queue)
  accounted queue := by
    refine (h.accounted queue).spawn ?_
    cases op with
    | connect other q => exact absurd rfl (new other q)
    | _ => rfl
  single := h.single
  connects id queue hr := List.mem_append_left _ (h.connects id queue hr)
  received := h.received

/-- The one sender of a new queue goes to the task that is to connect its viewer. -/
theorem enter {relay : Relay} (h : Sane r ops s) (o : s.relay.Opened relay queue)
    (new : .connect id queue ∉ ops) :
    Sane r (ops ++ [.connect id queue]) ((s.setRelay relay).spawn (.connect id queue)) := by
  have follows : (s.setRelay relay).Follows ops := ⟨h.follows.length, h.follows.task⟩
  constructor
  · intro op ho
    rcases List.mem_append.1 ho with ho | ho
    · exact h.isPublic op ho
    · rw [List.mem_singleton.1 ho]
      rfl
  · exact System.follows_spawn follows _
  · intro other q sole
    have w := (h.watched other q sole.of_append).setRelay o.activity o.registry (o.accepted q)
    refine w.spawn_of fun he hm => new ?_
    cases he
    exact h.connects _ _ hm
  · intro q
    have ha : s.relay.senders q =
      s.relay.registry.holding q + (s.tasks.map (Phase.holding q)).sum := h.accounted q
    have ho := o.senders q
    change relay.senders q = relay.registry.holding q + _
    simp only [System.spawn, System.setRelay, List.map_append, List.map_cons, List.map_nil,
      List.sum_append, List.sum_cons, List.sum_nil, Phase.holding, o.registry,
      eq_comm (a := queue)]
    omega
  · intro q
    have ho := o.senders q
    have hs := h.single q
    have hn : s.relay.senders queue = 0 := by
      rw [Relay.senders, o.unmade]
      rfl
    change relay.senders q ≤ 1
    split at ho
    · next he => rw [ho, he, hn]
    · omega
  · exact fun other q hr => List.mem_append_left _ (h.connects other q hr)
  · exact fun q => (o.received q).trans (h.received q)

end Sane

/-- The least that a session with an id and a queue does to what it shares with the others. -/
inductive System.Touch (id : ClientId) (queue : Nat) (s : System) : System → Prop
  | receive : Touch id queue s (s.receive queue)
  | close : Touch id queue s (s.setRelay (s.relay.onQueue queue Queue.close))
  | note (rec : Record) : Touch id queue s (s.note rec)
  | dispatch (raw : String) : Touch id queue s (s.spawn (.dispatch id raw))
  | disconnect : Touch id queue s (s.spawn (.disconnect id))

theorem Sane.touch {s t : System} (h : Sane r ops s) (touch : s.Touch id queue t) :
    ∃ ops', Sane r ops' t ∧ ∀ other q, .connect other q ∈ ops' → .connect other q ∈ ops := by
  cases touch with
  | receive => exact ⟨ops, h.move (m := .receive queue) rfl, fun _ _ hm => hm⟩
  | close => exact ⟨ops, h.move (m := .close queue) rfl, fun _ _ hm => hm⟩
  | note rec => exact ⟨ops, h.note rec, fun _ _ hm => hm⟩
  | dispatch raw => exact ⟨_, h.spawn rfl (by simp), by simp⟩
  | disconnect => exact ⟨_, h.spawn rfl (by simp), by simp⟩

theorem Sane.touches {s t : System} (h : Sane r ops s)
    (touches : Relation.ReflTransGen (System.Touch id queue) s t) :
    ∃ ops', Sane r ops' t ∧ ∀ other q, .connect other q ∈ ops' → .connect other q ∈ ops := by
  induction touches with
  | refl => exact ⟨ops, h, fun _ _ hc => hc⟩
  | tail _ touch ih =>
    obtain ⟨ops', h', hops⟩ := ih
    obtain ⟨ops'', h'', hops'⟩ := h'.touch touch
    exact ⟨ops'', h'', fun other q hc => hops other q (hops' other q hc)⟩

/-- What can go on around a session with an id and a queue. -/
inductive System.Outer (id : ClientId) (queue : Nat) (s : System) : System → Prop
  | move {m : Move} {t : System} (leaves : m.leaves queue = true) (h : s.move m = some t) :
      Outer id queue s t
  | begin {op : Operation} (foreign : op.isForeign id queue = true) : Outer id queue s (s.spawn op)
  | note (rec : Record) : Outer id queue s (s.note rec)
  | opened {relay : Relay} {q : Nat} (o : s.relay.Opened relay q) (other : q ≠ queue) :
      Outer id queue s (s.setRelay relay)

theorem System.Touch.outer {s t : System} {other : ClientId} {q : Nat} (touch : s.Touch other q t)
    (hid : other ≠ id) (hq : q ≠ queue) : s.Outer id queue t := by
  cases touch with
  | receive => exact .move (m := .receive q) (by simpa [Move.leaves] using hq) rfl
  | close => exact .move (m := .close q) (by simpa [Move.leaves] using hq) rfl
  | note rec => exact .note rec
  | dispatch raw => exact .begin (by simpa [Operation.isForeign] using hid)
  | disconnect => exact .begin rfl

namespace Viewer
open Relation (ReflTransGen)

namespace Life
variable {l l' : Life}

theorem touches_finish (l : Life) (rec : Record) :
    ReflTransGen (System.Touch l.session.id l.session.queue) l.system (l.finish rec).system :=
  .tail (.single (.note rec)) .close

theorem touches_resume (h : l.resume = some l') :
    ReflTransGen (System.Touch l.session.id l.session.queue) l.system l'.system := by
  unfold resume at h
  split at h
  · split at h
    · cases h
      exact .single (.note _)
    · cases h
      exact l.touches_finish _
    · simp at h
  · obtain ⟨o, -, rfl⟩ := Option.map_eq_some_iff.1 h
    exact .refl
  · obtain ⟨o, -, rfl⟩ := Option.map_eq_some_iff.1 h
    exact l.touches_finish _
  · simp at h
  · simp at h

theorem touches_take (l : Life) (i : Inbound) :
    ReflTransGen (System.Touch l.session.id l.session.queue) l.system (l.take i).system := by
  rcases i with (raw | bytes | bytes | bytes | _) | _ | _
  · exact .single (.dispatch raw)
  · exact .refl
  · exact .refl
  · exact .refl
  · exact .single .disconnect
  · exact .single .disconnect
  · exact .single .disconnect

theorem touches_flush (l : Life) (writable : Bool) :
    ReflTransGen (System.Touch l.session.id l.session.queue) l.system
      (l.flush writable).system := by
  have received : ReflTransGen (System.Touch l.session.id l.session.queue) l.system
    (l.system.receive l.session.queue) := .single .receive
  unfold flush
  cases he : (l.system.relay.receive l.session.queue).2 with
  | item event =>
    have noted := received.tail (.note (.eventSent event))
    cases writable with
    | true => simpa only [he, if_true] using noted
    | false =>
      simp only [he, Bool.false_eq_true, if_false]
      exact noted.tail .disconnect
  | ended =>
    simp only [he]
    exact received.tail .disconnect
  | empty => simpa only [he] using received

/-- Whatever a session does by itself is made of these touches. -/
theorem touches (deed : Deed) (h : l.act deed.toAct = some l') :
    ReflTransGen (System.Touch l.session.id l.session.queue) l.system l'.system := by
  cases deed with
  | resume => exact touches_resume h
  | take i =>
    simp only [Deed.toAct, act, Option.ite_none_right_eq_some, Option.some.injEq] at h
    rw [← h.2]
    exact l.touches_take i
  | flush writable =>
    simp only [Deed.toAct, act, Option.ite_none_right_eq_some, Option.some.injEq] at h
    rw [← h.2]
    exact l.touches_flush writable

/-- A session reads its queue until it returns. -/
def Attentive (l : Life) : Prop :=
  l.system.relay.receiver? l.session.queue =
    some (if l.stage = .returned then .gone else .listening)

theorem Attentive.of_listening (a : Attentive l) (h : l.stage ≠ .returned) :
    l.system.relay.receiver? l.session.queue = some .listening := by
  rw [a, if_neg h]

theorem receiver?_receive (l : Life) :
    (l.system.receive l.session.queue).relay.receiver? l.session.queue =
      l.system.relay.receiver? l.session.queue := by
  rw [System.relay_receive, Relay.receiver?_receive]

theorem Attentive.finish (a : Attentive l) (h : l.stage ≠ .returned) (rec : Record) :
    Attentive (l.finish rec) := by
  obtain ⟨x, hx, -⟩ := Option.map_eq_some_iff.1 (a.of_listening h)
  have hclose := (l.system.relay.note rec).receiver?_onQueue l.session.queue Queue.close
    l.session.queue
  have hnote : (l.system.relay.note rec).queues[l.session.queue]? = some x := hx
  rw [if_pos rfl, hnote] at hclose
  exact hclose

theorem attentive_step (a : Attentive l) (hs : Step l l') : Attentive l' := by
  cases hs with
  | move leaves hm => exact (System.receiver?_move leaves hm).trans a
  | refused stage => exact a.finish (by simp [stage]) _
  | left stage => exact a.finish (by simp [stage]) _
  | connected stage | dispatched stage | text stage | last stage =>
    exact a.of_listening (by simp [stage])
  | begin | other => exact a
  | wrote stage => exact l.receiver?_receive.trans a
  | idle stage => exact l.receiver?_receive.trans a
  | lost stage | ended stage => exact l.receiver?_receive.trans (a.of_listening (by simp [stage]))

/-- A session with its own id and queue, somewhere between its start and its return. -/
structure Seated (r : Relay) (l : Life) : Prop where
  hosted : Hosted r l
  placed : Placed l
  attentive : Attentive l

theorem Placed.setRelay (pl : Placed l) {relay : Relay}
    (hr : relay.registry = l.system.relay.registry) :
    Placed { l with system := l.system.setRelay relay } where
  alone := pl.alone
  connects task stage := by
    obtain ⟨p, hp, hc⟩ := pl.connects task stage
    refine ⟨p, hp, ?_⟩
    change p.Connects l.session.id l.session.queue relay
    unfold Phase.Connects at hc ⊢
    rwa [hr]
  leaves task stage := by
    obtain ⟨p, hp, hl⟩ := pl.leaves task stage
    refine ⟨p, hp, ?_⟩
    change p = _ ∨ _ ∧ relay.registry.find? _ = none
    rwa [hr]
  returned stage := by
    change relay.registry.find? _ = none
    rw [hr]
    exact pl.returned stage

theorem Hosted.setRelay (h : Hosted r l) {relay : Relay}
    (ha : relay.activity = l.system.relay.activity)
    (hr : relay.registry = l.system.relay.registry)
    (hq : relay.accepted l.session.queue = l.system.relay.accepted l.session.queue) :
    Hosted r { l with system := l.system.setRelay relay } := by
  obtain ⟨ops, h⟩ := h
  exact ⟨ops, h.isPublic, h.sole, h.watched.setRelay ha hr hq⟩

namespace Seated

theorem step (s : Seated r l) (hs : Step l l') : Seated r l' where
  hosted := hosted_step s.hosted hs
  placed := placed_step s.hosted s.placed hs
  attentive := attentive_step s.attentive hs

theorem outer (s : Seated r l) {system : System}
    (o : l.system.Outer l.session.id l.session.queue system) : Seated r { l with system } := by
  cases o with
  | move leaves hm => exact s.step (.move leaves hm)
  | begin foreign => exact s.step (.begin foreign)
  | note rec => exact ⟨s.hosted.note rec, s.placed.setRelay rfl, s.attentive⟩
  | opened o other =>
    refine ⟨s.hosted.setRelay o.activity o.registry (o.accepted _), ?_, ?_⟩
    · exact s.placed.setRelay o.registry
    · exact ((o.receiver _).trans (if_neg (Ne.symm other))).trans s.attentive

theorem outers (s : Seated r l) {system : System}
    (o : ReflTransGen (System.Outer l.session.id l.session.queue) l.system system) :
    Seated r { l with system } := by
  induction o with
  | refl => exact s
  | tail _ o ih => exact ih.outer o

end Seated

/-- A session that has just made its queue and begins to connect. -/
theorem seated_enter {s : System} {relay : Relay} (sane : Sane r ops s)
    (o : s.relay.Opened relay queue) (sole : Sole r (ops ++ [.connect id queue]) id queue)
    (new : .connect id queue ∉ ops) :
    Seated r ⟨(s.setRelay relay).spawn (.connect id queue), { id, queue },
      .connecting s.tasks.length, [], []⟩ := by
  have entered := sane.enter o new
  constructor
  · exact ⟨_, entered.isPublic, sole, entered.watched id queue sole⟩
  · constructor
    · intro i p hp hc
      rw [System.getElem?_spawn] at hp
      split at hp
      · next hi => rw [hi]; rfl
      · obtain ⟨op, hop, ho⟩ := sane.follows.task i p hp
        exact absurd (ho.eq_connect hc ▸ List.mem_of_getElem? hop) new
    · intro task stage
      obtain rfl : s.tasks.length = task := Stage.connecting.inj stage
      exact ⟨.start (.connect id queue), by rw [System.getElem?_spawn]; exact if_pos rfl, .inl rfl⟩
    · intro task stage
      simp at stage
    · intro stage
      simp at stage
  · exact (o.receiver queue).trans (if_pos rfl)

end Life

namespace Audience
variable {a b : Audience} {k : Nat} {m : Member}

/-- All sessions are seated, no two of them share an id or a queue, and nobody else connects. -/
structure Together (r : Relay) (a : Audience) : Prop where
  unused : r.registry.connections = [] ∧ r.queues = []
  sane : ∃ ops, Sane r ops a.system ∧ ∀ id queue, .connect id queue ∈ ops →
    ∃ (k : Nat) (m : Member), a.members[k]? = some m ∧ m.session.id = id ∧
      m.session.queue = queue
  seated : ∀ (k : Nat) m, a.members[k]? = some m → Life.Seated r (a.life m)
  apart : ∀ (j k : Nat) m n, a.members[j]? = some m → a.members[k]? = some n → j ≠ k →
    m.session.id ≠ n.session.id ∧ m.session.queue ≠ n.session.queue

theorem together_start (unconnected : r.registry.connections = []) (unmade : r.queues = []) :
    Together r (start r) where
  unused := ⟨unconnected, unmade⟩
  sane := by
    have senders : ∀ queue, r.senders queue = 0 := by simp [Relay.senders, unmade]
    refine ⟨[], ?_, by simp⟩
    exact
      { isPublic := by simp
        follows := System.follows_start r []
        watched := fun _ _ sole => System.watched_start sole
        accounted := fun queue => by
          change r.senders queue = r.registry.holding queue + 0
          rw [senders, Registry.holding, unconnected]
          rfl
        single := fun queue => (senders queue).trans_le (Nat.zero_le 1)
        connects := by simp [start, System.start]
        received := fun queue => by
          change r.received queue = []
          simp [Relay.received, unmade] }
  seated k m hk := by simp [start] at hk
  apart j k m n hj := by simp [start] at hj

/-- The queue of a session was made. -/
theorem Together.made (t : Together r a) (hk : a.members[k]? = some m) :
    a.system.relay.queues[m.session.queue]? ≠ none := by
  intro hn
  have attentive : a.system.relay.receiver? m.session.queue = some _ := (t.seated k m hk).attentive
  rw [Relay.receiver?, hn] at attentive
  simp at attentive

theorem enter_eq_some {capacity : Nat} (h : a.enter id capacity = some b) :
    (∀ (k : Nat) m, a.members[k]? = some m → m.session.id ≠ id) ∧ ∃ relay queue,
      a.system.relay.Opened relay queue ∧
      b.system = (a.system.setRelay relay).spawn (.connect id queue) ∧
      b.members = a.members ++
        [{ session := { id, queue }, stage := .connecting a.system.tasks.length }] := by
  unfold enter at h
  split at h
  · next hall =>
    refine ⟨fun k m hk => ?_, ?_⟩
    · simpa using List.all_eq_true.1 hall m (List.mem_of_getElem? hk)
    · split at h
      · simp at h
      · next relay queue ho =>
        cases h
        exact ⟨relay, queue, Relay.opened ho, rfl, rfl⟩
  · simp at h

theorem request_eq_some {op : Operation} (h : a.act (.request op) = some b) :
    op.isPublic = true ∧ (∀ other q, op ≠ .connect other q) ∧
      (∀ id queue, op.isForeign id queue = true) ∧ b = { a with system := a.system.spawn op } := by
  simp only [act, Option.ite_none_right_eq_some, Option.some.injEq] at h
  obtain ⟨rfl | rfl, rfl⟩ := h <;> simp [Operation.isPublic, Operation.isForeign]

theorem session_eq_some {deed : Deed} (h : a.act (.session k deed) = some b) : ∃ m l,
    a.members[k]? = some m ∧ (a.life m).act deed.toAct = some l ∧ b = a.put k l := by
  simp only [act] at h
  split at h
  · simp at h
  · next m hm =>
    obtain ⟨l, hl, rfl⟩ := Option.map_eq_some_iff.1 h
    exact ⟨m, l, hm, hl, rfl⟩

/-- Whatever a session does, all keep their ids and their queues. -/
theorem names_put {deed : Deed} {l : Life} {j : Nat} {n : Member} (hk : a.members[k]? = some m)
    (hl : (a.life m).act deed.toAct = some l) (hj : a.members[j]? = some n) :
    ∃ n', (a.put k l).members[j]? = some n' ∧ n'.session.id = n.session.id ∧
      n'.session.queue = n.session.queue := by
  by_cases hjk : k = j
  · subst hjk
    obtain rfl : m = n := Option.some.inj (hk.symm.trans hj)
    have hlt := (List.getElem?_eq_some_iff.1 hj).1
    exact ⟨_, List.getElem?_set_self hlt, Life.names_step (Life.act_cases hl)⟩
  · exact ⟨n, (List.getElem?_set_ne hjk).trans hj, rfl, rfl⟩

/-- For a session, what happens is its own deed, or something around it. -/
theorem around {x : Act} (t : Together r a) (h : a.act x = some b) (hk : a.members[k]? = some m) :
    (∃ deed l, x = .session k deed ∧ (a.life m).act deed.toAct = some l ∧ b = a.put k l) ∨
    (∀ deed, x ≠ .session k deed) ∧ b.members[k]? = some m ∧
      ReflTransGen (System.Outer m.session.id m.session.queue) a.system b.system := by
  cases x with
  | enter id capacity =>
    right
    obtain ⟨fresh, relay, queue, o, hs, hm⟩ := enter_eq_some h
    have hq : queue ≠ m.session.queue := by
      rintro rfl
      exact t.made hk o.unmade
    have hid : id ≠ m.session.id := Ne.symm (fresh k m hk)
    refine ⟨by simp, ?_, ?_⟩
    · rw [hm, List.getElem?_append_left (List.getElem?_eq_some_iff.1 hk).1, hk]
    · rw [hs]
      refine (ReflTransGen.single (System.Outer.opened o hq)).tail (.begin ?_)
      simp [Operation.isForeign, hid, hq]
  | request op =>
    right
    obtain ⟨-, -, foreign, rfl⟩ := request_eq_some h
    exact ⟨by simp, hk, .single (.begin (foreign _ _))⟩
  | task i =>
    right
    obtain ⟨system, hs, rfl⟩ := Option.map_eq_some_iff.1 h
    exact ⟨by simp, hk, .single (.move (m := .task i) rfl hs)⟩
  | shuffle order =>
    right
    cases h
    exact ⟨by simp, hk, .single (.move (m := .shuffle order) rfl rfl)⟩
  | session j deed =>
    obtain ⟨n, l, hn, hl, rfl⟩ := session_eq_some h
    by_cases hj : j = k
    · subst hj
      obtain rfl : n = m := Option.some.inj (hn.symm.trans hk)
      exact .inl ⟨deed, l, rfl, hl, rfl⟩
    · right
      obtain ⟨hid, hq⟩ := t.apart j k n m hn hk hj
      refine ⟨by simp [hj], ?_, ?_⟩
      · rw [put, List.getElem?_set_ne hj, hk]
      · have touches : ReflTransGen (System.Touch n.session.id n.session.queue) a.system l.system :=
          Life.touches deed hl
        exact ReflTransGen.mono (fun _ _ touch => System.Touch.outer touch hid hq) _ _ touches

/-- Nobody but the sessions connects. -/
theorem sane_act {x : Act} (t : Together r a) (h : a.act x = some b) :
    ∃ ops, Sane r ops b.system ∧ ∀ id queue, .connect id queue ∈ ops →
      ∃ (k : Nat) (m : Member), b.members[k]? = some m ∧ m.session.id = id ∧
        m.session.queue = queue := by
  obtain ⟨ops, sane, known⟩ := t.sane
  cases x with
  | enter id capacity =>
    obtain ⟨fresh, relay, queue, o, hs, hm⟩ := enter_eq_some h
    have new : .connect id queue ∉ ops := by
      intro hc
      obtain ⟨k, m, hk, hid, -⟩ := known id queue hc
      exact fresh k m hk hid
    refine ⟨ops ++ [.connect id queue], by rw [hs]; exact sane.enter o new, fun other q hc => ?_⟩
    rw [hm]
    rcases List.mem_append.1 hc with hc | hc
    · obtain ⟨k, m, hk, hid, hq⟩ := known other q hc
      exact ⟨k, m, by rw [List.getElem?_append_left (List.getElem?_eq_some_iff.1 hk).1, hk],
        hid, hq⟩
    · cases List.mem_singleton.1 hc
      exact ⟨a.members.length, _, List.getElem?_concat_length, rfl, rfl⟩
  | request op =>
    obtain ⟨isPublic, new, -, rfl⟩ := request_eq_some h
    refine ⟨_, sane.spawn isPublic new, fun id queue hc => known id queue ?_⟩
    exact (List.mem_append.1 hc).resolve_right fun he => new id queue (List.mem_singleton.1 he).symm
  | task i =>
    obtain ⟨system, hs, rfl⟩ := Option.map_eq_some_iff.1 h
    exact ⟨ops, sane.move (m := .task i) hs, known⟩
  | shuffle order =>
    cases h
    exact ⟨ops, sane.move (m := .shuffle order) rfl, known⟩
  | session k deed =>
    obtain ⟨m, l, hk, hl, rfl⟩ := session_eq_some h
    obtain ⟨ops', sane', hops⟩ := sane.touches (Life.touches deed hl)
    refine ⟨ops', sane', fun id queue hc => ?_⟩
    obtain ⟨j, n, hj, hid, hq⟩ := known id queue (hops id queue hc)
    obtain ⟨n', hj', hid', hq'⟩ := names_put hk hl hj
    exact ⟨j, n', hj', hid'.trans hid, hq'.trans hq⟩

/-- A session was there before, or it has just begun, with an id and a queue of its own. -/
theorem origin {x : Act} (t : Together r a) (h : a.act x = some b) (hk : b.members[k]? = some m) :
    (∃ n, a.members[k]? = some n ∧ m.session.id = n.session.id ∧
      m.session.queue = n.session.queue) ∨
    k = a.members.length ∧ Life.Seated r (b.life m) ∧ ∀ (j : Nat) n, a.members[j]? = some n →
      n.session.id ≠ m.session.id ∧ n.session.queue ≠ m.session.queue := by
  cases x with
  | enter id capacity =>
    obtain ⟨fresh, relay, queue, o, hs, hm⟩ := enter_eq_some h
    rw [hm, List.getElem?_append] at hk
    split at hk
    · exact .inl ⟨m, hk, rfl, rfl⟩
    · next hge =>
      right
      obtain ⟨hlt, rfl⟩ := List.getElem?_eq_some_iff.1 hk
      rw [List.length_singleton] at hlt
      have away : ∀ (j : Nat) n, a.members[j]? = some n →
          n.session.id ≠ id ∧ n.session.queue ≠ queue := by
        intro j n hj
        refine ⟨fresh j n hj, ?_⟩
        rintro rfl
        exact t.made hj o.unmade
      refine ⟨by omega, ?_, by simpa using away⟩
      obtain ⟨ops, sane, known⟩ := t.sane
      have others : ∀ other q, .connect other q ∈ ops → other ≠ id ∧ q ≠ queue := by
        intro other q hc
        obtain ⟨j, n, hj, rfl, rfl⟩ := known other q hc
        exact away j n hj
      have sole := sole_last t.unused.1 t.unused.2 others
      have seated := Life.seated_enter sane o sole fun hc => (others id queue hc).1 rfl
      simpa [life, hs] using seated
  | request op =>
    obtain ⟨-, -, -, rfl⟩ := request_eq_some h
    exact .inl ⟨m, hk, rfl, rfl⟩
  | task i =>
    obtain ⟨system, hs, rfl⟩ := Option.map_eq_some_iff.1 h
    exact .inl ⟨m, hk, rfl, rfl⟩
  | shuffle order =>
    cases h
    exact .inl ⟨m, hk, rfl, rfl⟩
  | session j deed =>
    left
    obtain ⟨n, l, hn, hl, rfl⟩ := session_eq_some h
    have hlt : k < a.members.length := by
      have hlt := (List.getElem?_eq_some_iff.1 hk).1
      rwa [put, List.length_set] at hlt
    have hj := List.getElem?_eq_getElem hlt
    obtain ⟨n', hj', hid, hq⟩ := names_put hn hl hj
    obtain rfl : n' = m := Option.some.inj (hj'.symm.trans hk)
    exact ⟨_, hj, hid, hq⟩

theorem together_act {x : Act} (t : Together r a) (h : a.act x = some b) : Together r b where
  unused := t.unused
  sane := sane_act t h
  seated k m hk := by
    rcases origin t h hk with ⟨n, hn, -⟩ | ⟨-, seated, -⟩
    · rcases around t h hn with ⟨deed, l, rfl, hl, rfl⟩ | ⟨-, hb, outer⟩
      · have hlt := (List.getElem?_eq_some_iff.1 hn).1
        obtain rfl : _ = m := Option.some.inj ((List.getElem?_set_self hlt).symm.trans hk)
        exact (t.seated k n hn).step (Life.act_cases hl)
      · obtain rfl : n = m := Option.some.inj (hb.symm.trans hk)
        exact (t.seated k n hn).outers outer
    · exact seated
  apart j k m n hj hk hne := by
    rcases origin t h hj with ⟨m', hm', hid, hq⟩ | ⟨hlen, -, away⟩
    · rcases origin t h hk with ⟨n', hn', hid', hq'⟩ | ⟨-, -, away⟩
      · rw [hid, hq, hid', hq']
        exact t.apart j k m' n' hm' hn' hne
      · rw [hid, hq]
        exact away j m' hm'
    · rcases origin t h hk with ⟨n', hn', hid', hq'⟩ | ⟨hlen', -, -⟩
      · rw [hid', hq']
        exact ⟨Ne.symm (away k n' hn').1, Ne.symm (away k n' hn').2⟩
      · exact absurd (hlen.trans hlen'.symm) hne

theorem run_cons (a : Audience) (x : Act) (acts : List Act) :
    a.run (x :: acts) = (a.act x).bind (·.run acts) := rfl

theorem together_run {acts : List Act} (t : Together r a) (h : a.run acts = some b) :
    Together r b := by
  induction acts generalizing a with
  | nil => cases h; exact t
  | cons x acts ih =>
    rw [run_cons, Option.bind_eq_some_iff] at h
    obtain ⟨c, hc, h⟩ := h
    exact ih (together_act t hc) h

/-- How a run begins for a session: with a deed of its own, which keeps its id and its queue, or
with something around it. -/
theorem run_around {x : Act} {acts : List Act} (t : Together r a) (hk : a.members[k]? = some m)
    (h : a.run (x :: acts) = some b) : ∃ c, Together r c ∧ c.run acts = some b ∧
    ((∃ deed l, x = .session k deed ∧ (a.life m).act deed.toAct = some l ∧ c = a.put k l ∧
        c.members[k]? = some ⟨l.session, l.stage, l.taken, l.dispatches⟩ ∧
        l.session.id = m.session.id ∧ l.session.queue = m.session.queue) ∨
      (∀ deed, x ≠ .session k deed) ∧ c.members[k]? = some m ∧
        ReflTransGen (System.Outer m.session.id m.session.queue) a.system c.system) := by
  rw [run_cons, Option.bind_eq_some_iff] at h
  obtain ⟨c, hc, h⟩ := h
  refine ⟨c, together_act t hc, h, ?_⟩
  rcases around t hc hk with ⟨deed, l, rfl, hl, rfl⟩ | outer
  · have hlt := (List.getElem?_eq_some_iff.1 hk).1
    exact .inl ⟨deed, l, rfl, hl, rfl, List.getElem?_set_self hlt,
      Life.names_step (Life.act_cases hl)⟩
  · exact .inr outer

end Audience
end Viewer
end ActivityRelay
