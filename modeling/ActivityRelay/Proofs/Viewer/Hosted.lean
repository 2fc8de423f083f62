import ActivityRelay.Proofs.Viewer.Stream
import ActivityRelay.Viewer.Life

/-! A system that goes on getting new tasks while a session with an id and a queue of its own is
watched in it. -/
namespace ActivityRelay

variable {r : Relay} {ops : List Operation} {op : Operation} {id : ClientId} {queue : Nat}
  {initial : String}

namespace System
variable {s t : System}

theorem relay_receive (s : System) (queue : Nat) :
    (s.receive queue).relay = (s.relay.receive queue).1 := by
  unfold receive
  generalize s.relay.receive queue = taken
  obtain ⟨relay, event | _ | _⟩ := taken <;> rfl

theorem getElem?_spawn (s : System) (op : Operation) (i : Nat) :
    (s.spawn op).tasks[i]? = if i = s.tasks.length then some (.start op) else s.tasks[i]? := by
  rw [spawn, List.getElem?_append]
  split
  · next h => rw [if_neg (by omega)]
  · next h =>
    split
    · next he => simp [he]
    · next he => rw [List.getElem?_eq_none (by simp; omega), List.getElem?_eq_none (by omega)]

/-- A task that has not begun is in nobody's way. -/
theorem exists_spawn_iff (s : System) (op : Operation) {P : Phase → Prop} (h : ¬ P (.start op))
    (i : Nat) : (∃ p, (s.spawn op).tasks[i]? = some p ∧ P p) ↔
      ∃ p, s.tasks[i]? = some p ∧ P p := by
  rw [getElem?_spawn]
  split
  · next hi => simp [hi, h]
  · rfl

theorem orderly_spawn (o : Orderly s) (op : Operation) : Orderly (s.spawn op) where
  nodup := o.nodup
  inLine i := by
    rw [exists_spawn_iff s op (by simp [Phase.inLine, Phase.holds])]
    exact o.inLine i
  front i p hp hh := by
    have idle : ¬ (Phase.start op).holds = true := by simp [Phase.holds]
    obtain ⟨q, hq, hk⟩ := (exists_spawn_iff s op (P := fun q => q.holds = true) idle i).1
      ⟨p, hp, hh⟩
    exact o.front i q hq hk

theorem inside_spawn (o : Orderly s) (op : Operation) : (s.spawn op).inside = s.inside := by
  ext q
  rw [inside_eq_some_iff (orderly_spawn o op), inside_eq_some_iff o]
  refine exists_congr fun i => ?_
  rw [getElem?_spawn]
  split
  · next hi =>
    simp only [Option.some.injEq, hi, List.getElem?_length]
    constructor
    · rintro ⟨rfl, h⟩
      simp [Phase.holds] at h
    · simp
  · rfl

theorem follows_spawn (f : Follows ops s) (op : Operation) :
    Follows (ops ++ [op]) (s.spawn op) where
  length := by simp [spawn, f.length]
  task i p hp := by
    rw [getElem?_spawn] at hp
    split at hp
    · next hi =>
      cases hp
      exact ⟨op, by simp [hi, f.length], rfl⟩
    · obtain ⟨op', hop, ho⟩ := f.task i p hp
      exact ⟨op', by rw [List.getElem?_append_left (List.getElem?_eq_some_iff.1 hop).1, hop], ho⟩

/-- A new task may be the session's own connect, if that is still to come. -/
theorem Watched.spawn_of (w : Watched initial ops id queue s)
    (new : op = .connect id queue → .registered id queue ∉ s.history) :
    Watched initial (ops ++ [op]) id queue (s.spawn op) where
  orderly := orderly_spawn w.orderly op
  follows := follows_spawn w.follows op
  activity := w.activity
  once := w.once
  past hm i p hp hc := by
    rw [getElem?_spawn] at hp
    split at hp
    · cases hp
      exact new hc hm
    · exact w.past hm i p hp hc
  heard := by
    rw [due, inside_spawn w.orderly]
    exact w.heard

theorem Watched.spawn (w : Watched initial ops id queue s) (new : op ≠ .connect id queue) :
    Watched initial (ops ++ [op]) id queue (s.spawn op) := w.spawn_of fun h => absurd h new

/-- Only the activity, the registry and what the queue accepted are of concern. -/
theorem Watched.setRelay (w : Watched initial ops id queue s) {relay : Relay}
    (ha : relay.activity = s.relay.activity) (hr : relay.registry = s.relay.registry)
    (hq : relay.accepted queue = s.relay.accepted queue) :
    Watched initial ops id queue (s.setRelay relay) where
  orderly := w.orderly.congr rfl rfl
  follows := ⟨w.follows.length, w.follows.task⟩
  activity := ha.trans w.activity
  once := w.once
  past := w.past
  heard := by
    have hm : ∀ m ∈ ([] : List Mark), m.Quiet id queue := by simp
    have h : Heard initial id queue relay (s.history ++ []) (s.due id) := w.heard.quiet hr hq hm rfl
    rwa [List.append_nil] at h

/-- What is only logged, and who holds senders, is of no concern. -/
theorem Watched.same (w : Watched initial ops id queue s) {relay : Relay}
    (hv : relay.view = s.relay.view) : Watched initial ops id queue (s.setRelay relay) :=
  w.setRelay (congrArg View.activity hv) (congrArg View.registry hv)
    (Relay.content_congr (congrArg View.queues hv) queue).1

end System

theorem Sole.append (sole : Sole r ops id queue)
    (new : ∀ other q, op = .connect other q → other ≠ id ∧ q ≠ queue) :
    Sole r (ops ++ [op]) id queue where
  once i j hi hj := by
    have old : ∀ k : Nat, (ops ++ [op])[k]? = some (.connect id queue) →
        ops[k]? = some (.connect id queue) := by
      intro k hk
      rw [List.getElem?_append] at hk
      split at hk
      · exact hk
      · exact absurd rfl (new id queue (List.mem_singleton.1 (List.mem_of_getElem? hk)).symm).1
    exact sole.once i j (old i hi) (old j hj)
  own other q hm := by
    rcases List.mem_append.1 hm with hm | hm
    · exact sole.own other q hm
    · exact iff_of_false (new other q (List.mem_singleton.1 hm).symm).1
        (new other q (List.mem_singleton.1 hm).symm).2
  fresh := sole.fresh
  unused := sole.unused

/-- A system that began as a relay, in which a session has an id and a queue of its own. -/
structure Hosts (r : Relay) (ops : List Operation) (id : ClientId) (queue : Nat) (s : System) :
    Prop where
  isPublic : ∀ op ∈ ops, op.isPublic = true
  sole : Sole r ops id queue
  watched : System.Watched r.activity ops id queue s

namespace Hosts
variable {s t : System}

theorem spawn (h : Hosts r ops id queue s) (hop : op.isPublic = true)
    (new : ∀ other q, op = .connect other q → other ≠ id ∧ q ≠ queue) :
    Hosts r (ops ++ [op]) id queue (s.spawn op) where
  isPublic o ho := by
    rcases List.mem_append.1 ho with ho | ho
    · exact h.isPublic o ho
    · rw [List.mem_singleton.1 ho, hop]
  sole := h.sole.append new
  watched := h.watched.spawn fun he => (new id queue he).1 rfl

theorem move {m : Move} (h : Hosts r ops id queue s) (hm : s.move m = some t) :
    Hosts r ops id queue t :=
  ⟨h.isPublic, h.sole, System.watched_move h.isPublic h.sole h.watched hm⟩

theorem same (h : Hosts r ops id queue s) {relay : Relay} (hv : relay.view = s.relay.view) :
    Hosts r ops id queue (s.setRelay relay) :=
  ⟨h.isPublic, h.sole, h.watched.same hv⟩

/-- Who is not registered stays so, unless its own connect takes the step. -/
theorem absent_move {m : Move} (h : Hosts r ops id queue s) (hm : s.move m = some t)
    (past : ∀ i p, m = .task i → s.tasks[i]? = some p → ¬ p.toConnect id queue)
    (hn : s.relay.registry.find? id = none) : t.relay.registry.find? id = none := by
  cases m with
  | task i =>
    obtain ⟨p, p', hp, hs, -, -⟩ := System.advance_cases hm
    obtain ⟨op, hop, ho⟩ := h.watched.follows.task i p hp
    refine Phase.find?_step hs (h.isPublic op (List.mem_of_getElem? hop)) ho ?_ hn
    rintro q rfl
    cases ho
    rw [(h.sole.own id q (List.mem_of_getElem? hop)).1 rfl] at hp
    exact past i _ rfl hp rfl
  | _ =>
    obtain ⟨marks, a⟩ := System.aside_of_move (by simp) hm
    obtain ⟨queues, order, hr⟩ := a.frame
    rw [hr]
    exact hn

/-- A viewer whose connect is still to come is not registered. -/
theorem absent_of_toConnect (h : Hosts r ops id queue s) {i : Nat} {p : Phase}
    (hp : s.tasks[i]? = some p) (hc : p.toConnect id queue) :
    s.relay.registry.find? id = none := by
  cases hf : s.relay.registry.find? id with
  | none => rfl
  | some c => exact absurd hc (h.watched.past (h.watched.heard.whole c hf).1 i p hp)

/-- What a queue accepted begins with the greeting: the activity at the registration. -/
theorem accepted_cases (h : Hosts r ops id queue s) :
    s.relay.accepted queue = [] ∨ ∃ before after k,
      s.history = before ++ .registered id queue :: after ∧
      .registered id queue ∉ before ++ after ∧
      s.relay.accepted queue =
        .game (activityAfter r.activity before) :: ((valuesFor id after).take k).map .game := by
  have hb := h.watched.heard.begins
  by_cases hm : .registered id queue ∈ s.history
  · obtain ⟨before, after, hh, hn, hs⟩ := h.watched.cut hm
    rw [hs, List.prefix_cons_iff] at hb
    rcases hb with hb | ⟨rest, hb, hr⟩
    · exact .inl hb
    · refine .inr ⟨before, after, rest.length, hh, hn, ?_⟩
      rw [hb, List.map_take, ← List.prefix_iff_eq_take.1 hr]
  · rw [streamOf_of_notMem hm, List.prefix_nil] at hb
    exact .inl hb

end Hosts
end ActivityRelay
