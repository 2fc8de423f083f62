import ActivityRelay.Proofs.Relay.Operations
import Mathlib.Algebra.BigOperators.Group.Finset.Piecewise

/-! An event for all viewers but one, in whatever order they are gone through. Each queue takes a
copy for each of its connections as long as it has places; the connections whose turn comes later
are removed, and which they are is all that the order decides. -/
namespace ActivityRelay

namespace Queue
variable {α : Type}

/-- The places that are left; a queue that takes nothing any more has none. -/
def free (q : Queue α) : Nat :=
  if q.receiver = .listening then q.capacity - q.waiting.length else 0

theorem waiting_add_free_le (q : Queue α) : q.waiting.length + q.free ≤ q.capacity := by
  have hf := q.fits
  unfold free
  split <;> omega

/-- A queue with copies of an item at its end, as many as there are places for. -/
def fill (q : Queue α) (a : α) (n : Nat) : Queue α :=
  { q with
    waiting := q.waiting ++ List.replicate (min n q.free) a
    fits := by
      have hf := q.waiting_add_free_le
      rw [List.length_append, List.length_replicate]
      omega }

theorem fill_of_full {q : Queue α} (h : q.free = 0) (a : α) (n : Nat) : q.fill a n = q := by
  simp [fill, h]

theorem fill_zero (q : Queue α) (a : α) : q.fill a 0 = q := by simp [fill]

theorem free_fill (q : Queue α) (a : α) (n : Nat) : (q.fill a n).free = q.free - n := by
  by_cases h : q.receiver = .listening
  · simp only [free, fill, h, if_true, List.length_append, List.length_replicate]
    omega
  · simp [free, fill, h]

theorem fill_fill (q : Queue α) (a : α) (m n : Nat) : (q.fill a m).fill a n = q.fill a (m + n) := by
  have hmin : min m q.free + min n (q.free - m) = min (m + n) q.free := by omega
  have hf := q.free_fill a m
  unfold fill at hf ⊢
  simp only [hf, List.append_assoc, List.replicate_append_replicate, hmin]

theorem push_of_free {q : Queue α} (h : 0 < q.free) (a : α) : q.push a = .ok (q.fill a 1) := by
  have hl : q.receiver = .listening := by
    by_contra hn
    simp [free, hn] at h
  have hw : q.waiting.length < q.capacity := by
    have hf := q.waiting_add_free_le
    omega
  have hone : min 1 q.free = 1 := by omega
  simp [push, fill, hl, hw, hone]

theorem push_of_full {q : Queue α} (h : q.free = 0) (a : α) : ∃ e, q.push a = .error e := by
  unfold push
  by_cases hl : q.receiver = .listening
  · have hw : ¬ q.waiting.length < q.capacity := by
      simp only [free, hl, if_true] at h
      omega
    exact ⟨.full, by simp [hl, hw]⟩
  · exact ⟨.closed, by simp [hl]⟩

end Queue

theorem Registry.mem_eraseAll {r : Registry} {ids : List ClientId} {c : Connection} :
    c ∈ (r.eraseAll ids).connections ↔ c ∈ r.connections ∧ c.id ∉ ids := by
  induction ids generalizing r with
  | nil => simp [eraseAll]
  | cons id ids ih =>
    rw [show r.eraseAll (id :: ids) = (r.erase id).eraseAll ids from rfl, ih, mem_erase]
    simp only [List.mem_cons, not_or, and_assoc]

/-- The connections of a registry that are not in another one. -/
def Registry.lostIn (r s : Registry) : List Connection :=
  r.connections.filter (· ∉ s.connections)

theorem Registry.mem_lostIn {r s : Registry} {c : Connection} :
    c ∈ r.lostIn s ↔ c ∈ r.connections ∧ c ∉ s.connections := by simp [lostIn]

/-- How many of some connections have the same queue. -/
def load (cs : List Connection) (q : Nat) : Nat := cs.countP (·.queue = q)

theorem load_perm {cs ds : List Connection} (h : cs.Perm ds) (q : Nat) : load cs q = load ds q :=
  h.countP_eq _

theorem load_append (cs ds : List Connection) (q : Nat) :
    load (cs ++ ds) q = load cs q + load ds q := List.countP_append

theorem load_singleton (c : Connection) (q : Nat) :
    load [c] q = if c.queue = q then 1 else 0 := by simp [load, List.countP_cons]

/-- A queue that no other connection has is not loaded by the others. -/
theorem load_eq_zero {cs : List Connection} {q : Nat} (h : ∀ d ∈ cs, d.queue ≠ q) :
    load cs q = 0 := by simpa [load] using h

namespace Relay

/-- The places that are left in a queue; one that was never made has none. -/
def room (r : Relay) (q : Nat) : Nat := (r.queues[q]?).elim 0 Queue.free

/-- The relay with a copy of an event for each of some connections, as far as there is room. -/
def fillAll (r : Relay) (event : Event) (cs : List Connection) : Relay :=
  { r with queues := r.queues.mapIdx fun q queue => queue.fill event (load cs q) }

theorem fillAll_nil (r : Relay) (event : Event) : r.fillAll event [] = r := by
  have hq : r.queues.mapIdx (fun q queue => queue.fill event (load [] q)) = r.queues := by
    apply List.ext_getElem?
    intro q
    rw [List.getElem?_mapIdx]
    cases r.queues[q]? <;> simp [load, Queue.fill_zero]
  rw [fillAll, hq]

theorem fillAll_fillAll (r : Relay) (event : Event) (cs ds : List Connection) :
    (r.fillAll event cs).fillAll event ds = r.fillAll event (cs ++ ds) := by
  simp only [fillAll, List.mapIdx_mapIdx, Function.comp_def, Queue.fill_fill, load_append]

theorem room_fillAll (r : Relay) (event : Event) (cs : List Connection) (q : Nat) :
    (r.fillAll event cs).room q = r.room q - load cs q := by
  rw [room, room, fillAll, List.getElem?_mapIdx]
  cases r.queues[q]? <;> simp [Queue.free_fill]

theorem lt_length_of_room {r : Relay} {q : Nat} (h : 0 < r.room q) : q < r.queues.length := by
  by_contra hn
  simp [room, List.getElem?_eq_none (Nat.not_lt.1 hn)] at h

theorem fillAll_singleton (r : Relay) (c : Connection) (event : Event) {queue : Queue Event}
    (hq : r.queues[c.queue]? = some queue) :
    r.fillAll event [c] = { r with queues := r.queues.set c.queue (queue.fill event 1) } := by
  refine congrArg (fun queues : List (Queue Event) => { r with queues }) ?_
  apply List.ext_getElem?
  intro q
  rw [List.getElem?_mapIdx, List.getElem?_set, load_singleton]
  by_cases h : c.queue = q
  · subst h
    obtain ⟨hlt, rfl⟩ := List.getElem?_eq_some_iff.1 hq
    simp [hlt]
  · cases r.queues[q]? <;> simp [h, Queue.fill_zero]

/-- One delivery: the queue takes a copy if it has room, and the delivery fails if it has not. -/
theorem deliver_room (r : Relay) (c : Connection) (event : Event) :
    (r.deliver c event).1 = r.fillAll event [c] ∧
      ((r.deliver c event).2 = none ↔ 0 < r.room c.queue) := by
  cases hq : r.queues[c.queue]? with
  | none =>
    have hroom : r.room c.queue = 0 := by simp [room, hq]
    have hsame : r.queues.mapIdx (fun q queue => queue.fill event (load [c] q)) = r.queues := by
      apply List.ext_getElem?
      intro q
      rw [List.getElem?_mapIdx, load_singleton]
      cases hr : r.queues[q]? with
      | none => rfl
      | some queue =>
        have hne : c.queue ≠ q := by
          rintro rfl
          simp [hq] at hr
        simp [hne, Queue.fill_zero]
    rw [deliver_missing event hq, fillAll, hsame]
    simp [hroom]
  | some queue =>
    have hroom : r.room c.queue = queue.free := by simp [room, hq]
    rcases Nat.eq_zero_or_pos queue.free with hf | hf
    · obtain ⟨e, he⟩ := Queue.push_of_full hf event
      have hset : r.queues.set c.queue queue = r.queues := by
        obtain ⟨hlt, rfl⟩ := List.getElem?_eq_some_iff.1 hq
        exact List.set_getElem_self hlt
      rw [deliver_refused hq he, r.fillAll_singleton c event hq, Queue.fill_of_full hf, hset]
      simp [hroom, hf]
    · rw [deliver_taken hq (Queue.push_of_free hf event), r.fillAll_singleton c event hq]
      simp [hroom, hf]

theorem deliverEach_fst (r : Relay) (event : Event) (cs : List Connection) :
    (r.deliverEach event cs).1 = r.fillAll event cs := by
  induction cs generalizing r with
  | nil => exact (r.fillAll_nil event).symm
  | cons c cs ih =>
    rw [(r.deliverEach_cons event c cs).1, ih, (r.deliver_room c event).1, fillAll_fillAll]
    rfl

/-- A delivery behind others fails exactly if these leave no room in the queue. -/
theorem deliver_behind (r : Relay) (event : Event) (before : List Connection) (c : Connection) :
    (((r.deliverEach event before).1.deliver c event).2 = none ↔
      load before c.queue < r.room c.queue) := by
  rw [(deliver_room _ c event).2, deliverEach_fst, room_fillAll]
  omega

theorem deliverEach_append (r : Relay) (event : Event) (cs ds : List Connection) :
    (r.deliverEach event (cs ++ ds)).2.2.map (·.1) = (r.deliverEach event cs).2.2.map (·.1) ++
      ((r.deliverEach event cs).1.deliverEach event ds).2.2.map (·.1) := by
  induction cs generalizing r with
  | nil => rfl
  | cons c cs ih =>
    rw [List.cons_append, (r.deliverEach_cons event c (cs ++ ds)).2, ih,
      (r.deliverEach_cons event c cs).1, (r.deliverEach_cons event c cs).2, List.append_assoc]

theorem delivered_cons (r : Relay) (event : Event) (c : Connection) (cs : List Connection) :
    (r.deliverEach event (c :: cs)).2.1 =
      (if (r.deliver c event).2 = none then 1 else 0) +
        ((r.deliver c event).1.deliverEach event cs).2.1 := by
  simp only [deliverEach]
  cases (r.deliver c event).2 <;> simp [Nat.add_comm]

/-- Every delivery is counted or noted as failed. -/
theorem delivered_add_failed (r : Relay) (event : Event) (cs : List Connection) :
    (r.deliverEach event cs).2.1 + ((r.deliverEach event cs).2.2.map (·.1)).length =
      cs.length := by
  induction cs generalizing r with
  | nil => rfl
  | cons c cs ih =>
    have hrest := ih (r.deliver c event).1
    rw [delivered_cons, (r.deliverEach_cons event c cs).2, List.length_append, List.length_cons]
    split <;> simp only [List.length_nil, List.length_singleton] <;> omega

/-- The copies that are taken, queue by queue. -/
theorem delivered_eq (r : Relay) (event : Event) (cs : List Connection) :
    (r.deliverEach event cs).2.1 =
      ∑ q ∈ Finset.range r.queues.length, min (load cs q) (r.room q) := by
  induction cs generalizing r with
  | nil => simp [deliverEach, load]
  | cons c cs ih =>
    have hlength : (r.fillAll event [c]).queues.length = r.queues.length := by simp [fillAll]
    have hsplit (q : Nat) : min (load (c :: cs) q) (r.room q) =
        (if c.queue = q then min 1 (r.room c.queue) else 0) +
          min (load cs q) (r.room q - load [c] q) := by
      rw [← List.singleton_append, load_append, load_singleton]
      by_cases hq : c.queue = q
      · subst hq
        simp only [if_true]
        omega
      · simp [hq]
    have hown : (∑ q ∈ Finset.range r.queues.length,
        if c.queue = q then min 1 (r.room c.queue) else 0) =
          if (r.deliver c event).2 = none then 1 else 0 := by
      rw [Finset.sum_ite_eq]
      simp only [(r.deliver_room c event).2, Finset.mem_range]
      by_cases hroom : 0 < r.room c.queue
      · rw [if_pos (lt_length_of_room hroom), if_pos hroom]
        omega
      · rw [if_neg hroom]
        split <;> omega
    rw [delivered_cons, (r.deliver_room c event).1, ih, hlength]
    simp only [room_fillAll, hsplit, Finset.sum_add_distrib, hown]

theorem failed_sublist (r : Relay) (event : Event) (cs : List Connection) :
    ((r.deliverEach event cs).2.2.map (·.1)).Sublist (cs.map (·.id)) := by
  induction cs generalizing r with
  | nil => exact .slnil
  | cons c cs ih =>
    rw [(r.deliverEach_cons event c cs).2, List.map_cons]
    split
    · exact (ih _).cons c.id
    · exact (ih _).cons_cons c.id

/-- Who is among the failures is there for its own delivery. -/
theorem mem_failed_iff (r : Relay) (event : Event) {before after : List Connection}
    {c : Connection} (ids : ((before ++ c :: after).map (·.id)).Nodup) :
    c.id ∈ (r.deliverEach event (before ++ c :: after)).2.2.map (·.1) ↔
      ((r.deliverEach event before).1.deliver c event).2 ≠ none := by
  rw [List.map_append, List.map_cons, List.nodup_append, List.nodup_cons] at ids
  obtain ⟨-, ⟨hafter, -⟩, hbefore⟩ := ids
  have hb : c.id ∉ (r.deliverEach event before).2.2.map (·.1) := fun hm =>
    hbefore _ ((failed_sublist r event before).subset hm) _ (by simp) rfl
  have ha : c.id ∉ (((r.deliverEach event before).1.deliver c event).1.deliverEach event
      after).2.2.map (·.1) := fun hm => hafter ((failed_sublist _ event after).subset hm)
  rw [deliverEach_append, (deliverEach_cons _ event c after).2]
  simp only [List.mem_append, hb, ha, false_or, or_false]
  split
  · next hok => simp [hok]
  · next hbad => simp [hbad]

/-- Sends an event to all viewers but one, who are gone through in a given order. -/
def broadcastIn (r : Relay) (order : List Connection) (event : Event)
    (exclude : Option ClientId) : Relay × Nat :=
  let (r, delivered, failed) := r.deliverEach event (order.filter fun c => exclude ≠ some c.id)
  (r.clearAll failed, delivered)

theorem broadcast_eq (r : Relay) (event : Event) (exclude : Option ClientId) :
    r.broadcast event exclude = r.broadcastIn r.walk event exclude := rfl

section broadcastIn
variable (r : Relay) (event : Event) (exclude : Option ClientId) {order : List Connection}

/-- The connections of an order that are not excluded. -/
def toldIn (order : List Connection) (exclude : Option ClientId) : List Connection :=
  order.filter fun c => exclude ≠ some c.id

theorem queues_broadcastIn : (r.broadcastIn order event exclude).1.queues.map Queue.bare =
    r.queues.mapIdx fun q queue => (queue.fill event (load (toldIn order exclude) q)).bare := by
  have hv := view_clearAll (r.deliverEach event (toldIn order exclude)).1
    (r.deliverEach event (toldIn order exclude)).2.2
  refine (congrArg View.queues hv).trans ?_
  rw [deliverEach_fst]
  apply List.ext_getElem?
  intro q
  simp only [view, fillAll, List.getElem?_map, List.getElem?_mapIdx, Option.map_map,
    Function.comp_def]

theorem registry_broadcastIn : (r.broadcastIn order event exclude).1.registry =
    r.registry.eraseAll ((r.deliverEach event (toldIn order exclude)).2.2.map (·.1)) := by
  have hv := view_clearAll (r.deliverEach event (toldIn order exclude)).1
    (r.deliverEach event (toldIn order exclude)).2.2
  refine (congrArg View.registry hv).trans ?_
  rw [deliverEach_fst]
  rfl

variable {r event exclude}

theorem nodup_toldIn (h : order.Perm r.registry.connections) :
    ((toldIn order exclude).map (·.id)).Nodup :=
  ((h.map (·.id)).nodup_iff.2 r.registry.nodup_ids).sublist (List.filter_sublist.map _)

/-- Who is removed is removed for its own delivery. -/
theorem removed_iff (h : order.Perm r.registry.connections) {c : Connection}
    (hc : c ∈ r.registry.connections) :
    c ∉ (r.broadcastIn order event exclude).1.registry.connections ↔
      ∃ before after, toldIn order exclude = before ++ c :: after ∧
        ((r.deliverEach event before).1.deliver c event).2 ≠ none := by
  have ids : ((toldIn order exclude).map (·.id)).Nodup := nodup_toldIn h
  rw [registry_broadcastIn, Registry.mem_eraseAll, not_and, not_not]
  constructor
  · intro hm
    obtain ⟨d, hd, he⟩ := List.mem_map.1 ((failed_sublist r event _).subset (hm hc))
    have hdc : d = c :=
      Registry.eq_of_id_eq (h.mem_iff.1 (List.mem_of_mem_filter hd)) hc he
    obtain ⟨before, after, hsplit⟩ := List.append_of_mem (hdc ▸ hd)
    rw [hsplit] at hm ids
    exact ⟨before, after, hsplit, (mem_failed_iff r event ids).1 (hm hc)⟩
  · rintro ⟨before, after, hsplit, hbad⟩ -
    rw [hsplit] at ids ⊢
    exact (mem_failed_iff r event ids).2 hbad

/-- The failed deliveries and the connections that are gone have the same ids. -/
theorem lost_perm_failed (h : order.Perm r.registry.connections) :
    ((r.registry.lostIn (r.broadcastIn order event exclude).1.registry).map (·.id)).Perm
      ((r.deliverEach event (toldIn order exclude)).2.2.map (·.1)) := by
  have sub := failed_sublist r event (toldIn order exclude)
  have nodup : ((r.registry.lostIn (r.broadcastIn order event exclude).1.registry).map
      (·.id)).Nodup := r.registry.nodup_ids.sublist (List.filter_sublist.map _)
  refine (List.perm_ext_iff_of_nodup nodup ((nodup_toldIn h).sublist sub)).2 fun id =>
    ⟨fun hid => ?_, fun hid => ?_⟩
  · obtain ⟨c, hc, rfl⟩ := List.mem_map.1 hid
    rw [Registry.mem_lostIn, registry_broadcastIn, Registry.mem_eraseAll, not_and, not_not] at hc
    exact hc.2 hc.1
  · obtain ⟨c, hc, rfl⟩ := List.mem_map.1 (sub.subset hid)
    refine List.mem_map_of_mem (Registry.mem_lostIn.2
      ⟨h.mem_iff.1 (List.mem_of_mem_filter hc), fun hk => ?_⟩)
    rw [registry_broadcastIn, Registry.mem_eraseAll] at hk
    exact hk.2 hid

/-- If no two connections share a queue, who is removed depends on the queues alone. -/
theorem removed_iff_of_unshared (h : order.Perm r.registry.connections)
    (unshared : (r.registry.connections.map (·.queue)).Nodup) {c : Connection}
    (hc : c ∈ r.registry.connections) :
    c ∉ (r.broadcastIn order event exclude).1.registry.connections ↔
      exclude ≠ some c.id ∧ r.room c.queue = 0 := by
  have hmem : c ∈ toldIn order exclude ↔ exclude ≠ some c.id := by
    simp [toldIn, h.mem_iff, hc]
  have queues : ((toldIn order exclude).map (·.queue)).Nodup :=
    ((h.map (·.queue)).nodup_iff.2 unshared).sublist (List.filter_sublist.map _)
  have alone {before after : List Connection} (hs : toldIn order exclude = before ++ c :: after) :
      load before c.queue = 0 := by
    rw [hs, List.map_append, List.nodup_append] at queues
    exact load_eq_zero fun d hd => queues.2.2 _ (List.mem_map_of_mem hd) _ (by simp)
  rw [removed_iff h hc, ← hmem]
  constructor
  · rintro ⟨before, after, hs, hbad⟩
    rw [Ne, deliver_behind, alone hs] at hbad
    exact ⟨by simp [hs], by omega⟩
  · rintro ⟨ht, hroom⟩
    obtain ⟨before, after, hs⟩ := List.append_of_mem ht
    refine ⟨before, after, hs, ?_⟩
    rw [Ne, deliver_behind, alone hs]
    omega

variable (r event exclude)

/-- The law of the broadcast. In whatever order the viewers are gone through, every queue takes a
copy for each connection that has it, as far as there is room, and nothing else happens to the
queues. The answer is the number of copies. Exactly those are removed whose own delivery failed,
which it does if there is no room left behind the deliveries before; so everyone is counted or
removed, but for the excluded viewer, who stays. Another order gives the same queues and the same
answer, and if no two connections share a queue, it leaves the same viewers. -/
theorem fan_out (h : order.Perm r.registry.connections) :
    let told := toldIn order exclude
    let sent := r.broadcastIn order event exclude
    r.broadcast event exclude = r.broadcastIn r.walk event exclude ∧
    r.walk.Perm r.registry.connections ∧
    sent.1.queues.map Queue.bare =
      (r.queues.mapIdx fun q queue => (queue.fill event (load told q)).bare) ∧
    sent.2 = ∑ q ∈ Finset.range r.queues.length, min (load told q) (r.room q) ∧
    (∀ c ∈ sent.1.registry.connections, c ∈ r.registry.connections) ∧
    (∀ c ∈ r.registry.connections, c ∉ sent.1.registry.connections ↔
      ∃ before after, told = before ++ c :: after ∧
        ((r.deliverEach event before).1.deliver c event).2 ≠ none) ∧
    (∀ before c after, told = before ++ c :: after →
      (((r.deliverEach event before).1.deliver c event).2 = none ↔
        load before c.queue < r.room c.queue)) ∧
    sent.2 + (r.registry.lostIn sent.1.registry).length = (r.addressees exclude).length ∧
    (∀ c ∈ r.registry.connections, exclude = some c.id → c ∈ sent.1.registry.connections) ∧
    ∀ other, other.Perm r.registry.connections →
      (r.broadcastIn other event exclude).2 = sent.2 ∧
      (r.broadcastIn other event exclude).1.queues.map Queue.bare =
        sent.1.queues.map Queue.bare ∧
      ((r.registry.connections.map (·.queue)).Nodup →
        (r.broadcastIn other event exclude).1.registry = sent.1.registry) := by
  intro told sent
  have count {order : List Connection} : (r.broadcastIn order event exclude).2 =
      ∑ q ∈ Finset.range r.queues.length, min (load (toldIn order exclude) q) (r.room q) :=
    r.delivered_eq event _
  have kept : ∀ c ∈ sent.1.registry.connections, c ∈ r.registry.connections := fun c hc => by
    rw [registry_broadcastIn, Registry.mem_eraseAll] at hc
    exact hc.1
  refine ⟨r.broadcast_eq event exclude, r.walk_perm, r.queues_broadcastIn event exclude, count,
    kept, fun c hc => removed_iff h hc, fun before c after _ => r.deliver_behind event before c, ?_, ?_,
    fun other hother => ?_⟩
  · have hperm : ((r.registry.lostIn sent.1.registry).map (·.id)).Perm
        ((r.deliverEach event told).2.2.map (·.1)) := lost_perm_failed h
    have hlost := hperm.length_eq
    have hall := r.delivered_add_failed event told
    have htold : told.length = (r.addressees exclude).length :=
      ((h.trans r.walk_perm.symm).filter _).length_eq
    rw [List.length_map] at hlost
    rw [← htold, ← hall, hlost]
    rfl
  · intro c hc hex
    by_contra hn
    obtain ⟨before, after, hs, -⟩ := (removed_iff h hc).1 hn
    have hct : c ∈ toldIn order exclude := by simp [hs]
    simp [toldIn, hex] at hct
  · have htold : (toldIn other exclude).Perm told := (hother.trans h.symm).filter _
    have hload : load (toldIn other exclude) = load told := funext (load_perm htold)
    refine ⟨?_, ?_, fun unshared => Registry.ext_mem fun c => ?_⟩
    · rw [count, hload]
      exact count.symm
    · rw [queues_broadcastIn, hload]
      exact (r.queues_broadcastIn event exclude).symm
    · by_cases hc : c ∈ r.registry.connections
      · rw [← not_iff_not, removed_iff_of_unshared hother unshared hc,
          removed_iff_of_unshared h unshared hc]
      · have hother' : c ∉ (r.broadcastIn other event exclude).1.registry.connections := by
          rw [registry_broadcastIn, Registry.mem_eraseAll]
          exact fun hm => hc hm.1
        exact iff_of_false hother' fun hm => hc (kept c hm)

/-- Four viewers at three queues: the first two share one with a single place left, the queue of the
third is full, and the fourth has closed its own. -/
def crowded : Relay where
  activity := "A"
  registry := ⟨[⟨⟨1⟩, 0, 0, 0⟩, ⟨⟨2⟩, 0, 1, 0⟩, ⟨⟨3⟩, 1, 2, 0⟩, ⟨⟨4⟩, 2, 3, 0⟩], by decide⟩
  queues :=
    [{ capacity := 2, waiting := [.game "A"], fits := by decide },
      { capacity := 1, waiting := [.game "A"], fits := by decide },
      { capacity := 1, waiting := [], receiver := .gone, fits := by decide }]

/-- The order decides which of the two that share a queue is removed. -/
theorem fan_out_crowded :
    let order := crowded.registry.connections
    let sent := crowded.broadcastIn order (.game "B") (some ⟨3⟩)
    let back := crowded.broadcastIn order.reverse (.game "B") (some ⟨3⟩)
    order.reverse.Perm order ∧ sent.2 = 1 ∧ back.2 = sent.2 ∧
      back.1.queues.map Queue.bare = sent.1.queues.map Queue.bare ∧
      back.1.queued 0 = [.game "A", .game "B"] ∧
      back.2 + (crowded.registry.lostIn back.1.registry).length = 3 ∧
      sent.1.registry.connections.map (·.id) = [⟨1⟩, ⟨3⟩] ∧
      back.1.registry.connections.map (·.id) = [⟨2⟩, ⟨3⟩] := by
  intro order sent back
  obtain ⟨-, -, -, -, -, -, -, everyone, -, alike⟩ :=
    crowded.fan_out (.game "B") (some ⟨3⟩) (List.reverse_perm order)
  obtain ⟨answer, queues, -⟩ := alike order (.refl order)
  exact ⟨List.reverse_perm order, by decide, answer.symm, queues.symm, by decide,
    everyone, by decide, by decide⟩

end broadcastIn

end Relay
end ActivityRelay
