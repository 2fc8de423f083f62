import ActivityRelay.Proofs.Relay.Operations
import ActivityRelay.Proofs.Relay.Outbox

/-! Relays between which nothing differs but one viewer: whether it is registered, and what its
queue is. An operation on another viewer keeps them so and gives the same answer in both, and what
is done to the one viewer keeps a relay like what it was. -/
namespace ActivityRelay

/-- A queue that takes nothing. -/
def Queue.dead : Queue Event := { capacity := 0, receiver := .gone, senders := 0 }

namespace Registry

theorem erase_erase (r : Registry) (id : ClientId) : (r.erase id).erase id = r.erase id :=
  erase_of_find?_none (by simp [find?_erase])

theorem erase_eraseAll (r : Registry) (w : ClientId) (ids : List ClientId) :
    (r.eraseAll ids).erase w = (r.erase w).eraseAll (ids.filter (· ≠ w)) := by
  induction ids generalizing r with
  | nil => rfl
  | cons id ids ih =>
    rw [show r.eraseAll (id :: ids) = (r.erase id).eraseAll ids from rfl, ih]
    by_cases h : id = w
    · rw [h, erase_erase, List.filter_cons_of_neg (by simp)]
    · rw [List.filter_cons_of_pos (by simpa using h), erase_comm]
      rfl

theorem insert?_erase_of_ne (r : Registry) {w : ClientId} {c : Connection} (h : c.id ≠ w) :
    (r.erase w).insert? c = (r.insert? c).map (·.erase w) := by
  have hfind : (r.erase w).find? c.id = r.find? c.id := by simp [find?_erase, h]
  cases he : (r.erase w).insert? c with
  | none =>
    cases hi : r.insert? c with
    | none => rfl
    | some r' => exact absurd (hfind.trans (insert?_eq_some hi).1) (insert?_eq_none he)
  | some e =>
    cases hi : r.insert? c with
    | none => exact absurd (hfind.symm.trans (insert?_eq_some he).1) (insert?_eq_none hi)
    | some r' =>
      refine congrArg some (ext_mem fun d => ?_)
      rw [(insert?_eq_some he).2, mem_erase, mem_erase, (insert?_eq_some hi).2]
      constructor
      · rintro (rfl | ⟨hd, hne⟩)
        · exact ⟨.inl rfl, h⟩
        · exact ⟨.inr hd, hne⟩
      · rintro ⟨rfl | hd, hne⟩
        · exact .inl rfl
        · exact .inr ⟨hd, hne⟩

/-- A queue is one viewer's own: that viewer has no other, and nobody else has it. -/
def Owns (r : Registry) (w : ClientId) (q : Nat) : Prop :=
  ∀ c ∈ r.connections, c.id = w ↔ c.queue = q

namespace Owns
variable {r r' : Registry} {w : ClientId} {q : Nat}

theorem erase (h : r.Owns w q) (id : ClientId) : (r.erase id).Owns w q :=
  fun c hc => h c (mem_erase.1 hc).1

theorem eraseAll (h : r.Owns w q) (ids : List ClientId) : (r.eraseAll ids).Owns w q := by
  induction ids generalizing r with
  | nil => exact h
  | cons id ids ih => exact ih (h.erase id)

theorem insert? (h : r.Owns w q) {c : Connection} (own : c.id = w ↔ c.queue = q)
    (hi : r.insert? c = some r') : r'.Owns w q := by
  intro d hd
  rcases ((insert?_eq_some hi).2 d).1 hd with rfl | hd
  · exact own
  · exact h d hd

end Owns
end Registry

namespace Relay

/-- A relay without one of its viewers. -/
def apart (r : Relay) (w : ClientId) (q : Nat) : Relay :=
  { r with registry := r.registry.erase w, queues := r.queues.set q .dead }

theorem view_apart (r : Relay) (w : ClientId) (q : Nat) :
    (r.apart w q).view =
      { r.view with
        registry := r.registry.erase w
        queues := r.view.queues.set q .dead } := by
  simp [view, apart, List.map_set, Queue.bare, Queue.dead]

/-- Nothing differs between two relays but one viewer, whose queue is its own in both. -/
structure Alike (w : ClientId) (q : Nat) (r a : Relay) : Prop where
  view : (r.apart w q).view = (a.apart w q).view
  outbox : r.outbox = a.outbox
  left : r.registry.Owns w q
  right : a.registry.Owns w q

variable {w : ClientId} {q : Nat} {r a r' a' : Relay}

namespace Alike

theorem refl (own : r.registry.Owns w q) : Alike w q r r := ⟨rfl, rfl, own, own⟩

theorem symm (h : Alike w q r a) : Alike w q a r := ⟨h.view.symm, h.outbox.symm, h.right, h.left⟩

theorem trans (h : Alike w q r a) (k : Alike w q a a') : Alike w q r a' :=
  ⟨h.view.trans k.view, h.outbox.trans k.outbox, h.left, k.right⟩

theorem activity (h : Alike w q r a) : r.activity = a.activity := congrArg View.activity h.view

theorem order (h : Alike w q r a) : r.order = a.order := congrArg View.order h.view

theorem created (h : Alike w q r a) : r.created = a.created := congrArg View.created h.view

theorem now (h : Alike w q r a) : r.now = a.now := congrArg View.now h.view

theorem registry (h : Alike w q r a) : r.registry.erase w = a.registry.erase w :=
  congrArg View.registry h.view

theorem queues (h : Alike w q r a) :
    r.view.queues.set q .dead = a.view.queues.set q .dead := by
  have hv := congrArg View.queues h.view
  rwa [view_apart, view_apart] at hv

/-- The other viewers are registered in both or in neither. -/
theorem find? (h : Alike w q r a) {id : ClientId} (ne : id ≠ w) :
    r.registry.find? id = a.registry.find? id := by
  have hf := congrArg (·.find? id) h.registry
  simpa [Registry.find?_erase, ne] using hf

/-- The other queues are the same, but perhaps for their senders. -/
theorem queue (h : Alike w q r a) {p : Nat} (ne : p ≠ q) :
    (r.queues[p]?).map Queue.bare = (a.queues[p]?).map Queue.bare := by
  have hq := congrArg (·[p]?) h.queues
  simpa [List.getElem?_set_ne ne.symm, Relay.view] using hq

theorem accepted (h : Alike w q r a) {p : Nat} (ne : p ≠ q) : r.accepted p = a.accepted p := by
  have hb (x : Relay) : x.accepted p = ((x.queues[p]?).map Queue.bare).elim [] Queue.accepted := by
    unfold Relay.accepted
    cases x.queues[p]? <;> rfl
  rw [hb r, hb a, h.queue ne]

/-- Relays stay alike when the same is done to both, as far as one sees it without the viewer. -/
theorem of_view (h : Alike w q r a) {R A : Registry}
    (hr : r'.view = { r.view with registry := R }) (ha : a'.view = { a.view with registry := A })
    (same : R.erase w = A.erase w) (left : R.Owns w q) (right : A.Owns w q)
    (outbox : r'.outbox = a'.outbox) : Alike w q r' a' := by
  have hR : r'.registry = R := congrArg View.registry hr
  have hA : a'.registry = A := congrArg View.registry ha
  refine ⟨?_, outbox, hR ▸ left, hA ▸ right⟩
  rw [view_apart, view_apart, hr, ha, hR, hA, same, View.mk.injEq]
  exact ⟨h.activity, rfl, h.order, h.queues, h.created, h.now⟩

theorem congr (h : Alike w q r a) (hr : r'.view = r.view) (ha : a'.view = a.view)
    (outbox : r'.outbox = a'.outbox) : Alike w q r' a' :=
  h.of_view hr ha h.registry h.left h.right outbox

theorem note (h : Alike w q r a) (x y : Record) : Alike w q (r.note x) (a.note y) :=
  h.congr rfl rfl h.outbox

theorem drop (h : Alike w q r a) (c d : Option Connection) : Alike w q (r.drop c) (a.drop d) :=
  h.congr (r.view_drop c) (a.view_drop d) (by simp [h.outbox])

theorem hear (h : Alike w q r a) (origin : ClientId) (raw : String) :
    Alike w q (r.hear origin raw) (a.hear origin raw) := by
  refine h.congr (r.view_hear origin raw) (a.view_hear origin raw) ?_
  have hc : r.channel = a.channel := congrArg Prod.fst h.outbox
  have hf : r.forwarded = a.forwarded := congrArg Prod.snd h.outbox
  rw [outbox_hear, outbox_hear, hc, hf]

theorem commit (h : Alike w q r a) (value : String) :
    Alike w q (r.commit value).1 (a.commit value).1 :=
  ⟨congrArg (fun v : View => { v with activity := value }) h.view, h.outbox, h.left, h.right⟩

theorem shuffle (h : Alike w q r a) (order : List ClientId) :
    Alike w q { r with order } { a with order } :=
  ⟨congrArg (fun v : View => { v with order }) h.view, h.outbox, h.left, h.right⟩

theorem newConnection (h : Alike w q r a) (id : ClientId) (p : Nat) :
    Alike w q (r.newConnection id p).1 (a.newConnection id p).1 :=
  ⟨congrArg (fun v : View => { v with created := v.created + 1 }) h.view, h.outbox, h.left,
    h.right⟩

theorem remove (h : Alike w q r a) (id : ClientId) :
    Alike w q (r.remove id).1 (a.remove id).1 := by
  refine h.of_view (r.view_remove id) (a.view_remove id) ?_ (h.left.erase id) (h.right.erase id)
    (by simp [h.outbox])
  rw [Registry.erase_comm, h.registry, Registry.erase_comm]

theorem clear (h : Alike w q r a) (x y : Record) (id : ClientId) :
    Alike w q (r.clear x id).1 (a.clear y id).1 := (h.note x y).remove id

/-- The viewer itself can be removed from one of the two only. -/
theorem remove_own (h : Alike w q r a) : Alike w q (r.remove w).1 a :=
  h.of_view (r.view_remove w) rfl (by rw [Registry.erase_erase, h.registry]) (h.left.erase w)
    h.right (by simp [h.outbox])

theorem register (h : Alike w q r a) {c : Connection} (own : c.id = w ↔ c.queue = q)
    (ne : c.id ≠ w) : Alike w q (r.register c).1 (a.register c).1 ∧
      (r.register c).2 = (a.register c).2 := by
  have hi : (r.registry.insert? c).map (·.erase w) = (a.registry.insert? c).map (·.erase w) := by
    rw [← Registry.insert?_erase_of_ne _ ne, ← Registry.insert?_erase_of_ne _ ne, h.registry]
  cases hr : r.registry.insert? c with
  | none =>
    have ha : a.registry.insert? c = none := by simpa [hr] using hi.symm
    rw [register_known hr, register_known ha]
    exact ⟨h.congr (view_release _ _) (view_release _ _) h.outbox, rfl⟩
  | some R =>
    obtain ⟨A, ha, same⟩ : ∃ A, a.registry.insert? c = some A ∧ A.erase w = R.erase w := by
      simpa [hr] using hi.symm
    rw [register_new hr, register_new ha]
    exact ⟨h.of_view rfl rfl same.symm (h.left.insert? own hr) (h.right.insert? own ha) h.outbox,
      rfl⟩

/-- The viewer itself can be registered in one of the two only. -/
theorem register_own (h : Alike w q r a) {c : Connection} (id : c.id = w) (queue : c.queue = q) :
    Alike w q (r.register c).1 a := by
  cases hr : r.registry.insert? c with
  | none =>
    rw [register_known hr]
    exact h.congr (view_release _ _) rfl h.outbox
  | some R =>
    have same : R.erase w = r.registry.erase w := by
      rw [← id, Registry.erase_insert? hr, Registry.erase_of_find?_none
        (Registry.insert?_eq_some hr).1]
    rw [register_new hr]
    exact h.of_view rfl rfl (same.trans h.registry)
      (h.left.insert? (by simp [id, queue]) hr) h.right h.outbox

end Alike

theorem deliver_apart (r : Relay) {c : Connection} (event : Event) (ne : c.queue ≠ q) :
    (r.apart w q).deliver c event =
      ((r.deliver c event).1.apart w q, (r.deliver c event).2) := by
  have hq : (r.apart w q).queues[c.queue]? = r.queues[c.queue]? := by
    simp [apart, List.getElem?_set_ne ne.symm]
  cases hr : r.queues[c.queue]? with
  | none => rw [deliver_missing event hr, deliver_missing event (hq.trans hr)]
  | some queue =>
    cases hp : queue.push event with
    | error e => rw [deliver_refused hr hp, deliver_refused (hq.trans hr) hp]
    | ok queue' =>
      rw [deliver_taken hr hp, deliver_taken (hq.trans hr) hp, apart, apart]
      simp only [List.set_comm _ _ ne]

namespace Alike

theorem deliver (h : Alike w q r a) {c : Connection} (event : Event) (ne : c.queue ≠ q) :
    Alike w q (r.deliver c event).1 (a.deliver c event).1 ∧
      (r.deliver c event).2 = (a.deliver c event).2 := by
  obtain ⟨hv, hf⟩ := deliver_congr h.view c event
  rw [deliver_apart r event ne, deliver_apart a event ne] at hv hf
  obtain ⟨qs, hr⟩ := r.deliver_frame c event
  obtain ⟨qs', ha⟩ := a.deliver_frame c event
  exact ⟨⟨hv, by simp [h.outbox], by rw [hr]; exact h.left, by rw [ha]; exact h.right⟩, hf⟩

/-- What is delivered to the viewer itself stays in its own queue. -/
theorem deliver_own (h : Alike w q r a) {c : Connection} (event : Event) (queue : c.queue = q) :
    Alike w q (r.deliver c event).1 a := by
  rcases r.deliver_cases c event with ⟨x, x', -, -, hd⟩ | ⟨e, hd⟩
  · rw [hd]
    refine ⟨?_, h.outbox, h.left, h.right⟩
    rw [← h.view, apart, apart, queue]
    simp only [List.set_set]
  · rw [hd]
    exact h

/-- All the others are offered an event as if the viewer were not there. -/
theorem deliverEach (h : Alike w q r a) (event : Event) {cs : List Connection}
    (own : ∀ c ∈ cs, c.id = w ↔ c.queue = q) :
    Alike w q (r.deliverEach event cs).1 (a.deliverEach event (cs.filter (·.id ≠ w))).1 ∧
      ((r.deliverEach event cs).2.2.map (·.1)).filter (· ≠ w) =
        (a.deliverEach event (cs.filter (·.id ≠ w))).2.2.map (·.1) := by
  induction cs generalizing r a with
  | nil => exact ⟨h, rfl⟩
  | cons c cs ih =>
    have rest : ∀ d ∈ cs, d.id = w ↔ d.queue = q := fun d hd => own d (by simp [hd])
    by_cases hc : c.id = w
    · obtain ⟨hv, hf⟩ := ih (h.deliver_own event ((own c (by simp)).1 hc)) rest
      rw [List.filter_cons_of_neg (by simpa using hc), (r.deliverEach_cons event c cs).1,
        (r.deliverEach_cons event c cs).2]
      refine ⟨hv, ?_⟩
      rw [List.filter_append, hf, hc]
      split <;> simp
    · obtain ⟨hd, hfail⟩ := h.deliver event fun hq => hc ((own c (by simp)).2 hq)
      obtain ⟨hv, hf⟩ := ih hd rest
      rw [List.filter_cons_of_pos (by simpa using hc), (r.deliverEach_cons event c cs).1,
        (r.deliverEach_cons event c cs).2, (a.deliverEach_cons event c _).1,
        (a.deliverEach_cons event c _).2]
      refine ⟨hv, ?_⟩
      rw [List.filter_append, hf, hfail]
      split <;> simp [hc]

end Alike
end Relay
end ActivityRelay
