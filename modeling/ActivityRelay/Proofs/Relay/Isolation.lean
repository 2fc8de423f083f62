import ActivityRelay.Proofs.Relay.Alike

/-! Two runs of one relay in which the same is asked of it, and one viewer fares differently: its
queue is of another size, or is emptied or closed at other times, so that the viewer is dropped in
one run and stays in the other. Nobody else can tell the runs apart. -/
namespace ActivityRelay

namespace Queue
variable {α : Type}

theorem bare_take (q : Queue α) : q.take.2.bare = q.bare.take.2 := by
  obtain ⟨capacity, received, waiting, receiver, senders, fits⟩ := q
  cases waiting <;> cases receiver <;> simp [take, bare]
  split <;> exact ⟨rfl, rfl, rfl, rfl⟩

theorem bare_shut (q : Queue α) : q.shut.bare = q.bare.shut := by
  cases h : q.receiver <;> simp [shut, bare, h]

end Queue

namespace Operation

/-- Whether a viewer gets this queue whenever it gets one, and nobody else does. -/
def Fits (w : ClientId) (q : Nat) : Operation → Prop
  | .connect id queue => id = w ↔ queue = q
  | .register c => c.id = w ↔ c.queue = q
  | _ => True

/-- Whether the answer is none to the viewer, and neither counts viewers nor lists them. -/
def leavesOut (w : ClientId) : Operation → Bool
  | .connect id _ | .unregister id | .sendTo id _ => id ≠ w
  | .register c => c.id ≠ w
  | .disconnect _ | .current | .commit _ => true
  | .broadcast .. | .dispatch .. | .status => false

end Operation

namespace Relay
variable {w : ClientId} {q : Nat} {r a : Relay}

theorem receive_eq_onQueue (r : Relay) (p : Nat) :
    (r.receive p).1 = r.onQueue p fun x => x.take.2 := by
  unfold receive onQueue
  cases h : r.queues[p]? with
  | none => rw [List.modify_eq_self (by simpa using h)]
  | some x =>
    obtain ⟨hlt, rfl⟩ := List.getElem?_eq_some_iff.1 h
    refine congrArg (fun queues : List (Queue Event) => { r with queues }) ?_
    apply List.ext_getElem?
    intro i
    rw [List.getElem?_set, List.getElem?_modify]
    by_cases hi : p = i
    · subst hi; simp [hlt]
    · simp [hi]

theorem view_onQueue (r : Relay) (p : Nat) {f : Queue Event → Queue Event}
    (hf : ∀ x, (f x).bare = f x.bare) :
    (r.onQueue p f).view = { r.view with queues := r.view.queues.modify p f } := by
  have hq : (r.queues.modify p f).map Queue.bare = (r.queues.map Queue.bare).modify p f := by
    apply List.ext_getElem?
    intro i
    simp only [List.getElem?_map, List.getElem?_modify]
    cases r.queues[i]? with
    | none => rfl
    | some x => by_cases hi : p = i <;> simp [hi, hf]
  simp only [view, onQueue, hq]

namespace Alike

theorem onQueue (h : Alike w q r a) {p : Nat} (ne : p ≠ q) {f : Queue Event → Queue Event}
    (hf : ∀ x, (f x).bare = f x.bare) : Alike w q (r.onQueue p f) (a.onQueue p f) := by
  have swap (l : List (Queue Event)) :
      (l.modify p f).set q .dead = (l.set q .dead).modify p f := by
    apply List.ext_getElem?
    intro i
    by_cases hi : q = i
    · subst hi; simp [List.getElem?_set, ne]
    · simp [List.getElem?_modify, List.getElem?_set_ne hi]
  refine ⟨?_, h.outbox, h.left, h.right⟩
  rw [view_apart, view_apart, view_onQueue r p hf, view_onQueue a p hf, View.mk.injEq]
  simp only [swap, h.queues]
  exact ⟨h.activity, h.registry, h.order, trivial, h.created, h.now⟩

/-- The viewer itself may do anything to its own queue. -/
theorem onQueue_own (h : Alike w q r a) (f : Queue Event → Queue Event) :
    Alike w q (r.onQueue q f) a := by
  refine ⟨?_, h.outbox, h.left, h.right⟩
  rw [← h.view]
  have hq : (r.queues.modify q f).set q .dead = r.queues.set q .dead := by
    apply List.ext_getElem?
    intro i
    by_cases hi : q = i
    · subst hi; simp [List.getElem?_set]
    · simp [List.getElem?_set_ne hi, hi]
  simp only [apart, Relay.onQueue, hq]

theorem addressees (h : Alike w q r a) (exclude : Option ClientId) :
    (r.addressees exclude).filter (·.id ≠ w) = (a.addressees exclude).filter (·.id ≠ w) := by
  have hc (x : Relay) : (x.addressees exclude).filter (·.id ≠ w) =
      (Registry.arrange x.order (x.registry.erase w).connections).filter
        fun c => exclude ≠ some c.id := by
    rw [Relay.addressees, List.filter_comm, Relay.walk, Registry.filter_arrange]
    rfl
  rw [hc, hc, h.registry, h.order]

theorem deliverAll (h : Alike w q r a) (event : Event) (exclude : Option ClientId) :
    Alike w q (r.deliverAll event exclude).1 (a.deliverAll event exclude).1 ∧
      ((r.deliverAll event exclude).2.2.map (·.1)).filter (· ≠ w) =
        ((a.deliverAll event exclude).2.2.map (·.1)).filter (· ≠ w) := by
  obtain ⟨hr, fr⟩ := h.deliverEach event fun c (hc : c ∈ r.addressees exclude) =>
    h.left c (Relay.mem_addressees.1 hc).1
  obtain ⟨ha, fa⟩ := (refl h.right).deliverEach event fun c (hc : c ∈ a.addressees exclude) =>
    h.right c (Relay.mem_addressees.1 hc).1
  rw [h.addressees exclude] at hr fr
  exact ⟨hr.trans ha.symm, fr.trans fa.symm⟩

theorem clearAll (h : Alike w q r a) {failed failed' : List Failure}
    (same : (failed.map (·.1)).filter (· ≠ w) = (failed'.map (·.1)).filter (· ≠ w)) :
    Alike w q (r.clearAll failed) (a.clearAll failed') := by
  refine h.of_view (r.view_clearAll failed) (a.view_clearAll failed') ?_
    (h.left.eraseAll _) (h.right.eraseAll _) (by rw [outbox_clearAll, outbox_clearAll, h.outbox])
  rw [Registry.erase_eraseAll, Registry.erase_eraseAll, h.registry, same]

theorem broadcast (h : Alike w q r a) (event : Event) (exclude : Option ClientId) :
    Alike w q (r.broadcast event exclude).1 (a.broadcast event exclude).1 :=
  (h.deliverAll event exclude).1.clearAll (h.deliverAll event exclude).2

theorem dispatch (h : Alike w q r a) (origin : ClientId) (raw : String) :
    Alike w q (r.dispatch origin raw).1 (a.dispatch origin raw).1 := by
  have hh := h.hear origin raw
  unfold Relay.dispatch
  cases Command.classify raw with
  | plain text => exact hh
  | setActivity value => exact ((hh.commit value).broadcast (.game value) (some origin)).note _ _

theorem unregister (h : Alike w q r a) (id : ClientId) :
    Alike w q (r.unregister id).1 (a.unregister id).1 := (h.remove id).drop _ _

theorem disconnect (h : Alike w q r a) (id : ClientId) :
    Alike w q (r.disconnect id) (a.disconnect id) :=
  (h.unregister id).congr (by rw [view_disconnect, Relay.unregister, view_drop, view_remove])
    (by rw [view_disconnect, Relay.unregister, view_drop, view_remove])
    (by rw [outbox_disconnect, outbox_disconnect, h.outbox])

theorem sendTo (h : Alike w q r a) {id : ClientId} (event : Event) (ne : id ≠ w) :
    Alike w q (r.sendTo id event).1 (a.sendTo id event).1 ∧
      (r.sendTo id event).2 = (a.sendTo id event).2 := by
  have hfind := h.find? ne
  cases hr : r.registry.find? id with
  | none =>
    rw [Relay.sendTo, Relay.sendTo, ← hfind, hr]
    exact ⟨h, rfl⟩
  | some c =>
    have ha := hfind.symm.trans hr
    obtain ⟨hc, hid⟩ := Registry.find?_eq_some_iff.1 hr
    obtain ⟨hd, hf⟩ := h.deliver event fun hq => ne (hid ▸ (h.left c hc).2 hq)
    cases hok : (r.deliver c event).2 with
    | none =>
      rw [sendTo_delivered hr hok, sendTo_delivered ha (hf.symm.trans hok)]
      exact ⟨hd, rfl⟩
    | some e =>
      obtain ⟨vr, er⟩ := sendTo_failed hr hok
      obtain ⟨va, ea⟩ := sendTo_failed ha (hf.symm.trans hok)
      refine ⟨(h.remove id).congr ?_ ?_ ?_, er.trans ea.symm⟩
      · rw [vr, view_remove]
      · rw [va, view_remove]
      · rw [outbox_sendTo, outbox_sendTo, h.outbox]

theorem sendTo_own (h : Alike w q r a) (event : Event) : Alike w q (r.sendTo w event).1 a := by
  cases hr : r.registry.find? w with
  | none =>
    rw [Relay.sendTo, hr]
    exact h
  | some c =>
    obtain ⟨hc, hid⟩ := Registry.find?_eq_some_iff.1 hr
    cases hok : (r.deliver c event).2 with
    | none =>
      rw [sendTo_delivered hr hok]
      exact h.deliver_own event ((h.left c hc).1 hid)
    | some e =>
      obtain ⟨vr, -⟩ := sendTo_failed hr hok
      exact h.remove_own.congr (by rw [vr, view_remove]) rfl (by rw [outbox_sendTo, h.outbox])

theorem connect (h : Alike w q r a) {id : ClientId} {p : Nat} (own : id = w ↔ p = q)
    (ne : id ≠ w) : Alike w q (r.connect id p).1 (a.connect id p).1 ∧
      (r.connect id p).2 = (a.connect id p).2 := by
  have hn : (a.newConnection id p).2 = (r.newConnection id p).2 := by
    simp only [Relay.newConnection, h.created, h.now]
  obtain ⟨hreg, hb⟩ := (h.newConnection id p).register (c := (r.newConnection id p).2) own ne
  unfold Relay.connect
  simp only [hn]
  generalize (r.newConnection id p).1.register (r.newConnection id p).2 = x at hreg hb
  generalize (a.newConnection id p).1.register (r.newConnection id p).2 = y at hreg hb
  obtain ⟨r', b⟩ := x
  obtain ⟨a', b'⟩ := y
  cases hb
  cases b with
  | false => exact ⟨hreg, rfl⟩
  | true =>
    obtain ⟨hs, hf⟩ := hreg.sendTo (.game r.activity) ne
    simp only [← h.activity]
    generalize r'.sendTo id (.game r.activity) = x at hs hf
    generalize a'.sendTo id (.game r.activity) = y at hs hf
    obtain ⟨r'', f⟩ := x
    obtain ⟨a'', f'⟩ := y
    cases hf
    cases f with
    | none => exact ⟨hs.note _ _, rfl⟩
    | some e => exact ⟨hs, rfl⟩

theorem connect_own (h : Alike w q r a) :
    Alike w q (r.connect w q).1 { a with created := a.created + 1 } := by
  have hreg : Alike w q ((r.newConnection w q).1.register (r.newConnection w q).2).1
      { a with created := a.created + 1 } := (h.newConnection w q).register_own rfl rfl
  unfold Relay.connect
  dsimp only
  generalize (r.newConnection w q).1.register (r.newConnection w q).2 = x at hreg
  obtain ⟨r', _ | _⟩ := x
  · exact hreg
  · have hs := hreg.sendTo_own (.game r.activity)
    dsimp only
    generalize r'.sendTo w (.game r.activity) = x at hs
    obtain ⟨r'', _ | e⟩ := x
    · exact (hs.note (.greeted w r.activity) (.greeted w r.activity)).trans
        ((refl hs.right).congr rfl rfl rfl)
    · exact hs

/-- One operation, on whomever: the two relays stay alike, and an answer that has nothing to do
with the viewer is the same. -/
theorem perform (h : Alike w q r a) {op : Operation} (fits : op.Fits w q) :
    Alike w q (r.perform op).1 (a.perform op).1 ∧
      (op.leavesOut w = true → (r.perform op).2 = (a.perform op).2) := by
  cases op with
  | connect id p =>
    by_cases ne : id = w
    · subst ne
      obtain rfl := fits.1 rfl
      exact ⟨h.connect_own.trans (refl h.right).connect_own.symm, by simp [Operation.leavesOut]⟩
    · obtain ⟨hc, he⟩ := h.connect fits ne
      exact ⟨hc, fun _ => congrArg Outcome.connected he⟩
  | disconnect id => exact ⟨h.disconnect id, fun _ => rfl⟩
  | register c =>
    by_cases ne : c.id = w
    · exact ⟨(h.register_own ne (fits.1 ne)).trans
        ((refl h.right).register_own ne (fits.1 ne)).symm, by simp [Operation.leavesOut, ne]⟩
    · obtain ⟨hc, he⟩ := h.register fits ne
      exact ⟨hc, fun _ => congrArg Outcome.registered he⟩
  | unregister id =>
    refine ⟨h.unregister id, fun hl => ?_⟩
    have ne : id ≠ w := by simpa [Operation.leavesOut] using hl
    have hf := h.find? ne
    have hs (x : Relay) : (x.unregister id).2 = (x.registry.find? id).isSome := by
      unfold Relay.unregister Relay.remove
      cases x.registry.find? id <;> rfl
    simp only [Relay.perform, hs, hf]
  | sendTo id value =>
    by_cases ne : id = w
    · subst ne
      exact ⟨(h.sendTo_own _).trans ((refl h.right).sendTo_own _).symm,
        by simp [Operation.leavesOut]⟩
    · obtain ⟨hs, he⟩ := h.sendTo (.game value) ne
      exact ⟨hs, fun _ => congrArg Outcome.sent he⟩
  | broadcast value exclude => exact ⟨h.broadcast _ _, by simp [Operation.leavesOut]⟩
  | dispatch origin raw => exact ⟨h.dispatch origin raw, by simp [Operation.leavesOut]⟩
  | current => exact ⟨h, fun _ => congrArg Outcome.activity h.activity⟩
  | commit value => exact ⟨h.commit value, fun _ => congrArg Outcome.committed h.activity⟩
  | status => exact ⟨h, by simp [Operation.leavesOut]⟩

end Alike

/-- What can happen to a relay: it is asked something, its registry comes to be gone through in
another order, or a viewer treats its queue. -/
inductive Action where
  | perform (op : Operation)
  | shuffle (order : List ClientId)
  | receive (queue : Nat)
  | shut (queue : Nat)
  | close (queue : Nat)
  deriving DecidableEq, Repr

namespace Action

def Fits (w : ClientId) (q : Nat) : Action → Prop
  | .perform op => op.Fits w q
  | _ => True

/-- Whether it is something else than how the owner of a queue treats it. -/
def leavesAlone (q : Nat) : Action → Bool
  | .perform _ | .shuffle _ => true
  | .receive p | .shut p | .close p => p ≠ q

end Action

/-- One action, with the answer if it was asked something. -/
def act (r : Relay) : Action → Relay × List (Operation × Outcome)
  | .perform op => ((r.perform op).1, [(op, (r.perform op).2)])
  | .shuffle order => ({ r with order }, [])
  | .receive p => ((r.receive p).1, [])
  | .shut p => (r.onQueue p Queue.shut, [])
  | .close p => (r.onQueue p Queue.close, [])

/-- One action after another, with all the answers. -/
def acts (r : Relay) : List Action → Relay × List (Operation × Outcome)
  | [] => (r, [])
  | x :: xs => (((r.act x).1.acts xs).1, (r.act x).2 ++ ((r.act x).1.acts xs).2)

/-- The answers that have nothing to do with a viewer. -/
def answersWithout (w : ClientId) (answers : List (Operation × Outcome)) :
    List (Operation × Outcome) := answers.filter (·.1.leavesOut w)

theorem Alike.act (h : Alike w q r a) {x : Action} (fits : x.Fits w q)
    (alone : x.leavesAlone q = true) : Alike w q (r.act x).1 (a.act x).1 ∧
      answersWithout w (r.act x).2 = answersWithout w (a.act x).2 := by
  cases x with
  | perform op =>
    obtain ⟨hp, he⟩ := h.perform fits
    refine ⟨hp, ?_⟩
    by_cases hl : op.leavesOut w = true
    · simp [Relay.act, answersWithout, hl, he hl]
    · simp [Relay.act, answersWithout, hl]
  | shuffle order => exact ⟨h.shuffle order, rfl⟩
  | receive p =>
    have ne : p ≠ q := by simpa [Action.leavesAlone] using alone
    simp only [Relay.act, receive_eq_onQueue]
    exact ⟨h.onQueue ne fun x => x.bare_take, trivial⟩
  | shut p =>
    exact ⟨h.onQueue (by simpa [Action.leavesAlone] using alone) fun x => x.bare_shut, rfl⟩
  | close p =>
    exact ⟨h.onQueue (by simpa [Action.leavesAlone] using alone) fun _ => rfl, rfl⟩

/-- What a viewer does to its own queue concerns nobody else. -/
theorem Alike.act_own (h : Alike w q r a) {x : Action} (own : x.leavesAlone q = false) :
    Alike w q (r.act x).1 a ∧ (r.act x).2 = [] := by
  cases x with
  | perform op | shuffle order => simp [Action.leavesAlone] at own
  | receive p =>
    obtain rfl : p = q := by simpa [Action.leavesAlone] using own
    exact ⟨receive_eq_onQueue r p ▸ h.onQueue_own _, rfl⟩
  | shut p =>
    obtain rfl : p = q := by simpa [Action.leavesAlone] using own
    exact ⟨h.onQueue_own _, rfl⟩
  | close p =>
    obtain rfl : p = q := by simpa [Action.leavesAlone] using own
    exact ⟨h.onQueue_own _, rfl⟩

/-- A run is alike to the run in which the viewer never touches its queue. -/
theorem Alike.acts (h : Alike w q r a) {xs : List Action} (fits : ∀ x ∈ xs, x.Fits w q) :
    Alike w q (r.acts xs).1 (a.acts (xs.filter (·.leavesAlone q))).1 ∧
      answersWithout w (r.acts xs).2 =
        answersWithout w (a.acts (xs.filter (·.leavesAlone q))).2 := by
  induction xs generalizing r a with
  | nil => exact ⟨h, rfl⟩
  | cons x xs ih =>
    have rest : ∀ y ∈ xs, y.Fits w q := fun y hy => fits y (by simp [hy])
    by_cases hx : x.leavesAlone q = true
    · obtain ⟨hact, hanswer⟩ := h.act (fits x (by simp)) hx
      obtain ⟨hrest, hanswers⟩ := ih hact rest
      rw [List.filter_cons_of_pos hx]
      refine ⟨hrest, ?_⟩
      simp only [Relay.acts, answersWithout, List.filter_append] at hanswer hanswers ⊢
      rw [hanswer, hanswers]
    · obtain ⟨hact, hanswer⟩ := h.act_own (x := x) (by simpa using hx)
      obtain ⟨hrest, hanswers⟩ := ih hact rest
      rw [List.filter_cons_of_neg hx]
      refine ⟨hrest, ?_⟩
      simpa [Relay.acts, hanswer] using hanswers

/-- The relay with another queue in the place of one. -/
def refit (r : Relay) (q : Nat) (x : Queue Event) : Relay :=
  { r with queues := r.queues.set q x }

theorem alike_refit (own : r.registry.Owns w q) (x y : Queue Event) :
    Alike w q (r.refit q x) (r.refit q y) := by
  refine ⟨?_, rfl, own, own⟩
  simp only [refit, apart, List.set_set]

/-- A slow or dead viewer changes nothing but its own entry: whatever queue it has, and whatever it
does to the queue and when, the activity, the control channel, all the other viewers with their
queues, and all answers that have nothing to do with it are as they would be otherwise. As the
beginnings of two such runs are two such runs, this is so after every action. -/
theorem isolation (own : r.registry.Owns w q) (x y : Queue Event) (xs ys : List Action)
    (fits : ∀ z ∈ xs ++ ys, z.Fits w q)
    (same : xs.filter (·.leavesAlone q) = ys.filter (·.leavesAlone q)) :
    let one := (r.refit q x).acts xs
    let other := (r.refit q y).acts ys
    one.1.activity = other.1.activity ∧ one.1.outbox = other.1.outbox ∧
      (∀ id ≠ w, one.1.registry.find? id = other.1.registry.find? id) ∧
      (∀ p ≠ q, (one.1.queues[p]?).map Queue.bare = (other.1.queues[p]?).map Queue.bare ∧
        one.1.accepted p = other.1.accepted p) ∧
      answersWithout w one.2 = answersWithout w other.2 := by
  intro one other
  obtain ⟨hx, ax⟩ := (alike_refit own x y).acts fun z (hz : z ∈ xs) => fits z (by simp [hz])
  obtain ⟨hy, ay⟩ := (alike_refit own y y).acts fun z (hz : z ∈ ys) => fits z (by simp [hz])
  rw [same] at hx ax
  have h : Alike w q one.1 other.1 := hx.trans hy.symm
  exact ⟨h.activity, h.outbox, fun id ne => h.find? ne, fun p ne => ⟨h.queue ne, h.accepted ne⟩,
    ax.trans ay.symm⟩

/-- The first viewer is slow: it takes nothing from its queue, and closes it in the end. -/
def slowActions : List Action :=
  [.perform (.connect ⟨1⟩ 0), .perform (.connect ⟨2⟩ 1), .perform (.dispatch ⟨2⟩ "aag n B"),
    .perform (.dispatch ⟨1⟩ "aag n C"), .close 0, .perform (.sendTo ⟨2⟩ "D")]

/-- The first viewer takes its greeting at once. -/
def quickActions : List Action :=
  [.perform (.connect ⟨1⟩ 0), .receive 0, .perform (.connect ⟨2⟩ 1),
    .perform (.dispatch ⟨2⟩ "aag n B"), .perform (.dispatch ⟨1⟩ "aag n C"),
    .perform (.sendTo ⟨2⟩ "D")]

/-- A viewer that is dropped before its own command is committed, and the same viewer if it is not
dropped: the other one gets the same events. -/
theorem isolation_of_dropped :
    let r : Relay := .fresh "A" [1, 4]
    let slow : Queue Event := { capacity := 1, waiting := [], fits := Nat.zero_le 1 }
    let quick : Queue Event := { capacity := 2, waiting := [], fits := Nat.zero_le 2 }
    let one := (r.refit 0 slow).acts slowActions
    let other := (r.refit 0 quick).acts quickActions
    one.1.registry.find? ⟨1⟩ = none ∧ other.1.registry.find? ⟨1⟩ ≠ none ∧
      one.1.activity = other.1.activity ∧ one.1.outbox = other.1.outbox ∧
      one.1.registry.find? ⟨2⟩ = other.1.registry.find? ⟨2⟩ ∧
      one.1.accepted 1 = other.1.accepted 1 ∧
      one.1.accepted 1 = [.game "A", .game "C", .game "D"] ∧
      answersWithout ⟨1⟩ one.2 = answersWithout ⟨1⟩ other.2 := by
  intro r slow quick one other
  have own : r.registry.Owns ⟨1⟩ 0 := fun c hc => absurd hc List.not_mem_nil
  obtain ⟨activity, outbox, viewers, queues, answers⟩ := isolation own slow quick slowActions
    quickActions (by simp [slowActions, quickActions, Action.Fits, Operation.Fits]) (by decide)
  exact ⟨by decide, by decide, activity, outbox, viewers ⟨2⟩ (by decide),
    (queues 1 (by decide)).2, by decide, answers⟩

end Relay
end ActivityRelay
