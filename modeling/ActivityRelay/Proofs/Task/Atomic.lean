import ActivityRelay.Proofs.Relay.Operations
import ActivityRelay.Proofs.Task.Alone
import ActivityRelay.Proofs.Task.Lock

/-! Every operation takes effect at one of its steps. To see the effects only, what the task under
the activity lock has begun is taken back, and what it is bound to do is done. -/
namespace ActivityRelay

/-- The operations that take effect at one step; the report of the state reads at two. -/
def Operation.isAtomic : Operation → Bool
  | .connect .. | .disconnect _ | .dispatch .. | .current => true
  | _ => false

theorem Operation.isPublic_of_isAtomic {op : Operation} (h : op.isAtomic = true) :
    op.isPublic = true := by
  cases op <;> simp_all [isAtomic, isPublic]

namespace View

/-- A view without a viewer. -/
def erase (v : View) (id : ClientId) : View := { v with registry := v.registry.erase id }

end View

namespace Phase
variable {me : Nat} {s s' : Shared} {p p' : Phase} {op : Operation}

/-- The answer of a task, as soon as it is settled. -/
def result? : Phase → Option Outcome
  | .clearing _ e | .dropping _ _ _ e | .finishing e => some e.outcome
  | .done outcome => some outcome
  | _ => none

/-- The view that others are shown while a task is under way: before its effect that of the start,
from then on that of the end. -/
def shown (v : View) : Phase → View
  | .greeting id _ => { v.erase id with created := v.created - 1 }
  | .telling _ previous _ => { v with activity := previous }
  | .clearing failed _ | .dropping _ _ failed _ =>
    { v with registry := v.registry.eraseAll (failed.map (·.1)) }
  | _ => v

theorem shown_erase (p : Phase) (v : View) (id : ClientId) :
    p.shown (v.erase id) = (p.shown v).erase id := by
  cases p with
  | greeting other activity => simp [shown, View.erase, v.registry.erase_comm id other]
  | clearing failed ending | dropping c last failed ending =>
    simp [shown, View.erase, Registry.eraseAll_erase]
  | _ => rfl

/-- What a task shows does not hang on the order in which the registry is gone through. -/
theorem shown_shuffle (p : Phase) (v : View) (order : List ClientId) :
    p.shown { v with order } = { p.shown v with order } := by cases p <;> rfl

/-- What a task under the activity lock relies on until its effect. -/
def Fits (op : Operation) (v : View) : Phase → Prop
  | .greeting id activity => activity = v.activity ∧ 1 ≤ v.created ∧ ∃ queue,
      op = .connect id queue ∧ v.registry.find? id = some ⟨id, queue, v.created - 1, v.now⟩
  | .telling _ _ value => v.activity = value
  | _ => True

theorem fits_of_step (h : Step me s p s' p') (ho : p.Of op) : p'.Fits op s'.relay.view := by
  cases h with
  | @registers id queue registry front hi =>
    refine ⟨rfl, Nat.le_add_left 1 _, queue, ho, Registry.find?_eq_some_iff.2 ⟨?_, rfl⟩⟩
    exact ((Registry.insert?_eq_some hi).2 _).2 (.inl rfl)
  | changes origin value front => rfl
  | _ => trivial

theorem fits_of_not_holds (v : View) (h : p.holds = false) : p.Fits op v := by
  cases p <;> simp_all [holds, Fits]

theorem fits_erase {v : View} {id : ClientId} (h : p.Fits op v)
    (hne : ∀ activity, p ≠ .greeting id activity) : p.Fits op (v.erase id) := by
  cases p with
  | greeting other activity =>
    obtain ⟨hact, hone, queue, hop, hf⟩ := h
    refine ⟨hact, hone, queue, hop, ?_⟩
    have ho : other ≠ id := fun he => hne activity (by rw [he])
    rw [View.erase, Registry.find?_erase, if_neg ho, hf]
  | telling origin previous value => exact h
  | _ => trivial

theorem fits_shuffle {v : View} (h : p.Fits op v) (order : List ClientId) :
    p.Fits op { v with order } := by
  cases p <;> exact h

theorem shown_of_not_holds (v : View) (ho : p.Of op) (h : p.holds = false) : p.shown v = v := by
  cases p with
  | greeting | telling => simp [holds] at h
  | clearing failed ending | dropping c last failed ending => rw [shown, ho h]; rfl
  | _ => rfl

/-- Outside the lock a step changes nothing but the start of a disconnect. -/
theorem view_outside (h : Step me s p s' p') (hop : op.isAtomic = true) (ho : p.Of op)
    (hp : p.holds = false) (hp' : p'.holds = false) :
    s'.relay.view = s.relay.view ∨
      ∃ id, p = .start (.disconnect id) ∧ s'.relay.view = s.relay.view.erase id := by
  cases h with
  | register | unregister | sendTo | broadcast | commit =>
    cases ho
    simp [Operation.isAtomic] at hop
  | disconnect id => exact .inr ⟨id, rfl, s.relay.view_remove id⟩
  | plain | command => exact .inl (Relay.view_hear ..)
  | clears id record failed ending => exact absurd (ho hp) (by simp)
  | drops c last failed ending => exact .inl (by simp)
  | finishes e => exact .inl (Relay.view_lastNote ..)
  | registers | refuses | changes | reads | replaces | reports | greets | tells =>
    simp [holds] at hp hp'
  | _ => exact .inl rfl

/-- Before and after a step: nothing is settled and nothing shows, or the operation takes effect as
it does at one stroke. -/
def Effect (op : Operation) (a : Relay) (v : View) (p p' : Phase) : Prop :=
  (p'.result? = p.result? ∧ a.view = v) ∨
    (p.result? = none ∧ p'.result? = some (a.perform op).2 ∧ (a.perform op).1.view = v)

/-- A step outside the lock, while anything that goes well with a disconnect is under way. -/
theorem effect_outside (h : Step me s p s' p') (hop : op.isAtomic = true) (ho : p.Of op)
    (hp : p.holds = false) (hp' : p'.holds = false) {f : View → View}
    (hf : ∀ v id, f (v.erase id) = (f v).erase id) {a : Relay} (ha : a.view = f s.relay.view) :
    Effect op a (f s'.relay.view) p p' := by
  cases h with
  | register | unregister | sendTo | broadcast | commit =>
    cases ho
    simp [Operation.isAtomic] at hop
  | disconnect id =>
    cases ho
    refine .inr ⟨rfl, rfl, ?_⟩
    have hv : (s.relay.remove id).1.view = s.relay.view.erase id := s.relay.view_remove id
    rw [hv, hf, ← ha]
    exact a.view_disconnect id
  | @plain origin raw text hc =>
    cases ho
    refine .inr ⟨rfl, ?_, ?_⟩
    · rw [Relay.perform, Relay.dispatch_plain hc]
      rfl
    · rw [Relay.perform, Relay.dispatch_plain hc, Relay.view_hear, Relay.view_hear, ha]
  | command hc => exact .inl ⟨rfl, by rw [Relay.view_hear, ha]⟩
  | clears id record failed ending => exact absurd (ho hp) (by simp)
  | drops c last failed ending =>
    exact .inl ⟨rfl, by rw [Relay.view_drop, Relay.view_lastNote, ha]⟩
  | finishes e => exact .inl ⟨rfl, by rw [Relay.view_lastNote, ha]⟩
  | registers | refuses | changes | reads | replaces | reports | missed | greets | fails | tells =>
    simp [holds] at hp hp'
  | _ => exact .inl ⟨rfl, ha⟩

/-- A step of the task under the lock, or one that begins what needs the lock. -/
theorem effect_inside (h : Step me s p s' p') (hop : op.isAtomic = true) (ho : p.Of op)
    (hl : p.holds = true ∨ p'.holds = true) (fits : p.Fits op s.relay.view) {a : Relay}
    (ha : a.view = p.shown s.relay.view) : Effect op a (p'.shown s'.relay.view) p p' := by
  cases h with
  | register | unregister | sendTo | broadcast | commit | replaces | reports =>
    cases ho
    simp [Operation.isAtomic] at hop
  | @registers id queue registry front hi =>
    refine .inl ⟨rfl, ha.trans ?_⟩
    have he : registry.erase id = s.relay.registry := Registry.erase_insert? hi
    simp [shown, View.erase, Relay.view, he, Relay.newConnection, Relay.note]
  | @refuses id queue front hi =>
    cases ho
    have hnew : a.registry.insert? (a.newConnection id queue).2 = none := by
      have hc : (a.newConnection id queue).2 = (s.relay.newConnection id queue).2 :=
        congrArg (fun v : View => Connection.mk id queue v.created v.now) ha
      have hr : a.registry = s.relay.registry := congrArg View.registry ha
      rw [hc, hr]
      exact hi
    obtain ⟨hv, he⟩ := Relay.connect_refused hnew
    have hcreated : a.created = s.relay.created := congrArg View.created ha
    refine .inr ⟨rfl, ?_, hv.trans ?_⟩
    · rw [Relay.perform, he]
      rfl
    · change _ = (Relay.release _ queue).view
      rw [ha, hcreated, Relay.view_release]
      rfl
  | changes origin value front => exact .inl ⟨rfl, ha⟩
  | reads front =>
    cases ho
    have hact : a.activity = s.relay.activity := congrArg View.activity ha
    refine .inr ⟨rfl, ?_, ha⟩
    rw [Relay.perform, hact]
    rfl
  | missed activity hn =>
    obtain ⟨-, -, queue, -, hf⟩ := fits
    exact absurd (hn.symm.trans hf) (by simp)
  | @greets id c activity hc ok =>
    obtain ⟨hact, hone, queue, rfl, hf⟩ := fits
    cases hact
    have made := Option.some.inj (hc.symm.trans hf)
    obtain ⟨hv, he⟩ := Relay.connect_greeted hc made hone ha ok
    refine .inr ⟨rfl, ?_, hv⟩
    rw [Relay.perform, he]
    rfl
  | @fails id c activity e hc bad =>
    obtain ⟨hact, hone, queue, rfl, hf⟩ := fits
    cases hact
    have made := Option.some.inj (hc.symm.trans hf)
    obtain ⟨hv, he⟩ := Relay.connect_failed hc made hone ha bad
    refine .inr ⟨rfl, ?_, hv⟩
    rw [Relay.perform, he]
    rfl
  | tells origin previous value =>
    obtain ⟨raw, rfl, hc⟩ := ho
    have hseen : s.relay.view = { a.view with activity := value } := by
      rw [ha, ← fits]
      rfl
    obtain ⟨hv, he⟩ := Relay.dispatch_changed (r := a) hc hseen
    obtain ⟨queues, hq⟩ := s.relay.deliverAll_frame (.game value) (some origin)
    refine .inr ⟨rfl, ?_, hv.trans ?_⟩
    · rw [Relay.perform, he]
      rfl
    · rw [shown, clearingOf_ids, hq]
      rfl
  | cleared ending => exact .inl ⟨rfl, ha⟩
  | clears id record failed ending =>
    refine .inl ⟨rfl, ha.trans ?_⟩
    simp only [shown, Relay.view_clear]
    rfl
  | drops c last failed ending =>
    exact .inl ⟨rfl, by rw [Relay.view_drop, Relay.view_lastNote, ha]; rfl⟩
  | finishes e => exact .inl ⟨rfl, by rw [Relay.view_lastNote, ha]; rfl⟩
  | _ => simp [holds] at hl

end Phase

namespace System
variable {s t : System} {i : Nat} {ops : List Operation}

/-- The view that is shown while a task is past the activity lock. -/
def shown (s : System) : View := s.inside.elim s.relay.view (Phase.shown s.relay.view)

/-- A state in which every task can rely on what it has found. -/
structure Settled (ops : List Operation) (s : System) : Prop where
  orderly : s.Orderly
  follows : s.Follows ops
  fits : ∀ (i : Nat) p op, s.tasks[i]? = some p → ops[i]? = some op → p.Fits op s.relay.view

theorem settled_start (r : Relay) (ops : List Operation) : Settled ops (start r ops) where
  orderly := orderly_start r ops
  follows := follows_start r ops
  fits i p op hp _ := by
    obtain ⟨op', -, rfl⟩ := task_start hp
    trivial

theorem settled_advance (atomic : ∀ op ∈ ops, op.isAtomic = true) (w : Settled ops s)
    (calm : ∀ id activity (j : Nat), s.tasks[i]? = some (.start (.disconnect id)) →
      s.tasks[j]? ≠ some (.greeting id activity))
    (h : s.advance i = some t) : Settled ops t := by
  have isPublic : ∀ op ∈ ops, op.isPublic = true := fun op hop =>
    Operation.isPublic_of_isAtomic (atomic op hop)
  refine ⟨orderly_advance w.orderly h, follows_move (m := .task i) isPublic w.follows h, ?_⟩
  obtain ⟨p, p', hp, hs, ht, -⟩ := advance_cases h
  obtain ⟨op, hop, ho⟩ := w.follows.task i p hp
  intro j q op' hq hop'
  rw [ht, getElem?_set_task hp] at hq
  split at hq
  · next hj =>
    cases hq
    rw [hj, hop] at hop'
    cases hop'
    exact Phase.fits_of_step hs ho
  · next hj =>
    have hfits := w.fits j q op' hq hop'
    by_cases hk : q.holds = true
    · -- the other one is in front, so this step is taken outside the lock
      have front := w.orderly.front j q hq hk
      have hp0 : p.holds = false := Bool.eq_false_iff.2 fun hh =>
        hj (Option.some.inj (front.symm.trans (w.orderly.front i p hp hh)))
      have hp1 : p'.holds = false := Bool.eq_false_iff.2 fun hh =>
        hj (Option.some.inj (front.symm.trans (Phase.front_of_holds hs hp0 hh)))
      rcases Phase.view_outside hs (atomic op (List.mem_of_getElem? hop)) ho hp0 hp1 with
        hv | ⟨id, rfl, hv⟩
      · exact hv ▸ hfits
      · refine hv ▸ Phase.fits_erase hfits fun activity he => ?_
        exact calm id activity j hp (he ▸ hq)
    · exact Phase.fits_of_not_holds _ (Bool.eq_false_iff.2 hk)

theorem settled_shuffle (w : Settled ops s)
    (order : List ClientId) : Settled ops (s.setRelay { s.relay with order }) where
  orderly := w.orderly.congr rfl rfl
  follows := ⟨w.follows.length, w.follows.task⟩
  fits i p op hp hop := Phase.fits_shuffle (w.fits i p op hp hop) order

theorem shown_shuffle (s : System) (order : List ClientId) :
    (s.setRelay { s.relay with order }).shown = { s.shown with order } := by
  have hv : (s.setRelay { s.relay with order }).shown =
      s.inside.elim { s.relay.view with order } (Phase.shown { s.relay.view with order }) := rfl
  rw [hv, shown]
  cases s.inside with
  | none => rfl
  | some p => exact p.shown_shuffle s.relay.view order

/-- What is shown changes only when a task takes effect. -/
theorem effect_advance (atomic : ∀ op ∈ ops, op.isAtomic = true) (w : Settled ops s)
    (h : s.advance i = some t) {a : Relay} (ha : a.view = s.shown) : ∃ p p' op,
    s.tasks[i]? = some p ∧ ops[i]? = some op ∧ t.tasks = s.tasks.set i p' ∧
      Phase.Step i s.shared p t.shared p' ∧ Phase.Effect op a t.shown p p' := by
  have orderly := orderly_advance w.orderly h
  obtain ⟨p, p', hp, hs, ht, -⟩ := advance_cases h
  obtain ⟨op, hop, ho⟩ := w.follows.task i p hp
  have hat := atomic op (List.mem_of_getElem? hop)
  have ho' := Phase.of_step hs (Operation.isPublic_of_isAtomic hat) ho
  refine ⟨p, p', op, hp, hop, ht, hs, ?_⟩
  have hinside := inside_advance w.orderly orderly hp ht
  by_cases hout : p.holds = false ∧ p'.holds = false
  · rw [hout.1, hout.2] at hinside
    have hshown : t.shown = s.inside.elim t.relay.view (Phase.shown t.relay.view) := by
      rw [shown, hinside]
      rfl
    rw [hshown]
    refine Phase.effect_outside (f := fun v => s.inside.elim v (Phase.shown v)) hs hat ho hout.1
      hout.2 (fun v id => ?_) ha
    cases s.inside with
    | none => rfl
    | some q => exact q.shown_erase v id
  · have hl : p.holds = true ∨ p'.holds = true := by
      cases hh : p.holds <;> cases hh' : p'.holds <;> simp_all
    have hbefore : s.shown = p.shown s.relay.view := by
      by_cases hh : p.holds = true
      · rw [shown, inside_of_holds w.orderly hp hh]
        rfl
      · have hn : p.holds = false := Bool.eq_false_iff.2 hh
        have front := Phase.front_of_holds hs hn (hl.resolve_left hh)
        rw [shown, inside_of_front hp front hn, Phase.shown_of_not_holds _ ho hn]
        rfl
    have hafter : t.shown = p'.shown t.relay.view := by
      by_cases hh' : p'.holds = true
      · rw [shown, hinside, if_pos hh']
        rfl
      · rw [shown, hinside, if_neg hh', if_pos (hl.resolve_right hh'),
          Phase.shown_of_not_holds _ ho' (Bool.eq_false_iff.2 hh')]
        rfl
    rw [hafter]
    exact Phase.effect_inside hs hat ho hl (w.fits i p op hp hop) (ha.trans hbefore)

end System
end ActivityRelay
