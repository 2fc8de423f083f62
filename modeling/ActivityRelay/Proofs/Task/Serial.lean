import ActivityRelay.Proofs.Task.Atomic

/-! Tasks that run at the same time answer and leave behind the same as if they had run one after
another, in an order in which no task comes before one that was done when it started. -/
namespace ActivityRelay

namespace Move

/-- Whether it is a step of a task, or the registry comes to be gone through in another order. -/
def isStep : Move → Bool
  | .task _ | .shuffle _ => true
  | _ => false

def task? : Move → Option Nat
  | .task i => some i
  | _ => none

def order? : Move → Option (List ClientId)
  | .shuffle order => some order
  | _ => none

end Move

/-- What a run without overlap is made of: whole operations, with the numbers of their tasks, and
between them other orders in which the registry is gone through. -/
inductive Stroke where
  | perform (op : Operation) (task : Nat)
  | shuffle (order : List ClientId)
  deriving DecidableEq, Repr

namespace Stroke

def task? : Stroke → Option (Operation × Nat)
  | .perform op i => some (op, i)
  | .shuffle _ => none

def order? : Stroke → Option (List ClientId)
  | .perform .. => none
  | .shuffle order => some order

/-- The operations of a run, with the numbers of their tasks. -/
def tasks (strokes : List Stroke) : List (Operation × Nat) := strokes.filterMap task?

theorem tasks_snoc (strokes : List Stroke) (op : Operation) (i : Nat) :
    tasks (strokes ++ [.perform op i]) = tasks strokes ++ [(op, i)] := by
  simp [tasks, task?]

theorem tasks_shuffle (strokes : List Stroke) (order : List ClientId) :
    tasks (strokes ++ [.shuffle order]) = tasks strokes := by
  simp [tasks, task?]

end Stroke

namespace Relay

def stroke (done : Relay × List (Nat × Outcome)) : Stroke → Relay × List (Nat × Outcome)
  | .perform op i => ((done.1.perform op).1, done.2 ++ [(i, (done.1.perform op).2)])
  | .shuffle order => ({ done.1 with order }, done.2)

/-- Does operations one after another, and collects their answers under the numbers of the tasks. -/
def serial (r : Relay) (strokes : List Stroke) : Relay × List (Nat × Outcome) :=
  strokes.foldl stroke (r, [])

theorem serial_snoc (r : Relay) (strokes : List Stroke) (x : Stroke) :
    r.serial (strokes ++ [x]) = stroke (r.serial strokes) x := by
  simp [serial]

end Relay

/-- In a schedule, no step of the second task comes before one of the first. -/
def Before (schedule : List Nat) (i j : Nat) : Prop := ¬ [j, i].Sublist schedule

theorem not_before_of_mem {before after : List Nat} {i j : Nat} (h : j ∈ before) :
    ¬ Before (before ++ i :: after) i j :=
  not_not.2 ((List.singleton_sublist.2 h).append (List.singleton_sublist.2 (by simp)))

theorem not_before_of_mem_rest {before after : List Nat} {i j : Nat} (h : j ∈ after) :
    ¬ Before (before ++ i :: after) j i :=
  not_not.2 ((List.nil_sublist before).append ((List.singleton_sublist.2 h).cons_cons i))

namespace System
variable {s t : System} {i : Nat} {ops : List Operation} {r : Relay} {moves : List Move}

/-- The tasks that take steps, in the order of the steps. -/
def schedule (moves : List Move) : List Nat := moves.filterMap Move.task?

/-- Steps of other tasks leave a task where it is. -/
theorem tasks_run_other {j : Nat} (h : s.run moves = some t) (hj : j ∉ schedule moves) :
    t.tasks[j]? = s.tasks[j]? := by
  induction moves generalizing s with
  | nil => cases h; rfl
  | cons m moves ih =>
    obtain ⟨u, hu, h⟩ := run_cons_iff.1 h
    have later : j ∉ schedule moves := fun hm => hj <| by
      rw [schedule, List.filterMap_cons]
      split
      · exact hm
      · exact List.mem_cons_of_mem _ hm
    rw [ih h later]
    by_cases hm : ∀ i, m ≠ .task i
    · obtain ⟨marks, a⟩ := aside_of_move hm hu
      rw [a.tasks]
    · obtain ⟨i, rfl⟩ : ∃ i, m = .task i := by simpa using hm
      have hne : j ≠ i := by
        rintro rfl
        exact hj (by simp [schedule, Move.task?])
      obtain ⟨p, p', hp, -, ht, -⟩ := advance_cases hu
      rw [ht, getElem?_set_task hp, if_neg hne]

/-- After a part of a schedule, the tasks that have taken effect are in order. -/
structure Serialized (schedule steps : List Nat) (r : Relay) (ops : List Operation) (s : System)
    (strokes : List Stroke) : Prop where
  settled : Settled ops s
  begun : ∀ (i : Nat) p, s.tasks[i]? = some p → (∀ op, p ≠ .start op) → i ∈ steps
  placed : ∀ op i, (op, i) ∈ Stroke.tasks strokes ↔
    ops[i]? = some op ∧ ∃ p, s.tasks[i]? = some p ∧ p.result? ≠ none
  once : (Stroke.tasks strokes).Nodup
  timely : (Stroke.tasks strokes).Pairwise fun a b => ¬ Before schedule b.2 a.2
  answers : ∀ i o, (i, o) ∈ (r.serial strokes).2 ↔
    ∃ p, s.tasks[i]? = some p ∧ p.result? = some o
  shown : (r.serial strokes).1.view = s.shown

theorem serialized_start (schedule : List Nat) (r : Relay) (ops : List Operation) :
    Serialized schedule [] r ops (start r ops) [] := by
  refine ⟨settled_start r ops, fun i p hp hne => ?_, fun op i => ?_, List.nodup_nil,
    List.Pairwise.nil, fun i o => ?_, rfl⟩
  · obtain ⟨op, -, rfl⟩ := task_start hp
    exact absurd rfl (hne op)
  · refine iff_of_false List.not_mem_nil ?_
    rintro ⟨-, p, hp, hr⟩
    obtain ⟨op, -, rfl⟩ := task_start hp
    exact hr rfl
  · refine iff_of_false List.not_mem_nil ?_
    rintro ⟨p, hp, hr⟩
    obtain ⟨op, -, rfl⟩ := task_start hp
    simp [Phase.result?] at hr

theorem serialized_shuffle {schedule steps : List Nat} {strokes : List Stroke}
    (z : Serialized schedule steps r ops s strokes) (order : List ClientId) :
    Serialized schedule steps r ops (s.setRelay { s.relay with order })
      (strokes ++ [.shuffle order]) where
  settled := settled_shuffle z.settled order
  begun := z.begun
  placed := by rw [Stroke.tasks_shuffle]; exact z.placed
  once := by rw [Stroke.tasks_shuffle]; exact z.once
  timely := by rw [Stroke.tasks_shuffle]; exact z.timely
  answers := by rw [Relay.serial_snoc]; exact z.answers
  shown := by
    rw [Relay.serial_snoc, shown_shuffle, ← z.shown]
    rfl

section step
variable {schedule steps rest : List Nat} {strokes : List Stroke} {p p' : Phase} {op : Operation}

/-- A step that settles nothing leaves the order as it is. -/
theorem serialized_pending (z : Serialized schedule steps r ops s strokes)
    (settled : Settled ops t) (begun : ∀ (j : Nat) q, t.tasks[j]? = some q →
      (∀ op, q ≠ .start op) → j ∈ steps ++ [i])
    (hp : s.tasks[i]? = some p) (ht : t.tasks = s.tasks.set i p') (hr : p'.result? = p.result?)
    (hv : (r.serial strokes).1.view = t.shown) :
    Serialized schedule (steps ++ [i]) r ops t strokes := by
  have same : ∀ (j : Nat) (P : Option Outcome → Prop),
      (∃ q, t.tasks[j]? = some q ∧ P q.result?) ↔ ∃ q, s.tasks[j]? = some q ∧ P q.result? := by
    intro j P
    rw [ht, getElem?_set_task hp]
    split
    · next hj => subst hj; simp [hp, hr]
    · exact Iff.rfl
  exact ⟨settled, begun, fun op j => by rw [z.placed, same j (· ≠ none)], z.once, z.timely,
    fun j o => by rw [z.answers, same j (· = some o)], hv⟩

/-- A step that settles its task puts the operation behind those that are settled. -/
theorem serialized_settling (z : Serialized schedule steps r ops s strokes)
    (hs : schedule = steps ++ i :: rest) (settled : Settled ops t)
    (begun : ∀ (j : Nat) q, t.tasks[j]? = some q → (∀ op, q ≠ .start op) → j ∈ steps ++ [i])
    (hp : s.tasks[i]? = some p) (hop : ops[i]? = some op) (ht : t.tasks = s.tasks.set i p')
    (hnone : p.result? = none) (hr : p'.result? = some ((r.serial strokes).1.perform op).2)
    (hv : ((r.serial strokes).1.perform op).1.view = t.shown) :
    Serialized schedule (steps ++ [i]) r ops t (strokes ++ [.perform op i]) := by
  have hphase := getElem?_set_task hp p'
  have unplaced : ∀ op', (op', i) ∉ Stroke.tasks strokes := by
    intro op' hm
    obtain ⟨-, q, hq, hne⟩ := (z.placed op' i).1 hm
    rw [hp] at hq
    cases hq
    exact hne hnone
  have unanswered : ∀ o, (i, o) ∉ (r.serial strokes).2 := by
    intro o hm
    obtain ⟨q, hq, hres⟩ := (z.answers i o).1 hm
    rw [hp] at hq
    cases hq
    simp [hnone] at hres
  have performed : r.serial (strokes ++ [.perform op i]) =
      (((r.serial strokes).1.perform op).1,
        (r.serial strokes).2 ++ [(i, ((r.serial strokes).1.perform op).2)]) :=
    r.serial_snoc strokes (.perform op i)
  have htasks := Stroke.tasks_snoc strokes op i
  refine ⟨settled, begun, fun op' j => ?_, ?_, ?_, fun j o => ?_, ?_⟩
  · rw [htasks, List.mem_append, List.mem_singleton, Prod.mk.injEq, ht, hphase]
    split
    · next hj =>
      subst hj
      simp [unplaced, hop, hr, eq_comm]
    · next hj => simp [z.placed, hj]
  · rw [htasks, List.nodup_append]
    refine ⟨z.once, List.nodup_singleton _, fun a ha b hb => ?_⟩
    rw [List.mem_singleton.1 hb]
    rintro rfl
    exact unplaced op ha
  · rw [htasks, List.pairwise_append]
    refine ⟨z.timely, List.pairwise_singleton .., fun a ha b hb => ?_⟩
    rw [List.mem_singleton.1 hb, hs]
    obtain ⟨-, q, hq, hne⟩ := (z.placed a.1 a.2).1 ha
    refine not_before_of_mem (z.begun a.2 q hq fun op' he => hne ?_)
    rw [he]
    rfl
  · rw [performed, List.mem_append, List.mem_singleton, Prod.mk.injEq, ht, hphase]
    split
    · next hj =>
      subst hj
      simp [unanswered, hr, eq_comm]
    · next hj => simp [z.answers, hj]
  · rw [performed]
    exact hv

/-- A step of a task settles nothing, or its operation is the next one in order. -/
theorem serialized_advance (atomic : ∀ op ∈ ops, op.isAtomic = true)
    (z : Serialized schedule steps r ops s strokes) (hs : schedule = steps ++ i :: rest)
    (calm : ∀ id activity (j : Nat), s.tasks[i]? = some (.start (.disconnect id)) →
      s.tasks[j]? ≠ some (.greeting id activity))
    (h : s.advance i = some t) :
    Serialized schedule (steps ++ [i]) r ops t strokes ∨
      ∃ op, Serialized schedule (steps ++ [i]) r ops t (strokes ++ [.perform op i]) := by
  have settled := settled_advance atomic z.settled calm h
  obtain ⟨p, p', op, hp, hop, ht, -, heffect⟩ := effect_advance atomic z.settled h z.shown
  have begun : ∀ (j : Nat) q, t.tasks[j]? = some q → (∀ op, q ≠ .start op) → j ∈ steps ++ [i] := by
    intro j q hq hne
    rw [ht, getElem?_set_task hp] at hq
    split at hq
    · next hj => simp [hj]
    · exact List.mem_append_left _ (z.begun j q hq hne)
  rcases heffect with ⟨hr, hv⟩ | ⟨hnone, hr, hv⟩
  · exact .inl (serialized_pending z settled begun hp ht hr hv)
  · exact .inr ⟨op, serialized_settling z hs settled begun hp hop ht hnone hr hv⟩

end step

/-- A disconnect does not begin while a connect of the same viewer is between its registration and
its greeting, as that connect has steps on both sides of it. -/
theorem calm_of_apart {all steps : List Nat} {strokes : List Stroke}
    (apart : ∀ (i j : Nat) id queue, ops[i]? = some (.connect id queue) →
      ops[j]? = some (.disconnect id) → Before all i j ∨ Before all j i)
    (z : Serialized all steps r ops s strokes)
    (hs : all = steps ++ schedule (.task i :: moves))
    (h : s.run (.task i :: moves) = some t) (done : ∀ p ∈ t.tasks, p.outcome?.isSome = true)
    (id : ClientId) (activity : String) (j : Nat)
    (hi : s.tasks[i]? = some (.start (.disconnect id))) :
    s.tasks[j]? ≠ some (.greeting id activity) := by
  intro hj
  have hs : all = steps ++ i :: schedule moves := hs
  obtain ⟨op, hop, ho⟩ := z.settled.follows.task i _ hi
  cases ho
  obtain ⟨op', hop', queue, rfl⟩ := z.settled.follows.task j _ hj
  have hne : j ≠ i := by
    rintro rfl
    rw [hi] at hj
    cases hj
  have hlater : j ∈ schedule moves := by
    by_contra hn
    have hout : t.tasks[j]? = s.tasks[j]? :=
      tasks_run_other h (by simpa [schedule, Move.task?, hne] using hn)
    rw [hj] at hout
    simpa [Phase.outcome?] using done _ (List.mem_of_getElem? hout)
  rcases apart j i id queue hop' hop with hb | hb
  · exact not_before_of_mem_rest hlater (hs ▸ hb)
  · exact not_before_of_mem (z.begun j _ hj (by simp)) (hs ▸ hb)

/-- The rest of a run keeps the tasks in order, to the end. -/
theorem serialized_run {all steps : List Nat} {strokes : List Stroke}
    (stepwise : ∀ m ∈ moves, m.isStep = true) (atomic : ∀ op ∈ ops, op.isAtomic = true)
    (apart : ∀ (i j : Nat) id queue, ops[i]? = some (.connect id queue) →
      ops[j]? = some (.disconnect id) → Before all i j ∨ Before all j i)
    (z : Serialized all steps r ops s strokes) (hs : all = steps ++ schedule moves)
    (h : s.run moves = some t) (done : ∀ p ∈ t.tasks, p.outcome?.isSome = true) :
    ∃ more, Serialized all all r ops t (strokes ++ more) ∧
      more.filterMap Stroke.order? = moves.filterMap Move.order? := by
  induction moves generalizing steps s strokes with
  | nil =>
    cases h
    have hs : all = steps := hs.trans (List.append_nil steps)
    exact ⟨[], by rw [List.append_nil]; exact hs ▸ z, rfl⟩
  | cons m moves ih =>
    obtain ⟨hstep, later⟩ := List.forall_mem_cons.1 stepwise
    obtain ⟨u, hu, hrest⟩ := run_cons_iff.1 h
    cases m with
    | task i =>
      have hnext : all = steps ++ [i] ++ schedule moves := by
        rw [hs, List.append_assoc]
        rfl
      rcases serialized_advance atomic z hs (calm_of_apart apart z hs h done) hu with
        z' | ⟨op, z'⟩
      · exact ih later z' hnext hrest
      · obtain ⟨more, zm, horder⟩ := ih later z' hnext hrest
        exact ⟨.perform op i :: more, by simpa using zm, horder⟩
    | shuffle order =>
      cases hu
      obtain ⟨more, zm, horder⟩ := ih later (serialized_shuffle z order) hs hrest
      exact ⟨.shuffle order :: more, by simpa using zm, congrArg (order :: ·) horder⟩
    | receive | shut | close => simp [Move.isStep] at hstep

/-- Tasks in any schedule, where no disconnect of a viewer overlaps a connect of it, have an order
that respects who was done before whom, in which the operations one by one give the same answers
and leave the same activity, registry and queues. The registry may at any time come to be gone
through in another order; then it does in the run one by one as well, as often and in the same
ways. -/
theorem serializable (stepwise : ∀ m ∈ moves, m.isStep = true)
    (atomic : ∀ op ∈ ops, op.isAtomic = true)
    (apart : ∀ (i j : Nat) id queue, ops[i]? = some (.connect id queue) →
      ops[j]? = some (.disconnect id) →
        Before (schedule moves) i j ∨ Before (schedule moves) j i)
    (h : (start r ops).run moves = some s) (done : ∀ p ∈ s.tasks, p.outcome?.isSome = true) :
    ∃ strokes : List Stroke, (Stroke.tasks strokes).Perm ops.zipIdx ∧
      (Stroke.tasks strokes).Pairwise (fun a b => ¬ Before (schedule moves) b.2 a.2) ∧
      strokes.filterMap Stroke.order? = moves.filterMap Move.order? ∧
      (∀ (i : Nat) o, (i, o) ∈ (r.serial strokes).2 ↔ s.tasks[i]? = some (.done o)) ∧
      (r.serial strokes).1.view = s.relay.view := by
  obtain ⟨strokes, z, horder⟩ := serialized_run stepwise atomic apart
    (serialized_start (schedule moves) r ops) rfl h done
  rw [List.nil_append] at z
  have finished : ∀ (i : Nat) p, s.tasks[i]? = some p → ∃ o, p = .done o := by
    intro i p hp
    have hd := done p (List.mem_of_getElem? hp)
    cases p with
    | done o => exact ⟨o, rfl⟩
    | _ => simp [Phase.outcome?] at hd
  refine ⟨strokes, ?_, z.timely, horder, fun i o => ?_, ?_⟩
  · have numbered : ops.zipIdx.Nodup := by
      refine List.Nodup.of_map Prod.snd ?_
      rw [List.zipIdx_map_snd]
      exact List.nodup_range'
    rw [List.perm_ext_iff_of_nodup z.once numbered]
    rintro ⟨op, i⟩
    rw [z.placed, List.mk_mem_zipIdx_iff_getElem?]
    refine ⟨And.left, fun hop => ⟨hop, ?_⟩⟩
    have hi : i < s.tasks.length := by
      rw [z.settled.follows.length]
      exact (List.getElem?_eq_some_iff.1 hop).1
    obtain ⟨o, ho⟩ := finished i _ (List.getElem?_eq_getElem hi)
    exact ⟨_, List.getElem?_eq_getElem hi, by rw [ho]; simp [Phase.result?]⟩
  · rw [z.answers]
    constructor
    · rintro ⟨p, hp, hr⟩
      obtain ⟨o', rfl⟩ := finished i p hp
      cases hr
      exact hp
    · exact fun hp => ⟨_, hp, rfl⟩
  · have hnone : s.inside = none := by
      rw [Option.eq_none_iff_forall_ne_some]
      intro q hq
      obtain ⟨i, hp, hh⟩ := (inside_eq_some_iff z.settled.orderly q).1 hq
      obtain ⟨o, rfl⟩ := finished i q hp
      simp [Phase.holds] at hh
    rw [z.shown, System.shown, hnone]
    rfl

def leavingOps : List Operation :=
  [.connect ⟨1⟩ 0, .dispatch ⟨2⟩ "aag n B", .disconnect ⟨1⟩]

/-- A viewer leaves between the commit of a command and the telling of it, while the registry comes
to be gone through in another order. -/
def leavingMoves : List Move :=
  [0, 1, 1, 0, 0, 0, 0, 1].map .task ++ .shuffle [⟨2⟩, ⟨1⟩] :: [2, 1, 1, 2, 2, 1, 2].map .task

theorem leaving_apart (i j : Nat) (id : ClientId) (queue : Nat)
    (hi : leavingOps[i]? = some (.connect id queue)) (hj : leavingOps[j]? = some (.disconnect id)) :
    Before (schedule leavingMoves) i j ∨ Before (schedule leavingMoves) j i := by
  obtain rfl : i = 0 := by rcases i with _ | _ | _ | i <;> simp [leavingOps] at hi ⊢
  obtain rfl : j = 2 := by rcases j with _ | _ | _ | j <;> simp [leavingOps] at hj ⊢
  exact .inl (show ¬ _ by decide)

theorem serializable_leaving : ∃ s strokes,
    (start (.fresh "A" [4]) leavingOps).run leavingMoves = some s ∧
    (Stroke.tasks strokes).Perm leavingOps.zipIdx ∧
    strokes.filterMap Stroke.order? = [[⟨2⟩, ⟨1⟩]] ∧
    (∀ (i : Nat) o, (i, o) ∈ (Relay.serial (.fresh "A" [4]) strokes).2 ↔
      s.tasks[i]? = some (.done o)) ∧
    (Relay.serial (.fresh "A" [4]) strokes).1.view = s.relay.view := by
  have hr : ((start (.fresh "A" [4]) leavingOps).run leavingMoves).map
      (fun s => s.tasks.all (·.outcome?.isSome)) = some true := by decide
  obtain ⟨s, hs, hdone⟩ := Option.map_eq_some_iff.1 hr
  obtain ⟨strokes, hperm, -, horder, hanswers, hview⟩ := serializable (by decide) (by decide)
    leaving_apart hs fun p hp => List.all_eq_true.1 hdone p hp
  exact ⟨s, strokes, hs, hperm, horder.trans (by decide), hanswers, hview⟩

end System
end ActivityRelay
