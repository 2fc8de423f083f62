import ActivityRelay.Proofs.Relay.FanOut
import ActivityRelay.Proofs.Task.Gate
import Mathlib.Algebra.GroupWithZero.Nat
import Mathlib.Algebra.Order.BigOperators.Group.Finset

/-! Tasks come to an end. Whoever is in front of the line for the registry can take its turn; if
nobody is in it, so can whoever is in front of the line for the activity, or else anyone. And a
task has only so many turns to take, for it clears no more failed deliveries than there can be
viewers. -/
namespace ActivityRelay

/-- The turns that work under the activity lock takes at most, if there are never more viewers than
a number. -/
def Locked.cost (most : Nat) : Locked → Nat
  | .connect .. => 12
  | .change .. => 4 * most + 6
  | .current | .commit _ | .status _ => 2

namespace Phase

/-- The turns that are left to a task at most when it begins a phase. A step that needs the registry
takes three: one to ask for it, the step itself, and one to give it back. -/
def cost (most : Nat) : Phase → Nat
  | .start (.connect ..) => 13
  | .start (.disconnect _) | .start (.unregister _) => 6
  | .start (.register _) => 4
  | .start (.sendTo ..) => 9
  | .start (.broadcast ..) => 4 * most + 5
  | .start (.dispatch ..) => 4 * most + 8
  | .start .current | .start (.commit _) => 3
  | .start .status => 6
  | .asking work => work.cost most + 1
  | .waiting work => work.cost most
  | .greeting .. => 9
  | .telling .. => 4 * most + 5
  | .clearing failed _ => 4 * failed.length + 2
  | .dropping _ _ failed _ => 4 * failed.length + 3
  | .finishing _ => 1
  | .done _ => 0

theorem cost_start_le (most : Nat) (op : Operation) :
    (start op).cost most ≤ 4 * most + 13 := by
  cases op <;> simp only [cost] <;> omega

theorem script_le_cost (p : Phase) (most : Nat) : p.script.length ≤ p.cost most := by
  cases p with
  | start op => cases op <;> simp only [script, cost, List.length_cons, List.length_nil] <;> omega
  | waiting work => cases work <;> simp [script, cost, Locked.cost]
  | clearing failed ending =>
    cases failed <;> simp only [script, cost, List.length_cons, List.length_nil] <;> omega
  | _ => simp [script, cost]

variable {me most : Nat} {s s' : Shared} {p p' : Phase}

/-- Each phase is paid for with all that is done in it. -/
theorem cost_step (h : p.step me s = some (s', p')) (few : s.relay.registry.size ≤ most) :
    p'.cost most + p.script.length ≤ p.cost most := by
  have failures (record : ClientId → DeliveryError → Record) (event : Event)
      (exclude : Option ClientId) :
      (clearingOf record (s.relay.deliverAll event exclude).2.2).length ≤ most := by
    have hall := s.relay.delivered_add_failed event (s.relay.addressees exclude)
    have haddressed : (s.relay.addressees exclude).length ≤ s.relay.registry.size :=
      (List.length_filter_le ..).trans_eq s.relay.walk_perm.length_eq
    rw [List.length_map] at hall
    rw [clearingOf, List.length_map, Relay.deliverAll]
    omega
  by_cases hsend : ∃ id value, p = .start (.sendTo id value)
  · obtain ⟨id, value, rfl⟩ := hsend
    obtain ⟨ending, rfl | ⟨c, e, -, -, rfl⟩⟩ := step_sendTo h <;> simp [cost, script]
  · cases step_cases h with
    | sendTo id value failed => exact absurd ⟨id, value, rfl⟩ hsend
    | broadcast value exclude =>
      have hf := failures .broadcastFailed (.game value) exclude
      simp only [cost, script, List.length_cons, List.length_nil]
      omega
    | tells origin previous value =>
      have hf := failures .broadcastFailed (.game value) (some origin)
      simp only [cost, script, List.length_cons, List.length_nil]
      omega
    | ask work => cases work <;> simp [cost, script]
    | clears id record failed ending =>
      simp only [cost, script, List.length_cons, List.length_nil]
      omega
    | _ => simp [cost, Locked.cost, script]

theorem size_step (h : Step me s p s' p') :
    s'.relay.registry.size + p'.arrivals ≤ s.relay.registry.size + p.arrivals := by
  rcases registry_of_step h with ⟨hr, -, ha⟩ | ⟨id, hr, -, ha⟩ | ⟨c, hi, -, ha⟩
  · rw [hr]
    omega
  · have hle := s.relay.registry.size_erase_le id
    rw [hr]
    omega
  · have hsize := Registry.size_insert? hi
    omega

end Phase

namespace System
variable {s t : System} {most : Nat}

/-- However the tasks go on, there are never more viewers than a number. -/
def Few (most : Nat) (s : System) : Prop :=
  s.relay.registry.size + (s.tasks.map Phase.arrivals).sum ≤ most

theorem few_start (r : Relay) (ops : List Operation) :
    Few (r.registry.size + ops.length) (start r ops) := by
  have hops : ((ops.map Phase.start).map Phase.arrivals).sum ≤ ops.length := by
    induction ops with
    | nil => simp
    | cons op ops ih =>
      have hop : (Phase.start op).arrivals ≤ 1 := by cases op <;> simp [Phase.arrivals]
      simp only [List.map_cons, List.sum_cons, List.length_cons]
      omega
  exact Nat.add_le_add_left hops _

theorem few_move {m : Move} (few : Few most s) (h : s.move m = some t) : Few most t := by
  rcases move_cases h with ⟨i, h⟩ | hne
  · obtain ⟨p, p', hp, hs, ht, -⟩ := advance_cases h
    have hset := sum_map_set Phase.arrivals hp p'
    have hsize := Phase.size_step hs
    unfold Few at few ⊢
    rw [ht]
    simp only [relay] at few ⊢
    omega
  · obtain ⟨marks, a⟩ := aside_of_move hne h
    obtain ⟨queues, order, hr⟩ := a.frame
    unfold Few
    rw [a.tasks, hr]
    exact few

/-- If the line for the activity is not in the way of all, some task can take a step. -/
theorem exists_advance (o : Orderly s) (unfinished : ∃ p ∈ s.tasks, p.outcome? = none) :
    ∃ i, (s.advance i).isSome = true := by
  obtain ⟨p, hp, undone⟩ := unfinished
  obtain ⟨i, hi⟩ := List.mem_iff_getElem?.1 hp
  cases hl : s.line with
  | nil =>
    refine ⟨i, advance_isSome_iff.2 ⟨p, hi, undone, fun work hw => ?_⟩⟩
    have hline : i ∈ s.line := (o.inLine i).2 ⟨p, hi, by rw [hw]; rfl⟩
    simp [hl] at hline
  | cons j line =>
    obtain ⟨q, hq, hin⟩ := (o.inLine j).1 (by simp [hl])
    refine ⟨j, advance_isSome_iff.2 ⟨q, hq, ?_, fun work hw => by rw [hl]; rfl⟩⟩
    cases q <;> simp_all [Phase.outcome?, Phase.inLine, Phase.holds]

end System

/-- Whether a move is the turn of a task. -/
def Move.isTask : Move → Bool
  | .task _ => true
  | _ => false

namespace Guarded
variable {g k : Guarded} {i : Nat} {most : Nat}

/-- The turns that are left to a task at most: what it has still to do in its phase, and what comes
after that. -/
def left (most : Nat) (g : Guarded) (i : Nat) : Nat :=
  ((g.system.tasks[i]?).elim 0 fun p => p.cost most - p.script.length) +
    (g.scripts[i]?).elim 0 List.length

/-- The turns that are left to all tasks at most. -/
def total (most : Nat) (g : Guarded) : Nat :=
  ∑ i ∈ Finset.range g.system.tasks.length, g.left most i

/-- A turn uses up a part of what the task has to do. -/
theorem left_turn (few : g.system.Few most) (turn : Turn g i k) :
    k.left most i < g.left most i := by
  cases turn with
  | locks free next | unlocks free next =>
    simp only [left, next, List.getElem?_set_self (List.getElem?_eq_some_iff.1 next).1,
      Option.elim_some, List.length_cons]
    omega
  | @works rest s p' free next step phase =>
    obtain ⟨p, q, hp, hs, ht, -⟩ := System.advance_step step
    obtain rfl : q = p' := by simpa [ht, System.getElem?_set_task hp] using phase
    have size : g.system.relay.registry.size ≤ most := Nat.le_of_add_right_le few
    have paid := Phase.cost_step hs size
    have begun := q.script_le_cost most
    simp only [left, next, List.getElem?_set_self (List.getElem?_eq_some_iff.1 next).1, hp, phase,
      Option.elim_some, List.length_cons, List.length_append]
    omega

/-- The turn of a task leaves the others as much to do. -/
theorem left_other {j : Nat} (turn : Turn g i k) (hj : j ≠ i) : k.left most j = g.left most j := by
  cases turn with
  | locks | unlocks => simp only [left, List.getElem?_set_ne (Ne.symm hj)]
  | works free next step phase =>
    obtain ⟨p, p', -, -, ht, -⟩ := System.advance_cases step
    simp only [left, List.getElem?_set_ne (Ne.symm hj), ht]

theorem length_turn (turn : Turn g i k) : k.system.tasks.length = g.system.tasks.length := by
  cases turn with
  | locks | unlocks => rfl
  | works free next step phase => exact System.length_advance step

theorem lt_length_of_turn (h : Sound g) (turn : Turn g i k) : i < g.system.tasks.length := by
  rw [← h.length]
  cases turn with
  | locks free next | works free next | unlocks free next =>
    exact (List.getElem?_eq_some_iff.1 next).1

theorem total_turn (few : g.system.Few most) (h : Sound g) (turn : Turn g i k) :
    k.total most < g.total most := by
  unfold total
  rw [length_turn turn]
  refine Finset.sum_lt_sum (fun j _ => ?_) ⟨i, ?_, left_turn few turn⟩
  · by_cases hj : j = i
    · exact hj ▸ (left_turn few turn).le
    · exact (left_other turn hj).le
  · exact Finset.mem_range.2 (lt_length_of_turn h turn)

/-- What viewers do to queues leaves the tasks as much to do. -/
theorem total_aside {s : System} (ht : s.tasks = g.system.tasks) :
    ({ g with system := s } : Guarded).total most = g.total most := by
  simp only [total, left, ht]

/-- Every turn in a run is paid for from what there was to do at its start. -/
theorem total_run {moves : List Move} (few : g.system.Few most) (h : Sound g)
    (hr : g.run moves = some k) :
    moves.countP Move.isTask + k.total most ≤ g.total most := by
  induction moves generalizing g with
  | nil => cases hr; simp
  | cons m moves ih =>
    obtain ⟨u, hu, hr⟩ := run_cons_iff.1 hr
    have few' : u.system.Few most := by
      rcases system_move hu with he | hm
      · rwa [he]
      · exact System.few_move few hm
    have hrest := ih few' (sound_move h hu) hr
    rcases move_cases hu with ⟨i, rfl, turn⟩ | ⟨hne, s, hs, rfl⟩
    · have hlt := total_turn few h turn
      simp only [List.countP_cons, Move.isTask, if_true]
      omega
    · obtain ⟨marks, a⟩ := System.aside_of_move hne hs
      have hm : m.isTask = false := by
        cases m with
        | task i => exact absurd rfl (hne i)
        | _ => rfl
      have hsame : ({ g with system := s } : Guarded).total most = g.total most :=
        total_aside a.tasks
      simp only [List.countP_cons, hm, Bool.false_eq_true, if_false]
      omega

theorem total_start_le (r : Relay) (ops : List Operation) (most : Nat) :
    (start r ops).total most ≤ ops.length * (4 * most + 13) := by
  have hlength : (start r ops).system.tasks.length = ops.length := by simp [start, System.start]
  have hleft : ∀ i ∈ Finset.range ops.length, (start r ops).left most i ≤ 4 * most + 13 := by
    intro i hi
    have hop := Phase.cost_start_le most (ops.get ⟨i, Finset.mem_range.1 hi⟩)
    have begun := (Phase.start (ops.get ⟨i, Finset.mem_range.1 hi⟩)).script_le_cost most
    simp only [left, start, System.start, List.getElem?_map,
      List.getElem?_eq_getElem (Finset.mem_range.1 hi), Option.map_some, Option.elim_some]
    exact (Nat.sub_add_cancel begun).trans_le hop
  have hsum := Finset.sum_le_card_nsmul _ _ _ hleft
  rw [Finset.card_range, Nat.nsmul_eq_mul] at hsum
  rwa [total, hlength]

/-- Whoever is in front of the line for the registry can take its turn. -/
theorem exists_advance_of_gate (h : Sound g) (waited : g.gate ≠ []) :
    ∃ i, (g.advance i).isSome = true := by
  obtain ⟨t, ts, hg⟩ := List.exists_cons_of_ne_nil waited
  have ht : t ∈ g.gate := by simp [hg]
  have free : g.waits t.task = false :=
    (waits_eq_false_iff h.single ht).2 (hg ▸ mem_admitted_head t ts)
  have hp := List.getElem?_eq_getElem (h.placed t ht)
  obtain ⟨l, hl⟩ := h.exists_script hp
  have stands := h.stands t.task _ l hp hl
  refine ⟨t.task, ?_⟩
  cases stands with
  | outside away => exact absurd rfl (away t ht)
  | asked place script ready => simp [advance, free, hl, ready]
  | used inside => simp [advance, free, hl]

/-- As long as a task is not finished, some task can take its turn. -/
theorem exists_advance (h : Sound g) (unfinished : ∃ p ∈ g.system.tasks, p.outcome? = none) :
    ∃ i, (g.advance i).isSome = true := by
  by_cases hg : g.gate = []
  · obtain ⟨i, hi⟩ := System.exists_advance h.orderly unfinished
    obtain ⟨p, hp, undone, -⟩ := System.advance_isSome_iff.1 hi
    obtain ⟨l, hl⟩ := h.exists_script hp
    have free : g.waits i = false := waits_of_away (by simp [hg])
    refine ⟨i, ?_⟩
    cases h.stands i p l hp hl with
    | outside away =>
      rcases p.script_cases with ⟨done, -⟩ | ⟨-, hs⟩ | ⟨-, a, hs⟩
      · simp [undone] at done
      · simp [advance, free, hl, hs, hi]
      · simp [advance, free, hl, hs, hi]
    | asked place => simp [hg] at place
    | used inside => simp [hg, admitted] at inside
  · exact exists_advance_of_gate h hg

/-- No tasks wait for each other, and all of them finish: in every state of every run, if a task is
not finished then some task can take its turn; there are no more turns in the run than a number
known from the start; and when no turn can be taken, all tasks are finished and both locks are
free. -/
theorem all_tasks_finish {r : Relay} {ops : List Operation} {moves : List Move}
    (h : (start r ops).run moves = some g) :
    ((∃ p ∈ g.system.tasks, p.outcome? = none) → ∃ i, (g.advance i).isSome = true) ∧
    moves.countP Move.isTask ≤ ops.length * (4 * (r.registry.size + ops.length) + 13) ∧
    ((∀ i, g.advance i = none) → (∀ p ∈ g.system.tasks, p.outcome?.isSome = true) ∧
      g.system.line = [] ∧ g.gate = []) := by
  have sound : Sound g := run_invariant (fun _ _ _ hm hs => sound_move hs hm) (sound_start r ops) h
  have hcount := total_run (System.few_start r ops) (sound_start r ops) h
  have htotal := total_start_le r ops (r.registry.size + ops.length)
  refine ⟨exists_advance sound, by omega, fun stuck => ?_⟩
  have finished : ∀ p ∈ g.system.tasks, p.outcome?.isSome = true := by
    intro p hp
    by_contra hn
    obtain ⟨i, hi⟩ := exists_advance sound ⟨p, hp, by simpa using hn⟩
    simp [stuck i] at hi
  refine ⟨finished, ?_, ?_⟩
  · refine List.eq_nil_iff_forall_not_mem.2 fun i hi => ?_
    obtain ⟨p, hp, hin⟩ := (sound.orderly.inLine i).1 hi
    have hdone := finished p (List.mem_of_getElem? hp)
    cases p <;> simp_all [Phase.outcome?, Phase.inLine, Phase.holds]
  · by_contra hg
    obtain ⟨i, hi⟩ := exists_advance_of_gate sound hg
    simp [stuck i] at hi

/-- A viewer, of whom two readers and its own session know. -/
def watchedOps : List Operation := [.status, .disconnect ⟨1⟩, .status]

def watchedRelay : Relay := { Relay.fresh "A" [1] with registry := .single ⟨⟨1⟩, 0, 0, 0⟩ }

/-- While the first reader looks into the registry the session asks for it, and then the second
reader does. -/
def crowdedMoves : List Move := [.task 0, .task 0, .task 1, .task 2]

/-- They get it in this order, and go on to their ends. -/
def quietMoves : List Move :=
  [.task 0, .task 1, .task 1, .task 2, .task 2, .task 0, .task 0, .task 0, .task 1, .task 1,
    .task 1, .task 2, .task 2, .task 2]

/-- The session waits for the reader in front of it, and the reader behind waits for the session. -/
theorem all_tasks_finish_crowded : ∃ g k,
    (start watchedRelay watchedOps).run crowdedMoves = some g ∧ g.run quietMoves = some k ∧
    (g.advance 1).isNone = true ∧ (g.advance 2).isNone = true ∧
    (∃ i, (g.advance i).isSome = true) ∧
    (∀ p ∈ k.system.tasks, p.outcome?.isSome = true) ∧ k.system.line = [] ∧ k.gate = [] := by
  obtain ⟨g, hg⟩ : ∃ g, (start watchedRelay watchedOps).run crowdedMoves = some g := ⟨_, rfl⟩
  obtain ⟨k, hk⟩ : ∃ k, (start watchedRelay watchedOps).run (crowdedMoves ++ quietMoves) = some k :=
    ⟨_, rfl⟩
  have hgk : g.run quietMoves = some k := by cases hg; cases hk; rfl
  refine ⟨g, k, hg, hgk, by cases hg; rfl, by cases hg; rfl, (all_tasks_finish hg).1 ?_,
    (all_tasks_finish hk).2.2 fun i => ?_⟩
  · cases hg
    exact ⟨_, List.mem_cons_self, rfl⟩
  · cases hk
    rcases i with _ | _ | _ | i <;> rfl

end Guarded
end ActivityRelay
