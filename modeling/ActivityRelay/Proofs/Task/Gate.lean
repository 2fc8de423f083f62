import ActivityRelay.Proofs.Task.Lock
import ActivityRelay.Task.Gate
import Mathlib.Data.List.TakeWhile

/-! The line for the registry. Who changes the registry is alone in it, and who waits for it could
take its step at once: no task that stands in this line waits for the activity as well. No guard
outlives the phase that took it, so nobody waits for the registry while holding it. -/
namespace ActivityRelay

/-- A phase that asks for the registry gives it back in the end. -/
theorem Phase.script_cases (p : Phase) :
    p.outcome?.isSome = true ∧ p.script = [] ∨ p.outcome? = none ∧ p.script = [.work] ∨
      p.outcome? = none ∧ ∃ a, p.script = [.lock a, .work, .unlock a] := by
  unfold script
  split <;> simp_all [outcome?]

/-- Only a step that is taken under the lock for changes changes the registry. -/
theorem Phase.registry_step {me : Nat} {s s' : Shared} {p p' : Phase} (h : Step me s p s' p')
    (unlocked : p.script ≠ [.lock .write, .work, .unlock .write]) :
    s'.relay.registry = s.relay.registry := by
  rcases registry_of_step h with ⟨same, -⟩ | ⟨id, -, removes, -⟩ | ⟨c, -, -, arrives⟩
  · exact same
  · cases h with
    | disconnect | unregister | clears => exact absurd rfl unlocked
    | _ => simp [removes?, Operation.removes?] at removes
  · cases h with
    | register | registers | refuses => exact absurd rfl unlocked
    | ask work => cases work <;> simp [arrivals] at arrives
    | _ => simp [arrivals] at arrives

section admitted
variable {ts : List Ticket} {t u : Ticket}

theorem admitted_write (h : t.access = .write) (ts : List Ticket) : admitted (t :: ts) = [t] := by
  simp [admitted, h]

theorem admitted_read (h : t.access = .read) (ts : List Ticket) :
    admitted (t :: ts) = (t :: ts).takeWhile (·.access = .read) := by simp [admitted, h]

/-- Whoever is let in stands in front. -/
theorem admitted_in_front (ts : List Ticket) : admitted ts <+: ts := by
  cases ts with
  | nil => exact List.prefix_rfl
  | cons t ts =>
    cases h : t.access with
    | write => rw [admitted_write h]; exact ⟨ts, rfl⟩
    | read => rw [admitted_read h]; exact List.takeWhile_prefix _

theorem mem_admitted_head (t : Ticket) (ts : List Ticket) : t ∈ admitted (t :: ts) := by
  cases h : t.access with
  | write => simp [admitted_write h]
  | read => simp [admitted_read h, h]

/-- The readers in front are let in. -/
theorem mem_admitted_of_mem_takeWhile (h : t ∈ ts.takeWhile (·.access = .read)) :
    t ∈ admitted ts := by
  cases ts with
  | nil => simp at h
  | cons u ts =>
    cases hu : u.access with
    | write => simp [hu] at h
    | read => rwa [admitted_read hu]

/-- Who joins the line behind keeps nobody out. -/
theorem mem_admitted_append (h : t ∈ admitted ts) (us : List Ticket) :
    t ∈ admitted (ts ++ us) := by
  cases ts with
  | nil => simp [admitted] at h
  | cons u ts =>
    cases hu : u.access with
    | write => rwa [List.cons_append, admitted_write hu, ← admitted_write hu ts]
    | read =>
      rw [admitted_read hu] at h
      rw [List.cons_append, admitted_read hu, ← List.cons_append, List.takeWhile_append]
      split
      · exact List.mem_append_left _ ((List.takeWhile_sublist _).subset h)
      · exact h

/-- Who leaves the line keeps nobody out either. -/
theorem mem_admitted_filter {p : Ticket → Bool} (h : t ∈ admitted ts) (hp : p t = true) :
    t ∈ admitted (ts.filter p) := by
  have readers {us : List Ticket} (hu : t ∈ us.takeWhile (·.access = .read)) :
      t ∈ (us.filter p).takeWhile (·.access = .read) := by
    induction us with
    | nil => simp at hu
    | cons u us ih =>
      by_cases hr : u.access = .read
      · simp only [List.takeWhile_cons, hr, decide_true, if_true, List.mem_cons] at hu
        rcases hu with rfl | hu
        · simp [hp, hr]
        · by_cases hpu : p u = true
          · simp [hpu, hr, ih hu]
          · simpa [hpu] using ih hu
      · simp [hr] at hu
  cases ts with
  | nil => simp [admitted] at h
  | cons u ts =>
    cases hu : u.access with
    | write =>
      rw [admitted_write hu, List.mem_singleton] at h
      subst h
      rw [List.filter_cons_of_pos hp]
      exact mem_admitted_head t _
    | read =>
      rw [admitted_read hu] at h
      exact mem_admitted_of_mem_takeWhile (readers h)

/-- A place that is let in to change the registry is the only one. -/
theorem eq_of_admitted_write (ht : t ∈ admitted ts) (hu : u ∈ admitted ts)
    (write : t.access = .write) : u = t := by
  cases ts with
  | nil => simp [admitted] at ht
  | cons v ts =>
    cases hv : v.access with
    | write =>
      rw [admitted_write hv, List.mem_singleton] at ht hu
      rw [ht, hu]
    | read =>
      rw [admitted_read hv] at ht
      have hread := List.mem_takeWhile_imp ht
      simp [write] at hread

end admitted

namespace System
variable {s t : System} {i j : Nat}

/-- Nothing keeps a task from its next step but the line for the activity. -/
theorem advance_isSome_iff : (s.advance i).isSome = true ↔ ∃ p, s.tasks[i]? = some p ∧
    p.outcome? = none ∧ ∀ work, p = .waiting work → s.line.head? = some i := by
  unfold advance
  cases hp : s.tasks[i]? with
  | none => simp
  | some p =>
    cases p with
    | waiting work =>
      by_cases hf : s.line.head? = some i
      · have hf' : s.shared.line.head? = some i := hf
        simp [Phase.step, Phase.outcome?, hf, hf']
      · have hf' : s.shared.line.head? ≠ some i := hf
        simp [Phase.step, Phase.outcome?, hf, hf']
    | clearing failed ending => cases failed <;> simp [Phase.step, Phase.outcome?]
    | _ => simp [Phase.step, Phase.outcome?]

/-- A step of one task does not keep another one from its own. -/
theorem advance_isSome_other (o : Orderly s) (h : s.advance i = some t) (hj : j ≠ i)
    (hs : (s.advance j).isSome = true) : (t.advance j).isSome = true := by
  obtain ⟨q, hq, undone, front⟩ := advance_isSome_iff.1 hs
  obtain ⟨p, p', hp, hstep, ht, -⟩ := advance_cases h
  refine advance_isSome_iff.2 ⟨q, by rw [ht, getElem?_set_task hp, if_neg hj, hq], undone, ?_⟩
  intro work hw
  have hfront := front work hw
  rcases Phase.line_step hstep with ⟨-, -, -, hl⟩ | ⟨hh, -, -⟩ | ⟨-, hl, -⟩
  · have hl : t.line = s.line ++ [i] := hl
    rw [hl, List.head?_append, hfront]
    rfl
  · -- only the task in front leaves the line
    exact absurd (Option.some.inj (hfront.symm.trans (o.front i p hp hh))) hj
  · exact (congrArg List.head? hl).trans hfront

theorem length_advance (h : s.advance i = some t) : t.tasks.length = s.tasks.length := by
  obtain ⟨p, p', -, -, ht, -⟩ := advance_cases h
  rw [ht, List.length_set]

theorem advance_isSome_congr (ht : t.tasks = s.tasks) (hl : t.line = s.line) :
    (t.advance i).isSome = (s.advance i).isSome := by
  rw [Bool.eq_iff_iff, advance_isSome_iff, advance_isSome_iff, ht, hl]

end System

namespace Guarded
variable {g k : Guarded} {i j : Nat} {p : Phase} {l rest : List Instr} {a : Access}

/-- All that a task can do next. -/
inductive Turn (g : Guarded) (i : Nat) : Guarded → Prop
  | locks {a : Access} {rest : List Instr} (free : g.waits i = false)
      (next : g.scripts[i]? = some (.lock a :: rest))
      (ready : (g.system.advance i).isSome = true) :
      Turn g i { g with gate := g.gate ++ [⟨i, a⟩], scripts := g.scripts.set i rest }
  | works {rest : List Instr} {s : System} {p : Phase} (free : g.waits i = false)
      (next : g.scripts[i]? = some (.work :: rest)) (step : g.system.advance i = some s)
      (phase : s.tasks[i]? = some p) :
      Turn g i { g with system := s, scripts := g.scripts.set i (rest ++ p.script) }
  | unlocks {a : Access} {rest : List Instr} (free : g.waits i = false)
      (next : g.scripts[i]? = some (.unlock a :: rest)) :
      Turn g i { g with gate := g.gate.erase ⟨i, a⟩, scripts := g.scripts.set i rest }

theorem turn_of_advance (h : g.advance i = some k) : Turn g i k := by
  unfold advance at h
  split at h
  · simp at h
  next free =>
  have free : g.waits i = false := by simpa using free
  split at h
  · next access rest next =>
    obtain ⟨s, step, rfl⟩ := Option.map_eq_some_iff.1 h
    exact .locks free next (by simp [step])
  · next rest next =>
    obtain ⟨s, step, rfl⟩ := Option.map_eq_some_iff.1 h
    obtain ⟨p, p', hp, -, ht, -⟩ := System.advance_cases step
    have phase : s.tasks[i]? = some p' := by simp [ht, System.getElem?_set_task hp]
    simp only [phase, Option.elim_some]
    exact .works free next step phase
  · next access rest next =>
    cases h
    exact .unlocks free next
  · simp at h

/-- A move is the turn of a task, or something that concerns no task. -/
theorem move_cases {m : Move} (h : g.move m = some k) : (∃ i, m = .task i ∧ Turn g i k) ∨
    (∀ i, m ≠ .task i) ∧ ∃ s, g.system.move m = some s ∧ k = { g with system := s } := by
  cases m with
  | task i => exact .inl ⟨i, rfl, turn_of_advance h⟩
  | shuffle _ | receive q | shut q | close q =>
    simp only [move, Option.map_eq_some_iff] at h
    obtain ⟨s, hs, rfl⟩ := h
    exact .inr ⟨by simp, s, hs, rfl⟩

/-- Who does not stand in the line does not wait. -/
theorem waits_of_away (away : ∀ t ∈ g.gate, t.task ≠ i) : g.waits i = false := by
  rw [waits, List.any_eq_false]
  exact fun t ht => by simpa using away t (List.mem_of_mem_drop ht)

/-- Who stands in the line once waits unless it is let in. -/
theorem waits_eq_false_iff (single : (g.gate.map (·.task)).Nodup) {t : Ticket} (ht : t ∈ g.gate) :
    g.waits t.task = false ↔ t ∈ admitted g.gate := by
  have hsplit := List.prefix_iff_eq_append.1 (admitted_in_front g.gate)
  rw [waits, List.any_eq_false]
  constructor
  · intro h
    rw [← hsplit] at ht
    refine (List.mem_append.1 ht).resolve_right fun hw => ?_
    simpa using h t hw
  · intro h u hu
    rw [← hsplit, List.map_append, List.nodup_append] at single
    have hne := single.2.2 _ (List.mem_map_of_mem h) _ (List.mem_map_of_mem hu)
    simpa using Ne.symm hne

/-- How far a task has come through its phase: it has not begun; it has asked for the registry, and
could take its step at once; or it has taken the step, and gives the registry back before it begins
the phase to which that step has led. -/
inductive Stands (g : Guarded) (i : Nat) (p : Phase) : List Instr → Prop
  | outside (away : ∀ t ∈ g.gate, t.task ≠ i) : Stands g i p p.script
  | asked {a : Access} (place : ⟨i, a⟩ ∈ g.gate) (script : p.script = [.lock a, .work, .unlock a])
      (ready : (g.system.advance i).isSome = true) : Stands g i p [.work, .unlock a]
  | used {a : Access} (inside : ⟨i, a⟩ ∈ admitted g.gate) : Stands g i p (.unlock a :: p.script)

namespace Stands

theorem of_lock (h : Stands g i p l) (hl : l = .lock a :: rest) :
    (∀ t ∈ g.gate, t.task ≠ i) ∧ p.script = [.lock a, .work, .unlock a] ∧
      rest = [.work, .unlock a] := by
  cases h with
  | outside away =>
    rcases p.script_cases with ⟨-, hs⟩ | ⟨-, hs⟩ | ⟨-, b, hs⟩ <;> rw [hs] at hl <;> cases hl
    exact ⟨away, hs, rfl⟩
  | asked | used => simp at hl

theorem of_work (h : Stands g i p l) (hl : l = .work :: rest) :
    (∀ t ∈ g.gate, t.task ≠ i) ∧ rest = [] ∨
      ∃ a, ⟨i, a⟩ ∈ g.gate ∧ p.script = [.lock a, .work, .unlock a] ∧ rest = [.unlock a] := by
  cases h with
  | outside away =>
    rcases p.script_cases with ⟨-, hs⟩ | ⟨-, hs⟩ | ⟨-, b, hs⟩ <;> rw [hs] at hl <;> cases hl
    exact .inl ⟨away, rfl⟩
  | asked place script ready =>
    cases hl
    exact .inr ⟨_, place, script, rfl⟩
  | used => simp at hl

theorem of_unlock (h : Stands g i p l) (hl : l = .unlock a :: rest) :
    ⟨i, a⟩ ∈ admitted g.gate ∧ rest = p.script := by
  cases h with
  | outside away =>
    rcases p.script_cases with ⟨-, hs⟩ | ⟨-, hs⟩ | ⟨-, b, hs⟩ <;> rw [hs] at hl <;> cases hl
  | asked => simp at hl
  | used inside =>
    cases hl
    exact ⟨inside, rfl⟩

/-- What others do in the line and to the system leaves a task where it stands. -/
theorem other (h : Stands g i p l) (gate : ∀ t : Ticket, t.task = i → (t ∈ k.gate ↔ t ∈ g.gate))
    (inside : ∀ t : Ticket, t.task = i → t ∈ admitted g.gate → t ∈ admitted k.gate)
    (ready : (g.system.advance i).isSome = true → (k.system.advance i).isSome = true) :
    Stands k i p l := by
  cases h with
  | outside away => exact .outside fun t ht hti => away t ((gate t hti).1 ht) hti
  | asked place script r => exact .asked ((gate _ rfl).2 place) script (ready r)
  | used h => exact .used (inside _ rfl h)

end Stands

/-- The line for the registry and the tasks fit together. -/
structure Sound (g : Guarded) : Prop where
  orderly : g.system.Orderly
  length : g.scripts.length = g.system.tasks.length
  placed : ∀ t ∈ g.gate, t.task < g.system.tasks.length
  single : (g.gate.map (·.task)).Nodup
  stands : ∀ (i : Nat) p l, g.system.tasks[i]? = some p → g.scripts[i]? = some l →
    g.Stands i p l

theorem sound_start (r : Relay) (ops : List Operation) : Sound (start r ops) where
  orderly := System.orderly_start r ops
  length := by simp [start, System.start]
  placed := by simp [start]
  single := List.nodup_nil
  stands i p l hp hl := by
    obtain ⟨op, hop, rfl⟩ := System.task_start hp
    simp only [start, List.getElem?_map, Option.map_eq_some_iff] at hl
    obtain ⟨op', hop', rfl⟩ := hl
    cases hop.symm.trans hop'
    exact .outside (by simp [start])

theorem Sound.exists_phase (h : Sound g) (hl : g.scripts[i]? = some l) :
    ∃ p, g.system.tasks[i]? = some p :=
  ⟨_, List.getElem?_eq_getElem (h.length ▸ (List.getElem?_eq_some_iff.1 hl).1)⟩

theorem Sound.exists_script (h : Sound g) (hp : g.system.tasks[i]? = some p) :
    ∃ l, g.scripts[i]? = some l :=
  ⟨_, List.getElem?_eq_getElem (h.length ▸ (List.getElem?_eq_some_iff.1 hp).1)⟩

/-- Where one task has another script, it is enough to say where that task stands, and that the
others stand somewhere with theirs. -/
theorem stands_of_set {next : List Instr} (scripts : k.scripts = g.scripts.set i next)
    (own : ∀ p, k.system.tasks[i]? = some p → k.Stands i p next)
    (others : ∀ j p l, j ≠ i → k.system.tasks[j]? = some p → g.scripts[j]? = some l →
      k.Stands j p l) (j : Nat) (p : Phase) (l : List Instr)
    (hp : k.system.tasks[j]? = some p) (hl : k.scripts[j]? = some l) : k.Stands j p l := by
  rw [scripts, List.getElem?_set] at hl
  split at hl
  · next hij =>
    subst hij
    split at hl
    · cases hl
      exact own p hp
    · simp at hl
  · next hij => exact others j p l (Ne.symm hij) hp hl

namespace Sound

theorem locks (h : Sound g) (next : g.scripts[i]? = some (.lock a :: rest))
    (ready : (g.system.advance i).isSome = true) :
    Sound { g with gate := g.gate ++ [⟨i, a⟩], scripts := g.scripts.set i rest } := by
  obtain ⟨p, hp⟩ := h.exists_phase next
  obtain ⟨away, script, rfl⟩ := (h.stands i p _ hp next).of_lock rfl
  have placed : ∀ t ∈ g.gate ++ [⟨i, a⟩], t.task < g.system.tasks.length :=
    List.forall_mem_append.2
      ⟨h.placed, List.forall_mem_singleton.2 (List.getElem?_eq_some_iff.1 hp).1⟩
  have single : ((g.gate ++ [(⟨i, a⟩ : Ticket)]).map (·.task)).Nodup := by
    rw [List.map_append, List.nodup_append]
    refine ⟨h.single, by simp, fun x hx y hy => ?_⟩
    obtain ⟨t, ht, rfl⟩ := List.mem_map.1 hx
    rw [List.map_singleton, List.mem_singleton] at hy
    exact hy ▸ away t ht
  refine ⟨h.orderly, by simpa using h.length, placed, single,
    stands_of_set rfl (fun q hq => ?_) fun j q l hj hq hl => ?_⟩
  · cases hp.symm.trans hq
    exact .asked (by simp) script ready
  · refine (h.stands j q l hq hl).other (fun t ht => ?_)
      (fun t _ hin => mem_admitted_append hin _) id
    have hne : t ≠ ⟨i, a⟩ := by
      rintro rfl
      exact hj ht.symm
    simp [hne]

theorem works (h : Sound g) (free : g.waits i = false)
    (next : g.scripts[i]? = some (.work :: rest)) {s : System} (step : g.system.advance i = some s)
    (phase : s.tasks[i]? = some p) :
    Sound { g with system := s, scripts := g.scripts.set i (rest ++ p.script) } := by
  obtain ⟨q, hq⟩ := h.exists_phase next
  have hlength := System.length_advance step
  refine ⟨System.orderly_advance h.orderly step, by simpa [hlength] using h.length,
    fun t ht => hlength ▸ h.placed t ht, h.single,
    stands_of_set rfl (fun q' hq' => ?_) fun j q' l hj hq' hl => ?_⟩
  · cases phase.symm.trans hq'
    rcases (h.stands i q _ hq next).of_work rfl with ⟨away, rfl⟩ | ⟨a, place, -, rfl⟩
    · exact .outside away
    · exact .used ((waits_eq_false_iff h.single place).1 free)
  · obtain ⟨p₀, p₁, hp₀, -, ht, -⟩ := System.advance_cases step
    rw [ht, System.getElem?_set_task hp₀, if_neg hj] at hq'
    exact (h.stands j q' l hq' hl).other (fun _ _ => .rfl) (fun _ _ => id)
      (System.advance_isSome_other h.orderly step hj)

theorem unlocks (h : Sound g) (next : g.scripts[i]? = some (.unlock a :: rest)) :
    Sound { g with gate := g.gate.erase ⟨i, a⟩, scripts := g.scripts.set i rest } := by
  obtain ⟨p, hp⟩ := h.exists_phase next
  obtain ⟨inside, rfl⟩ := (h.stands i p _ hp next).of_unlock rfl
  have hfilter : g.gate.erase ⟨i, a⟩ = g.gate.filter (· != ⟨i, a⟩) :=
    h.single.of_map.erase_eq_filter _
  have hsub : (g.gate.erase ⟨i, a⟩).Sublist g.gate := List.erase_sublist
  refine ⟨h.orderly, by simpa using h.length, fun t ht => h.placed t (hsub.subset ht),
    h.single.sublist (hsub.map _),
    stands_of_set rfl (fun q hq => ?_) fun j q l hj hq hl => ?_⟩
  · cases hp.symm.trans hq
    refine .outside fun t ht hti => ?_
    rw [hfilter, List.mem_filter] at ht
    have hmem := (admitted_in_front g.gate).subset inside
    have heq : t = ⟨i, a⟩ := List.inj_on_of_nodup_map h.single ht.1 hmem hti
    simp [heq] at ht
  · have hne {t : Ticket} (ht : t.task = j) : t ≠ ⟨i, a⟩ := by
      rintro rfl
      exact hj ht.symm
    refine (h.stands j q l hq hl).other (fun t ht => ?_) (fun t ht hin => ?_) id
    · rw [hfilter]
      simp [hne ht]
    · rw [hfilter]
      exact mem_admitted_filter hin (by simpa using hne ht)

end Sound

theorem sound_turn (h : Sound g) (turn : Turn g i k) : Sound k := by
  cases turn with
  | locks free next ready => exact h.locks next ready
  | works free next step phase => exact h.works free next step phase
  | unlocks free next => exact h.unlocks next

theorem sound_move {m : Move} (h : Sound g) (hm : g.move m = some k) : Sound k := by
  rcases move_cases hm with ⟨i, rfl, turn⟩ | ⟨hne, s, hs, rfl⟩
  · exact sound_turn h turn
  · obtain ⟨marks, a⟩ := System.aside_of_move hne hs
    refine ⟨h.orderly.congr a.tasks a.line, a.tasks ▸ h.length, fun t ht => a.tasks ▸ h.placed t ht,
      h.single, fun j p l hp hl => ?_⟩
    rw [a.tasks] at hp
    refine (h.stands j p l hp hl).other (fun _ _ => .rfl) (fun _ _ => id) fun ready => ?_
    rwa [System.advance_isSome_congr a.tasks a.line]

/-- Who begins a phase has no guard left of the one before: what a delivery could not reach is
cleared after the guard of the delivery was dropped. -/
theorem Sound.unguarded (h : Sound g) (hp : g.system.tasks[i]? = some p)
    (hl : g.scripts[i]? = some p.script) : ∀ t ∈ g.gate, t.task ≠ i := by
  have stands := h.stands i p _ hp hl
  generalize hs : p.script = l at stands
  cases stands with
  | outside away => exact away
  | asked place script ready => simp [script] at hs
  | used inside => simp at hs

/-- The step of a phase that asks for the registry is taken while the task has it. -/
theorem Sound.guarded (h : Sound g) (free : g.waits i = false)
    (hp : g.system.tasks[i]? = some p) (script : p.script = [.lock a, .work, .unlock a])
    (next : g.scripts[i]? = some (.work :: rest)) : ⟨i, a⟩ ∈ admitted g.gate := by
  have stands := h.stands i p _ hp next
  generalize hl : Instr.work :: rest = l at stands
  cases stands with
  | outside => simp [script] at hl
  | asked place script' ready =>
    obtain rfl : a = _ := by simpa using script.symm.trans script'
    exact (waits_eq_false_iff h.single place).1 free
  | used => simp at hl

/-- Who changes the registry has it for itself. -/
theorem Sound.alone (h : Sound g) {m : Move} (hm : g.move m = some k)
    (changed : k.system.relay.registry ≠ g.system.relay.registry) :
    ∃ i, m = .task i ∧ ⟨i, .write⟩ ∈ admitted g.gate ∧ ∀ t ∈ admitted g.gate, t = ⟨i, .write⟩ := by
  rcases move_cases hm with ⟨i, rfl, turn⟩ | ⟨hne, s, hs, rfl⟩
  · cases turn with
    | locks | unlocks => exact absurd rfl changed
    | works free next step phase =>
      obtain ⟨p, p', hp, hstep, -⟩ := System.advance_cases step
      have script : p.script = [.lock .write, .work, .unlock .write] := by
        by_contra unlocked
        exact changed (Phase.registry_step hstep unlocked)
      have inside := h.guarded free hp script next
      exact ⟨i, rfl, inside, fun t ht => eq_of_admitted_write inside ht rfl⟩
  · obtain ⟨marks, a⟩ := System.aside_of_move hne hs
    obtain ⟨queues, order, hr⟩ := a.frame
    exact absurd (congrArg Relay.registry hr) changed

theorem system_move {m : Move} (h : g.move m = some k) :
    k.system = g.system ∨ g.system.move m = some k.system := by
  rcases move_cases h with ⟨i, rfl, turn⟩ | ⟨-, s, hs, rfl⟩
  · cases turn with
    | locks | unlocks => exact .inl rfl
    | works free next step phase => exact .inr step
  · exact .inr hs

/-- What the tasks do under the lock of the registry they can do without it: a run is one of the
tasks alone, in which nothing is seen of the line for it. -/
theorem run_system {moves : List Move} (h : g.run moves = some k) :
    ∃ steps, steps.Sublist moves ∧ g.system.run steps = some k.system := by
  induction moves generalizing g with
  | nil => cases h; exact ⟨[], .slnil, rfl⟩
  | cons m moves ih =>
    obtain ⟨u, hu, h⟩ := run_cons_iff.1 h
    obtain ⟨steps, hsub, hsteps⟩ := ih h
    rcases system_move hu with he | hm
    · exact ⟨steps, hsub.cons m, he ▸ hsteps⟩
    · exact ⟨m :: steps, hsub.cons_cons m, System.run_cons_iff.2 ⟨u.system, hm, hsteps⟩⟩

end Guarded
end ActivityRelay
