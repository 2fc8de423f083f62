import ActivityRelay.Proofs.Task.Alone
import ActivityRelay.Proofs.Viewer.Life

/-! How a session comes into the registry and out of it: by whatever way it leaves its loop, and
also when it could not be greeted, its id is not registered when it returns, and it does return. -/
namespace ActivityRelay

namespace System
variable {s t : System} {m : Move}

/-- What a move does to one task. -/
theorem task_move (h : s.move m = some t) (i : Nat) :
    (∃ p p', m = .task i ∧ s.tasks[i]? = some p ∧ t.tasks[i]? = some p' ∧
      Phase.Step i s.shared p t.shared p') ∨
    m ≠ .task i ∧ t.tasks[i]? = s.tasks[i]? := by
  cases m with
  | task j =>
    obtain ⟨p, p', hp, hs, ht, -⟩ := advance_cases h
    have hphase := getElem?_set_task hp p' i
    by_cases hi : i = j
    · subst hi
      exact .inl ⟨p, p', rfl, hp, by rw [ht, hphase, if_pos rfl], hs⟩
    · exact .inr ⟨by simpa using Ne.symm hi, by rw [ht, hphase, if_neg hi]⟩
  | _ =>
    obtain ⟨marks, a⟩ := aside_of_move (by simp) h
    exact .inr ⟨by simp, by rw [a.tasks]⟩

/-- The moves of one task alone take it as far as it can come. -/
theorem run_task {i : Nat} (s : Shared) (p : Phase) (tasks : List Phase) (history : List Mark)
    (hp : tasks[i]? = some p) : ∃ n after,
    (⟨s, tasks, history⟩ : System).run (List.replicate n (.task i)) =
      some ⟨(p.run i s).1, tasks.set i (p.run i s).2, after⟩ := by
  fun_induction Phase.run i s p generalizing tasks history with
  | case1 s p hs =>
    refine ⟨0, history, ?_⟩
    obtain ⟨h, rfl⟩ := List.getElem?_eq_some_iff.1 hp
    simp [run]
  | case2 s p s' p' hs ih =>
    obtain ⟨n, after, hn⟩ := ih (tasks.set i p') (history ++ p.marks i s)
      (by rw [getElem?_set_task hp, if_pos rfl])
    have hm : (⟨s, tasks, history⟩ : System).move (.task i) =
        some ⟨s', tasks.set i p', history ++ p.marks i s⟩ := by
      simp [move, advance, hp, hs]
    refine ⟨n + 1, after, ?_⟩
    rw [List.set_set] at hn
    rw [List.replicate_succ, run, List.foldlM_cons, hm]
    exact hn

end System

namespace Phase
variable {me : Nat} {s s' : Shared} {p p' : Phase} {id : ClientId}

/-- A task whose answer is settled waits for nobody. -/
theorem run_of_ending {o : Outcome} (h : p.ending? = some o) : (p.run me s).2 = .done o := by
  fun_induction Phase.run me s p with
  | case1 s p hs =>
    cases p with
    | clearing failed e => rcases failed with _ | ⟨⟨id, record⟩, failed⟩ <;> simp [step] at hs
    | done outcome => simpa [ending?] using h
    | _ => simp_all [step, ending?]
  | case2 s p s' p' hs ih => exact ih (ending?_step (step_cases hs) h)

theorem run_disconnect (me : Nat) (s : Shared) (id : ClientId) :
    ((start (.disconnect id)).run me s).2 = .done .disconnected := by
  rw [run_of_step rfl]
  exact run_of_ending rfl

/-- A viewer that is registered is greeted, or that fails, without any waiting. -/
theorem run_greeting_answers (me : Nat) (s : Shared) (id : ClientId) (activity : String) :
    ∃ x, ((greeting id activity).run me s).2 = .done (.connected x) := by
  obtain ⟨⟨s', p'⟩, hs⟩ : ∃ next, (greeting id activity).step me s = some next := ⟨_, rfl⟩
  rw [run_of_step hs]
  cases step_cases hs with
  | missed | greets | fails => exact ⟨_, run_of_ending rfl⟩

end Phase

/-- The first step of leaving takes the viewer out of the registry. -/
theorem Phase.disconnect_step {me : Nat} {s s' : Shared} {p' : Phase} {id : ClientId}
    (hs : Step me s (.start (.disconnect id)) s' p') :
    (∃ o, p'.ending? = some o) ∧ s'.relay.registry.find? id = none := by
  cases hs with
  | disconnect =>
    have hr : (s.relay.remove id).1.registry = s.relay.registry.erase id :=
      congrArg View.registry (s.relay.view_remove id)
    exact ⟨⟨_, rfl⟩, by rw [hr, Registry.find?_erase, if_pos rfl]⟩

namespace Viewer
namespace Life
variable {l l' : Life} {r : Relay}

/-- No task will register the viewer any more. -/
def Settled (l : Life) : Prop :=
  ∀ (i : Nat) p, l.system.tasks[i]? = some p → ¬ p.toConnect l.session.id l.session.queue

/-- Where a session stands in the registry. -/
structure Placed (l : Life) : Prop where
  alone : ∀ (i : Nat) p, l.system.tasks[i]? = some p →
    p.toConnect l.session.id l.session.queue → l.stage = .connecting i
  connects : ∀ task, l.stage = .connecting task → ∃ p, l.system.tasks[task]? = some p ∧
    p.Connects l.session.id l.session.queue l.system.relay
  leaves : ∀ task, l.stage = .leaving task → ∃ p, l.system.tasks[task]? = some p ∧
    (p = .start (.disconnect l.session.id) ∨
      (∃ o, p.ending? = some o) ∧ l.system.relay.registry.find? l.session.id = none)
  returned : l.stage = .returned → l.system.relay.registry.find? l.session.id = none

theorem Placed.settled (h : Placed l) (hs : ∀ task, l.stage ≠ .connecting task) : Settled l :=
  fun i p hp hc => hs i (h.alone i p hp hc)

theorem Placed.settled_of_done (h : Placed l) {task : Nat} {o : Outcome}
    (stage : l.stage = .connecting task) (done : l.system.tasks[task]? = some (.done o)) :
    Settled l := by
  intro i p hp hc
  obtain rfl : task = i := Stage.connecting.inj (stage.symm.trans (h.alone i p hp hc))
  rw [done] at hp
  cases hp
  exact hc

theorem placed_move (h : Hosted r l) (pl : Placed l) {m : Move} {system : System}
    (hm : l.system.move m = some system) : Placed { l with system } := by
  obtain ⟨ops, h⟩ := h
  have absent (past : ∀ i, m = .task i → l.stage ≠ .connecting i) :
      l.system.relay.registry.find? l.session.id = none →
        system.relay.registry.find? l.session.id = none :=
    h.absent_move hm fun i p hi hp hc => past i hi (pl.alone i p hp hc)
  constructor
  · intro i p hp hc
    rcases System.task_move hm i with ⟨q, q', rfl, hq, hq', hs⟩ | ⟨-, he⟩
    · cases hq'.symm.trans hp
      exact pl.alone i q hq (Phase.toConnect_of_step hs hc).1
    · exact pl.alone i p (he.symm.trans hp) hc
  · intro task stage
    obtain ⟨p, hp, hc⟩ := pl.connects task stage
    rcases System.task_move hm task with ⟨q, q', rfl, hq, hq', hs⟩ | ⟨hne, he⟩
    · cases hp.symm.trans hq
      obtain ⟨op, hop, ho⟩ := h.watched.follows.task task p hp
      exact ⟨q', hq', Phase.connects_step hs (h.isPublic op (List.mem_of_getElem? hop)) ho
        (h.absent_of_toConnect hp) hc⟩
    · refine ⟨p, he.trans hp, ?_⟩
      rcases hc with hc | hg | ⟨x, hx, hf⟩
      · exact .inl hc
      · exact .inr (.inl hg)
      · refine .inr (.inr ⟨x, hx, fun e hxe => (hf e hxe).imp_left (absent fun i hi hs => hne ?_)⟩)
        rw [hi, Stage.connecting.inj (stage.symm.trans hs)]
  · intro task stage
    have stage : l.stage = .leaving task := stage
    obtain ⟨p, hp, hl⟩ := pl.leaves task stage
    have away := absent fun i _ hs => by simp [stage] at hs
    rcases System.task_move hm task with ⟨q, q', rfl, hq, hq', hs⟩ | ⟨-, he⟩
    · cases hp.symm.trans hq
      refine ⟨q', hq', .inr ?_⟩
      rcases hl with rfl | ⟨⟨o, ho⟩, hn⟩
      · exact Phase.disconnect_step hs
      · exact ⟨⟨o, Phase.ending?_step hs ho⟩, away hn⟩
    · exact ⟨p, he.trans hp, hl.imp_right fun ⟨ho, hn⟩ => ⟨ho, away hn⟩⟩
  · intro stage
    have stage : l.stage = .returned := stage
    exact absent (fun i _ hs => by simp [stage] at hs) (pl.returned stage)

theorem placed_begin (pl : Placed l) {op : Operation}
    (foreign : op.isForeign l.session.id l.session.queue = true) :
    Placed { l with system := l.system.spawn op } := by
  have new : ¬ (Phase.start op).toConnect l.session.id l.session.queue := by
    rintro rfl
    simp [Operation.isForeign] at foreign
  have old {i : Nat} {p : Phase} (hp : l.system.tasks[i]? = some p) :
      (l.system.spawn op).tasks[i]? = some p := by
    rw [System.getElem?_spawn, if_neg (List.getElem?_eq_some_iff.1 hp).1.ne, hp]
  constructor
  · intro i p hp hc
    obtain ⟨q, hq, hc⟩ := (System.exists_spawn_iff l.system op
      (P := fun q => q.toConnect l.session.id l.session.queue) new i).1 ⟨p, hp, hc⟩
    exact pl.alone i q hq hc
  · exact fun task stage => (pl.connects task stage).imp fun p hp => ⟨old hp.1, hp.2⟩
  · exact fun task stage => (pl.leaves task stage).imp fun p hp => ⟨old hp.1, hp.2⟩
  · exact pl.returned

/-- A viewer that could not be greeted is not registered when its session learns of that. -/
theorem Placed.absent_of_refused (pl : Placed l) {task : Nat} {e : DeliveryError}
    (stage : l.stage = .connecting task)
    (done : l.system.tasks[task]? = some (.done (.connected (.error e)))) :
    l.system.relay.registry.find? l.session.id = none := by
  obtain ⟨p, hp, hc⟩ := pl.connects task stage
  cases done.symm.trans hp
  rcases hc with hc | ⟨activity, hg⟩ | ⟨x, hx, hf⟩
  · exact hc.elim
  · simp at hg
  · refine (hf e ?_).resolve_right (by simp [Phase.due])
    simpa [Phase.ending?] using hx.symm

/-- Once nobody is to register the viewer, a new task of the session changes nothing in that. -/
theorem Settled.ask (h : Settled l) {op : Operation}
    (new : op ≠ .connect l.session.id l.session.queue) (stage : Nat → Stage) :
    Settled (l.ask op stage) := by
  intro i p hp hc
  obtain ⟨q, hq, hc⟩ := (System.exists_spawn_iff l.system op
    (P := fun q => q.toConnect l.session.id l.session.queue) new i).1 ⟨p, hp, hc⟩
  exact h i q hq hc

theorem Settled.leave (h : Settled l) : Placed l.leave where
  alone i p hp hc := absurd hc (h.ask (by simp) .leaving i p hp)
  connects task stage := by simp [Life.leave, Life.ask] at stage
  leaves task stage := by
    obtain rfl : l.system.tasks.length = task := Stage.leaving.inj stage
    exact ⟨_, by simp [Life.leave, Life.ask, System.getElem?_spawn], .inl rfl⟩
  returned stage := by simp [Life.leave, Life.ask] at stage

theorem Settled.finish (h : Settled l) (rec : Record)
    (hn : l.system.relay.registry.find? l.session.id = none) : Placed (l.finish rec) where
  alone i p hp hc := absurd hc (h i p hp)
  connects task stage := by simp [Life.finish] at stage
  leaves task stage := by simp [Life.finish] at stage
  returned _ := hn

/-- A session in its loop has its connect behind it. -/
theorem Settled.placed (h : Settled l) (hs : l.stage = .listening ∨ ∃ i, l.stage = .dispatching i) :
    Placed l where
  alone i p hp hc := absurd hc (h i p hp)
  connects task stage := by simp [stage] at hs
  leaves task stage := by simp [stage] at hs
  returned stage := by simp [stage] at hs

theorem placed_step (h : Hosted r l) (pl : Placed l) (hs : Step l l') : Placed l' := by
  have settled (stage : l.stage = .listening) : Settled l :=
    pl.settled fun task he => by simp [stage] at he
  have receiving (stage : l.stage = .listening) :
      Settled { l with system := l.system.receive l.session.queue } := by
    obtain ⟨marks, a⟩ := l.system.aside_receive l.session.queue
    intro i p hp
    rw [a.tasks] at hp
    exact settled stage i p hp
  cases hs with
  | move leaves hm => exact placed_move h pl hm
  | begin foreign => exact placed_begin pl foreign
  | connected stage done => exact Settled.placed (pl.settled_of_done stage done) (.inl rfl)
  | refused stage done =>
    exact (pl.settled_of_done stage done).finish _ (pl.absent_of_refused stage done)
  | dispatched stage done =>
    exact Settled.placed (pl.settled fun task he => by simp [stage] at he) (.inl rfl)
  | @left task o stage done =>
    refine (pl.settled fun task he => by simp [stage] at he : Settled l).finish _ ?_
    obtain ⟨p, hp, hl⟩ := pl.leaves task stage
    cases done.symm.trans hp
    exact (hl.resolve_left (by simp)).2
  | text stage =>
    exact Settled.placed ((settled stage).ask (by simp) .dispatching) (.inr ⟨_, rfl⟩)
  | last stage => exact Settled.leave (l := { l with taken := _ }) (settled stage)
  | other stage => exact Settled.placed (settled stage) (.inl stage)
  | wrote stage => exact Settled.placed (receiving stage) (.inl stage)
  | lost stage => exact Settled.leave (l := { l with system := _ }) (receiving stage)
  | ended stage => exact (receiving stage).leave
  | idle stage => exact Settled.placed (receiving stage) (.inl stage)

theorem run_append (l : Life) (xs ys : List Act) :
    l.run (xs ++ ys) = (l.run xs).bind (·.run ys) := by
  simp [run, bind]

theorem run_moves {moves : List Move} {system : System}
    (leaves : ∀ m ∈ moves, m.leaves l.session.queue = true)
    (h : l.system.run moves = some system) : l.run (moves.map .move) = some { l with system } := by
  induction moves generalizing l with
  | nil => cases h; rfl
  | cons m moves ih =>
    obtain ⟨s, hs, h⟩ := System.run_cons_iff.1 h
    have hact : l.act (.move m) = some { l with system := s } := by
      simp [act, leaves m (by simp), hs]
    have hrest := ih (l := { l with system := s }) (fun m hm => leaves m (by simp [hm])) h
    simp only [List.map_cons, run, List.foldlM_cons, hact]
    exact hrest

/-- The session waits for a task that goes on undisturbed until it is done. -/
theorem await {task : Nat} {p : Phase} {o : Outcome} (hp : l.system.tasks[task]? = some p)
    (done : (p.run task l.system.shared).2 = .done o) : ∃ n system,
    l.run (List.replicate n (.move (.task task))) = some { l with system } ∧
      system.shared = (p.run task l.system.shared).1 ∧ system.outcome? task = some o := by
  obtain ⟨n, after, hn⟩ := System.run_task l.system.shared p l.system.tasks l.system.history hp
  rw [done] at hn
  have own : ∀ m ∈ List.replicate n (Move.task task), m.leaves l.session.queue = true := by
    intro m hm
    rw [List.eq_of_mem_replicate hm]
    rfl
  have hrun := run_moves own hn
  rw [List.map_replicate] at hrun
  exact ⟨n, _, hrun, rfl, by simp [System.outcome?, System.getElem?_set_task hp, Phase.outcome?]⟩

theorem run_resume {acts : List Act} {m : Life} (h : l.run acts = some m)
    (hr : m.resume = some l') : l.run (acts ++ [.resume]) = some l' := by
  rw [run_append, h]
  simp [run, act, hr]

/-- Once the loop is left, the session needs nobody else to return. -/
theorem returns (pl : Placed l) {task : Nat} (stage : l.stage = .leaving task) : ∃ n l',
    l.run (List.replicate n (.move (.task task)) ++ [.resume]) = some l' ∧
      l'.stage = .returned := by
  obtain ⟨p, hp, hl⟩ := pl.leaves task stage
  obtain ⟨o, done⟩ : ∃ o, (p.run task l.system.shared).2 = .done o := by
    rcases hl with rfl | ⟨⟨o, ho⟩, -⟩
    · exact ⟨_, Phase.run_disconnect ..⟩
    · exact ⟨o, Phase.run_of_ending ho⟩
  obtain ⟨n, system, hrun, -, hout⟩ := await hp done
  exact ⟨n, _, run_resume hrun (by simp only [resume, stage, hout]; rfl), rfl⟩

/-- Once it is registered, a session needs nobody else to come to its loop, or to return. -/
theorem connect_returns (pl : Placed l) {task : Nat} {p : Phase}
    (stage : l.stage = .connecting task) (hp : l.system.tasks[task]? = some p)
    (hc : ¬ p.toConnect l.session.id l.session.queue) : ∃ n l',
    l.run (List.replicate n (.move (.task task)) ++ [.resume]) = some l' ∧
      (l'.stage = .listening ∨ l'.stage = .returned) := by
  obtain ⟨x, done⟩ : ∃ x, (p.run task l.system.shared).2 = .done (.connected x) := by
    obtain ⟨q, hq, h⟩ := pl.connects task stage
    cases hp.symm.trans hq
    rcases h with h | ⟨activity, rfl⟩ | ⟨x, hx, -⟩
    · exact absurd h hc
    · exact Phase.run_greeting_answers ..
    · exact ⟨x, Phase.run_of_ending hx⟩
  obtain ⟨n, system, hrun, -, hout⟩ := await hp done
  cases x with
  | ok greeting =>
    refine ⟨n, { l with
      system := system.note (.viewerConnected l.session.id), stage := .listening }, ?_, .inl rfl⟩
    exact run_resume hrun (by simp only [resume, stage, hout])
  | error e => exact ⟨n, _, run_resume hrun (by simp only [resume, stage, hout]; rfl), .inr rfl⟩

end Life
end Viewer
end ActivityRelay
