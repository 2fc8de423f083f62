import ActivityRelay.Proofs.Task.Step

/-! What a report tells in a run. It looks at the viewers under the lock of the registry, and at the
activity under the activity lock, which it gets only later. -/
namespace ActivityRelay.System
variable {r : Relay} {ops : List Operation} {moves : List Move} {i : Nat} {s : System}
  {p : Phase} {activity : String} {viewers : List ClientId}

/-- In a run, a task that was to report looked at the viewers in its first step. -/
def Looked (r : Relay) (ops : List Operation) (moves : List Move) (i : Nat)
    (viewers : List ClientId) : Prop :=
  ∃ first later u, moves = first ++ .task i :: later ∧ (start r ops).run first = some u ∧
    u.tasks[i]? = some (.start .status) ∧ u.relay.viewers = viewers

/-- In a run, a task looked at the viewers in its first step, and in a later one, with the activity
lock, at the activity. -/
def Reported (r : Relay) (ops : List Operation) (moves : List Move) (i : Nat) (activity : String)
    (viewers : List ClientId) : Prop :=
  ∃ first between later u v, moves = first ++ .task i :: (between ++ .task i :: later) ∧
    (start r ops).run first = some u ∧ u.tasks[i]? = some (.start .status) ∧
    u.relay.viewers = viewers ∧
    (start r ops).run (first ++ .task i :: between) = some v ∧ v.line.head? = some i ∧
    v.relay.activity = activity

theorem Looked.snoc (h : Looked r ops moves i viewers) (m : Move) :
    Looked r ops (moves ++ [m]) i viewers := by
  obtain ⟨first, later, u, rfl, hu, found⟩ := h
  exact ⟨first, later ++ [m], u, by simp, hu, found⟩

theorem Reported.snoc (h : Reported r ops moves i activity viewers) (m : Move) :
    Reported r ops (moves ++ [m]) i activity viewers := by
  obtain ⟨first, between, later, u, v, rfl, found⟩ := h
  exact ⟨first, between, later ++ [m], u, v, by simp, found⟩

/-- What a task has found out by the time that it is in a phase. Whoever clears failed deliveries
reports nothing. -/
def Knows (r : Relay) (ops : List Operation) (moves : List Move) (i : Nat) : Phase → Prop
  | .asking work | .waiting work =>
    ∀ viewers, work = .status viewers → Looked r ops moves i viewers
  | .clearing _ e | .dropping _ _ _ e => ∀ activity viewers, e.outcome ≠ .status activity viewers
  | .finishing ⟨outcome, _, _⟩ | .done outcome =>
    ∀ activity viewers, outcome = .status activity viewers → Reported r ops moves i activity viewers
  | _ => True

theorem Knows.snoc (h : Knows r ops moves i p) (m : Move) : Knows r ops (moves ++ [m]) i p := by
  cases p with
  | asking | waiting => exact fun viewers hw => (h viewers hw).snoc m
  | finishing | done => exact fun activity viewers ho => (h activity viewers ho).snoc m
  | clearing | dropping => exact h
  | start | greeting | telling => trivial

theorem knows_step {p' : Phase} {shared : Shared} (hs : (start r ops).run moves = some s)
    (hp : s.tasks[i]? = some p) (h : Knows r ops moves i p)
    (step : Phase.Step i s.shared p shared p') : Knows r ops (moves ++ [.task i]) i p' := by
  cases step with
  | status =>
    rintro viewers ⟨⟩
    exact ⟨moves, [], s, rfl, hs, hp, rfl⟩
  | ask work => exact fun viewers hw => Looked.snoc (h viewers hw) _
  | reports viewers front =>
    rintro activity viewers ⟨⟩
    obtain ⟨first, later, u, rfl, hu, found, hv⟩ := h viewers rfl
    exact ⟨first, later, [], u, s, by simp, hu, found, hv, hs, front, rfl⟩
  | finishes e => exact fun activity viewers ho => Reported.snoc (h activity viewers ho) _
  | cleared e => exact fun activity viewers ho => absurd ho (h activity viewers)
  | clears | drops => exact h
  | _ => simp [Knows]

theorem knows_run (h : (start r ops).run moves = some s) (hp : s.tasks[i]? = some p) :
    Knows r ops moves i p := by
  apply task_run (K := fun moves p => Knows r ops moves i p) _ _ _ h hp
  · exact fun op => trivial
  · exact fun moves m p known => known.snoc m
  · exact fun moves u p p' shared hu hp known hs =>
      knows_step hu hp known (Phase.step_cases hs)

/-- A finished report tells of the viewers that were registered at its first step, and of the
activity there was when it had the activity lock. -/
theorem reported_of_done (h : (start r ops).run moves = some s)
    (done : s.tasks[i]? = some (.done (.status activity viewers))) :
    Reported r ops moves i activity viewers :=
  knows_run h done activity viewers rfl

end ActivityRelay.System
