import ActivityRelay.Task.System

/-! What a history says about the activity and about the events that are meant for a viewer. -/
namespace ActivityRelay
namespace Mark

/-- The value that a commit puts in place. -/
def value? : Mark → Option String
  | .committed _ _ value => some value
  | _ => none

/-- The value that a commit puts in place, unless the viewer sent it. -/
def valueFor? (id : ClientId) : Mark → Option String
  | .committed _ origin value => if origin = id then none else some value
  | _ => none

/-- Neither a commit nor the registration of the viewer. -/
def Quiet (id : ClientId) (queue : Nat) (m : Mark) : Prop :=
  m.value? = none ∧ m ≠ .registered id queue

instance (id : ClientId) (queue : Nat) (m : Mark) : Decidable (m.Quiet id queue) :=
  inferInstanceAs (Decidable (_ ∧ _))

theorem not_quiet_cases {id : ClientId} {queue : Nat} {m : Mark} (h : ¬ m.Quiet id queue) :
    m = .registered id queue ∨ ∃ task origin value, m = .committed task origin value := by
  cases m with
  | committed task origin value => exact .inr ⟨task, origin, value, rfl⟩
  | _ => exact .inl (Decidable.not_not.1 fun hne => h ⟨rfl, hne⟩)

theorem valueFor?_of_value? {m : Mark} (id : ClientId) (h : m.value? = none) :
    m.valueFor? id = none := by
  cases m <;> simp_all [value?, valueFor?]

/-- The event that was taken from a queue. -/
def received? (queue : Nat) : Mark → Option Event
  | .received q event => if q = queue then some event else none
  | _ => none

end Mark

variable {initial : String} {id : ClientId} {queue : Nat} {xs : List Mark}

/-- The activity after a history. -/
def activityAfter (initial : String) (history : List Mark) : String :=
  history.foldl (fun activity m => m.value?.getD activity) initial

theorem activityAfter_append (initial : String) (xs ys : List Mark) :
    activityAfter initial (xs ++ ys) = activityAfter (activityAfter initial xs) ys := by
  simp [activityAfter]

theorem activityAfter_of_value? (h : ∀ m ∈ xs, m.value? = none) :
    activityAfter initial xs = initial := by
  induction xs with
  | nil => rfl
  | cons m xs ih =>
    rw [List.forall_mem_cons] at h
    change activityAfter (m.value?.getD initial) xs = initial
    rw [h.1]
    exact ih h.2

/-- The values committed for a viewer, that is by all others, in the order of the commits. -/
def valuesFor (id : ClientId) (history : List Mark) : List String :=
  history.filterMap (Mark.valueFor? id)

theorem valuesFor_append (id : ClientId) (xs ys : List Mark) :
    valuesFor id (xs ++ ys) = valuesFor id xs ++ valuesFor id ys := List.filterMap_append

theorem valuesFor_of_quiet (h : ∀ m ∈ xs, m.Quiet id queue) : valuesFor id xs = [] := by
  rw [valuesFor, List.filterMap_eq_nil_iff]
  exact fun m hm => Mark.valueFor?_of_value? id (h m hm).1

/-- The events taken from a queue. -/
def receivedIn (queue : Nat) (history : List Mark) : List Event :=
  history.filterMap (Mark.received? queue)

theorem receivedIn_append (queue : Nat) (xs ys : List Mark) :
    receivedIn queue (xs ++ ys) = receivedIn queue xs ++ receivedIn queue ys :=
  List.filterMap_append

/-- The events meant for a viewer: the activity it finds when it is registered, and from then on
each value that another one commits. -/
def streamOf (initial : String) (id : ClientId) (queue : Nat) : List Mark → List Event
  | [] => []
  | m :: rest =>
    if m = .registered id queue then .game initial :: (valuesFor id rest).map .game
    else streamOf (m.value?.getD initial) id queue rest

theorem streamOf_of_notMem (h : .registered id queue ∉ xs) : streamOf initial id queue xs = [] := by
  induction xs generalizing initial with
  | nil => rfl
  | cons m xs ih =>
    rw [List.mem_cons, not_or] at h
    rw [streamOf, if_neg (Ne.symm h.1), ih h.2]

theorem streamOf_append_of_mem (h : .registered id queue ∈ xs) (ys : List Mark) :
    streamOf initial id queue (xs ++ ys) =
      streamOf initial id queue xs ++ (valuesFor id ys).map .game := by
  induction xs generalizing initial with
  | nil => simp at h
  | cons m xs ih =>
    rw [List.cons_append, streamOf, streamOf]
    by_cases hm : m = .registered id queue
    · rw [if_pos hm, if_pos hm, valuesFor_append, List.map_append, List.cons_append]
    · rw [if_neg hm, if_neg hm, ih (List.mem_of_ne_of_mem (Ne.symm hm) h)]

theorem streamOf_append_of_notMem (h : .registered id queue ∉ xs) (ys : List Mark) :
    streamOf initial id queue (xs ++ ys) = streamOf (activityAfter initial xs) id queue ys := by
  induction xs generalizing initial with
  | nil => rfl
  | cons m xs ih =>
    rw [List.mem_cons, not_or] at h
    rw [List.cons_append, streamOf, if_neg (Ne.symm h.1), ih h.2]
    rfl

/-- What a viewer is to be told only grows. -/
theorem streamOf_grows (initial : String) (id : ClientId) (queue : Nat) (xs ys : List Mark) :
    streamOf initial id queue xs <+: streamOf initial id queue (xs ++ ys) := by
  by_cases h : .registered id queue ∈ xs
  · exact ⟨_, (streamOf_append_of_mem h ys).symm⟩
  · simp [streamOf_of_notMem h]

theorem streamOf_append_of_quiet {ys : List Mark} (h : ∀ m ∈ ys, m.Quiet id queue) :
    streamOf initial id queue (xs ++ ys) = streamOf initial id queue xs := by
  by_cases hm : .registered id queue ∈ xs
  · rw [streamOf_append_of_mem hm, valuesFor_of_quiet h, List.map_nil, List.append_nil]
  · have hn : .registered id queue ∉ xs ++ ys := by
      rw [List.mem_append, not_or]
      exact ⟨hm, fun hy => (h _ hy).2 rfl⟩
    rw [streamOf_of_notMem hn, streamOf_of_notMem hm]

/-- The events from the greeting on, wherever in a history the viewer is registered. -/
theorem streamOf_decomposed {before after : List Mark} (h : .registered id queue ∉ before) :
    streamOf initial id queue (before ++ .registered id queue :: after) =
      .game (activityAfter initial before) :: (valuesFor id after).map .game := by
  rw [streamOf_append_of_notMem h, streamOf, if_pos rfl]

end ActivityRelay
