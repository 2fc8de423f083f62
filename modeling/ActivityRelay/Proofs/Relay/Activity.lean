import ActivityRelay.Proofs.Command.Grammar
import ActivityRelay.Proofs.Relay.FanOut
import ActivityRelay.Proofs.Relay.Isolation
import ActivityRelay.Proofs.Settings.Reading
import ActivityRelay.Startup
import ActivityRelay.Task.System

/-! The activity of a relay, and what is told of it: after any row of actions it is what the last
message named that names one, and whatever is put into a queue then or answered is this activity. -/
namespace ActivityRelay

/-- An activity that a command names is a field of it, and not an empty one. -/
theorem Command.value_of_setActivity {raw value : String} (h : classify raw = .setActivity value) :
    value ≠ "" ∧ ' ' ∉ value.toList := by
  obtain ⟨-, c, -, rfl⟩ := classify_eq_setActivity_iff.1 h
  exact ⟨c.value_ne, c.value_unspaced⟩

/-- The activity that a message names. -/
def Operation.named? : Operation → Option String
  | .dispatch _ raw =>
    match Command.classify raw with
    | .plain _ => none
    | .setActivity value => some value
  | _ => none

/-- The activity that an answer tells. -/
def Outcome.told? : Outcome → Option String
  | .connected (.ok value) => some value
  | .activity value => some value
  | .status value _ => some value
  | .dispatched (.changed value _) => some value
  | _ => none

namespace Relay
variable {r r' : Relay} {event : Event}

/-- From one relay to another, queues accept one event, once or several times, and nothing else. -/
def Puts (event : Event) (r r' : Relay) : Prop :=
  ∀ q, ∃ n, r'.accepted q = r.accepted q ++ List.replicate n event

theorem puts_of_queues (h : r'.view.queues = r.view.queues) : Puts event r r' := fun q =>
  ⟨0, by simp [(content_congr h q).1]⟩

theorem Puts.congr {a a' : Relay} (h : Puts event r r') (ha : a.view.queues = r.view.queues)
    (ha' : a'.view.queues = r'.view.queues) : Puts event a a' := fun q => by
  rw [(content_congr ha q).1, (content_congr ha' q).1]
  exact h q

theorem accepted_fillAll (r : Relay) (event : Event) (cs : List Connection) (q : Nat) :
    (r.fillAll event cs).accepted q =
      r.accepted q ++ List.replicate (min (load cs q) (r.room q)) event := by
  simp only [accepted, fillAll, room, List.getElem?_mapIdx]
  cases r.queues[q]? with
  | none => simp
  | some queue => simp [Queue.accepted, Queue.fill]

theorem puts_deliverEach (r : Relay) (event : Event) (cs : List Connection) :
    Puts event r (r.deliverEach event cs).1 := fun q =>
  ⟨_, by rw [deliverEach_fst, accepted_fillAll]⟩

theorem puts_deliver (r : Relay) (c : Connection) (event : Event) :
    Puts event r (r.deliver c event).1 := fun q =>
  ⟨_, by rw [(r.deliver_room c event).1, accepted_fillAll]⟩

/-- A viewer is greeted with the activity, in its queue and by the answer. -/
theorem told_connect (r : Relay) (id : ClientId) (queue : Nat) :
    Puts (.game r.activity) r (r.connect id queue).1 ∧
      (r.connect id queue).1.activity = r.activity ∧
      ∀ value, (r.connect id queue).2 = .ok value → value = r.activity := by
  cases hi : r.registry.insert? (r.newConnection id queue).2 with
  | none =>
    obtain ⟨hview, hanswer⟩ := connect_refused hi
    exact ⟨puts_of_queues (by rw [hview]), congrArg View.activity hview, by simp [hanswer]⟩
  | some registry =>
    let registered : Relay := { (r.newConnection id queue).1 with registry }
    have hc : registered.registry.find? id = some (r.newConnection id queue).2 :=
      Registry.find?_eq_some_iff.2 ⟨((Registry.insert?_eq_some hi).2 _).2 (.inl rfl), rfl⟩
    have hview : r.view = { registered.view with
        registry := registered.registry.erase id, created := registered.created - 1 } := by
      rw [show registered.registry.erase id = r.registry from Registry.erase_insert? hi]
      rfl
    have hcreated : 1 ≤ registered.created := Nat.le_add_left 1 r.created
    cases hd : (registered.deliver (r.newConnection id queue).2 (.game r.activity)).2 with
    | none =>
      obtain ⟨hafter, hanswer⟩ := connect_greeted hc rfl hcreated hview hd
      obtain ⟨queues, hframe⟩ := registered.deliver_frame (r.newConnection id queue).2
        (.game registered.activity)
      refine ⟨(registered.puts_deliver _ _).congr rfl (by rw [hafter]; rfl), ?_, ?_⟩
      · exact (congrArg View.activity hafter).trans (by rw [hframe]; rfl)
      · exact fun value he => (Except.ok.inj (hanswer.symm.trans he)).symm
    | some e =>
      obtain ⟨hafter, hanswer⟩ := connect_failed hc rfl hcreated hview hd
      exact ⟨puts_of_queues (by rw [hafter]; rfl), congrArg View.activity hafter, by simp [hanswer]⟩

/-- A command is told to the others after its commit, and nothing is told to them otherwise. -/
theorem told_dispatch (r : Relay) (origin : ClientId) (raw : String) :
    (r.dispatch origin raw).1.activity =
        ((Operation.dispatch origin raw).named?).getD r.activity ∧
      Puts (.game (r.dispatch origin raw).1.activity) r (r.dispatch origin raw).1 ∧
      ∀ value, (Outcome.dispatched (r.dispatch origin raw).2).told? = some value →
        value = (r.dispatch origin raw).1.activity := by
  cases hc : Command.classify raw with
  | plain text =>
    have hview : (r.hear origin raw).view = r.view := r.view_hear origin raw
    rw [dispatch_plain hc]
    simp only [Operation.named?, hc]
    exact ⟨congrArg View.activity hview, puts_of_queues (congrArg View.queues hview),
      by simp [Outcome.told?]⟩
  | setActivity value =>
    obtain ⟨hview, hanswer⟩ := dispatch_changed (a := { r with activity := value }) hc rfl
    obtain ⟨queues, hframe⟩ := deliverAll_frame { r with activity := value } (.game value)
      (some origin)
    have hactivity : (r.dispatch origin raw).1.activity = value :=
      (congrArg View.activity hview).trans (by rw [hframe]; rfl)
    have hputs : Puts (.game value) r (r.dispatch origin raw).1 :=
      (puts_deliverEach { r with activity := value } (.game value) _).congr rfl (by rw [hview]; rfl)
    rw [hactivity, hanswer]
    simp only [Operation.named?, hc]
    exact ⟨rfl, hputs, fun _ he => (Option.some.inj he).symm⟩

/-- What happens from one relay to another tells its viewers, and those who asked for something,
nothing else than the activity that there is then. -/
structure Truthful (r r' : Relay) (answers : List Outcome) : Prop where
  queued : Puts (.game r'.activity) r r'
  told : ∀ o ∈ answers, ∀ value, o.told? = some value → value = r'.activity

theorem perform_truthful (r : Relay) {op : Operation} (hop : op.isPublic = true) :
    (r.perform op).1.activity = op.named?.getD r.activity ∧
      Truthful r (r.perform op).1 [(r.perform op).2] := by
  cases op with
  | connect id queue =>
    obtain ⟨hputs, hactivity, htold⟩ := r.told_connect id queue
    refine ⟨hactivity, ⟨by rw [perform, hactivity]; exact hputs, ?_⟩⟩
    rw [List.forall_mem_singleton, perform, hactivity]
    intro value he
    cases ha : (r.connect id queue).2 with
    | error e => simp [ha, Outcome.told?] at he
    | ok greeting =>
      rw [ha] at he
      cases he
      exact htold value ha
  | disconnect id =>
    have hview : (r.perform (.disconnect id)).1.view = _ := r.view_disconnect id
    exact ⟨congrArg View.activity hview,
      ⟨puts_of_queues (by rw [hview]), by simp [perform, Outcome.told?]⟩⟩
  | dispatch origin raw =>
    obtain ⟨hactivity, hputs, htold⟩ := r.told_dispatch origin raw
    exact ⟨hactivity, ⟨hputs, by rw [List.forall_mem_singleton]; exact htold⟩⟩
  | current => exact ⟨rfl, ⟨puts_of_queues rfl, by simp [perform, Outcome.told?]⟩⟩
  | status => exact ⟨rfl, ⟨puts_of_queues rfl, by simp [perform, Outcome.told?]⟩⟩
  | _ => simp [Operation.isPublic] at hop

namespace Action

/-- The activity that a message among the actions names. -/
def named? : Action → Option String
  | .perform op => op.named?
  | _ => none

/-- Whether it is what a session, a reader of the activity, or the owner of a queue does. -/
def isPublic : Action → Bool
  | .perform op => op.isPublic
  | _ => true

end Action

/-- Whatever happens to a relay: only a message that names an activity replaces it. -/
theorem act_truthful (r : Relay) {x : Action} (hx : x.isPublic = true) :
    (r.act x).1.activity = x.named?.getD r.activity ∧
      Truthful r (r.act x).1 ((r.act x).2.map (·.2)) := by
  have aside {r' : Relay} (hq : ∀ q, r'.accepted q = r.accepted q) : Truthful r r' [] :=
    ⟨fun q => ⟨0, by simp [hq q]⟩, by simp⟩
  cases x with
  | perform op => exact r.perform_truthful hx
  | shuffle order => exact ⟨rfl, aside fun _ => rfl⟩
  | receive q =>
    obtain ⟨queues, hframe⟩ := r.receive_frame q
    exact ⟨(congrArg Relay.activity hframe).trans rfl, aside fun p => (r.content_receive q p).1⟩
  | shut q =>
    refine ⟨rfl, aside fun p => (r.content_onQueue q (fun queue => ?_) p).1⟩
    unfold Queue.shut
    split <;> exact ⟨rfl, rfl⟩
  | close q =>
    have hclose (queue : Queue Event) : queue.close.accepted = queue.accepted ∧
        queue.close.received = queue.received := ⟨rfl, rfl⟩
    exact ⟨rfl, aside fun p => (r.content_onQueue q hclose p).1⟩

/-- The activity after several were named, one after another, beginning with the initial one. It is
never empty, and it has a space in it only if it is still the initial one. -/
structure Holds (initial : String) (named : List String) (activity : String) : Prop where
  last : activity = named.getLast?.getD initial
  ne_empty : activity ≠ ""
  unspaced : ' ' ∈ activity.toList → named = [] ∧ activity = initial

theorem holds_of_last {initial : String} {named : List String} (hi : initial ≠ "")
    (hn : ∀ value ∈ named, value ≠ "" ∧ ' ' ∉ value.toList) :
    Holds initial named (named.getLast?.getD initial) := by
  cases hl : named.getLast? with
  | none =>
    rw [List.getLast?_eq_none_iff] at hl
    exact ⟨by rw [hl]; rfl, hi, fun _ => ⟨hl, rfl⟩⟩
  | some value =>
    obtain ⟨hne, hspace⟩ := hn value (List.mem_of_getLast? hl)
    exact ⟨by rw [hl], hne, fun hs => absurd hs hspace⟩

theorem Action.value_of_named {x : Action} {value : String} (h : x.named? = some value) :
    value ≠ "" ∧ ' ' ∉ value.toList := by
  unfold named? Operation.named? at h
  split at h
  · split at h
    · split at h
      · simp at h
      · next hc =>
        cases h
        exact Command.value_of_setActivity hc
    · simp at h
  · simp at h

theorem activity_acts (r : Relay) {xs : List Action} (hxs : ∀ x ∈ xs, x.isPublic = true) :
    (r.acts xs).1.activity = (xs.filterMap Action.named?).getLast?.getD r.activity := by
  induction xs generalizing r with
  | nil => rfl
  | cons x xs ih =>
    rw [List.forall_mem_cons] at hxs
    rw [acts, ih _ hxs.2, (r.act_truthful hxs.1).1, List.filterMap_cons]
    cases x.named? with
    | none => rfl
    | some value => simp [List.getLast?_cons]

theorem holds_acts {r : Relay} (hr : r.activity ≠ "") {xs : List Action}
    (hxs : ∀ x ∈ xs, x.isPublic = true) :
    Holds r.activity (xs.filterMap Action.named?) (r.acts xs).1.activity := by
  rw [r.activity_acts hxs]
  refine holds_of_last hr fun value hv => ?_
  obtain ⟨x, -, hx⟩ := List.mem_filterMap.1 hv
  exact Action.value_of_named hx

end Relay
end ActivityRelay
