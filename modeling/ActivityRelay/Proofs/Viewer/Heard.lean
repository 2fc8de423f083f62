import ActivityRelay.Proofs.Task.Lock
import ActivityRelay.Proofs.Task.History

/-! How a viewer's queue keeps up with the events that are meant for the viewer: what it accepted,
and what the task under the activity lock still owes it. -/
namespace ActivityRelay

/-- What a task still owes a viewer, none if the viewer missed it and is to be unregistered. -/
def Phase.due (id : ClientId) : Phase → Option (List Event)
  | .greeting other activity => some (if other = id then [.game activity] else [])
  | .telling origin _ value => some (if origin = id then [] else [.game value])
  | .clearing failed _ | .dropping _ _ failed _ =>
    if id ∈ failed.map (·.1) then none else some []
  | _ => some []

/-- How a viewer's queue stands to the events that are meant for the viewer. -/
structure Heard (initial : String) (id : ClientId) (queue : Nat) (r : Relay)
    (history : List Mark) (due : Option (List Event)) : Prop where
  own : ∀ c ∈ r.registry.connections, c.id = id ↔ c.queue = queue
  begins : r.accepted queue <+: streamOf initial id queue history
  whole : ∀ c, r.registry.find? id = some c → .registered id queue ∈ history ∧
    ∀ es, due = some es → r.accepted queue ++ es = streamOf initial id queue history

namespace Heard
variable {initial : String} {id other : ClientId} {queue : Nat} {r r' : Relay}
  {history marks : List Mark} {due due' : Option (List Event)}

theorem queue_ne (h : Heard initial id queue r history due) (hf : r.registry.find? id = none)
    {c : Connection} (hc : c ∈ r.registry.connections) : c.queue ≠ queue := fun hq =>
  (r.registry.find?_eq_none_iff id).1 hf c hc ((h.own c hc).2 hq)

/-- Nothing that the viewer could notice. -/
theorem quiet (h : Heard initial id queue r history due)
    (hr : r'.registry = r.registry) (hq : r'.accepted queue = r.accepted queue)
    (hm : ∀ m ∈ marks, m.Quiet id queue) (hd : due' = due) :
    Heard initial id queue r' (history ++ marks) due' where
  own := by rw [hr]; exact h.own
  begins := by rw [hq, streamOf_append_of_quiet hm]; exact h.begins
  whole c hc := by
    rw [hr] at hc
    rw [hq, hd, streamOf_append_of_quiet hm]
    exact ⟨List.mem_append_left _ (h.whole c hc).1, (h.whole c hc).2⟩

theorem same (h : Heard initial id queue r history due) (hv : r'.view = r.view)
    (hm : ∀ m ∈ marks, m.Quiet id queue) (hd : due' = due) :
    Heard initial id queue r' (history ++ marks) due' :=
  h.quiet (congrArg View.registry hv) (Relay.content_congr (congrArg View.queues hv) queue).1 hm hd

theorem remove (h : Heard initial id queue r history due)
    (hv : r'.view = { r.view with registry := r.registry.erase other })
    (hd : other ≠ id → due' = due) : Heard initial id queue r' history due' := by
  have hr : r'.registry = r.registry.erase other := congrArg View.registry hv
  have hq : r'.accepted queue = r.accepted queue :=
    (Relay.content_congr (by rw [hv]) queue).1
  constructor
  · intro c hc
    rw [hr] at hc
    exact h.own c (Registry.mem_erase.1 hc).1
  · rw [hq]
    exact h.begins
  · intro c hc
    rw [hr, Registry.find?_erase] at hc
    by_cases he : id = other
    · simp [he] at hc
    · rw [if_neg he] at hc
      rw [hq, hd (Ne.symm he)]
      exact h.whole c hc

theorem register {registry : Registry} {c : Connection} (h : Heard initial id queue r history due)
    (hi : r.registry.insert? c = some registry) (hc : c.id = id ↔ c.queue = queue)
    (new : c.id = id → .registered id queue ∉ history) (hd : due = some [])
    (ha : r.activity = activityAfter initial history) (hr : r'.registry = registry)
    (hq : r'.accepted queue = r.accepted queue) :
    Heard initial id queue r' (history ++ [.registered c.id c.queue])
      (some (if c.id = id then [.game r.activity] else [])) := by
  obtain ⟨-, hmem⟩ := Registry.insert?_eq_some hi
  constructor
  · intro d hd
    rw [hr, hmem] at hd
    rcases hd with rfl | hd
    · exact hc
    · exact h.own d hd
  · rw [hq]
    exact h.begins.trans (streamOf_grows initial id queue history _)
  · intro d hf
    rw [hq]
    by_cases he : c.id = id
    · have hn := new he
      have hnil : r.accepted queue = [] := by
        have hb := h.begins
        rwa [streamOf_of_notMem hn, List.prefix_nil] at hb
      rw [he, hc.1 he, streamOf_append_of_notMem hn, ← ha, hnil]
      refine ⟨by simp, fun es hes => ?_⟩
      cases hes
      simp [streamOf, valuesFor]
    · obtain ⟨hd', rfl⟩ := Registry.find?_eq_some_iff.1 hf
      rw [hr, hmem] at hd'
      have hold : d ∈ r.registry.connections := by
        rcases hd' with rfl | hd'
        · exact absurd rfl he
        · exact hd'
      obtain ⟨hin, hall⟩ := h.whole d (Registry.find?_eq_some_iff.2 ⟨hold, rfl⟩)
      rw [if_neg he, streamOf_append_of_mem hin, ← hall [] hd]
      refine ⟨List.mem_append_left _ hin, fun es hes => ?_⟩
      cases hes
      simp [valuesFor, Mark.valueFor?]

theorem commit (h : Heard initial id queue r history due) (hd : due = some []) (task : Nat)
    (origin : ClientId) (value : String)
    (hr : r'.registry = r.registry) (hq : r'.accepted queue = r.accepted queue) :
    Heard initial id queue r' (history ++ [.committed task origin value])
      (some (if origin = id then [] else [.game value])) := by
  constructor
  · rw [hr]
    exact h.own
  · rw [hq]
    exact h.begins.trans (streamOf_grows initial id queue history _)
  · intro c hc
    rw [hr] at hc
    obtain ⟨hin, hall⟩ := h.whole c hc
    rw [hq, streamOf_append_of_mem hin, ← hall [] hd]
    refine ⟨List.mem_append_left _ hin, fun es hes => ?_⟩
    cases hes
    by_cases ho : origin = id <;> simp [valuesFor, Mark.valueFor?, ho]

/-- A delivery pays what is due to the viewer, or the viewer missed it. -/
theorem deliver (h : Heard initial id queue r history due) (hf : ∃ queues, r' = { r with queues })
    (absent : r.registry.find? id = none → r'.accepted queue = r.accepted queue)
    (present : ∀ c, r.registry.find? id = some c →
      (∃ es, due = some es ∧ r'.accepted queue = r.accepted queue ++ es ∧ due' = some []) ∨
      (r'.accepted queue = r.accepted queue ∧ due' = none)) :
    Heard initial id queue r' history due' := by
  have hr : r'.registry = r.registry := by
    obtain ⟨queues, rfl⟩ := hf
    rfl
  constructor
  · rw [hr]
    exact h.own
  · cases hc : r.registry.find? id with
    | none => rw [absent hc]; exact h.begins
    | some c =>
      rcases present c hc with ⟨es, hes, hq, -⟩ | ⟨hq, -⟩
      · exact ⟨[], by rw [List.append_nil, hq, (h.whole c hc).2 es hes]⟩
      · rw [hq]
        exact h.begins
  · intro c hc
    rw [hr] at hc
    refine ⟨(h.whole c hc).1, fun es' hes' => ?_⟩
    rcases present c hc with ⟨es, hes, hq, hd⟩ | ⟨-, hd⟩
    · rw [hd] at hes'
      cases hes'
      rw [List.append_nil, hq]
      exact (h.whole c hc).2 es hes
    · simp [hd] at hes'

/-- The greeting reaches the viewer for whom it is, and no other. -/
theorem greet {c : Connection} {activity : String} (h : Heard initial id queue r history due)
    (hc : r.registry.find? other = some c) (ok : (r.deliver c (.game activity)).2 = none)
    (hd : due = some (if other = id then [.game activity] else [])) :
    Heard initial id queue (r.deliver c (.game activity)).1 history (some []) := by
  obtain ⟨hmem, rfl⟩ := Registry.find?_eq_some_iff.1 hc
  refine h.deliver (r.deliver_frame c (.game activity)) (fun hn => ?_)
    fun d hd' => .inl ⟨_, hd, ?_, rfl⟩
  · rw [Relay.accepted_deliver_other (h.queue_ne hn hmem)]
  · rw [Relay.accepted_deliver ok]
    simp only [h.own c hmem]

/-- A committed value reaches all but its origin, or they are among the failures. -/
theorem tell {origin : ClientId} {value : String} (h : Heard initial id queue r history due)
    (hd : due = some (if origin = id then [] else [.game value])) :
    Heard initial id queue (r.deliverAll (.game value) (some origin)).1 history
      (if id ∈ (r.deliverAll (.game value) (some origin)).2.2.map (·.1) then none
        else some []) := by
  have hmem : ∀ c, c ∈ r.addressees (some origin) ↔ c ∈ r.registry.connections ∧ origin ≠ c.id := by
    simp [Relay.mem_addressees]
  refine h.deliver (r.deliverAll_frame (.game value) (some origin)) (fun hn => ?_) fun c hc => ?_
  · exact Relay.accepted_deliverEach_other fun d hd' => h.queue_ne hn ((hmem d).1 hd').1
  obtain ⟨hc, hid⟩ := Registry.find?_eq_some_iff.1 hc
  by_cases ho : origin = id
  · left
    have hnot : id ∉ (r.deliverEach (.game value) (r.addressees (some origin))).2.2.map (·.1) := by
      intro hm
      obtain ⟨d, hd', he⟩ := Relay.deliverEach_failed _ _ _ id hm
      exact ((hmem d).1 hd').2 (ho.trans he.symm)
    refine ⟨[], by rw [hd, if_pos ho], ?_, if_neg hnot⟩
    rw [List.append_nil]
    refine Relay.accepted_deliverEach_other fun d hd' hq => ((hmem d).1 hd').2 ?_
    rw [ho, (h.own d ((hmem d).1 hd').1).2 hq]
  · obtain ⟨hok, hbad⟩ := r.accepted_deliverEach_own (.game value) ((hmem c).2 ⟨hc, hid ▸ ho⟩)
      (r.nodup_addressees (some origin))
      fun d hd' hq => by
        rw [hid, h.own d ((hmem d).1 hd').1, hq, ← h.own c hc, hid]
    rw [hid, (h.own c hc).1 hid] at hok hbad
    by_cases hm : id ∈ (r.deliverEach (.game value) (r.addressees (some origin))).2.2.map (·.1)
    · exact .inr ⟨hbad hm, if_pos hm⟩
    · exact .inl ⟨_, by rw [hd, if_neg ho], hok hm, if_neg hm⟩

end Heard
end ActivityRelay
