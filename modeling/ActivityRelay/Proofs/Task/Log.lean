import ActivityRelay.Proofs.Relay.Log
import ActivityRelay.Proofs.Task.Step

/-! The log while tasks run beside each other. A viewer is recorded under the lock under which it
comes or goes, so that who is registered, and how many, can be read off the log in every run. That
the record of a failed delivery and the removal stand together holds if nobody comes in between. -/
namespace ActivityRelay

/-- A record of someone who came or left. -/
def Record.isChange : Record → Bool
  | .registered .. | .unregistered .. => true
  | _ => false

namespace Log

theorem replay_filter (ids : Finset ClientId) (records : List Record) :
    replay ids (records.filter Record.isChange) = replay ids records := by
  induction records generalizing ids with
  | nil => rfl
  | cons rec records ih => cases rec <;> exact ih _

/-- Of records that fit, those of who came and who left fit by themselves. -/
theorem Faithful.filter {ids : Finset ClientId} {records : List Record} (h : Faithful ids records) :
    Faithful ids (records.filter Record.isChange) := by
  induction records generalizing ids with
  | nil => exact h
  | cons rec records ih =>
    have hrec : rec.Fits ids records := h [] rec records rfl
    have htail := ih fun before other behind hsplit =>
      h (rec :: before) other behind (congrArg (rec :: ·) hsplit)
    cases rec with
    | registered id clients | unregistered id clients => exact .cons hrec htail
    | _ => exact htail

end Log

namespace Relay
open Log
variable {r r' r'' : Relay}

/-- From one relay to the next the log grows by records of which those of who came and who left lead
from the one's registered ids to those of the other. -/
def Counts (r r' : Relay) : Prop :=
  ∃ written, r'.log = r.log ++ written ∧ replay r.ids written = r'.ids ∧
    Faithful r.ids (written.filter Record.isChange)

theorem Logs.counts (h : Logs r r') : Counts r r' := by
  obtain ⟨written, hlog, hreplay, hfaithful⟩ := h
  exact ⟨written, hlog, hreplay, hfaithful.filter⟩

theorem Counts.trans (h : Counts r r') (h' : Counts r' r'') : Counts r r'' := by
  obtain ⟨written, hlog, hreplay, hfaithful⟩ := h
  obtain ⟨more, hlog', hreplay', hfaithful'⟩ := h'
  rw [← hreplay] at hreplay' hfaithful'
  refine ⟨written ++ more, by rw [hlog', hlog, List.append_assoc],
    by rw [replay_append, hreplay'], ?_⟩
  rw [List.filter_append]
  exact hfaithful.append (by rwa [replay_filter])

theorem counts_note {rec : Record} (h : rec.isChange = false) (r : Relay) :
    Counts r (r.note rec) := by
  refine ⟨[rec], rfl, ?_, ?_⟩
  · cases rec <;> first | rfl | cases h
  · rw [List.filter_singleton, h]
    exact faithful_nil _

/-- A last record, if there is one. -/
theorem counts_last {last : Option Record} (h : ∀ rec ∈ last, rec.isChange = false) (r : Relay) :
    Counts r (last.elim r r.note) := by
  cases last with
  | none => exact (Logs.refl r).counts
  | some rec => exact counts_note (h rec rfl) r

end Relay

namespace Phase
open Relay
variable {me : Nat} {s s' : Shared} {p p' : Phase}

/-- What a task has still to write tells of nobody who comes or leaves. -/
def Plain : Phase → Prop
  | .clearing failed ending => (∀ f ∈ failed, f.2.isChange = false) ∧
    ∀ rec ∈ ending.last, rec.isChange = false
  | .dropping _ last failed ending => (∀ rec ∈ last, rec.isChange = false) ∧
    (∀ f ∈ failed, f.2.isChange = false) ∧ ∀ rec ∈ ending.last, rec.isChange = false
  | .finishing ending => ∀ rec ∈ ending.last, rec.isChange = false
  | _ => True

theorem plain_clearingOf {record : ClientId → DeliveryError → Record}
    (h : ∀ id e, (record id e).isChange = false) (failed : List Failure) :
    ∀ f ∈ clearingOf record failed, f.2.isChange = false := by
  intro f hf
  obtain ⟨g, -, rfl⟩ := List.mem_map.1 hf
  exact h g.1 g.2

theorem plain_step (h : Step me s p s' p') (hp : p.Plain) : p'.Plain := by
  have nothing : ∀ rec ∈ (none : Option Record), rec.isChange = false := by simp
  have only {rec : Record} (h : rec.isChange = false) :
      ∀ other ∈ some rec, other.isChange = false := by simpa using h
  cases h with
  | disconnect id =>
    refine ⟨fun rec hrec => ?_, by simp, nothing⟩
    obtain ⟨c, -, rfl⟩ := Option.map_eq_some_iff.1 hrec
    rfl
  | unregister id => exact ⟨nothing, by simp, nothing⟩
  | sendTo id value failed => exact ⟨plain_clearingOf (fun _ _ => rfl) failed, nothing⟩
  | broadcast value exclude => exact ⟨plain_clearingOf (fun _ _ => rfl) _, nothing⟩
  | tells origin previous value => exact ⟨plain_clearingOf (fun _ _ => rfl) _, only rfl⟩
  | missed => exact ⟨by simp, nothing⟩
  | greets => exact ⟨by simp, only rfl⟩
  | fails => exact ⟨by simp [Record.isChange], nothing⟩
  | cleared ending => exact hp.2
  | clears id record failed ending => exact ⟨nothing, (List.forall_mem_cons.1 hp.1).2, hp.2⟩
  | drops c last failed ending => exact hp.2
  | register | plain | refuses | reads | replaces | reports => exact nothing
  | _ => trivial

theorem counts_step (h : Step me s p s' p') (hp : p.Plain) : Counts s.relay s'.relay := by
  have logs (h : Logs s.relay s'.relay) : Counts s.relay s'.relay := h.counts
  cases h with
  | disconnect id | unregister id => exact logs (s.relay.logs_remove id)
  | register c => exact logs (s.relay.logs_register c)
  | sendTo id value failed => exact logs (logs_of_frame (s.relay.deliverTo_frame id _))
  | broadcast value exclude => exact logs (logs_of_frame (s.relay.deliverAll_frame _ exclude))
  | tells origin previous value => exact logs (logs_of_frame (s.relay.deliverAll_frame _ _))
  | greets hc ok => exact logs (logs_of_frame (s.relay.deliver_frame _ _))
  | plain | command => exact logs (s.relay.logs_hear _ _)
  | @registers id queue registry front hi =>
    exact ((Logs.of_same rfl rfl).trans (logs_enroll hi)).counts
  | refuses front hi =>
    exact ((Logs.of_same rfl rfl).trans ((logs_note rfl _).trans (logs_onQueue _ _ _))).counts
  | clears id record failed ending =>
    -- The viewer may have left since, so the failure is taken apart from the removal.
    exact (counts_note (List.forall_mem_cons.1 hp.1).1 _).trans (logs_remove _ id).counts
  | drops c last failed ending => exact (counts_last hp.1 _).trans (logs_drop _ c).counts
  | finishes e => exact counts_last hp _
  | _ => exact logs (.of_same rfl rfl)

end Phase

namespace System
open Relay Log
variable {s t : System}

theorem counts_move {m : Move} (h : s.move m = some t) (hs : ∀ p ∈ s.tasks, p.Plain) :
    Counts s.relay t.relay ∧ ∀ p ∈ t.tasks, p.Plain := by
  rcases move_cases h with ⟨i, h⟩ | hm
  · obtain ⟨p, p', hp, hstep, htasks, -⟩ := advance_cases h
    have hplain := hs p (List.mem_of_getElem? hp)
    refine ⟨Phase.counts_step hstep hplain, fun q hq => ?_⟩
    rw [htasks] at hq
    rcases List.mem_or_eq_of_mem_set hq with hq | rfl
    · exact hs q hq
    · exact Phase.plain_step hstep hplain
  · obtain ⟨marks, aside⟩ := aside_of_move hm h
    obtain ⟨queues, order, hr⟩ := aside.frame
    have same : Logs s.relay t.relay := .of_same (by rw [hr]) (by rw [hr])
    refine ⟨same.counts, ?_⟩
    rw [aside.tasks]
    exact hs

theorem counts_run {r : Relay} {ops : List Operation} {moves : List Move}
    (h : (start r ops).run moves = some t) : Counts r t.relay := by
  have first : ∀ p ∈ (start r ops).tasks, p.Plain := by
    intro p hp
    obtain ⟨op, -, rfl⟩ := List.mem_map.1 hp
    trivial
  have same : Counts r (start r ops).relay := (Logs.refl r).counts
  have kept : Counts r t.relay ∧ ∀ p ∈ t.tasks, p.Plain := by
    refine run_invariant (P := fun s => Counts r s.relay ∧ ∀ p ∈ s.tasks, p.Plain)
      (fun s m u hu hs => ?_) ⟨same, first⟩ h
    obtain ⟨hcounts, hplain⟩ := counts_move hu hs.2
    exact ⟨hs.1.trans hcounts, hplain⟩
  exact kept.1

/-- The log of a relay is faithful. While operations come one after another, its records lead from
the viewers that were registered at first to those that are registered now, at the end and at every
point before it. Nobody is recorded as having come who is there, nor as having left who is not; the
number in a record is the number of viewers behind it; and who is recorded for a failed delivery is
there, and is recorded as having left in the next record. While operations run beside each other,
all this holds as well but for the last. -/
theorem log_faithful :
    (∀ r r' r'' : Relay, Relation.ReflTransGen Turn r r' → Relation.ReflTransGen Turn r' r'' →
      ∃ written more, r'.log = r.log ++ written ∧ r''.log = r.log ++ (written ++ more) ∧
        replay r.ids written = r'.ids ∧ replay r.ids (written ++ more) = r''.ids ∧
        Faithful r.ids (written ++ more)) ∧
    ∀ (r : Relay) (ops : List Operation) (moves : List Move) (t : System),
      (start r ops).run moves = some t → ∃ written, t.relay.log = r.log ++ written ∧
        replay r.ids written = t.relay.ids ∧
        Faithful r.ids (written.filter Record.isChange) := by
  refine ⟨fun r r' r'' h h' => ?_, fun r ops moves t h => counts_run h⟩
  exact (logs_of_turns h).through (logs_of_turns h')

/-- A duplicate, a greeting that is taken back, two viewers who are dropped in one fan-out, and one
who has left before. -/
def crowdedActions : List Action :=
  [.perform (.connect ⟨1⟩ 0), .perform (.connect ⟨1⟩ 1), .perform (.connect ⟨2⟩ 1),
    .perform (.connect ⟨3⟩ 1), .perform (.connect ⟨4⟩ 2), .perform (.dispatch ⟨1⟩ "a g B"),
    .perform (.unregister ⟨2⟩)]

/-- Of two deliveries that fail beside each other, the second finds the viewer gone. -/
theorem log_faithful_crowded :
    let log : List Record :=
      [.registered ⟨1⟩ 1, .greeted ⟨1⟩ "A", .duplicateIgnored ⟨1⟩, .registered ⟨2⟩ 2,
        .greeted ⟨2⟩ "A", .registered ⟨3⟩ 3, .deliveryFailed ⟨3⟩ (.queueFull ⟨3⟩),
        .unregistered ⟨3⟩ 2, .registered ⟨4⟩ 3, .greeted ⟨4⟩ "A", .received ⟨1⟩ "a g B",
        .broadcastFailed ⟨2⟩ (.queueFull ⟨2⟩), .unregistered ⟨2⟩ 2,
        .broadcastFailed ⟨4⟩ (.queueFull ⟨4⟩), .unregistered ⟨4⟩ 1,
        .activityChanged ⟨1⟩ "A" "B" 0]
    let failed : Record := .deliveryFailed ⟨3⟩ (.queueFull ⟨3⟩)
    ((fresh "A" [2, 1, 1]).acts crowdedActions).1.log = log ∧ Faithful ∅ log ∧
      replay ∅ log = {⟨1⟩} ∧
      ∃ t, (start crowded [.sendTo ⟨3⟩ "B", .sendTo ⟨3⟩ "C"]).run
        [.task 0, .task 1, .task 0, .task 1] = some t ∧
        t.relay.log = [failed, .unregistered ⟨3⟩ 3, failed] ∧
        replay crowded.ids t.relay.log = t.relay.ids ∧ t.relay.ids = {⟨1⟩, ⟨2⟩, ⟨4⟩} := by
  intro log failed
  obtain ⟨alone, beside⟩ := log_faithful
  have hlog : ((fresh "A" [2, 1, 1]).acts crowdedActions).1.log = log := by decide
  obtain ⟨written, more, -, hall, -, hids, hfaithful⟩ :=
    alone _ _ _ (turns_acts (fresh "A" [2, 1, 1]) crowdedActions) .refl
  have hwritten : written ++ more = log := hall.symm.trans hlog
  rw [hwritten] at hids hfaithful
  refine ⟨hlog, hfaithful, hids.trans (by decide), ?_⟩
  obtain ⟨t, ht⟩ : ∃ t, (start crowded [.sendTo ⟨3⟩ "B", .sendTo ⟨3⟩ "C"]).run
      [.task 0, .task 1, .task 0, .task 1] = some t := ⟨_, rfl⟩
  obtain ⟨written, hwritten, hreplay, -⟩ := beside _ _ _ t ht
  have hwritten : t.relay.log = written := hwritten
  rw [← hwritten] at hreplay
  refine ⟨t, ht, ?_, hreplay, ?_⟩ <;> cases ht <;> decide

end System
end ActivityRelay
