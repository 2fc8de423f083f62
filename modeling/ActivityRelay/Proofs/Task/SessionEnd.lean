import ActivityRelay.Proofs.Relay.SessionEnd
import ActivityRelay.Proofs.Task.Log

/-! How sessions end while tasks run beside each other. What a task is bound to write counts as much
as what is written: with both, every registration is accounted for after each step. -/
namespace ActivityRelay
open Record

namespace Phase
variable {me : Nat} {s s' : Shared} {p p' : Phase} {op : Operation} {id : ClientId}

/-- What a task is bound to write. -/
def unwritten : Phase → List Record
  | .clearing failed e => failed.map (·.2) ++ e.last.toList
  | .dropping _ last failed e => last.toList ++ (failed.map (·.2) ++ e.last.toList)
  | .finishing e => e.last.toList
  | _ => []

/-- How often a task may still register a viewer. -/
def arriving (id : ClientId) : Phase → Nat
  | .start (.connect other _) | .asking (.connect other _) | .waiting (.connect other _) =>
    if other = id then 1 else 0
  | _ => 0

/-- How often a task may still record what became of a viewer's greeting. -/
def welcoming (id : ClientId) : Phase → Nat
  | .greeting other _ => if other = id then 1 else 0
  | p => p.unwritten.countP (greets id) + p.unwritten.countP (fails id)

/-- How often a task may still record the end of a viewer's session. -/
def parting (id : ClientId) : Phase → Nat
  | .start (.disconnect other) => if other = id then 1 else 0
  | p => p.unwritten.count (.sessionEnded id)

/-- How often a task is bound to record the end of a viewer's session. -/
def closing (id : ClientId) (p : Phase) : Nat := p.unwritten.count (.sessionEnded id)

/-- The viewers that a task has yet to unregister are those of the failures that it is to write. -/
def Honest : Phase → Prop
  | .clearing failed _ | .dropping _ _ failed _ =>
    ∀ f ∈ failed, (f.2.drops f.1 || f.2.fails f.1) = true
  | _ => True

theorem honest_step (h : Step me s p s' p') (hp : p.Honest) : p'.Honest := by
  have clearing {record : ClientId → DeliveryError → Record}
      (hrecord : ∀ id e, ((record id e).drops id || (record id e).fails id) = true)
      (failed : List Relay.Failure) :
      ∀ f ∈ clearingOf record failed, (f.2.drops f.1 || f.2.fails f.1) = true := by
    intro f hf
    obtain ⟨g, -, rfl⟩ := List.mem_map.1 hf
    exact hrecord g.1 g.2
  cases h with
  | sendTo id value failed => exact clearing (by simp [drops, fails]) failed
  | broadcast | tells => exact clearing (by simp [drops, fails]) _
  | fails => simp [Honest, Record.fails]
  | clears => exact (List.forall_mem_cons.1 hp).2
  | drops => exact hp
  | disconnect | unregister | missed | greets => simp [Honest]
  | _ => trivial

/-- What a step writes, and what it leaves to be written: a viewer is registered only by a task that
was to do it, its greeting is decided only once for that, the end of its session is recorded only by
a task that was to do it; and who is registered no more has the end of the session on record, or a
failure. -/
structure Pays (id : ClientId) (r : Relay) (p : Phase) (new : List Record) (r' : Relay)
    (p' : Phase) : Prop where
  log : r'.log = r.log ++ new
  arrived : new.countP (registers id) + p'.arriving id ≤ p.arriving id
  welcomed : new.countP (greets id) + new.countP (fails id) + p'.welcoming id ≤
    new.countP (registers id) + p.welcoming id
  kept : p.unwritten.countP (greets id) ≤
    new.countP (greets id) + p'.unwritten.countP (greets id)
  parted : new.count (.sessionEnded id) + p'.parting id ≤ p.parting id
  upper : new.count (.sessionEnded id) + p'.closing id + r'.registry.here id ≤
    new.countP (registers id) + p.closing id + r.registry.here id
  lower : new.countP (registers id) + p.closing id + r.registry.here id ≤
    new.count (.sessionEnded id) + p'.closing id + new.countP (drops id) + new.countP (fails id) +
      r'.registry.here id

theorem countP_clearingOf {record : ClientId → DeliveryError → Record} {q : Record → Bool}
    (h : ∀ id e, q (record id e) = false) (failed : List Relay.Failure) :
    ((clearingOf record failed).map (·.2)).countP q = 0 := by
  simp [clearingOf, List.countP_eq_zero, h]

theorem pays_of_silent {r r' : Relay} (h : r.Silent r') (arrived : p'.arriving id ≤ p.arriving id)
    (welcomed : p'.welcoming id ≤ p.welcoming id)
    (kept : p.unwritten.countP (greets id) ≤ p'.unwritten.countP (greets id))
    (parted : p'.parting id ≤ p.parting id) (ended : p'.closing id = p.closing id) :
    ∃ new, Pays id r p new r' p' := by
  obtain ⟨hregistry, new, hlog, haside⟩ := h
  obtain ⟨hregisters, hgreets, hfails, hdrops, hends⟩ := counts_of_isAside haside id
  have hhere : r'.registry.here id = r.registry.here id := by rw [hregistry]
  refine ⟨new, hlog, ?_, ?_, ?_, ?_, ?_, ?_⟩ <;> omega

/-- A record that is bound to be written counts the same once it is; who is registered no more for
it has it on record. -/
theorem pays_of_written {r r' : Relay} (rec : Option Record) {left : List Record}
    (hlog : r'.log = r.log ++ (rec.toList ++ left))
    (hrec : ∀ x ∈ rec, x.isChange = false)
    (hleft : ∀ x ∈ left, ∃ other clients, x = .unregistered other clients)
    (hhere : r'.registry.here id ≤ r.registry.here id ∧ r.registry.here id ≤
      r'.registry.here id + rec.toList.countP (drops id) + rec.toList.countP (Record.fails id))
    (hp : p.unwritten = rec.toList ++ p'.unwritten) (arrived : p'.arriving id ≤ p.arriving id)
    (welcomed : p.welcoming id = p.unwritten.countP (greets id) + p.unwritten.countP (fails id))
    (welcomed' : p'.welcoming id =
      p'.unwritten.countP (greets id) + p'.unwritten.countP (fails id))
    (parted : p.parting id = p.closing id) (parted' : p'.parting id = p'.closing id) :
    ∃ new, Pays id r p new r' p' := by
  have never {q : Record → Bool} (hq : ∀ other clients, q (.unregistered other clients) = false) :
      left.countP q = 0 := by
    rw [List.countP_eq_zero]
    intro x hx
    obtain ⟨other, clients, rfl⟩ := hleft x hx
    simp [hq]
  have hregisters : rec.toList.countP (registers id) = 0 := by
    rw [List.countP_eq_zero]
    intro x hx
    have hx := hrec x (Option.mem_toList.1 hx)
    cases x <;> simp_all [registers, isChange]
  have hclosing : p.closing id = rec.toList.count (.sessionEnded id) + p'.closing id := by
    rw [closing, hp, List.count_append, closing]
  have hends : (rec.toList ++ left).count (.sessionEnded id) =
      rec.toList.count (.sessionEnded id) := by
    have hleft : left.count (.sessionEnded id) = 0 :=
      never (q := (· == .sessionEnded id)) fun _ _ => rfl
    rw [List.count_append, hleft, Nat.add_zero]
  have hgreets : p.unwritten.countP (greets id) =
      rec.toList.countP (greets id) + p'.unwritten.countP (greets id) := by
    rw [hp, List.countP_append]
  rw [hp, List.countP_append, List.countP_append] at welcomed
  refine ⟨rec.toList ++ left, hlog, ?_, ?_, ?_, ?_, ?_, ?_⟩ <;>
    simp only [hends, List.countP_append, never (q := registers id) fun _ _ => rfl,
      never (q := greets id) fun _ _ => rfl, never (q := Record.fails id) fun _ _ => rfl,
      never (q := drops id) fun _ _ => rfl] <;> omega

/-- Who is unregistered for a failure has the failure on record, registered by then or not. -/
theorem pays_of_clears {r : Relay} {other : ClientId} {record : Record}
    (honest : (record.drops other || record.fails other) = true) (failed : Clearing)
    (e : Ending) (id : ClientId) : ∃ new, Pays id r (.clearing ((other, record) :: failed) e) new
      (r.clear record other).1 (.dropping (r.clear record other).2 none failed e) := by
  have unchanging : ∀ x ∈ some record, x.isChange = false := by
    cases record <;> simp_all [Record.drops, Record.fails, isChange]
  have onRecord : (if other = id then 1 else 0) ≤
      [record].countP (drops id) + [record].countP (Record.fails id) := by
    cases record <;> simp_all [Record.drops, Record.fails, List.countP_cons]
  rcases (r.note record).remove_eq other with ⟨h, hid⟩ | ⟨c, hid, h⟩
  · have hlog : (r.note record).log = r.log ++ ([record] ++ []) := rfl
    rw [Relay.clear, h]
    exact pays_of_written (some record) hlog unchanging (by simp)
      ⟨Nat.le_refl _, Nat.le_add_right_of_le (Nat.le_add_right _ _)⟩ rfl (Nat.le_refl _)
      rfl rfl rfl rfl
  · have hhere := r.registry.here_erase other id
    have hone := r.registry.here_le_one id
    have hgone : ((r.registry.erase other).here id ≤ r.registry.here id) ∧ r.registry.here id ≤
        (r.registry.erase other).here id + [record].countP (drops id) +
          [record].countP (Record.fails id) := by
      split at hhere <;> simp_all <;> omega
    rw [Relay.clear, h]
    exact pays_of_written (some record) (List.append_assoc ..) unchanging (by simp) hgone rfl
      (Nat.le_refl _) rfl rfl rfl rfl

theorem pays_step (h : Step me s p s' p') (hop : op.isPublic = true) (ho : p.Of op)
    (plain : p.Plain) (honest : p.Honest) (id : ClientId) :
    ∃ new, Pays id s.relay p new s'.relay p' := by
  have still {r r' : Relay} (h : r'.registry = r.registry) (hl : r'.log = r.log) :
      Relay.Silent r r' := ⟨h, [], by rw [hl, List.append_nil], by simp⟩
  cases h with
  | register | unregister | sendTo | broadcast | commit | replaces =>
    cases ho
    simp [Operation.isPublic] at hop
  | connect other queue =>
    exact pays_of_silent (still rfl rfl) (Nat.le_refl _) (Nat.le_refl _) (Nat.le_refl _)
      (Nat.le_refl _) rfl
  | current | status | changes | reads | reports =>
    exact pays_of_silent (still rfl rfl) (Nat.le_refl _) (Nat.le_refl _) (Nat.le_refl _)
      (Nat.le_refl _) rfl
  | ask work =>
    exact pays_of_silent (still rfl rfl) (by cases work <;> exact Nat.le_refl _) (Nat.le_refl _)
      (Nat.le_refl _) (Nat.le_refl _) rfl
  | plain | command =>
    exact pays_of_silent (s.relay.silent_hear _ _) (Nat.le_refl _) (Nat.le_refl _) (Nat.le_refl _)
      (Nat.le_refl _) rfl
  | @refuses other queue front hi =>
    have silent : Relay.Silent s.relay
        (((s.relay.newConnection other queue).1.note (.duplicateIgnored other)).release queue) :=
      ⟨rfl, [.duplicateIgnored other], rfl, by simp [isAside, isQuiet]⟩
    exact pays_of_silent silent (Nat.zero_le _) (Nat.le_refl _) (Nat.le_refl _) (Nat.le_refl _) rfl
  | @registers other queue registry front hi =>
    have hhere : registry.here id = if other = id then 1 else s.relay.registry.here id :=
      Registry.here_insert? hi id
    have hnew : s.relay.registry.here other = 0 :=
      Registry.here_of_notMem (Registry.notMem_ids_iff.2 (Registry.insert?_eq_some hi).1)
    refine ⟨[.registered other registry.size], rfl, ?_, ?_, ?_, ?_, ?_, ?_⟩ <;>
      by_cases he : other = id <;>
      simp_all [Record.registers, Record.greets, Record.fails, arriving, welcoming, parting,
        closing, unwritten, Relay.note]
  | disconnect other =>
    rcases s.relay.remove_eq other with ⟨h, -⟩ | ⟨c, hid, h⟩
    · rw [h]
      exact pays_of_silent (still rfl rfl) (Nat.le_refl _) (Nat.le_refl _) (Nat.le_refl _)
        (Nat.zero_le _) rfl
    · rw [h]
      have hhere := s.relay.registry.here_erase other id
      have hthere := Registry.here_of_mem hid
      refine ⟨[.unregistered other (s.relay.ids.erase other).card], rfl, ?_, ?_, ?_, ?_, ?_, ?_⟩ <;>
        by_cases he : other = id <;>
        simp_all [Record.registers, Record.greets, Record.fails, arriving, welcoming, parting,
          closing, unwritten, Relay.note]
  | missed activity hf =>
    exact pays_of_silent (still rfl rfl) (Nat.le_refl _) (Nat.zero_le _) (Nat.le_refl _)
      (Nat.le_refl _) rfl
  | @greets other c activity hc ok =>
    refine pays_of_silent (Relay.silent_of_frame (s.relay.deliver_frame c _)) (Nat.le_refl _)
      ?_ ?_ ?_ ?_ <;>
      simp [welcoming, parting, closing, unwritten, Record.greets, Record.fails, List.countP_cons]
  | @fails other c activity e hc bad =>
    refine pays_of_silent (still rfl rfl) (Nat.le_refl _)
      ?_ ?_ ?_ ?_ <;>
      simp [welcoming, parting, closing, unwritten, Record.greets, Record.fails, List.countP_cons]
  | tells origin previous value =>
    have never {q : Record → Bool} (h : ∀ id e, q (.broadcastFailed id e) = false) :=
      countP_clearingOf h (s.relay.deliverAll (.game value) (some origin)).2.2
    have hgreets := never (q := greets id) fun _ _ => rfl
    have hfails := never (q := Record.fails id) fun _ _ => rfl
    have hends := never (q := (· == .sessionEnded id)) fun _ _ => rfl
    refine pays_of_silent (Relay.silent_of_frame (s.relay.deliverAll_frame _ _)) (Nat.le_refl _)
      ?_ ?_ ?_ ?_ <;>
      simp [welcoming, parting, closing, unwritten, List.count, Record.greets, Record.fails,
        hgreets, hfails, hends]
  | cleared ending =>
    exact pays_of_silent (still rfl rfl) (Nat.le_refl _) (Nat.le_refl _) (Nat.le_refl _)
      (Nat.le_refl _) rfl
  | clears other record failed ending =>
    exact pays_of_clears (List.forall_mem_cons.1 honest).1 failed ending id
  | drops c last failed ending =>
    have hhere : ((last.elim s.relay s.relay.note).drop c).registry.here id =
        s.relay.registry.here id := by
      cases last <;> cases c <;> rfl
    have hlog : ((last.elim s.relay s.relay.note).drop c).log =
        s.relay.log ++ (last.toList ++ []) := by
      cases last <;> cases c <;> simp [Relay.drop, Relay.note, Relay.release, Relay.onQueue]
    exact pays_of_written last hlog plain.1 (by simp)
      ⟨hhere.le, Nat.le_add_right_of_le (Nat.le_add_right_of_le hhere.ge)⟩ rfl (Nat.le_refl _)
      rfl rfl rfl rfl
  | finishes e =>
    have hhere : (e.last.elim s.relay s.relay.note).registry.here id =
        s.relay.registry.here id := by
      cases e.last <;> rfl
    have hlog : (e.last.elim s.relay s.relay.note).log =
        s.relay.log ++ (e.last.toList ++ []) := by
      cases e.last <;> simp [Relay.note]
    exact pays_of_written e.last hlog plain (by simp)
      ⟨hhere.le, Nat.le_add_right_of_le (Nat.le_add_right_of_le hhere.ge)⟩
      (List.append_nil _).symm (Nat.le_refl _) rfl rfl rfl rfl

theorem closing_le_parting (p : Phase) (id : ClientId) : p.closing id ≤ p.parting id := by
  cases p with
  | start op => exact Nat.zero_le _
  | _ => exact Nat.le_refl _

end Phase

namespace System
variable {r : Relay} {id : ClientId} {came left : Nat} {written : List Record} {s t : System}

/-- What is written of a viewer since a relay began, and what tasks are bound to write: the viewer
was registered at most as often as it came, and decided to leave at most as often as it left; and
each of its registrations is accounted for. -/
structure Ledger (r : Relay) (id : ClientId) (came left : Nat) (written : List Record)
    (s : System) : Prop where
  plain : ∀ p ∈ s.tasks, p.Plain
  honest : ∀ p ∈ s.tasks, p.Honest
  log : s.relay.log = r.log ++ written
  arrived : written.countP (registers id) + (s.tasks.map (Phase.arriving id)).sum ≤ came
  welcomed : written.countP (greets id) + written.countP (fails id) +
    (s.tasks.map (Phase.welcoming id)).sum ≤ written.countP (registers id)
  parted : written.count (.sessionEnded id) + (s.tasks.map (Phase.parting id)).sum ≤ left
  upper : written.count (.sessionEnded id) + (s.tasks.map (Phase.closing id)).sum +
    s.relay.registry.here id ≤ written.countP (registers id)
  lower : written.countP (registers id) ≤ written.count (.sessionEnded id) +
    (s.tasks.map (Phase.closing id)).sum + written.countP (drops id) + written.countP (fails id) +
      s.relay.registry.here id

/-- Nothing is said or done about who is registered and whose session has ended, by no task. -/
structure Silent (s t : System) : Prop where
  tasks : t.tasks = s.tasks
  relay : s.relay.Silent t.relay

namespace Ledger

theorem start (unconnected : r.registry.connections = []) (id : ClientId) :
    Ledger r id 0 0 [] (start r []) := by
  have hhere : r.registry.here id = 0 :=
    Registry.here_of_notMem (by simp [Registry.ids, unconnected])
  have hhere : (System.start r []).relay.registry.here id = 0 := hhere
  constructor
  · simp [System.start]
  · simp [System.start]
  · exact (List.append_nil _).symm
  · exact Nat.le_refl _
  · exact Nat.le_refl _
  · exact Nat.le_refl _
  · rw [hhere]; exact Nat.le_refl _
  · exact Nat.zero_le _

theorem silent (h : Ledger r id came left written s) (hst : Silent s t) :
    ∃ new, Ledger r id came left (written ++ new) t := by
  obtain ⟨htasks, hregistry, new, hlog, haside⟩ := hst
  obtain ⟨hregisters, hgreets, hfails, hdrops, hends⟩ := counts_of_isAside haside id
  obtain ⟨plain, honest, log, arrived, welcomed, parted, upper, lower⟩ := h
  refine ⟨new, by rwa [htasks], by rwa [htasks], by rw [hlog, log, List.append_assoc], ?_, ?_, ?_,
    ?_, ?_⟩ <;>
    simp only [htasks, hregistry, List.countP_append, List.count_append] <;> omega

theorem spawn (h : Ledger r id came left written s) (op : Operation) :
    Ledger r id (came + (Phase.start op).arriving id) (left + (Phase.start op).parting id) written
      (s.spawn op) := by
  have hrelay : (s.spawn op).relay = s.relay := rfl
  have htasks : (s.spawn op).tasks = s.tasks ++ [.start op] := rfl
  have hwelcoming : (Phase.start op).welcoming id = 0 := rfl
  have hclosing : (Phase.start op).closing id = 0 := rfl
  obtain ⟨plain, honest, log, arrived, welcomed, parted, upper, lower⟩ := h
  refine ⟨?_, ?_, log, ?_, ?_, ?_, ?_, ?_⟩
  · exact List.forall_mem_append.2 ⟨plain, by simp [Phase.Plain]⟩
  · exact List.forall_mem_append.2 ⟨honest, by simp [Phase.Honest]⟩
  all_goals
    simp only [hrelay, htasks, List.map_append, List.map_cons, List.map_nil, List.sum_append,
      List.sum_cons, List.sum_nil, hwelcoming, hclosing]
    omega

/-- What the steps of a task write is accounted for. -/
theorem advance {ops : List Operation} (h : Ledger r id came left written s)
    (isPublic : ∀ op ∈ ops, op.isPublic = true) (f : Follows ops s) {i : Nat}
    (hm : s.advance i = some t) : ∃ new p p', s.tasks[i]? = some p ∧ t.tasks = s.tasks.set i p' ∧
      Phase.Step i s.shared p t.shared p' ∧ Phase.Pays id s.relay p new t.relay p' ∧
      Ledger r id came left (written ++ new) t := by
  obtain ⟨p, p', hp, hs, ht, -⟩ := advance_cases hm
  obtain ⟨op, hop, ho⟩ := f.task i p hp
  obtain ⟨plain, honest, log, arrived, welcomed, parted, upper, lower⟩ := h
  have hmem := List.mem_of_getElem? hp
  obtain ⟨new, pays⟩ := Phase.pays_step hs (isPublic op (List.mem_of_getElem? hop)) ho
    (plain p hmem) (honest p hmem) id
  have harriving := sum_map_set (Phase.arriving id) hp p'
  have hwelcoming := sum_map_set (Phase.welcoming id) hp p'
  have hparting := sum_map_set (Phase.parting id) hp p'
  have hclosing := sum_map_set (Phase.closing id) hp p'
  have pays : Phase.Pays id s.relay p new t.relay p' := pays
  obtain ⟨hlog, harrived, hwelcomed, -, hparted, hupper, hlower⟩ := pays
  refine ⟨new, p, p', hp, ht, hs, pays, ?_, ?_, by rw [hlog, log, List.append_assoc], ?_, ?_, ?_,
    ?_, ?_⟩
  · rw [ht]
    intro q hq
    rcases List.mem_or_eq_of_mem_set hq with hq | rfl
    · exact plain q hq
    · exact Phase.plain_step hs (plain p hmem)
  · rw [ht]
    intro q hq
    rcases List.mem_or_eq_of_mem_set hq with hq | rfl
    · exact honest q hq
    · exact Phase.honest_step hs (honest p hmem)
  all_goals
    simp only [ht, List.countP_append, List.count_append]
    omega

/-- Of a viewer that never left, no task is to record the end of its session. -/
theorem parting_eq_zero (h : Ledger r id came 0 written s) : ∀ p ∈ s.tasks, p.parting id = 0 := by
  have hsum : (s.tasks.map (Phase.parting id)).sum = 0 := by
    have hparted := h.parted
    omega
  intro p hp
  exact List.sum_eq_zero_iff_forall_eq_nat.1 hsum _ (List.mem_map_of_mem hp)

end Ledger
end System
end ActivityRelay
