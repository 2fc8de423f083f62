import ActivityRelay.Proofs.Relay.Admission
import ActivityRelay.Proofs.Relay.Log

/-! How the log accounts for the viewers that were greeted, while operations come one after another:
each of them is still registered, or the end of its session is recorded, or it was dropped in a
fan-out, which leaves nothing to record when it disconnects. -/
namespace ActivityRelay

namespace Record

/-- Whether a record tells that a viewer was registered. -/
def registers (id : ClientId) : Record → Bool
  | .registered other _ => other = id
  | _ => false

/-- Whether a record tells that a viewer was greeted. -/
def greets (id : ClientId) : Record → Bool
  | .greeted other _ => other = id
  | _ => false

/-- Whether a record tells of a failed delivery to one viewer. -/
def fails (id : ClientId) : Record → Bool
  | .deliveryFailed other _ => other = id
  | _ => false

/-- Whether a record tells of a failed delivery to a viewer in a fan-out. -/
def drops (id : ClientId) : Record → Bool
  | .broadcastFailed other _ => other = id
  | _ => false

/-- A record that tells neither of who is registered nor of a session. -/
def isAside : Record → Bool
  | .greeted .. | .sessionEnded _ => false
  | rec => rec.isQuiet

theorem counts_of_isAside {records : List Record} (h : ∀ rec ∈ records, rec.isAside = true)
    (id : ClientId) : records.countP (registers id) = 0 ∧ records.countP (greets id) = 0 ∧
      records.countP (fails id) = 0 ∧ records.countP (drops id) = 0 ∧
      records.count (.sessionEnded id) = 0 := by
  have never {p : Record → Bool} (hp : ∀ rec, rec.isAside = true → p rec = false) :
      records.countP p = 0 := by
    rw [List.countP_eq_zero]
    intro rec hrec
    simp [hp rec (h rec hrec)]
  refine ⟨never ?_, never ?_, never ?_, never ?_, never ?_⟩ <;>
    · intro rec hrec
      cases rec <;> first | rfl | simp [isAside, isQuiet] at hrec

theorem countP_greets_pos {written : List Record} {id : ClientId} :
    0 < written.countP (greets id) ↔ ∃ activity, .greeted id activity ∈ written := by
  rw [List.countP_pos_iff]
  constructor
  · rintro ⟨rec, hm, hrec⟩
    cases rec <;> simp [greets] at hrec
    exact ⟨_, hrec ▸ hm⟩
  · rintro ⟨activity, hm⟩
    exact ⟨_, hm, by simp [greets]⟩

theorem exists_dropped {written : List Record} {id : ClientId}
    (h : 0 < written.countP (drops id)) : ∃ e, .broadcastFailed id e ∈ written := by
  obtain ⟨rec, hm, hrec⟩ := List.countP_pos_iff.1 h
  cases rec <;> simp [drops] at hrec
  exact ⟨_, hrec ▸ hm⟩

/-- Only the end of a session has this message, and it comes with the time of being connected. -/
theorem message_eq_session_ended_iff {rec : Record} :
    rec.message = "relay: client session ended" ↔ ∃ id, rec = .sessionEnded id ∧
      rec.fields = [("client_id", .id id), ("connected_ms", .span)] := by
  constructor
  · intro h
    cases rec with
    | sessionEnded id => exact ⟨id, rfl, rfl⟩
    | _ => simp [message] at h
  · rintro ⟨id, rfl, -⟩
    rfl

end Record

namespace Registry
variable {r s : Registry} {id other : ClientId}

/-- How often a viewer is registered. -/
def here (id : ClientId) (r : Registry) : Nat := if id ∈ r.ids then 1 else 0

theorem here_of_mem (h : id ∈ r.ids) : r.here id = 1 := if_pos h

theorem here_of_notMem (h : id ∉ r.ids) : r.here id = 0 := if_neg h

theorem here_le_one (r : Registry) (id : ClientId) : r.here id ≤ 1 := by
  unfold here
  split <;> omega

theorem here_erase (r : Registry) (other id : ClientId) :
    (r.erase other).here id = if other = id then 0 else r.here id := by
  simp only [here, ids_erase, Finset.mem_erase]
  by_cases h : other = id <;> simp [h, eq_comm (a := id)]

theorem here_insert? {c : Connection} (h : r.insert? c = some s) (id : ClientId) :
    s.here id = if c.id = id then 1 else r.here id := by
  simp only [here, ids_insert? h, Finset.mem_insert]
  by_cases h : c.id = id <;> simp [h, eq_comm (a := id)]

end Registry

/-- Whether an operation connects a viewer. -/
def Operation.connects (id : ClientId) : Operation → Bool
  | .connect other _ => other = id
  | _ => false

namespace Relay
open Record
variable {id other : ClientId} {r s t : Relay} {ops more : List Operation}
  {written further : List Record}

/-- Nothing was said or done about who is registered and whose session has ended. -/
def Silent (r s : Relay) : Prop :=
  s.registry = r.registry ∧
    ∃ written, s.log = r.log ++ written ∧ ∀ rec ∈ written, rec.isAside = true

theorem silent_of_frame (h : ∃ queues, s = { r with queues }) : Silent r s := by
  obtain ⟨queues, rfl⟩ := h
  exact ⟨rfl, [], (List.append_nil _).symm, by simp⟩

theorem silent_note {rec : Record} (h : rec.isAside = true) (r : Relay) : Silent r (r.note rec) :=
  ⟨rfl, [rec], rfl, by simpa using h⟩

theorem Silent.trans (h : Silent r s) (h' : Silent s t) : Silent r t := by
  obtain ⟨hregistry, written, hlog, haside⟩ := h
  obtain ⟨hregistry', further, hlog', haside'⟩ := h'
  refine ⟨hregistry'.trans hregistry, written ++ further, ?_, ?_⟩
  · rw [hlog', hlog, List.append_assoc]
  · exact List.forall_mem_append.2 ⟨haside, haside'⟩

theorem silent_drop (r : Relay) (c : Option Connection) : Silent r (r.drop c) := by
  cases c with
  | none => exact silent_of_frame ⟨r.queues, rfl⟩
  | some c => exact silent_of_frame ⟨_, rfl⟩

theorem silent_hear (r : Relay) (origin : ClientId) (raw : String) :
    Silent r (r.hear origin raw) := by
  have hnoted : Silent r (r.note (.received origin raw)) := silent_note rfl r
  refine hnoted.trans ?_
  unfold hear forward
  split
  · exact ⟨rfl, [.forwardLogged raw], rfl, by simp [isAside, isQuiet]⟩
  · exact ⟨rfl, [], (List.append_nil _).symm, by simp⟩

/-- What operations write of a viewer: whenever it was greeted, it is still registered, or the end
of its session is recorded, or that it was dropped in a fan-out. Only a connect greets it, and only
a disconnect records the end of its session. -/
structure Settles (id : ClientId) (ops : List Operation) (r : Relay) (written : List Record)
    (s : Relay) : Prop where
  log : s.log = r.log ++ written
  balance : written.countP (greets id) + r.registry.here id =
    written.count (.sessionEnded id) + written.countP (drops id) + s.registry.here id
  greeted : written.countP (greets id) ≤ ops.countP (Operation.connects id)
  ended : written.count (.sessionEnded id) ≤ ops.count (.disconnect id)

theorem Silent.settles (h : Silent r s) (id : ClientId) :
    ∃ written, Settles id [] r written s := by
  obtain ⟨hregistry, written, hlog, haside⟩ := h
  obtain ⟨-, hgreets, -, hdrops, hends⟩ := counts_of_isAside haside id
  exact ⟨written, hlog, by rw [hgreets, hdrops, hends, hregistry], by simp [hgreets],
    by simp [hends]⟩

theorem Settles.append (h : Settles id ops r written s) (h' : Settles id more s further t) :
    Settles id (ops ++ more) r (written ++ further) t := by
  have hbalance := h.balance
  have hbalance' := h'.balance
  have hgreeted := h.greeted
  have hgreeted' := h'.greeted
  have hended := h.ended
  have hended' := h'.ended
  constructor
  · rw [h'.log, h.log, List.append_assoc]
  · simp only [List.countP_append, List.count_append]
    omega
  · simp only [List.countP_append]
    omega
  · simp only [List.count_append]
    omega

/-- What is written unasked may be written when something was asked for. -/
theorem Settles.of_nil (h : Settles id [] r written s) (ops : List Operation) :
    Settles id ops r written s :=
  ⟨h.log, h.balance, h.greeted.trans (Nat.zero_le _), h.ended.trans (Nat.zero_le _)⟩

theorem Settles.greeted_eq_zero (h : Settles id ops r written s)
    (hops : ∀ q, .connect id q ∉ ops) : written.countP (greets id) = 0 := by
  have hnone : ops.countP (Operation.connects id) = 0 := by
    rw [List.countP_eq_zero]
    intro op hop
    cases op with
    | connect other q =>
      have hne : other ≠ id := by
        rintro rfl
        exact hops q hop
      simpa [Operation.connects] using hne
    | _ => simp [Operation.connects]
  exact Nat.le_zero.1 (hnone ▸ h.greeted)

theorem Settles.ended_eq_zero (h : Settles id ops r written s) (hops : .disconnect id ∉ ops) :
    written.count (.sessionEnded id) = 0 :=
  Nat.le_zero.1 (List.count_eq_zero.2 hops ▸ h.ended)

/-- Who leaves the registry is accounted for by one record that tells why. -/
theorem settles_leave (hid : other ∈ r.ids) (hs : s.registry = r.registry.erase other)
    (hlog : s.log = r.log ++ written) (hgreets : written.countP (greets id) = 0)
    (hleft : written.count (.sessionEnded id) + written.countP (drops id) =
      if other = id then 1 else 0)
    (hended : written.count (.sessionEnded id) ≤ ops.count (.disconnect id)) :
    Settles id ops r written s := by
  have hgone := r.registry.here_erase other id
  refine ⟨hlog, ?_, by omega, hended⟩
  rw [hs]
  by_cases he : other = id
  · subst he
    have hthere : r.registry.here other = 1 := Registry.here_of_mem hid
    simp only [if_true] at hgone hleft
    omega
  · simp only [he, if_false] at hgone hleft
    omega

theorem settles_disconnect (r : Relay) (id other : ClientId) : ∃ written,
    Settles id [.disconnect other] r written (r.disconnect other) ∧
      written.countP (drops id) = 0 := by
  rw [disconnect]
  rcases r.remove_eq other with ⟨h, -⟩ | ⟨c, hid, h⟩
  · rw [h]
    exact ⟨[], ⟨(List.append_nil _).symm, by simp, by simp, by simp⟩, rfl⟩
  · rw [h]
    refine ⟨[.unregistered other (r.ids.erase other).card, .sessionEnded other],
      settles_leave hid rfl (List.append_assoc ..) ?_ ?_ ?_, rfl⟩ <;>
      simp [greets, drops, List.count_cons]

theorem settles_clear (id : ClientId) (hid : other ∈ r.ids) (e : DeliveryError) : ∃ written,
    Settles id [] r written (r.clear (.broadcastFailed other e) other).1 := by
  rcases (r.note (.broadcastFailed other e)).remove_eq other with ⟨-, h⟩ | ⟨c, -, h⟩
  · exact absurd hid h
  · rw [clear, h]
    refine ⟨[.broadcastFailed other e, .unregistered other (r.ids.erase other).card],
      settles_leave hid rfl (List.append_assoc ..) ?_ ?_ ?_⟩ <;>
      simp [greets, drops, List.countP_cons]

theorem settles_clearAll (id : ClientId) {failed : List Failure} (hids : ∀ f ∈ failed, f.1 ∈ r.ids)
    (hnodup : (failed.map (·.1)).Nodup) : ∃ written,
      Settles id [] r written (r.clearAll failed) := by
  induction failed generalizing r with
  | nil => exact (silent_of_frame ⟨r.queues, rfl⟩ : Silent r r).settles id
  | cons f failed ih =>
    obtain ⟨other, e⟩ := f
    obtain ⟨hid, hfailed⟩ := List.forall_mem_cons.1 hids
    obtain ⟨hnot, hnodup⟩ := List.nodup_cons.1 hnodup
    obtain ⟨cleared, hcleared⟩ := settles_clear id hid e
    obtain ⟨dropped, hdropped⟩ := (silent_drop (r.clear (.broadcastFailed other e) other).1
      (r.clear (.broadcastFailed other e) other).2).settles id
    obtain ⟨written, hwritten⟩ := ih (mem_ids_cleared hfailed hnot _) hnodup
    exact ⟨_, (hcleared.append hdropped).append hwritten⟩

/-- A fan-out drops a viewer at most once, in whatever order the viewers are gone through. -/
theorem settles_broadcastIn (id : ClientId) {order : List Connection}
    (h : order.Perm r.registry.connections) (event : Event) (exclude : Option ClientId) :
    ∃ written, Settles id [] r written (r.broadcastIn order event exclude).1 := by
  obtain ⟨sent, hsent⟩ := (silent_of_frame
    (r.deliverEach_frame event (toldIn order exclude))).settles id
  obtain ⟨written, hcleared⟩ := settles_clearAll id (mem_ids_failed h event exclude)
    ((nodup_toldIn h).sublist (r.failed_sublist event (toldIn order exclude)))
  exact ⟨_, hsent.append hcleared⟩

theorem settles_dispatchIn (id : ClientId) {order : List Connection}
    (h : order.Perm r.registry.connections) (origin : ClientId) (raw : String) :
    ∃ written, Settles id [] r written (r.dispatchIn order origin raw) := by
  have hheard := r.silent_hear origin raw
  unfold dispatchIn
  cases Command.classify raw with
  | plain text => exact hheard.settles id
  | setActivity value =>
    have hcommit : Silent r ((r.hear origin raw).commit value).1 :=
      hheard.trans ⟨rfl, [], (List.append_nil _).symm, by simp⟩
    have horder : order.Perm ((r.hear origin raw).commit value).1.registry.connections := by
      rwa [hcommit.1]
    obtain ⟨committed, hcommitted⟩ := hcommit.settles id
    obtain ⟨sent, hsent⟩ := settles_broadcastIn id horder (.game value) (some origin)
    let told := ((r.hear origin raw).commit value).1.broadcastIn order (.game value) (some origin)
    have hnoted : Silent told.1 (told.1.note (.activityChanged origin
      ((r.hear origin raw).commit value).2 value told.2)) := silent_note rfl told.1
    obtain ⟨noted, hnoted⟩ := hnoted.settles id
    exact ⟨_, (hcommitted.append hsent).append hnoted⟩

/-- A connect either succeeds, with the viewer registered and greeted, or leaves who is registered
as it was, with nobody greeted. -/
theorem connect_records (r : Relay) (id : ClientId) (queue : Nat) :
    (∃ greeting registry, (r.connect id queue).2 = .ok greeting ∧
      r.registry.insert? (r.newConnection id queue).2 = some registry ∧
      (r.connect id queue).1.registry = registry ∧
      (r.connect id queue).1.log =
        r.log ++ [.registered id registry.size, .greeted id greeting]) ∨
    ∃ e written, (r.connect id queue).2 = .error e ∧
      (r.connect id queue).1.registry = r.registry ∧
      (r.connect id queue).1.log = r.log ++ written ∧
      (written = [.duplicateIgnored id] ∨ ∃ clients left,
        written = [.registered id clients, .deliveryFailed id e, .unregistered id left]) := by
  cases hi : r.registry.insert? (r.newConnection id queue).2 with
  | none =>
    rw [connect_of_known hi]
    exact .inr ⟨_, _, rfl, rfl, rfl, .inl rfl⟩
  | some registry =>
    have hfound := find?_of_new hi
    rw [connect_of_new hi]
    rcases (r.enroll id registry).deliver_cases ⟨id, queue, r.created, r.now⟩
      (.game r.activity) with ⟨q, q', -, -, hd⟩ | ⟨e, hd⟩
    · rw [sendTo_delivered hfound (by rw [hd]), hd]
      exact .inl ⟨_, registry, rfl, rfl, rfl, List.append_assoc ..⟩
    · obtain ⟨hafter, hanswer⟩ := sendTo_refused hfound hd
      generalize (r.enroll id registry).sendTo id (.game r.activity) = sent at hafter hanswer
      obtain ⟨after, failure⟩ := sent
      cases hafter
      cases hanswer
      refine .inr ⟨_, _, rfl, Registry.erase_insert? hi, List.append_assoc .., .inr ⟨_, _, rfl⟩⟩

theorem settles_connect (r : Relay) (id other : ClientId) (queue : Nat) : ∃ written,
    Settles id [.connect other queue] r written (r.connect other queue).1 := by
  rcases r.connect_records other queue with ⟨greeting, registry, -, hi, hregistry, hlog⟩ |
    ⟨e, written, -, hregistry, hlog, hwritten⟩
  · refine ⟨_, hlog, ?_, ?_, by simp⟩
    · have hhere : registry.here id = if other = id then 1 else r.registry.here id :=
        Registry.here_insert? hi id
      have hnew : other ∉ r.ids := Registry.notMem_ids_iff.2 (Registry.insert?_eq_some hi).1
      rw [hregistry, hhere]
      by_cases he : other = id
      · subst he
        have hnone : r.registry.here other = 0 := Registry.here_of_notMem hnew
        simp [greets, drops, hnone]
      · simp [greets, drops, he]
    · simp [greets, Operation.connects, List.countP_cons]
  · refine ⟨written, hlog, ?_, ?_, ?_⟩ <;>
      rcases hwritten with rfl | ⟨clients, left, rfl⟩ <;> simp [greets, drops, hregistry]

/-- What can happen next, with the operation that was asked for, if one was: the viewers that a
dispatch concerns are gone through in any order, and whatever may happen to the queues. -/
inductive Happens (r : Relay) : List Operation → Relay → Prop
  | queues (queues : List (Queue Event)) : Happens r [] { r with queues }
  | connect (id : ClientId) (queue : Nat) :
      Happens r [.connect id queue] (r.connect id queue).1
  | disconnect (id : ClientId) : Happens r [.disconnect id] (r.disconnect id)
  | dispatch {order : List Connection} (h : order.Perm r.registry.connections)
      (origin : ClientId) (raw : String) :
      Happens r [.dispatch origin raw] (r.dispatchIn order origin raw)

/-- A run of operations one after another. -/
inductive Serves (r : Relay) : List Operation → Relay → Prop
  | nothing : Serves r [] r
  | next {ops more : List Operation} {s t : Relay} (h : Serves r ops s) (ht : Happens s more t) :
      Serves r (ops ++ more) t

theorem Happens.settles (h : Happens r ops s) (id : ClientId) :
    ∃ written, Settles id ops r written s := by
  cases h with
  | queues queues => exact (silent_of_frame ⟨queues, rfl⟩).settles id
  | connect other queue => exact r.settles_connect id other queue
  | disconnect other =>
    obtain ⟨written, h, -⟩ := r.settles_disconnect id other
    exact ⟨written, h⟩
  | dispatch h origin raw =>
    obtain ⟨written, h⟩ := settles_dispatchIn id h origin raw
    exact ⟨written, h.of_nil _⟩

theorem Serves.settles (h : Serves r ops s) (id : ClientId) :
    ∃ written, Settles id ops r written s := by
  induction h with
  | nothing => exact (silent_of_frame ⟨r.queues, rfl⟩ : Silent r r).settles id
  | next _ ht ih =>
    obtain ⟨written, h⟩ := ih
    obtain ⟨further, h'⟩ := ht.settles id
    exact ⟨_, h.append h'⟩

/-- In a run, a viewer connects with success and disconnects later: the operations before the one,
between the two and after the other, and the relay as the viewer leaves it. -/
def Visits (r : Relay) (id : ClientId) (queue : Nat) (before between : List Operation)
    (left : Relay) (after : List Operation) (s : Relay) : Prop :=
  ∃ (a b : Relay) (greeting : String), Serves r before a ∧
    a.connect id queue = (b, .ok greeting) ∧ Serves b between left ∧
    Serves (left.disconnect id) after s

/-- A viewer that is registered, and was not at first, has connected with success. -/
theorem Serves.exists_connect (h : Serves r ops s) (new : id ∉ r.ids) (there : id ∈ s.ids) :
    ∃ (before between : List Operation) (queue : Nat) (a b : Relay) (greeting : String),
      ops = before ++ .connect id queue :: between ∧ Serves r before a ∧
      a.connect id queue = (b, .ok greeting) ∧ Serves b between s := by
  induction h with
  | nothing => exact absurd there new
  | @next ops more s t h ht ih =>
    by_cases hs : id ∈ s.ids
    · obtain ⟨before, between, queue, a, b, greeting, rfl, ha, hb, hs⟩ := ih hs
      exact ⟨before, between ++ more, queue, a, b, greeting, by simp, ha, hb, hs.next ht⟩
    · obtain ⟨written, settles⟩ := ht.settles id
      have hbalance := settles.balance
      have hgone : s.registry.here id = 0 := Registry.here_of_notMem hs
      have hthere : t.registry.here id = 1 := Registry.here_of_mem there
      have asked : ¬ ∀ q, .connect id q ∉ more := by
        intro hmore
        have hgreeted := settles.greeted_eq_zero hmore
        omega
      cases ht with
      | connect other queue =>
        obtain rfl : other = id := by
          by_contra hne
          exact asked (by simp [Ne.symm hne])
        rcases s.connect_records other queue with ⟨greeting, registry, hok, -⟩ | ⟨e, _, _, he, _⟩
        · exact ⟨ops, [], queue, s, _, greeting, rfl, h, Prod.ext rfl hok, .nothing⟩
        · rw [he] at hthere
          omega
      | queues | disconnect | dispatch => exact absurd (by simp) asked

/-- The end of a session is recorded for a viewer that connected with success, disconnected later,
and was still registered then, and for nobody else. -/
theorem Serves.exists_visit (h : Serves r ops s) (new : id ∉ r.ids)
    (hlog : s.log = r.log ++ written) (ended : .sessionEnded id ∈ written) :
    ∃ (before between after : List Operation) (queue : Nat) (left : Relay),
      ops = before ++ .connect id queue :: (between ++ .disconnect id :: after) ∧
      Visits r id queue before between left after s ∧ id ∈ left.ids := by
  induction h generalizing written with
  | nothing => simp [List.self_eq_append_right.1 hlog] at ended
  | @next ops more s t h ht ih =>
    obtain ⟨earlier, hearlier⟩ := h.settles id
    obtain ⟨further, hfurther⟩ := ht.settles id
    obtain rfl : earlier ++ further = written := by
      rw [hfurther.log, hearlier.log, List.append_assoc] at hlog
      exact List.append_cancel_left hlog
    rcases List.mem_append.1 ended with ended | ended
    · obtain ⟨before, between, after, queue, left, rfl, ⟨a, b, greeting, ha, hb, hl, hs⟩, there⟩ :=
        ih hearlier.log ended
      exact ⟨before, between, after ++ more, queue, left, by simp,
        ⟨a, b, greeting, ha, hb, hl, hs.next ht⟩, there⟩
    · have hcount := List.count_pos_iff.2 ended
      have asked : .disconnect id ∈ more := by
        by_contra hmore
        have hended := hfurther.ended_eq_zero hmore
        omega
      cases ht with
      | disconnect other =>
        obtain rfl : id = other := by simpa using asked
        have there : id ∈ s.ids := by
          by_contra hnot
          have hbalance := hfurther.balance
          have hgreeted := hfurther.greeted_eq_zero (by simp)
          have hgone : s.registry.here id = 0 := Registry.here_of_notMem hnot
          omega
        obtain ⟨before, between, queue, a, b, greeting, rfl, ha, hb, hs⟩ :=
          h.exists_connect new there
        exact ⟨before, between, [], queue, s, by simp,
          ⟨a, b, greeting, ha, hb, hs, .nothing⟩, there⟩
      | queues | connect | dispatch => simp at asked

/-- A connect that succeeds leaves the viewer registered, and says so. -/
theorem greeted_of_ok {queue : Nat} {greeting : String}
    (h : r.connect id queue = (s, .ok greeting)) : s.registry.here id = 1 ∧
      ∃ clients, s.log = r.log ++ [.registered id clients, .greeted id greeting] := by
  have hcases := r.connect_records id queue
  rw [h] at hcases
  rcases hcases with ⟨_, registry, hok, hi, hregistry, hlog⟩ | ⟨e, _, herror, _⟩
  · cases hok
    have hhere : registry.here id = if id = id then 1 else r.registry.here id :=
      Registry.here_insert? hi id
    exact ⟨by rw [hregistry, hhere, if_pos rfl], _, hlog⟩
  · cases herror

/-- A viewer with an id of its own that connects and disconnects: the end of its session is recorded
once if it is still registered by then; if it is not, it was dropped once, and that is all. -/
theorem Visits.settles {before between after : List Operation} {queue : Nat} {left : Relay}
    (h : Visits r id queue before between left after s) (new : id ∉ r.ids)
    (once : ∀ q, .connect id q ∉ before ++ between ++ after) (stayed : .disconnect id ∉ between) :
    ∃ written, s.log = r.log ++ written ∧
      written.count (.sessionEnded id) = (if id ∈ left.ids then 1 else 0) ∧
      written.countP (drops id) = if id ∈ left.ids then 0 else 1 := by
  obtain ⟨a, b, greeting, ha, hb, hc, hs⟩ := h
  simp only [List.mem_append, not_or] at once
  -- before it connects, nothing is written of the viewer
  obtain ⟨early, hearly⟩ := ha.settles id
  have balance₁ := hearly.balance
  rw [hearly.greeted_eq_zero fun q => (once q).1.1, Registry.here_of_notMem new] at balance₁
  obtain ⟨hin, clients, hgreeted⟩ := greeted_of_ok hb
  -- as long as it stays, it may be dropped
  obtain ⟨stay, hstay⟩ := hc.settles id
  have balance₂ := hstay.balance
  have unended := hstay.ended_eq_zero stayed
  rw [hstay.greeted_eq_zero fun q => (once q).1.2, hin] at balance₂
  -- it leaves, and nothing is written of it any more
  obtain ⟨leave, hleave, undropped⟩ := left.settles_disconnect id id
  have balance₃ := hleave.balance
  have hgone : (left.disconnect id).registry.here id = 0 := by
    have hv : (left.disconnect id).registry = left.registry.erase id :=
      congrArg View.registry (left.view_disconnect id)
    rw [hv, Registry.here_erase, if_pos rfl]
  rw [hleave.greeted_eq_zero (by simp), hgone] at balance₃
  obtain ⟨late, hlate⟩ := hs.settles id
  have balance₄ := hlate.balance
  rw [hlate.greeted_eq_zero fun q => (once q).2, hgone] at balance₄
  refine ⟨early ++ ([.registered id clients, .greeted id greeting] ++ (stay ++ (leave ++ late))),
    ?_, ?_, ?_⟩
  · rw [hlate.log, hleave.log, hstay.log, hgreeted, hearly.log]
    simp only [List.append_assoc]
  · have hnow : (if id ∈ left.ids then 1 else 0) = left.registry.here id := rfl
    have hconnect : ([.registered id clients, .greeted id greeting] : List Record).count
        (.sessionEnded id) = 0 := rfl
    simp only [List.count_append, hconnect, hnow]
    omega
  · have hnow : (if id ∈ left.ids then 0 else 1) = 1 - left.registry.here id := by
      by_cases there : id ∈ left.ids
      · rw [if_pos there, Registry.here_of_mem there]
      · rw [if_neg there, Registry.here_of_notMem there]
    have hconnect : ([.registered id clients, .greeted id greeting] : List Record).countP
        (drops id) = 0 := rfl
    simp only [List.countP_append, hconnect, hnow]
    omega

end Relay
end ActivityRelay
