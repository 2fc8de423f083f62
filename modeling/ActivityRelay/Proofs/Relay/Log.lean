import ActivityRelay.Proofs.Relay.FanOut
import ActivityRelay.Proofs.Relay.Isolation
import Mathlib.Data.Finset.Card
import Mathlib.Logic.Relation

/-! The log as a second account of who is registered: read from the front, its records of who came
and who left give the registered viewers and their number at every point, and each failed delivery
is followed by the departure that it leads to. -/
namespace ActivityRelay

namespace Registry
variable {r r' : Registry} {c : Connection} {id : ClientId}

/-- The ids of the registered viewers. -/
def ids (r : Registry) : Finset ClientId := (r.connections.map (·.id)).toFinset

theorem mem_ids_iff : id ∈ r.ids ↔ ∃ c ∈ r.connections, c.id = id := by simp [ids]

theorem notMem_ids_iff : id ∉ r.ids ↔ r.find? id = none := by
  simp [mem_ids_iff, find?_eq_none_iff]

theorem mem_ids_of_find? (h : r.find? id = some c) : id ∈ r.ids :=
  mem_ids_iff.2 ⟨c, find?_eq_some_iff.1 h⟩

theorem card_ids (r : Registry) : r.ids.card = r.size := by
  rw [ids, List.toFinset_card_of_nodup r.nodup_ids, List.length_map, size]

theorem ids_insert? (h : r.insert? c = some r') : r'.ids = insert c.id r.ids := by
  ext id
  simp only [Finset.mem_insert, mem_ids_iff, (insert?_eq_some h).2]
  constructor
  · rintro ⟨d, rfl | hd, rfl⟩
    · exact .inl rfl
    · exact .inr ⟨d, hd, rfl⟩
  · rintro (rfl | ⟨d, hd, rfl⟩)
    · exact ⟨c, .inl rfl, rfl⟩
    · exact ⟨d, .inr hd, rfl⟩

theorem ids_erase (r : Registry) (id : ClientId) : (r.erase id).ids = r.ids.erase id := by
  ext other
  simp only [Finset.mem_erase, mem_ids_iff, mem_erase]
  constructor
  · rintro ⟨d, ⟨hd, hne⟩, rfl⟩
    exact ⟨hne, d, hd, rfl⟩
  · rintro ⟨hne, d, hd, rfl⟩
    exact ⟨d, ⟨hd, hne⟩, rfl⟩

end Registry

namespace Record

/-- The registered ids behind a record, as it tells them. -/
def next (ids : Finset ClientId) : Record → Finset ClientId
  | .registered id _ => insert id ids
  | .unregistered id _ => ids.erase id
  | _ => ids

/-- Whether a record fits the ids in front of it and the records behind it. -/
def Fits (ids : Finset ClientId) (behind : List Record) : Record → Prop
  | .registered id clients => id ∉ ids ∧ clients = (insert id ids).card
  | .unregistered id clients => id ∈ ids ∧ clients = (ids.erase id).card
  | .deliveryFailed id _ | .broadcastFailed id _ =>
    id ∈ ids ∧ ∃ clients, behind.head? = some (.unregistered id clients)
  | _ => True

/-- A record that is neither about who is registered nor about a failed delivery. -/
def isQuiet : Record → Bool
  | .registered .. | .unregistered .. | .deliveryFailed .. | .broadcastFailed .. => false
  | _ => true

theorem next_of_isQuiet {rec : Record} (h : rec.isQuiet = true) (ids : Finset ClientId) :
    rec.next ids = ids := by
  cases rec <;> simp_all [isQuiet, next]

theorem fits_of_isQuiet {rec : Record} (h : rec.isQuiet = true) (ids : Finset ClientId)
    (behind : List Record) : rec.Fits ids behind := by
  cases rec <;> simp_all [isQuiet, Fits]

/-- More records at the end are no hindrance. -/
theorem Fits.append {ids : Finset ClientId} {behind : List Record} {rec : Record}
    (h : rec.Fits ids behind) (more : List Record) : rec.Fits ids (behind ++ more) := by
  cases rec with
  | deliveryFailed id e | broadcastFailed id e =>
    obtain ⟨hid, clients, hhead⟩ := h
    exact ⟨hid, clients, by rw [List.head?_append, hhead, Option.some_or]⟩
  | _ => exact h

end Record

namespace Log

/-- The registered ids behind a row of records. -/
def replay (ids : Finset ClientId) (records : List Record) : Finset ClientId :=
  records.foldl (fun ids rec => rec.next ids) ids

/-- Each record fits what those in front of it lead to, and what is behind it. -/
def Faithful (ids : Finset ClientId) (records : List Record) : Prop :=
  ∀ before rec behind, records = before ++ rec :: behind → rec.Fits (replay ids before) behind

theorem replay_append (ids : Finset ClientId) (records more : List Record) :
    replay ids (records ++ more) = replay (replay ids records) more := List.foldl_append ..

theorem faithful_nil (ids : Finset ClientId) : Faithful ids [] := fun _ _ _ h => by simp at h

theorem Faithful.cons {ids : Finset ClientId} {rec : Record} {records : List Record}
    (h : rec.Fits ids records) (hrecords : Faithful (rec.next ids) records) :
    Faithful ids (rec :: records) := by
  intro before other behind hsplit
  cases before with
  | nil =>
    obtain ⟨rfl, rfl⟩ := List.cons.inj hsplit
    exact h
  | cons first before =>
    obtain ⟨rfl, htail⟩ := List.cons.inj hsplit
    exact hrecords before other behind htail

theorem Faithful.append {ids : Finset ClientId} {records more : List Record}
    (h : Faithful ids records) (hmore : Faithful (replay ids records) more) :
    Faithful ids (records ++ more) := by
  intro before rec behind hsplit
  rcases List.append_eq_append_iff.1 hsplit with ⟨front, rfl, hin⟩ | ⟨rest, rfl, hin⟩
  · rw [replay_append]
    exact hmore front rec behind hin
  · cases rest with
    | nil =>
      rw [List.append_nil] at hmore
      exact hmore [] rec behind hin.symm
    | cons first rest =>
      obtain ⟨rfl, rfl⟩ := List.cons.inj hin
      exact (h before rec rest rfl).append more

end Log

namespace Relay
open Log

def ids (r : Relay) : Finset ClientId := r.registry.ids

/-- From one relay to the next the log grows by records that fit and lead from the one's registered
ids to those of the other. -/
def Logs (r r' : Relay) : Prop :=
  ∃ written, r'.log = r.log ++ written ∧ replay r.ids written = r'.ids ∧ Faithful r.ids written

variable {r r' r'' : Relay}

theorem Logs.of_same (hlog : r'.log = r.log) (hregistry : r'.registry = r.registry) :
    Logs r r' :=
  ⟨[], by rw [hlog, List.append_nil], by rw [ids, ids, hregistry]; rfl, faithful_nil _⟩

theorem Logs.refl (r : Relay) : Logs r r := .of_same rfl rfl

/-- What is written on the way from one relay to the next, and from there to a third one. -/
theorem Logs.through (h : Logs r r') (h' : Logs r' r'') :
    ∃ written more, r'.log = r.log ++ written ∧ r''.log = r.log ++ (written ++ more) ∧
      replay r.ids written = r'.ids ∧ replay r.ids (written ++ more) = r''.ids ∧
      Faithful r.ids (written ++ more) := by
  obtain ⟨written, hlog, hreplay, hfaithful⟩ := h
  obtain ⟨more, hlog', hreplay', hfaithful'⟩ := h'
  rw [← hreplay] at hreplay' hfaithful'
  exact ⟨written, more, hlog, by rw [hlog', hlog, List.append_assoc], hreplay,
    by rw [replay_append, hreplay'], hfaithful.append hfaithful'⟩

theorem Logs.trans (h : Logs r r') (h' : Logs r' r'') : Logs r r'' := by
  obtain ⟨written, more, -, hlog, -, hreplay, hfaithful⟩ := h.through h'
  exact ⟨written ++ more, hlog, hreplay, hfaithful⟩

theorem logs_note {rec : Record} (h : rec.isQuiet = true) (r : Relay) : Logs r (r.note rec) := by
  refine ⟨[rec], rfl, Record.next_of_isQuiet h r.ids, ?_⟩
  exact .cons (Record.fits_of_isQuiet h r.ids []) (faithful_nil _)

theorem logs_of_frame (h : ∃ queues, r' = { r with queues }) : Logs r r' := by
  obtain ⟨queues, rfl⟩ := h
  exact .of_same rfl rfl

theorem logs_onQueue (r : Relay) (q : Nat) (f : Queue Event → Queue Event) :
    Logs r (r.onQueue q f) := logs_of_frame ⟨_, rfl⟩

theorem logs_drop (r : Relay) (c : Option Connection) : Logs r (r.drop c) := by
  cases c with
  | none => exact .refl r
  | some c => exact logs_onQueue r c.queue _

/-- A viewer that was not registered is recorded with the number of viewers it makes. -/
theorem logs_enroll {c : Connection} {registry : Registry}
    (h : r.registry.insert? c = some registry) :
    Logs r ({ r with registry }.note (.registered c.id registry.size)) := by
  have hids : registry.ids = insert c.id r.ids := Registry.ids_insert? h
  have hnew : c.id ∉ r.ids := Registry.notMem_ids_iff.2 (Registry.insert?_eq_some h).1
  refine ⟨[.registered c.id registry.size], rfl, hids.symm, .cons ⟨hnew, ?_⟩ (faithful_nil _)⟩
  rw [← registry.card_ids, hids]

theorem logs_register (r : Relay) (c : Connection) : Logs r (r.register c).1 := by
  cases h : r.registry.insert? c with
  | none =>
    rw [register_known h]
    exact (logs_note rfl r).trans (logs_onQueue _ _ _)
  | some registry =>
    rw [register_new h]
    exact logs_enroll h

/-- The one record of a removal, if there is someone to remove. -/
theorem remove_eq (r : Relay) (id : ClientId) :
    r.remove id = (r, none) ∧ id ∉ r.ids ∨ ∃ c, id ∈ r.ids ∧ r.remove id =
      ({ r with registry := r.registry.erase id }.note
        (.unregistered id (r.ids.erase id).card), some c) := by
  unfold remove
  cases h : r.registry.find? id with
  | none => exact .inl ⟨rfl, Registry.notMem_ids_iff.2 h⟩
  | some c =>
    refine .inr ⟨c, Registry.mem_ids_of_find? h, ?_⟩
    rw [ids, ← Registry.ids_erase, Registry.card_ids]

theorem logs_remove (r : Relay) (id : ClientId) : Logs r (r.remove id).1 := by
  rcases r.remove_eq id with ⟨h, -⟩ | ⟨c, hid, h⟩
  · rw [h]
    exact .refl r
  · rw [h]
    exact ⟨_, rfl, (r.registry.ids_erase id).symm, .cons ⟨hid, rfl⟩ (faithful_nil _)⟩

/-- A failure and the removal that it leads to stand next to each other in the log. -/
theorem logs_clear {id : ClientId} {e : DeliveryError} {rec : Record} (hid : id ∈ r.ids)
    (hrec : rec = .deliveryFailed id e ∨ rec = .broadcastFailed id e) :
    Logs r (r.clear rec id).1 := by
  rcases (r.note rec).remove_eq id with ⟨-, h⟩ | ⟨c, -, h⟩
  · exact absurd hid h
  · rw [clear, h]
    refine ⟨[rec, .unregistered id (r.ids.erase id).card], List.append_assoc .., ?_, ?_⟩
    · rcases hrec with rfl | rfl <;> exact (r.registry.ids_erase id).symm
    · rcases hrec with rfl | rfl <;>
        exact .cons ⟨hid, _, rfl⟩ (.cons ⟨hid, rfl⟩ (faithful_nil _))

theorem ids_clear (r : Relay) (rec : Record) (id : ClientId) :
    (r.clear rec id).1.ids = r.ids.erase id := by
  exact (congrArg (·.registry.ids) (r.view_clear rec id)).trans (r.registry.ids_erase id)

theorem logs_sendTo (r : Relay) (id : ClientId) (event : Event) :
    Logs r (r.sendTo id event).1 := by
  unfold sendTo
  cases hc : r.registry.find? id with
  | none => exact .refl r
  | some c =>
    obtain ⟨queues, hd⟩ := r.deliverTo_frame id event
    generalize r.deliverTo id event = d at hd
    obtain ⟨r', _ | e⟩ := d
    · exact logs_of_frame ⟨queues, hd⟩
    · subst hd
      have hid : id ∈ r.ids := Registry.mem_ids_of_find? hc
      have hclear : Logs { r with queues } (clear { r with queues } (.deliveryFailed id e) id).1 :=
        logs_clear hid (.inl rfl)
      exact (logs_of_frame ⟨queues, rfl⟩).trans (hclear.trans (logs_drop _ _))

/-- Whom a removal does not concern is still registered after it. -/
theorem mem_ids_cleared {failed : List Failure} {id : ClientId} (hids : ∀ f ∈ failed, f.1 ∈ r.ids)
    (hnot : id ∉ failed.map (·.1)) (rec : Record) :
    ∀ f ∈ failed, f.1 ∈ ((r.clear rec id).1.drop (r.clear rec id).2).ids := by
  intro f hf
  have hne : f.1 ≠ id := fun he => hnot (List.mem_map.2 ⟨f, hf, he⟩)
  have hdrop (a : Relay) (c : Option Connection) : (a.drop c).ids = a.ids :=
    congrArg (·.registry.ids) (a.view_drop c)
  rw [hdrop, ids_clear, Finset.mem_erase]
  exact ⟨hne, hids f hf⟩

/-- Viewers that are all registered are removed one after another. -/
theorem logs_clearAll {failed : List Failure} (hids : ∀ f ∈ failed, f.1 ∈ r.ids)
    (hnodup : (failed.map (·.1)).Nodup) : Logs r (r.clearAll failed) := by
  induction failed generalizing r with
  | nil => exact .refl r
  | cons f failed ih =>
    obtain ⟨id, e⟩ := f
    obtain ⟨hid, hfailed⟩ := List.forall_mem_cons.1 hids
    obtain ⟨hnot, hnodup⟩ := List.nodup_cons.1 hnodup
    refine (logs_clear hid (.inr rfl)).trans ((logs_drop _ _).trans (ih ?_ hnodup))
    exact mem_ids_cleared hfailed hnot _

/-- Who does not take an event is registered, and still so when all were offered it. -/
theorem mem_ids_failed {order : List Connection} (h : order.Perm r.registry.connections)
    (event : Event) (exclude : Option ClientId) :
    ∀ f ∈ (r.deliverEach event (toldIn order exclude)).2.2,
      f.1 ∈ (r.deliverEach event (toldIn order exclude)).1.ids := by
  intro f hf
  have hsub := r.failed_sublist event (toldIn order exclude)
  obtain ⟨queues, hframe⟩ := r.deliverEach_frame event (toldIn order exclude)
  obtain ⟨c, hc, hid⟩ := List.mem_map.1 (hsub.subset (List.mem_map_of_mem hf))
  rw [hframe]
  exact Registry.mem_ids_iff.2 ⟨c, h.mem_iff.1 (List.mem_of_mem_filter hc), hid⟩

/-- A fan-out, in whatever order the viewers are gone through. -/
theorem logs_broadcastIn {order : List Connection} (h : order.Perm r.registry.connections)
    (event : Event) (exclude : Option ClientId) : Logs r (r.broadcastIn order event exclude).1 := by
  refine (logs_of_frame (r.deliverEach_frame event (toldIn order exclude))).trans
    (logs_clearAll (mem_ids_failed h event exclude) ?_)
  exact (nodup_toldIn h).sublist (r.failed_sublist event (toldIn order exclude))

theorem logs_forward (r : Relay) (raw : String) : Logs r (r.forward raw) := by
  unfold forward
  split
  · exact (Logs.of_same rfl rfl).trans (logs_note rfl { r with forwarded := r.forwarded ++ [raw] })
  · exact .of_same rfl rfl

theorem logs_hear (r : Relay) (origin : ClientId) (raw : String) :
    Logs r (r.hear origin raw) := (logs_note rfl r).trans (logs_forward _ raw)

theorem logs_connect (r : Relay) (id : ClientId) (queue : Nat) :
    Logs r (r.connect id queue).1 := by
  have hregister :
      Logs r ((r.newConnection id queue).1.register (r.newConnection id queue).2).1 :=
    (Logs.of_same rfl rfl).trans (logs_register _ _)
  simp only [connect]
  generalize (r.newConnection id queue).1.register (r.newConnection id queue).2 = d at hregister
  obtain ⟨r', _ | _⟩ := d
  · exact hregister
  · have hsent := r'.logs_sendTo id (.game r.activity)
    dsimp only at hregister ⊢
    generalize r'.sendTo id (.game r.activity) = d at hsent
    obtain ⟨r'', _ | e⟩ := d
    · exact hregister.trans (hsent.trans (logs_note rfl r''))
    · exact hregister.trans hsent

theorem logs_unregister (r : Relay) (id : ClientId) : Logs r (r.unregister id).1 :=
  (r.logs_remove id).trans (logs_drop _ _)

theorem logs_disconnect (r : Relay) (id : ClientId) : Logs r (r.disconnect id) := by
  have hremoved := r.logs_remove id
  rw [disconnect]
  generalize r.remove id = d at hremoved
  obtain ⟨r', _ | c⟩ := d
  · exact hremoved
  · exact hremoved.trans ((logs_note rfl r').trans (logs_drop _ (some c)))

/-- Dispatches a message; whom it concerns is gone through in a given order. -/
def dispatchIn (r : Relay) (order : List Connection) (origin : ClientId) (raw : String) : Relay :=
  let r := r.hear origin raw
  match Command.classify raw with
  | .plain _ => r
  | .setActivity value =>
    let (r, previous) := r.commit value
    let (r, delivered) := r.broadcastIn order (.game value) (some origin)
    r.note (.activityChanged origin previous value delivered)

theorem dispatch_eq (r : Relay) (origin : ClientId) (raw : String) :
    (r.dispatch origin raw).1 = r.dispatchIn r.walk origin raw := by
  have hregistry : (r.hear origin raw).registry = r.registry :=
    congrArg View.registry (r.view_hear origin raw)
  have horder : (r.hear origin raw).order = r.order :=
    congrArg View.order (r.view_hear origin raw)
  unfold dispatch dispatchIn
  cases Command.classify raw with
  | plain text => rfl
  | setActivity value => simp only [broadcast_eq, commit, walk, hregistry, horder]

theorem logs_dispatchIn {order : List Connection} (h : order.Perm r.registry.connections)
    (origin : ClientId) (raw : String) : Logs r (r.dispatchIn order origin raw) := by
  have hheard := r.logs_hear origin raw
  have horder : order.Perm (r.hear origin raw).registry.connections := by
    rwa [show (r.hear origin raw).registry = r.registry from
      congrArg View.registry (r.view_hear origin raw)]
  unfold dispatchIn
  cases Command.classify raw with
  | plain text => exact hheard
  | setActivity value =>
    have hcommit : Logs (r.hear origin raw) ((r.hear origin raw).commit value).1 :=
      .of_same rfl rfl
    have horder : order.Perm ((r.hear origin raw).commit value).1.registry.connections := horder
    have hsent := logs_broadcastIn horder (.game value) (some origin)
    exact hheard.trans (hcommit.trans (hsent.trans (logs_note rfl _)))

/-- Everything that may happen next while operations come one after another: an action, or a
fan-out that goes through the viewers in any order. -/
inductive Turn (r : Relay) : Relay → Prop
  | act (x : Action) : Turn r (r.act x).1
  | broadcast {order : List Connection} (h : order.Perm r.registry.connections) (event : Event)
    (exclude : Option ClientId) : Turn r (r.broadcastIn order event exclude).1
  | dispatch {order : List Connection} (h : order.Perm r.registry.connections) (origin : ClientId)
    (raw : String) : Turn r (r.dispatchIn order origin raw)

theorem turns_acts (r : Relay) (xs : List Action) :
    Relation.ReflTransGen Turn r (r.acts xs).1 := by
  induction xs generalizing r with
  | nil => exact .refl
  | cons x xs ih => exact .head (.act x) (ih _)

theorem logs_perform (r : Relay) (op : Operation) : Logs r (r.perform op).1 := by
  cases op with
  | connect id queue => exact r.logs_connect id queue
  | disconnect id => exact r.logs_disconnect id
  | register c => exact r.logs_register c
  | unregister id => exact r.logs_unregister id
  | sendTo id value => exact r.logs_sendTo id (.game value)
  | broadcast value exclude => exact logs_broadcastIn r.walk_perm (.game value) exclude
  | dispatch origin raw =>
    rw [perform, dispatch_eq]
    exact logs_dispatchIn r.walk_perm origin raw
  | commit value => exact .of_same rfl rfl
  | current | status => exact .refl r

theorem Turn.logs (h : Turn r r') : Logs r r' := by
  cases h with
  | act x =>
    cases x with
    | perform op => exact r.logs_perform op
    | shuffle order => exact .of_same rfl rfl
    | receive q => exact logs_of_frame (r.receive_frame q)
    | shut q | close q => exact logs_onQueue r q _
  | broadcast h event exclude => exact logs_broadcastIn h event exclude
  | dispatch h origin raw => exact logs_dispatchIn h origin raw

theorem logs_of_turns (h : Relation.ReflTransGen Turn r r') : Logs r r' := by
  induction h with
  | refl => exact .refl r
  | tail _ hturn ih => exact ih.trans hturn.logs

end Relay
end ActivityRelay
