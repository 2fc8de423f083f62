import ActivityRelay.Proofs.Registry
import ActivityRelay.Proofs.Task.Step

/-! Viewers in the order in which their connections were made. The order does not depend on how the
connections are gone through, nor on when each was registered, as long as no two were made at the
same time; and while connections are made by connecting, no two are. -/
namespace ActivityRelay

namespace Text

theorem hexRead?_concat (cs : List Char) (c : Char) :
    hexRead? (cs ++ [c]) = (hexRead? cs).bind fun n => (hexValue? c).map (n * 16 + ·) := by
  simp only [hexRead?, List.foldl_append, List.foldl_cons, List.foldl_nil, bind, pure]
  cases List.foldl _ (some 0) cs <;> cases hexValue? c <;> rfl

/-- A numeral of a fixed length is read for the digits that it holds. -/
theorem hexRead?_hexFixed (k n : Nat) : hexRead? (hexFixed k n) = some (n % 16 ^ k) := by
  induction k generalizing n with
  | zero => rw [Nat.pow_zero, Nat.mod_one]; rfl
  | succ k ih =>
    have hdigit := hexValue?_hexDigit (n % 16) (Nat.mod_lt n (by decide))
    rw [hexFixed, hexRead?_concat, ih, Option.bind_some, hdigit, Option.map_some, Nat.pow_succ',
      Nat.mod_mul]
    exact congrArg some (by omega)

theorem hexDigit_ne_dash : ∀ n, n < 16 → hexDigit n ≠ '-' := by decide

theorem dash_not_mem_hexFixed (k n : Nat) : '-' ∉ hexFixed k n := by
  induction k generalizing n with
  | zero => exact List.not_mem_nil
  | succ k ih =>
    rw [hexFixed, List.mem_append, List.mem_singleton, not_or]
    exact ⟨ih _, (hexDigit_ne_dash _ (Nat.mod_lt n (by decide))).symm⟩

end Text

namespace ClientId
open Text

/-- The id of a text, whatever the groups that its digits stand in. -/
def ofChars? (cs : List Char) : Option ClientId := (hexRead? (cs.filter (· ≠ '-'))).map ofNat

theorem filter_chars (id : ClientId) :
    id.chars.filter (· ≠ '-') = hexFixed 32 id.number.toNat := by
  have hdash := dash_not_mem_hexFixed 32 id.number.toNat
  rw [chars]
  generalize hexFixed 32 id.number.toNat = digits at hdash
  have kept {cs : List Char} (h : cs ⊆ digits) : cs.filter (· ≠ '-') = cs :=
    List.filter_eq_self.2 fun c hc => by simpa using fun he : c = '-' => hdash (he ▸ h hc)
  have htake (m n : Nat) : (digits.drop m).take n ⊆ digits :=
    fun _ hc => List.mem_of_mem_drop (List.mem_of_mem_take hc)
  have hgroups : digits.take 8 ++ ((digits.drop 8).take 4 ++ ((digits.drop 12).take 4 ++
      ((digits.drop 16).take 4 ++ digits.drop 20))) = digits := by
    have join (m n : Nat) : (digits.drop m).take n ++ digits.drop (m + n) = digits.drop m := by
      rw [← List.drop_drop, List.take_append_drop]
    rw [join 16 4, join 12 4, join 8 4, List.take_append_drop]
  simp only [List.filter_append, kept (htake _ _), kept (List.take_subset 8 digits),
    kept (List.drop_subset 20 digits), List.append_assoc]
  exact hgroups

/-- An id is read back from its text. -/
theorem ofChars?_chars (id : ClientId) : ofChars? id.chars = some id := by
  have hlt : id.number.toNat % 16 ^ 32 = id.number.toNat := Nat.mod_eq_of_lt id.number.isLt
  rw [ofChars?, filter_chars, hexRead?_hexFixed, hlt]
  simp [ofNat]

theorem chars_injective : Function.Injective chars := fun a b h => by
  have ha := a.ofChars?_chars
  rw [h, ofChars?_chars, Option.some.injEq] at ha
  exact ha.symm

end ClientId

namespace Registry
variable {order other : List Connection}

/-- Connections in the order in which they were made. -/
def oldestFirst (order : List Connection) : List Connection :=
  order.mergeSort fun a b => a.created ≤ b.created

theorem perm_oldestFirst (order : List Connection) : (oldestFirst order).Perm order :=
  List.mergeSort_perm order _

theorem pairwise_oldestFirst (h : (order.map (·.created)).Nodup) :
    (oldestFirst order).Pairwise (·.created < ·.created) := by
  have hle : (oldestFirst order).Pairwise fun a b => decide (a.created ≤ b.created) = true :=
    List.pairwise_mergeSort (fun a b c => by simpa using Nat.le_trans)
      (fun a b => by simpa using Nat.le_total a.created b.created) order
  have hne : (oldestFirst order).Pairwise fun a b => a.created ≠ b.created :=
    List.pairwise_map.1 (((perm_oldestFirst order).map _).nodup_iff.2 h)
  exact (hle.and hne).imp fun hab =>
    Nat.lt_of_le_of_ne (of_decide_eq_true hab.1) hab.2

theorem oldestFirst_eq_of_pairwise (h : order.Perm other)
    (made : other.Pairwise (·.created < ·.created)) : oldestFirst order = other := by
  have hnodup : (other.map (·.created)).Nodup := List.pairwise_map.2 (made.imp Nat.ne_of_lt)
  have hleft := pairwise_oldestFirst ((h.map (·.created)).nodup_iff.2 hnodup)
  refine List.Perm.eq_of_pairwise (fun a b _ _ hab hba => absurd hab (Nat.lt_asymm hba)) hleft
    made ?_
  exact (perm_oldestFirst order).trans h

/-- Whatever order the connections are gone through in, there is one order of their making. -/
theorem oldestFirst_eq_of_perm (h : order.Perm other) (hnodup : (other.map (·.created)).Nodup) :
    oldestFirst order = oldestFirst other :=
  oldestFirst_eq_of_pairwise (h.trans (perm_oldestFirst other).symm) (pairwise_oldestFirst hnodup)

theorem perm_byAge (r : Registry) : r.byAge.Perm r.connections := perm_oldestFirst _

end Registry

namespace Relay
variable {r r' : Relay}

/-- Each registered connection was made before now, and no two of them at the same time. -/
structure Aged (r : Relay) : Prop where
  made : ∀ c ∈ r.registry.connections, c.created < r.created
  apart : (r.registry.connections.map (·.created)).Nodup

namespace Aged

theorem of_view (aged : Aged r) (hregistry : r'.view.registry = r.view.registry)
    (hcreated : r.view.created ≤ r'.view.created) : Aged r' := by
  have hregistry : r'.registry = r.registry := hregistry
  have hcreated : r.created ≤ r'.created := hcreated
  refine ⟨fun c hc => ?_, by rw [hregistry]; exact aged.apart⟩
  rw [hregistry] at hc
  exact Nat.lt_of_lt_of_le (aged.made c hc) hcreated

theorem erase (aged : Aged r) {id : ClientId} (hregistry : r'.registry = r.registry.erase id)
    (hcreated : r'.created = r.created) : Aged r' := by
  have hsub : r'.registry.connections.Sublist r.registry.connections := by
    rw [hregistry]
    exact List.filter_sublist
  refine ⟨fun c hc => ?_, aged.apart.sublist (hsub.map _)⟩
  rw [hcreated]
  exact aged.made c (hsub.subset hc)

/-- A connection that is made now is younger than all others. -/
theorem insert (aged : Aged r) {id : ClientId} {queue : Nat}
    (h : r.registry.insert? (r.newConnection id queue).2 = some r'.registry)
    (hcreated : r'.created = r.created + 1) : Aged r' := by
  have hperm : r'.registry.connections.Perm
      ((r.newConnection id queue).2 :: r.registry.connections) := by
    unfold Registry.insert? at h
    split at h
    · rw [← Option.some.inj h]
      exact Registry.perm_insertSorted _ _
    · cases h
  constructor
  · intro c hc
    rw [hcreated]
    rcases List.mem_cons.1 (hperm.mem_iff.1 hc) with rfl | hc
    · exact Nat.lt_succ_self _
    · exact Nat.lt_succ_of_lt (aged.made c hc)
  · rw [(hperm.map _).nodup_iff, List.map_cons, List.nodup_cons]
    refine ⟨fun hmem => ?_, aged.apart⟩
    obtain ⟨c, hc, he⟩ := List.mem_map.1 hmem
    exact absurd (aged.made c hc) (by rw [he]; exact Nat.lt_irrefl _)

end Aged
end Relay

namespace Phase
open Relay

theorem aged_step {me : Nat} {s s' : Shared} {p p' : Phase} {op : Operation}
    (h : Step me s p s' p') (hop : op.isPublic = true) (ho : p.Of op) (aged : Aged s.relay) :
    Aged s'.relay := by
  cases h with
  | register | unregister | sendTo | broadcast | replaces =>
    cases ho
    simp [Operation.isPublic] at hop
  | disconnect id =>
    have hv := s.relay.view_remove id
    exact aged.erase (congrArg View.registry hv) (congrArg View.created hv)
  | clears id record failed ending =>
    have hv := s.relay.view_clear record id
    exact aged.erase (congrArg View.registry hv) (congrArg View.created hv)
  | registers front hi => exact aged.insert hi rfl
  | refuses front hi =>
    exact aged.of_view (by rw [view_release]; rfl) (by rw [view_release]; exact Nat.le_succ _)
  | plain | command => exact aged.of_view (by rw [view_hear]) (by rw [view_hear])
  | @greets id c activity hc ok =>
    obtain ⟨queues, hf⟩ := s.relay.deliver_frame c (.game activity)
    exact aged.of_view (by rw [hf]; rfl) (by rw [hf]; exact Nat.le_refl _)
  | tells origin previous value =>
    obtain ⟨queues, hf⟩ := s.relay.deliverAll_frame (.game value) (some origin)
    exact aged.of_view (by rw [hf]; rfl) (by rw [hf]; exact Nat.le_refl _)
  | drops c last failed ending => exact aged.of_view (by simp) (by simp)
  | finishes e => exact aged.of_view (by simp) (by simp)
  | _ => exact aged.of_view rfl (Nat.le_refl _)

end Phase

namespace System
open Relay

/-- Connections that are made by connecting are made one after another. -/
theorem aged_run {r : Relay} {ops : List Operation} {moves : List Move} {t : System}
    (isPublic : ∀ op ∈ ops, op.isPublic = true) (aged : Aged r)
    (h : (start r ops).run moves = some t) : Aged t.relay := by
  have both : Follows ops t ∧ Aged t.relay := by
    refine run_invariant (P := fun s => Follows ops s ∧ Aged s.relay) (fun s m u hu hs => ?_)
      ⟨follows_start r ops, aged⟩ h
    refine ⟨follows_move isPublic hs.1 hu, ?_⟩
    rcases move_cases hu with ⟨i, hi⟩ | hm
    · obtain ⟨p, p', hp, hstep, -, -⟩ := advance_cases hi
      obtain ⟨op, hop, ho⟩ := hs.1.task i p hp
      exact Phase.aged_step hstep (isPublic op (List.mem_of_getElem? hop)) ho hs.2
    · obtain ⟨marks, aside⟩ := aside_of_move hm hu
      obtain ⟨queues, order, hf⟩ := aside.frame
      exact hs.2.of_view (by rw [hf]; rfl) (by rw [hf]; exact Nat.le_refl _)
  exact both.2

end System
end ActivityRelay
