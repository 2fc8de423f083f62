import ActivityRelay.Registry
import Mathlib.Data.List.Sort

/-! A registry is the set of its connections: what is found in it, and how adding and erasing
undo each other. -/
namespace ActivityRelay
namespace Registry

/-- The registry of one viewer only. -/
def single (c : Connection) : Registry := ⟨[c], List.pairwise_singleton _ _⟩

instance : Std.Irrefl fun a b : Connection => a.id < b.id := ⟨fun a => ClientId.lt_irrefl a.id⟩

instance : Std.Antisymm fun a b : Connection => a.id < b.id :=
  ⟨fun _ _ h k => absurd (ClientId.lt_trans h k) (ClientId.lt_irrefl _)⟩

theorem ext_mem {r r' : Registry} (h : ∀ c, c ∈ r.connections ↔ c ∈ r'.connections) : r = r' := by
  have he := r.sorted.eq_of_mem_iff r'.sorted h
  cases r; cases r'; cases he; rfl

theorem nodup_ids (r : Registry) : (r.connections.map (·.id)).Nodup := by
  rw [List.Nodup, List.pairwise_map]
  exact r.sorted.imp fun {a b} hlt (he : a.id = b.id) =>
    ClientId.lt_irrefl b.id (by rwa [he] at hlt)

theorem eq_of_id_eq {r : Registry} {c d : Connection} (hc : c ∈ r.connections)
    (hd : d ∈ r.connections) (h : c.id = d.id) : c = d :=
  List.inj_on_of_nodup_map r.nodup_ids hc hd h

theorem find?_eq_some_iff {r : Registry} {id : ClientId} {c : Connection} :
    r.find? id = some c ↔ c ∈ r.connections ∧ c.id = id := by
  constructor
  · intro h
    exact ⟨List.mem_of_find?_eq_some h, by simpa using List.find?_some h⟩
  · rintro ⟨hc, rfl⟩
    cases hf : r.find? c.id with
    | none => exact absurd rfl ((r.find?_eq_none_iff c.id).1 hf c hc)
    | some d =>
      have hd : d.id = c.id := by simpa using List.find?_some hf
      rw [eq_of_id_eq (List.mem_of_find?_eq_some hf) hc hd]

theorem mem_erase {r : Registry} {id : ClientId} {c : Connection} :
    c ∈ (r.erase id).connections ↔ c ∈ r.connections ∧ c.id ≠ id := by simp [erase]

theorem size_erase_le (r : Registry) (id : ClientId) : (r.erase id).size ≤ r.size :=
  List.length_filter_le ..

theorem perm_insertSorted (c : Connection) (ds : List Connection) :
    (insertSorted c ds).Perm (c :: ds) := by
  induction ds with
  | nil => exact .refl _
  | cons d ds ih =>
    rw [insertSorted]
    split
    · exact .refl _
    · exact (ih.cons d).trans (.swap c d ds)

theorem insert?_eq_some {r r' : Registry} {c : Connection} (h : r.insert? c = some r') :
    r.find? c.id = none ∧ ∀ d, d ∈ r'.connections ↔ d = c ∨ d ∈ r.connections := by
  unfold insert? at h
  split at h
  · next new =>
    cases h
    exact ⟨(r.find?_eq_none_iff c.id).2 new, fun d => mem_insertSorted c d r.connections⟩
  · simp at h

theorem size_insert? {r r' : Registry} {c : Connection} (h : r.insert? c = some r') :
    r'.size = r.size + 1 := by
  unfold insert? at h
  split at h
  · cases h
    exact (perm_insertSorted c r.connections).length_eq
  · simp at h

theorem insert?_eq_none {r : Registry} {c : Connection} (h : r.insert? c = none) :
    r.find? c.id ≠ none := by
  intro hf
  unfold insert? at h
  rw [dif_pos ((r.find?_eq_none_iff c.id).1 hf)] at h
  simp at h

/-- Whom one finds after erasing: nobody under that id, all others as before. -/
theorem find?_erase (r : Registry) (id other : ClientId) :
    (r.erase id).find? other = if other = id then none else r.find? other := by
  split
  · next h =>
    rw [find?_eq_none_iff]
    intro d hd
    exact h ▸ (mem_erase.1 hd).2
  · next h =>
    cases hf : r.find? other with
    | none =>
      rw [find?_eq_none_iff] at hf ⊢
      exact fun d hd => hf d (mem_erase.1 hd).1
    | some c =>
      rw [find?_eq_some_iff] at hf ⊢
      exact ⟨mem_erase.2 ⟨hf.1, hf.2 ▸ h⟩, hf.2⟩

theorem erase_of_find?_none {r : Registry} {id : ClientId} (h : r.find? id = none) :
    r.erase id = r := by
  apply ext_mem
  intro c
  rw [mem_erase]
  exact ⟨And.left, fun hc => ⟨hc, (r.find?_eq_none_iff id).1 h c hc⟩⟩

theorem erase_comm (r : Registry) (id id' : ClientId) :
    (r.erase id).erase id' = (r.erase id').erase id := by
  apply ext_mem
  intro c
  simp only [mem_erase]
  tauto

theorem erase_insert? {r r' : Registry} {c : Connection} (h : r.insert? c = some r') :
    r'.erase c.id = r := by
  obtain ⟨hnone, hmem⟩ := insert?_eq_some h
  apply ext_mem
  intro d
  rw [mem_erase, hmem]
  constructor
  · rintro ⟨rfl | hd, hne⟩
    · exact absurd rfl hne
    · exact hd
  · exact fun hd => ⟨.inr hd, (r.find?_eq_none_iff c.id).1 hnone d hd⟩

theorem insert?_erase {r : Registry} {id : ClientId} {c : Connection} (h : r.find? id = some c) :
    (r.erase id).insert? c = some r := by
  obtain ⟨hc, rfl⟩ := find?_eq_some_iff.1 h
  cases hi : (r.erase c.id).insert? c with
  | none => exact absurd (by simp [find?_erase]) (insert?_eq_none hi)
  | some r' =>
    congr 1
    apply ext_mem
    intro d
    rw [(insert?_eq_some hi).2, mem_erase]
    constructor
    · rintro (rfl | ⟨hd, -⟩)
      · exact hc
      · exact hd
    · intro hd
      by_cases he : d.id = c.id
      · exact .inl (eq_of_id_eq hd hc he)
      · exact .inr ⟨hd, he⟩

/-- Whoever comes first, all connections are gone through. -/
theorem arrange_perm (ids : List ClientId) (cs : List Connection) : (arrange ids cs).Perm cs := by
  induction ids generalizing cs with
  | nil => exact .refl cs
  | cons id ids ih =>
    rw [arrange]
    refine ((ih _).append_left _).trans ?_
    simpa using List.filter_append_perm (fun c : Connection => decide (c.id = id)) cs

/-- Any order of the connections is that of some list of their viewers. -/
theorem arrange_of_perm {cs order : List Connection} (nodup : (cs.map (·.id)).Nodup)
    (h : order.Perm cs) : arrange (order.map (·.id)) cs = order := by
  induction order generalizing cs with
  | nil => exact h.symm.eq_nil
  | cons c order ih =>
    have hnodup : ((c :: order).map (·.id)).Nodup := (h.map _).nodup_iff.2 nodup
    rw [List.map_cons, List.nodup_cons] at hnodup
    have hbehind : ∀ d ∈ order, d.id ≠ c.id := fun d hd he =>
      hnodup.1 (he ▸ List.mem_map_of_mem hd)
    have hsame : order.filter (·.id = c.id) = [] :=
      List.filter_eq_nil_iff.2 fun d hd => by simpa using hbehind d hd
    have hfirst : cs.filter (·.id = c.id) = [c] := by
      have hp := h.filter (·.id = c.id)
      rw [List.filter_cons_of_pos (by simp), hsame] at hp
      exact (List.singleton_perm.1 hp).symm
    have hrest : order.Perm (cs.filter (·.id ≠ c.id)) := by
      have hp := h.filter (·.id ≠ c.id)
      rw [List.filter_cons_of_neg (by simp)] at hp
      rwa [List.filter_eq_self.2 fun d hd => by simpa using hbehind d hd] at hp
    rw [List.map_cons, arrange, hfirst, List.singleton_append]
    exact congrArg _ (ih (nodup.sublist (List.filter_sublist.map _)) hrest)

/-- Leaving connections out does not change the order of the others. -/
theorem filter_arrange (p : Connection → Bool) (ids : List ClientId) (cs : List Connection) :
    (arrange ids cs).filter p = arrange ids (cs.filter p) := by
  induction ids generalizing cs with
  | nil => rfl
  | cons id ids ih =>
    rw [arrange, arrange, List.filter_append, ih, List.filter_comm p, List.filter_comm p]

end Registry
end ActivityRelay
