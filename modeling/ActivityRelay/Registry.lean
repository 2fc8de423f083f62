import ActivityRelay.ClientId

/-! The set of live connections, at most one for each viewer. -/
namespace ActivityRelay

/-- A viewer's place in the relay: its queue, and its rank in the order of creation. -/
structure Connection where
  id : ClientId
  queue : Nat
  created : Nat
  /-- The time of creation in milliseconds. -/
  since : Nat
  deriving DecidableEq, Repr

/-- Connections in the order of their ids. -/
structure Registry where
  connections : List Connection := []
  sorted : connections.Pairwise (·.id < ·.id) := by simp
  deriving DecidableEq, Repr

namespace Registry

theorem sorted_nil : ([] : List Connection).Pairwise (·.id < ·.id) := .nil

def size (r : Registry) : Nat := r.connections.length

def find? (r : Registry) (id : ClientId) : Option Connection :=
  r.connections.find? (·.id = id)

def insertSorted (c : Connection) : List Connection → List Connection
  | [] => [c]
  | d :: ds => if c.id < d.id then c :: d :: ds else d :: insertSorted c ds

theorem mem_insertSorted (c x : Connection) (ds : List Connection) :
    x ∈ insertSorted c ds ↔ x = c ∨ x ∈ ds := by
  induction ds with
  | nil => simp [insertSorted]
  | cons d ds ih =>
    rw [insertSorted]
    split
    · simp
    · simp only [List.mem_cons, ih]
      constructor <;> (rintro (h | h | h) <;> simp [h])

theorem pairwise_insertSorted (c : Connection) (ds : List Connection)
    (new : ∀ d ∈ ds, d.id ≠ c.id) (h : ds.Pairwise (·.id < ·.id)) :
    (insertSorted c ds).Pairwise (·.id < ·.id) := by
  induction ds with
  | nil => simp [insertSorted]
  | cons d ds ih =>
    rw [List.pairwise_cons] at h
    rw [insertSorted]
    split
    · next hlt =>
      refine List.pairwise_cons.2 ⟨fun x hx => ?_, List.pairwise_cons.2 h⟩
      rcases List.mem_cons.1 hx with rfl | hx
      · exact hlt
      · exact ClientId.lt_trans hlt (h.1 x hx)
    · next hlt =>
      refine List.pairwise_cons.2 ⟨fun x hx => ?_, ih (fun x hx => new x (by simp [hx])) h.2⟩
      rcases (mem_insertSorted c x ds).1 hx with rfl | hx
      · exact ClientId.lt_of_not_lt hlt (new d (by simp)).symm
      · exact h.1 x hx

/-- Adds a connection unless its viewer has one. -/
def insert? (r : Registry) (c : Connection) : Option Registry :=
  if h : ∀ d ∈ r.connections, d.id ≠ c.id then
    some ⟨insertSorted c r.connections, pairwise_insertSorted c _ h r.sorted⟩
  else none

def erase (r : Registry) (id : ClientId) : Registry :=
  ⟨r.connections.filter (·.id ≠ id), r.sorted.filter _⟩

/-- The connections of the viewers listed, as they are listed, and then all others. -/
def arrange : List ClientId → List Connection → List Connection
  | [], cs => cs
  | id :: ids, cs => cs.filter (·.id = id) ++ arrange ids (cs.filter (·.id ≠ id))

/-- The connections from the first created to the last. -/
def byAge (r : Registry) : List Connection :=
  r.connections.mergeSort fun a b => a.created ≤ b.created

theorem find?_eq_none_iff (r : Registry) (id : ClientId) :
    r.find? id = none ↔ ∀ d ∈ r.connections, d.id ≠ id := by
  simp [find?]

end Registry
end ActivityRelay
