import Mathlib.Data.List.Pairwise
import DialogueQuery.Aggregation.Run
import DialogueQuery.Page

/-! The order by several keys. If the last key tells all documents apart, the
sorted list does not depend on the order in which they come. -/

namespace DialogueQuery

namespace Page

/-- The keys that a text asks to sort by, and the identifier after them. -/
def askedKeys : Document → List (String × Int)
  | .str "updatedAt_ASC" => [("updatedAt", 1), ("_id", 1)]
  | .str "updatedAt_DESC" => [("updatedAt", -1), ("_id", 1)]
  | _ => [("_id", 1)]

theorem sortKeys_eq (sort : Document) : sortKeys (SortOrder.ofDocument? sort) = askedKeys sort := by
  unfold askedKeys
  split
  · rfl
  · rfl
  · next hup hdown =>
    cases sort with
    | str s =>
      have hup : "updatedAt_ASC" ≠ s := fun h => hup (congrArg Document.str h.symm)
      have hdown : "updatedAt_DESC" ≠ s := fun h => hdown (congrArg Document.str h.symm)
      simp [SortOrder.ofDocument?, SortOrder.all, SortOrder.name, hup, hdown, sortKeys]
    | _ => rfl

end Page

namespace StoreModel

/-- Any two values can be compared, and comparing them is consistent. Two values
may be held for the same. -/
structure IsOrdered (m : StoreModel) : Prop where
  total (a b : Document) : m.le a b = true ∨ m.le b a = true
  trans {a b c : Document} : m.le a b = true → m.le b c = true → m.le a c = true

def ties (m : StoreModel) (a b : Document) : Bool := m.le a b && m.le b a

/-- No two documents have the same identifier. -/
def DistinctIds (m : StoreModel) (ds : List Document) : Prop :=
  ds.Pairwise fun a b => m.ties (a.sortValue "_id") (b.sortValue "_id") = false

instance (m : StoreModel) (ds : List Document) : Decidable (m.DistinctIds ds) :=
  inferInstanceAs (Decidable (ds.Pairwise _))

variable {m : StoreModel} {keys : List (String × Int)} {a b c : Document}

def ranks (m : StoreModel) (direction : Int) (x y : Document) : Bool :=
  if 0 < direction then m.le x y else m.le y x

theorem ties_comm (m : StoreModel) (x y : Document) : m.ties x y = m.ties y x :=
  Bool.and_comm _ _

theorem ties_eq_ranks (m : StoreModel) (direction : Int) (x y : Document) :
    m.ties x y = (m.ranks direction x y && m.ranks direction y x) := by
  unfold ranks
  split
  · rfl
  · exact Bool.and_comm _ _

theorem precedes_cons (m : StoreModel) (name : String) (direction : Int)
    (keys : List (String × Int)) (a b : Document) :
    m.precedes ((name, direction) :: keys) a b =
      if m.ties (a.sortValue name) (b.sortValue name) then m.precedes keys a b
      else m.ranks direction (a.sortValue name) (b.sortValue name) := rfl

theorem ranks_of_precedes {name : String} {direction : Int}
    (h : m.precedes ((name, direction) :: keys) a b = true) :
    m.ranks direction (a.sortValue name) (b.sortValue name) = true := by
  rw [precedes_cons] at h
  split at h
  · next ht =>
    rw [m.ties_eq_ranks direction, Bool.and_eq_true] at ht
    exact ht.1
  · exact h

/-- Documents of which each goes before the other agree on every key. -/
theorem ties_of_precedes (hab : m.precedes keys a b = true) (hba : m.precedes keys b a = true)
    {key : String × Int} (hk : key ∈ keys) :
    m.ties (a.sortValue key.1) (b.sortValue key.1) = true := by
  induction keys with
  | nil => cases hk
  | cons first keys ih =>
    obtain ⟨name, direction⟩ := first
    have ht : m.ties (a.sortValue name) (b.sortValue name) = true := by
      rw [m.ties_eq_ranks direction, ranks_of_precedes hab, ranks_of_precedes hba]
      rfl
    rcases List.mem_cons.mp hk with rfl | hk
    · exact ht
    · rw [precedes_cons, if_pos ht] at hab
      rw [precedes_cons, m.ties_comm, if_pos ht] at hba
      exact ih hab hba hk

section Laws

variable (ho : m.IsOrdered)
include ho

theorem ranks_total (direction : Int) (x y : Document) :
    m.ranks direction x y = true ∨ m.ranks direction y x = true := by
  unfold ranks
  split
  · exact ho.total x y
  · exact ho.total y x

theorem ranks_trans {direction : Int} {x y z : Document} (hxy : m.ranks direction x y = true)
    (hyz : m.ranks direction y z = true) : m.ranks direction x z = true := by
  unfold ranks at *
  split at hxy
  · next hd =>
    rw [if_pos hd] at *
    exact ho.trans hxy hyz
  · next hd =>
    rw [if_neg hd] at *
    exact ho.trans hyz hxy

theorem precedes_total (keys : List (String × Int)) (a b : Document) :
    (m.precedes keys a b || m.precedes keys b a) = true := by
  induction keys with
  | nil => rfl
  | cons key keys ih =>
    obtain ⟨name, direction⟩ := key
    rw [precedes_cons, precedes_cons, m.ties_comm (b.sortValue name)]
    split
    · exact ih
    · simpa using ranks_total ho direction (a.sortValue name) (b.sortValue name)

/-- If the first and the last of three documents tie on a key, all three do, and
the other keys decide. -/
theorem precedes_trans (hab : m.precedes keys a b = true) (hbc : m.precedes keys b c = true) :
    m.precedes keys a c = true := by
  induction keys with
  | nil => rfl
  | cons key keys ih =>
    obtain ⟨name, direction⟩ := key
    have hxy := ranks_of_precedes hab
    have hyz := ranks_of_precedes hbc
    rw [precedes_cons]
    split
    · next ht =>
      rw [m.ties_eq_ranks direction, Bool.and_eq_true] at ht
      have hxy' : m.ties (a.sortValue name) (b.sortValue name) = true := by
        rw [m.ties_eq_ranks direction, hxy, ranks_trans ho hyz ht.2]
        rfl
      have hyz' : m.ties (b.sortValue name) (c.sortValue name) = true := by
        rw [m.ties_eq_ranks direction, hyz, ranks_trans ho ht.2 hxy]
        rfl
      rw [precedes_cons, if_pos hxy'] at hab
      rw [precedes_cons, if_pos hyz'] at hbc
      exact ih hab hbc
    · exact ranks_trans ho hxy hyz

theorem DistinctIds.nodup {ds : List Document} (hd : m.DistinctIds ds) : ds.Nodup := by
  refine hd.imp fun {a b} h hab => ?_
  subst hab
  have := ho.total (a.sortValue "_id") (a.sortValue "_id")
  simp_all [ties]

theorem pairwise_mergeSort_precedes (keys : List (String × Int)) (ds : List Document) :
    (ds.mergeSort (m.precedes keys)).Pairwise fun a b => m.precedes keys a b = true :=
  @List.pairwise_mergeSort _ (m.precedes keys)
    (fun _ _ _ hab hbc => precedes_trans ho hab hbc) (precedes_total ho keys) ds

/-- If the identifiers differ and are sorted by, the order of a list does not depend on how it was
enumerated. -/
theorem mergeSort_eq_of_perm {ds ds' : List Document} (hd : m.DistinctIds ds)
    (hp : ds'.Perm ds) {direction : Int} (hk : ("_id", direction) ∈ keys) :
    ds'.mergeSort (m.precedes keys) = ds.mergeSort (m.precedes keys) := by
  refine List.Perm.eq_of_pairwise (fun a b ha hb hab hba => ?_)
    (pairwise_mergeSort_precedes ho keys ds') (pairwise_mergeSort_precedes ho keys ds)
    ((List.mergeSort_perm _ _).trans (hp.trans (List.mergeSort_perm _ _).symm))
  by_contra hne
  have ha' : a ∈ ds := hp.mem_iff.mp (List.mem_mergeSort.mp ha)
  have hb' : b ∈ ds := List.mem_mergeSort.mp hb
  have : Std.Symm fun a b : Document =>
      m.ties (a.sortValue "_id") (b.sortValue "_id") = false :=
    ⟨fun x y h => (m.ties_comm _ _).trans h⟩
  have hdiff := hd.forall ha' hb' hne
  rw [ties_of_precedes hab hba hk] at hdiff
  cases hdiff

end Laws

end StoreModel

end DialogueQuery
