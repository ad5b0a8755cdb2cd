import DialogueQuery.Document.Compare
import DialogueQuery.Proofs.Results

/-! Reading members of documents that are records: objects, or null and absent
values in the place of one. -/

namespace DialogueQuery

theorem lookup_cons_ite {α : Type} (n k : String) (v : α) (rest : List (String × α)) :
    ((k, v) :: rest).lookup n = if n = k then some v else rest.lookup n := by
  by_cases h : n = k
  · simp [h]
  · simp [List.lookup_cons, h, beq_false_of_ne h]

/-- Members that share a name are told apart by their order only if they differ. -/
theorem lookup_of_unique {α : Type} {members : List (String × α)} {n : String} {v : α}
    (hv : (n, v) ∈ members) (hunique : ∀ m ∈ members, m.1 = n → m.2 = v) :
    members.lookup n = some v := by
  induction members with
  | nil => cases hv
  | cons m rest ih =>
    rw [lookup_cons_ite]
    by_cases hm : n = m.1
    · rw [if_pos hm, hunique m List.mem_cons_self hm.symm]
    · have hrest : (n, v) ∈ rest := (List.mem_cons.mp hv).resolve_left fun h => hm (h ▸ rfl)
      rw [if_neg hm, ih hrest fun x hx => hunique x (List.mem_cons_of_mem m hx)]

namespace Document

/-- An object, or null in the place of one. -/
def isRecord : Document → Bool
  | null => true
  | obj _ => true
  | _ => false

def names : Document → List String
  | obj members => members.map Prod.fst
  | _ => []

@[simp] theorem follow_nil (d : Document) : d.follow [] = d := by
  rw [follow]

@[simp] theorem follow_cons (d : Document) (name : String) (rest : List String) :
    d.follow (name :: rest) = ((d.member? name).getD null).follow rest := by
  rw [follow]

@[simp] theorem member?_null (name : String) : null.member? name = none := rfl

@[simp] theorem member?_obj (members : Members) (name : String) :
    (obj members).member? name = members.lookup name := rfl

theorem isSome_member? {d : Document} {n : String} :
    (d.member? n).isSome = true ↔ n ∈ d.names := by
  cases d with
  | obj members =>
    rw [member?_obj, names]
    induction members with
    | nil => simp
    | cons m rest ih =>
      rw [lookup_cons_ite, List.map_cons, List.mem_cons]
      by_cases hm : n = m.1
      · simp [hm]
      · simp [hm, ih]
  | _ => simp [member?, names]

theorem isObject_of_member? {d v : Document} {name : String} (h : d.member? name = some v) :
    d.isObject = true := by
  cases d <;> simp_all [member?, isObject]

theorem isRecord_of_isObject {d : Document} (h : d.isObject = true) : d.isRecord = true := by
  cases d <;> simp_all [isObject, isRecord]

theorem get_of_isObject {d : Document} (h : d.isObject = true) (name : String) :
    d.get name = .ok ((d.member? name).getD null) := by
  cases d <;> simp_all [isObject, get]

/-- Where a record is wanted, an empty object stands in for null. Nothing else
is read from it than from the record itself. -/
theorem get_orEmptyObject {d : Document} (h : d.isRecord = true) (name : String) :
    d.orEmptyObject.get name = .ok ((d.member? name).getD null) := by
  cases d with
  | obj members => cases members <;> simp [orEmptyObject, orElse, isTruthy, get]
  | null => simp [orEmptyObject, orElse, isTruthy, get]
  | _ => simp [isRecord] at h

@[simp] theorem equal_str_str (s t : String) : (str s).equal (str t) = (s == t) := by
  simp [equal]

@[simp] theorem equal_bool_bool (a b : Bool) : (bool a).equal (bool b) = (a == b) := by
  cases a <;> cases b <;> rfl

end Document

end DialogueQuery
