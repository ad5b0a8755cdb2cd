import DialogueQuery.Aggregation.Matching
import DialogueQuery.Proofs.Aggregation.Paths

/-! What the conditions of a query find out about the members of a document. -/

namespace DialogueQuery

@[simp] theorem Resolver.byMember_one (d : Document) (name : String) :
    byMember d [name] = d.member? name := by
  simp [byMember]

/-- Member by member, a path leads a store where it leads the program, and a missing member is
null. -/
theorem Resolver.getD_byMember (d : Document) (path : List String) :
    (byMember d path).getD .null = d.follow path := by
  induction path generalizing d with
  | nil => simp [byMember]
  | cons name rest ih =>
    rw [byMember, Document.follow_cons]
    cases hm : d.member? name with
    | none => simp
    | some v => simpa using ih v

namespace Condition

@[simp] theorem isMetBy_equals (d : Document) (name : String) (value : Document) :
    (equals [name] value).isMetBy d = ((d.member? name).getD .null).equal value := by
  rw [isMetBy, Resolver.byMember_one]

@[simp] theorem isMetBy_passes (d : Document) (name : String) (t : Test) :
    (passes [name] [t]).isMetBy d = t.passes (d.member? name) := by
  simp [isMetBy]

@[simp] theorem areMetBy_nil (d : Document) : areMetBy d [] = true := by
  rw [areMetBy]

@[simp] theorem areMetBy_cons (d : Document) (x : Condition) (xs : List Condition) :
    areMetBy d (x :: xs) = (x.isMetBy d && areMetBy d xs) := by
  rw [areMetBy]

@[simp] theorem areMetBy_append (d : Document) (xs ys : List Condition) :
    areMetBy d (xs ++ ys) = (areMetBy d xs && areMetBy d ys) := by
  induction xs with
  | nil => simp
  | cons x xs ih => simp [ih, Bool.and_assoc]

theorem areMetBy_toList (d : Document) (x : Option Condition) :
    areMetBy d x.toList = x.all (isMetBy d) := by
  cases x <;> simp

end Condition

@[simp] theorem Query.isMetBy_all (d : Document) (conditions : List Condition) :
    (all conditions).isMetBy d = Condition.areMetBy d conditions := by
  rw [isMetBy]

theorem Query.allMetBy_eq (d : Document) (qs : List Query) :
    allMetBy d qs = qs.all (isMetBy d) := by
  induction qs with
  | nil => rw [allMetBy, List.all_nil]
  | cons q qs ih => rw [allMetBy, List.all_cons, ih]

theorem Query.someMetBy_eq (d : Document) (qs : List Query) :
    someMetBy d qs = qs.any (isMetBy d) := by
  induction qs with
  | nil => rw [someMetBy, List.any_nil]
  | cons q qs ih => rw [someMetBy, List.any_cons, ih]

@[simp] theorem Condition.isMetBy_allOf (d : Document) (qs : List Query) :
    (allOf qs).isMetBy d = qs.all (Query.isMetBy d) := by
  rw [isMetBy, Query.allMetBy_eq]

@[simp] theorem Condition.isMetBy_anyOf (d : Document) (qs : List Query) :
    (anyOf qs).isMetBy d = qs.any (Query.isMetBy d) := by
  rw [isMetBy, Query.someMetBy_eq]

/-- No comparison tells a missing value from null. -/
theorem Test.passes_compare_getD (v : Option Document) (c : Comparator) (bound : Document) :
    (compare c bound).passes (some (v.getD .null)) = (compare c bound).passes v := by
  cases v <;> cases c <;> simp [passes, Document.isNumber]

theorem Test.passes_compare_null (c : Comparator) (bound : Binary64) :
    (compare c (.float bound)).passes (some .null) = false := by
  cases c <;> rfl

end DialogueQuery
