import Mathlib.Data.List.Basic
import DialogueQuery.Aggregation.Stage

/-! The fields that a stage reads and the ones that it sets, as it is written. The
fields that are set before a stage grow along a pipeline. -/

namespace DialogueQuery

namespace Document

/-- The field at which a dotted path begins. -/
def fieldOf (path : List Char) : String := String.ofList (path.takeWhile (· ≠ '.'))

mutual

/-- The fields that the paths in a written expression begin at. A text is a path if
it begins with a dollar sign; with two of them it begins at a variable. What is
quoted by `$literal` is no expression. -/
def pathFields : Document → List String
  | .str s => match s.toList with
    | '$' :: '$' :: _ => []
    | '$' :: path => [fieldOf path]
    | _ => []
  | .arr items => pathFieldsOfItems items
  | .obj members => pathFieldsOfMembers members
  | _ => []

def pathFieldsOfItems : List Document → List String
  | [] => []
  | d :: ds => pathFields d ++ pathFieldsOfItems ds

def pathFieldsOfMembers : List (String × Document) → List String
  | [] => []
  | (key, d) :: ms =>
    (if key = "$literal" then [] else pathFields d) ++ pathFieldsOfMembers ms

end

mutual

/-- The fields that a query document has conditions on: all keys that are no
operators. Queries stand within the operators named here, values within the others. -/
def queryFields : Document → List String
  | .arr items => queryFieldsOfItems items
  | .obj members => queryFieldsOfMembers members
  | _ => []

def queryFieldsOfItems : List Document → List String
  | [] => []
  | d :: ds => queryFields d ++ queryFieldsOfItems ds

def queryFieldsOfMembers : List (String × Document) → List String
  | [] => []
  | (key, d) :: ms =>
    (match key.toList with
      | '$' :: _ => if key ∈ ["$and", "$or", "$elemMatch"] then queryFields d else []
      | path => fieldOf path :: queryFields d) ++ queryFieldsOfMembers ms

end

end Document

def Condition.fields (c : Condition) : List String := Document.queryFieldsOfMembers [c.toMember]

theorem Query.fields_all (cs : List Condition) :
    (Query.all cs).toDocument.queryFields = cs.flatMap Condition.fields := by
  rw [toDocument, Document.queryFields]
  induction cs with
  | nil => rfl
  | cons c cs ih =>
    rw [Condition.toMembers, Document.queryFieldsOfMembers, ih, List.flatMap_cons,
      Condition.fields, Document.queryFieldsOfMembers, Document.queryFieldsOfMembers,
      List.append_nil]

namespace Stage

def reads : Stage → List String
  | filterBy query => query.toDocument.queryFields
  | sort keys => keys.map Prod.fst
  | s => s.body.pathFields

def sets : Stage → List String
  | addFields fields => fields.map Prod.fst
  | set fields => fields.map Prod.fst
  | _ => []

end Stage

namespace Pipeline

/-- The fields that no conversation is stored with. -/
def derivedFields : List String :=
  ["startTime", "endTime", "firstIntent", "convLen", "difference", "sequence", "matching",
    "funnelProgress"]

/-- Of some fields, those that are derived are known. -/
def AreKnown (known fields : List String) : Prop := ∀ f ∈ fields, f ∈ derivedFields → f ∈ known

instance (known fields : List String) : Decidable (AreKnown known fields) :=
  inferInstanceAs (Decidable (∀ f ∈ fields, f ∈ derivedFields → f ∈ known))

theorem areKnown_append {known fields fields' : List String} :
    AreKnown known (fields ++ fields') ↔ AreKnown known fields ∧ AreKnown known fields' := by
  simp only [AreKnown, List.forall_mem_append]

theorem AreKnown.mono {known known' fields : List String} (h : AreKnown known fields)
    (hle : known ⊆ known') : AreKnown known' fields := fun f hf hd => hle (h f hf hd)

/-- What the stages read is known from the start or has been set before. -/
def IsDefined (known : List String) : Pipeline → Prop
  | [] => True
  | s :: rest => AreKnown known s.reads ∧ IsDefined (known ++ s.sets) rest

/-- A second part may read what the first one sets. -/
theorem isDefined_append {known : List String} {p q : Pipeline} :
    IsDefined known (p ++ q) ↔ IsDefined known p ∧ IsDefined (known ++ p.flatMap Stage.sets) q := by
  induction p generalizing known with
  | nil => simp [IsDefined]
  | cons s rest ih =>
    simp only [List.cons_append, IsDefined, ih, List.flatMap_cons, List.append_assoc, and_assoc]

theorem IsDefined.mono {known known' : List String} {p : Pipeline} (h : IsDefined known p)
    (hle : known ⊆ known') : IsDefined known' p := by
  induction p generalizing known known' with
  | nil => trivial
  | cons s rest ih =>
    refine ⟨h.1.mono hle, ih h.2 ?_⟩
    exact List.append_subset.mpr ⟨List.Subset.trans hle (List.subset_append_left _ _),
      List.subset_append_right _ _⟩

/-- A derived field that a stage reads is set by one of the stages before it. -/
theorem IsDefined.exists_before {p before after : Pipeline} {s : Stage} (h : IsDefined [] p)
    (hp : p = before ++ s :: after) {f : String} (hf : f ∈ s.reads) (hd : f ∈ derivedFields) :
    ∃ s' ∈ before, f ∈ s'.sets := by
  rw [hp] at h
  obtain ⟨hreads, -⟩ := (isDefined_append.mp h).2
  simpa using hreads f hf hd

end Pipeline

end DialogueQuery
