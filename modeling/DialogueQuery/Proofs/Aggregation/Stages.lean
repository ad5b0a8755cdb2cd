import DialogueQuery.Aggregation.Run
import DialogueQuery.Proofs.Aggregation.Rules

/-! Stages that look at one document at a time: what they derive on it, and
whether they hand it on. -/

namespace DialogueQuery

namespace Document

/-- The document with a derived field, which it loses if there is no value. -/
def derive (d : Document) (name : String) (value : Option Document) : Document :=
  match d with
  | obj members => obj (withField name value members)
  | d => d

theorem lookup_setMember (name : String) (value : Document) (members : Members) (n : String) :
    (setMember name value members).lookup n = if n = name then some value else members.lookup n := by
  induction members with
  | nil => simp [setMember, lookup_cons_ite]
  | cons m rest ih =>
    obtain ⟨k, v⟩ := m
    by_cases hk : k = name
    · subst hk
      by_cases h : n = k <;> simp [setMember, lookup_cons_ite, h]
    · by_cases h : n = k
      · simp [setMember, hk, h]
      · simp [setMember, hk, lookup_cons_ite, h, ih]

theorem lookup_filter_ne (name : String) (members : Members) (n : String) :
    (members.filter (·.1 != name)).lookup n = if n = name then none else members.lookup n := by
  induction members with
  | nil => simp
  | cons m rest ih =>
    obtain ⟨k, v⟩ := m
    by_cases hk : k = name
    · subst hk
      rw [List.filter_cons_of_neg (by simp), ih, lookup_cons_ite]
      split <;> rfl
    · by_cases h : n = k
      · simp [hk, h]
      · simp [hk, lookup_cons_ite, h, ih]

theorem lookup_withField (name : String) (value : Option Document) (members : Members)
    (n : String) :
    (withField name value members).lookup n = if n = name then value else members.lookup n := by
  cases value with
  | some d => exact lookup_setMember name d members n
  | none => exact lookup_filter_ne name members n

@[simp] theorem isObject_derive (d : Document) (name : String) (value : Option Document) :
    (d.derive name value).isObject = d.isObject := by
  cases d <;> rfl

/-- A derived field takes the place of the one that has its name, and the others stay. -/
theorem member?_derive {d : Document} (h : d.isObject = true) (name : String)
    (value : Option Document) (n : String) :
    (d.derive name value).member? n = if n = name then value else d.member? n := by
  cases d <;> simp_all [isObject, derive, lookup_withField]

end Document

namespace StoreModel

variable {m : StoreModel} {d d' d'' : Document}

theorem addFields_one (ho : d.isObject = true) (name : String) {e : Expr} {v : Option Document}
    (h : e.eval m.follow d [] = .ok v) :
    m.addFields [(name, e)] d = .ok (d.derive name v) := by
  cases d <;> simp_all [Document.isObject, addFields, Document.derive]

theorem addFields_two (ho : d.isObject = true) (name name' : String) {e e' : Expr}
    {v v' : Option Document} (h : e.eval m.follow d [] = .ok v)
    (h' : e'.eval m.follow d [] = .ok v') :
    m.addFields [(name, e), (name', e')] d = .ok ((d.derive name v).derive name' v') := by
  cases d <;> simp_all [Document.isObject, addFields, Document.derive]

theorem run_append (m : StoreModel) (p q : Pipeline) (ds : List Document) :
    m.run (p ++ q) ds = m.run p ds >>= m.run q :=
  List.foldlM_append

/-- The stages make `d'` of the document `d` and hand it on if `kept`, and they
make nothing of nothing. -/
def Passes (m : StoreModel) (p : Pipeline) (d : Document) (kept : Bool) (d' : Document) : Prop :=
  m.run p [d] = .ok (if kept then [d'] else []) ∧ m.run p [] = .ok []

theorem Passes.nil (m : StoreModel) (d : Document) : m.Passes [] d true d :=
  ⟨rfl, rfl⟩

/-- Of two parts of a pipeline, both have to keep a document. -/
theorem Passes.append {p q : Pipeline} {kept kept' : Bool} (h : m.Passes p d kept d')
    (h' : m.Passes q d' kept' d'') : m.Passes (p ++ q) d (kept && kept') d'' := by
  refine ⟨?_, by rw [run_append, h.2, ok_bind, h'.2]⟩
  cases kept with
  | true => simpa [run_append, h.1] using h'.1
  | false => simpa [run_append, h.1] using h'.2

theorem Passes.addFields {fields : List (String × Expr)} (h : m.addFields fields d = .ok d') :
    m.Passes [.addFields fields] d true d' := by
  constructor <;> simp [run, runStage, h]

theorem run_addFields_one (ho : d.isObject = true)
    (name : String) (e : Expr) :
    m.run [.addFields [(name, e)]] [d] =
      (e.eval m.follow d []).map fun v => [d.derive name v] := by
  cases he : e.eval m.follow d [] with
  | ok v => exact (Passes.addFields (addFields_one ho name he)).1
  | error f => cases d <;> simp_all [Document.isObject, run, runStage, addFields, Except.map]

theorem Passes.set {fields : List (String × Expr)} (h : m.addFields fields d = .ok d') :
    m.Passes [.set fields] d true d' := by
  constructor <;> simp [run, runStage, h]

theorem Passes.filterBy (m : StoreModel) (q : Query) (d : Document) :
    m.Passes [.filterBy q] d (q.isMetBy d) d := by
  constructor <;> simp [run, runStage, List.filter_cons]

end StoreModel

end DialogueQuery
