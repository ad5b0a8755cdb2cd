import DialogueQuery.Aggregation.Evaluation
import DialogueQuery.Proofs.Conversation.Events

/-! What the two ways of reading a path have in common: they differ only where
a path meets an array. -/

namespace DialogueQuery

namespace Document

def isArray : Document → Bool
  | arr _ => true
  | _ => false

theorem isArray_of_isRecord {d : Document} (h : d.isRecord = true) : d.isArray = false := by
  cases d <;> simp_all [isRecord, isArray]

@[simp] theorem follow_null (path : List String) : null.follow path = null := by
  induction path with
  | nil => simp
  | cons name rest ih => simp [ih]

def leadsThroughRecords (d : Document) : List String → Bool
  | [] => true
  | name :: rest => d.isRecord && ((d.member? name).getD null).leadsThroughRecords rest

end Document

theorem Conversation.leadsThroughRecords_events {c : Document} (h : hasEvents c = true) :
    c.leadsThroughRecords ["tracker", "events"] = true := by
  simp only [hasEvents, Bool.and_eq_true, Document.follow_cons, Document.follow_nil] at h
  simp [Document.leadsThroughRecords, Document.isRecord_of_isObject h.1.1, h.1.2]

theorem Conversation.leadsThroughRecords_intentName {e : Document} (ho : e.isObject = true)
    (hi : hasIntent e = true) : e.leadsThroughRecords intentNamePath = true := by
  simp only [hasIntent, Bool.and_eq_true, Document.follow_cons, Document.follow_nil] at hi
  simp [intentNamePath, Document.leadsThroughRecords, Document.isRecord_of_isObject ho, hi]

theorem Expr.isNullish_iff {v : Option Document} :
    isNullish v = true ↔ v = none ∨ v = some .null := by
  rcases v with _ | d
  · simp [isNullish]
  · cases d <;> simp [isNullish, Document.isNull]

namespace Resolver

/-- A path goes from an object to its member. At an array it may do anything but
find a text. -/
structure IsMemberwise (follow : Resolver) : Prop where
  nil (d : Document) : follow d [] = some d
  cons {d : Document} (h : d.isArray = false) (name : String) (rest : List String) :
    follow d (name :: rest) = (d.member? name).bind fun v => follow v rest
  arr (items : List Document) (name : String) (rest : List String) (text : String) :
    follow (.arr items) (name :: rest) ≠ some (.str text)

theorem byMember_isMemberwise : IsMemberwise byMember where
  nil _ := by rw [byMember]
  cons _ _ _ := by rw [byMember]
  arr _ _ _ _ := by simp [byMember, Document.member?]

theorem collecting_isMemberwise : IsMemberwise collecting where
  nil _ := by rw [collecting]
  cons {d} h name rest := by
    cases d <;> simp_all [collecting, Document.isArray]
  arr _ _ _ _ := by simp [collecting]

theorem collecting_items (items : List Document) (name : String) :
    collecting (.arr items) [name] = some (.arr (items.filterMap (·.member? name))) := by
  simp [collecting]

namespace IsMemberwise

variable {follow : Resolver} (hf : IsMemberwise follow)
include hf

theorem follow_one {d : Document} (h : d.isObject = true) (name : String) :
    follow d [name] = d.member? name := by
  rw [hf.cons (Document.isArray_of_isRecord (Document.isRecord_of_isObject h))]
  cases d.member? name <;> simp [hf.nil]

theorem follow_member {d v : Document} {name : String} (h : d.member? name = some v) :
    follow d [name] = some v := by
  rw [hf.follow_one (Document.isObject_of_member? h), h]

/-- Where a path leads through records, stores that differ on arrays all follow it as the program
does. -/
theorem getD_follow {d : Document} {path : List String}
    (h : d.leadsThroughRecords path = true) : (follow d path).getD .null = d.follow path := by
  induction path generalizing d with
  | nil => simp [hf.nil]
  | cons name rest ih =>
    simp only [Document.leadsThroughRecords, Bool.and_eq_true] at h
    rw [hf.cons (Document.isArray_of_isRecord h.1)]
    cases hm : d.member? name with
    | none => simp [hm]
    | some v => simpa [hm] using ih (by simpa [hm] using h.2)

/-- A path through records may be followed in two parts. -/
theorem follow_append {d : Document} {path : List String}
    (h : d.leadsThroughRecords path = true) (rest : List String) :
    follow d (path ++ rest) = (follow d path).bind fun v => follow v rest := by
  induction path generalizing d with
  | nil => rw [hf.nil, Option.bind_some, List.nil_append]
  | cons name path ih =>
    simp only [Document.leadsThroughRecords, Bool.and_eq_true] at h
    have ha := Document.isArray_of_isRecord h.1
    rw [List.cons_append, hf.cons ha, hf.cons ha]
    cases hm : d.member? name with
    | none => rfl
    | some v => exact ih (by simpa [hm] using h.2)

/-- A store finds the recorded events, or no value in their place if none are recorded. -/
theorem follow_events {c : Document} (h : Conversation.hasEvents c = true) :
    follow c ["tracker", "events"] = some (.arr (Conversation.recorded c)) ∨
      Expr.isNullish (follow c ["tracker", "events"]) = true ∧
        Conversation.recorded c = [] := by
  have he := h
  simp only [Conversation.hasEvents, Bool.and_eq_true] at he
  have hv := hf.getD_follow (Conversation.leadsThroughRecords_events h)
  rw [Conversation.recorded, ← hv]
  rw [← hv] at he
  cases hd : follow c ["tracker", "events"] with
  | none => exact .inr ⟨rfl, rfl⟩
  | some d =>
    rw [hd] at he
    cases d with
    | arr items => exact .inl rfl
    | null => exact .inr ⟨rfl, rfl⟩
    | _ => simp [Document.isNull] at he

/-- Comparing a member with a text finds out whether it is that text, whatever
kind of value the member is looked for in. -/
theorem sameValue_str (d : Document) (name text : String) :
    Expr.sameValue (follow d [name]) (some (.str text)) = Conversation.hasText d name text := by
  by_cases ha : d.isArray = true
  · cases d with
    | arr items =>
      have hn := hf.arr items name [] text
      cases hv : follow (.arr items) [name] with
      | none => simp [Expr.sameValue, Conversation.hasText, Document.member?]
      | some v =>
        have hne : v.equal (.str text) = false := by
          rw [hv] at hn
          cases v <;> simp_all [Document.equal, Document.equalNumbers, Document.numeral?,
            Document.isNull]
        simp [Expr.sameValue, Conversation.hasText, Document.member?, hne]
    | _ => simp [Document.isArray] at ha
  · rw [hf.cons (by simpa using ha)]
    cases hm : d.member? name <;> simp [Expr.sameValue, Conversation.hasText, hm, hf.nil]

end IsMemberwise

end Resolver

end DialogueQuery
