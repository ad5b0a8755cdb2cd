import DialogueQuery.Aggregation.Reading

/-! Stages that a store reads as they were meant. All that can be misread are texts
with a dollar sign that nothing quotes, and names with a dot in them. -/

namespace DialogueQuery

/-- A value that is written as it stands and read as itself. -/
def Document.isPlain : Document → Bool
  | str s => !Expr.isReserved s
  | arr _ => false
  | obj _ => false
  | _ => true

namespace Expr

def isPathName (s : String) : Bool := !isReserved s && !s.toList.contains '.'

def isPath (path : List String) : Bool := !path.isEmpty && path.all isPathName

mutual

def isLegible : Expr → Bool
  | const d => d.isPlain
  | literal _ => true
  | field path => isPath path
  | var name path => isPath (name :: path)
  | array items => areLegible items
  | object members => haveLegible members
  | eq a b => a.isLegible && b.isLegible
  | ne a b => a.isLegible && b.isLegible
  | and es => areLegible es
  | ifNull e default => e.isLegible && default.isLegible
  | cond test yes no => test.isLegible && yes.isLegible && no.isLegible
  | isIn e items => e.isLegible && items.isLegible
  | elemAt items index => items.isLegible && index.isLegible
  | concat arrays => areLegible arrays
  | filter input name test => input.isLegible && name.all (!isReserved ·) && test.isLegible
  | reduce input initial step => input.isLegible && initial.isLegible && step.isLegible
  | letIn name value body => !isReserved name && value.isLegible && body.isLegible
  | size e => e.isLegible
  | add es => areLegible es
  | subtract a b => a.isLegible && b.isLegible

def areLegible : List Expr → Bool
  | [] => true
  | e :: es => e.isLegible && areLegible es

def haveLegible : List (String × Expr) → Bool
  | [] => true
  | (name, e) :: rest => !isReserved name && e.isLegible && haveLegible rest

end

theorem ne_of_isReserved {s t : String} (hs : isReserved s = false) (ht : isReserved t = true) :
    s ≠ t := by
  rintro rfl
  rw [hs] at ht
  cases ht

theorem pathOf_pathText {path : List String} (h : isPath path = true) :
    pathOf (pathText path).toList = path := by
  simp only [isPath, Bool.and_eq_true, Bool.not_eq_true', List.isEmpty_eq_false_iff,
    List.all_eq_true, isPathName, List.contains_eq_mem, decide_eq_false_iff_not] at h
  have hsplit : List.splitOn '.' (['.'].intercalate (path.map String.toList)) =
      path.map String.toList := by
    refine List.splitOn_intercalate '.' ?_ (by simpa using h.1)
    intro cs hcs
    obtain ⟨name, hname, rfl⟩ := List.mem_map.mp hcs
    exact (h.2 name hname).2
  rw [pathOf, pathText, String.toList_intercalate, show ".".toList = ['.'] from rfl, hsplit]
  simp

theorem isReserved_pathText {path : List String} (h : isPath path = true) :
    isReserved (pathText path) = false := by
  cases path with
  | nil => rfl
  | cons name rest =>
    simp only [isPath, List.all_cons, Bool.and_eq_true, isPathName, isReserved] at h
    have hname : (name.toList.head? == some '$') = false := by simpa using h.2.1.1
    rw [isReserved, pathText, String.toList_intercalate, List.map_cons]
    cases hcs : name.toList with
    | nil => cases rest <;> simp
    | cons c cs =>
      rw [hcs] at hname
      cases rest <;> simpa using hname

theorem ofText_plain {s : String} (h : isReserved s = false) : ofText s = const (.str s) := by
  unfold ofText
  split <;> simp_all [isReserved]

theorem ofText_field {path : List String} (h : isPath path = true) :
    ofText ("$" ++ pathText path) = field path := by
  have hname := isReserved_pathText h
  have hpath := pathOf_pathText h
  rw [isReserved] at hname
  rw [ofText, String.toList_append, show "$".toList = ['$'] from rfl]
  generalize (pathText path).toList = cs at hname hpath
  rw [List.singleton_append]
  split
  · next he => cases he; simp at hname
  · next he => cases he; rw [hpath]
  · simp_all

theorem ofText_var {name : String} {path : List String} (h : isPath (name :: path) = true) :
    ofText ("$$" ++ pathText (name :: path)) = var name path := by
  rw [ofText, String.toList_append, show "$$".toList = ['$', '$'] from rfl]
  simp [pathOf_pathText h]

theorem ofDocument?_plain {d : Document} (h : d.isPlain = true) :
    ofDocument? d = some (const d) := by
  cases d with
  | str s =>
    rw [ofDocument?, ofText_plain]
    simpa [Document.isPlain] using h
  | arr items => simp [Document.isPlain] at h
  | obj members => simp [Document.isPlain] at h
  | _ => rfl

theorem ofItems?_nil : ofItems? (toDocuments []) = some [] := rfl

theorem ofItems?_cons {e : Expr} {es : List Expr} (he : ofDocument? e.toDocument = some e)
    (hes : ofItems? (toDocuments es) = some es) :
    ofItems? (toDocuments (e :: es)) = some (e :: es) := by
  simp [toDocuments, ofItems?, he, hes]

theorem ofMembers?_nil : ofMembers? (toMembers []) = some [] := rfl

theorem ofMembers?_cons (name : String) {e : Expr} {rest : List (String × Expr)}
    (he : ofDocument? e.toDocument = some e) (hrest : ofMembers? (toMembers rest) = some rest) :
    ofMembers? (toMembers ((name, e) :: rest)) = some ((name, e) :: rest) := by
  simp [toMembers, ofMembers?, he, hrest]

theorem ofDocument?_array {es : List Expr} (h : ofItems? (toDocuments es) = some es) :
    ofDocument? (.arr (toDocuments es)) = some (array es) := by
  simp [ofDocument?, h]

/-- An object with a single member is read as an object because its name is no operator. -/
theorem ofDocument?_object {name : String} {e : Expr} {rest : List (String × Expr)}
    (hn : isReserved name = false)
    (h : ofMembers? (toMembers ((name, e) :: rest)) = some ((name, e) :: rest)) :
    ofDocument? (.obj (toMembers ((name, e) :: rest))) = some (object ((name, e) :: rest)) := by
  cases rest with
  | nil =>
    have hliteral : name ≠ "$literal" := ne_of_isReserved hn (by decide)
    have he : ofDocument? e.toDocument = some e := by
      simpa [toMembers, ofMembers?, Option.bind_eq_some_iff] using h
    simp [toMembers, ofDocument?, hliteral, he, hn]
  | cons m rest =>
    rw [toMembers, toMembers] at h ⊢
    simp [ofDocument?, h]

section

variable {name : String} (hn : isReserved name ∧ name ≠ "$literal") {a b e : Expr}
include hn

/-- An operator that is applied to a single argument is read from it. -/
theorem ofDocument?_operator {d : Document} (h : ofDocument? d = some e) :
    ofDocument? (.single name d) = ofOperator? name e := by
  simp [Document.single, ofDocument?, hn, h]

theorem ofDocument?_binary (ha : ofDocument? a.toDocument = some a)
    (hb : ofDocument? b.toDocument = some b) :
    ofDocument? (.single name (.arr [a.toDocument, b.toDocument])) =
      ofOperator? name (array [a, b]) :=
  ofDocument?_operator hn (ofDocument?_array (ofItems?_cons ha (ofItems?_cons hb ofItems?_nil)))

end

mutual

/-- A legible expression is read from the document that it is sent as: what begins with a dollar
sign in it is a path, a variable or an operator, or is quoted. -/
theorem ofDocument?_toDocument : (e : Expr) → e.isLegible = true →
    ofDocument? e.toDocument = some e
  | const d, h => ofDocument?_plain h
  | literal d, _ => rfl
  | field path, h => congrArg some (ofText_field h)
  | var name path, h => congrArg some (ofText_var h)
  | array items, h => ofDocument?_array (ofItems?_toDocuments items h)
  | object [], _ => rfl
  | object ((name, e) :: rest), h => by
    have hmembers := ofMembers?_toMembers ((name, e) :: rest) h
    simp only [isLegible, haveLegible, Bool.and_eq_true, Bool.not_eq_true'] at h
    exact ofDocument?_object h.1.1 hmembers
  | eq a b, h =>
    have h := Bool.and_eq_true_iff.mp h
    ofDocument?_binary (by decide) (ofDocument?_toDocument a h.1) (ofDocument?_toDocument b h.2)
  | ne a b, h =>
    have h := Bool.and_eq_true_iff.mp h
    ofDocument?_binary (by decide) (ofDocument?_toDocument a h.1) (ofDocument?_toDocument b h.2)
  | and es, h =>
    ofDocument?_operator (by decide) (ofDocument?_array (ofItems?_toDocuments es h))
  | ifNull e default, h =>
    have h := Bool.and_eq_true_iff.mp h
    ofDocument?_binary (by decide) (ofDocument?_toDocument e h.1)
      (ofDocument?_toDocument default h.2)
  | cond test yes no, h => by
    simp only [isLegible, Bool.and_eq_true] at h
    have hno := ofItems?_cons (ofDocument?_toDocument no h.2) ofItems?_nil
    have hyes := ofItems?_cons (ofDocument?_toDocument yes h.1.2) hno
    have htest := ofItems?_cons (ofDocument?_toDocument test h.1.1) hyes
    exact ofDocument?_operator (by decide) (ofDocument?_array htest)
  | isIn e items, h =>
    have h := Bool.and_eq_true_iff.mp h
    ofDocument?_binary (by decide) (ofDocument?_toDocument e h.1)
      (ofDocument?_toDocument items h.2)
  | elemAt items index, h =>
    have h := Bool.and_eq_true_iff.mp h
    ofDocument?_binary (by decide) (ofDocument?_toDocument items h.1)
      (ofDocument?_toDocument index h.2)
  | concat arrays, h =>
    ofDocument?_operator (by decide) (ofDocument?_array (ofItems?_toDocuments arrays h))
  | filter input name test, h => by
    simp only [isLegible, Bool.and_eq_true] at h
    have hinput := ofDocument?_toDocument input h.1.1
    have htest := ofMembers?_cons "cond" (ofDocument?_toDocument test h.2) ofMembers?_nil
    cases name with
    | none =>
      have hmembers := ofMembers?_cons "input" hinput htest
      exact ofDocument?_operator (by decide) (ofDocument?_object (by decide) hmembers)
    | some item =>
      have hitem : ofDocument? (const (.str item)).toDocument = some (const (.str item)) :=
        ofDocument?_plain h.1.2
      have hmembers := ofMembers?_cons "input" hinput (ofMembers?_cons "as" hitem htest)
      exact ofDocument?_operator (by decide) (ofDocument?_object (by decide) hmembers)
  | reduce input initial step, h => by
    simp only [isLegible, Bool.and_eq_true] at h
    have hstep := ofMembers?_cons "in" (ofDocument?_toDocument step h.2) ofMembers?_nil
    have hinitial :=
      ofMembers?_cons "initialValue" (ofDocument?_toDocument initial h.1.2) hstep
    have hinput := ofMembers?_cons "input" (ofDocument?_toDocument input h.1.1) hinitial
    exact ofDocument?_operator (by decide) (ofDocument?_object (by decide) hinput)
  | letIn name value body, h => by
    simp only [isLegible, Bool.and_eq_true] at h
    have hvalue := ofMembers?_cons name (ofDocument?_toDocument value h.1.2) ofMembers?_nil
    have hvars : ofDocument? (object [(name, value)]).toDocument = some (object [(name, value)]) :=
      ofDocument?_object (by simpa using h.1.1) hvalue
    have hbody := ofMembers?_cons "in" (ofDocument?_toDocument body h.2) ofMembers?_nil
    have hmembers := ofMembers?_cons "vars" hvars hbody
    exact ofDocument?_operator (by decide) (ofDocument?_object (by decide) hmembers)
  | size e, h => ofDocument?_operator (by decide) (ofDocument?_toDocument e h)
  | add es, h =>
    ofDocument?_operator (by decide) (ofDocument?_array (ofItems?_toDocuments es h))
  | subtract a b, h =>
    have h := Bool.and_eq_true_iff.mp h
    ofDocument?_binary (by decide) (ofDocument?_toDocument a h.1) (ofDocument?_toDocument b h.2)

theorem ofItems?_toDocuments : (es : List Expr) → areLegible es = true →
    ofItems? (toDocuments es) = some es
  | [], _ => ofItems?_nil
  | e :: es, h => by
    obtain ⟨he, hes⟩ := Bool.and_eq_true_iff.mp h
    exact ofItems?_cons (ofDocument?_toDocument e he) (ofItems?_toDocuments es hes)

theorem ofMembers?_toMembers : (members : List (String × Expr)) → haveLegible members = true →
    ofMembers? (toMembers members) = some members
  | [], _ => ofMembers?_nil
  | (name, e) :: rest, h => by
    simp only [haveLegible, Bool.and_eq_true] at h
    exact ofMembers?_cons name (ofDocument?_toDocument e h.1.2) (ofMembers?_toMembers rest h.2)

end

end Expr

/-- A list is read item by item. -/
theorem mapM_map_eq_some {α β : Type} {write : α → β} {read : β → Option α} {as : List α}
    (h : ∀ a ∈ as, read (write a) = some a) : (as.map write).mapM read = some as := by
  induction as with
  | nil => rfl
  | cons a as ih =>
    have has := ih fun a' ha' => h a' (List.mem_cons_of_mem a ha')
    rw [List.map_cons, List.mapM_cons, h a List.mem_cons_self, has]
    rfl

theorem Test.ofMember?_toMember (t : Test) : ofMember? t.toMember = some t := by
  cases t with
  | compare c bound => cases c <;> rfl
  | hasSize n => simp [toMember, ofMember?]
  | _ => rfl

theorem Test.isReserved_toMember (t : Test) : Expr.isReserved t.toMember.1 = true := by
  cases t with
  | compare c bound => cases c <;> simp [toMember, Comparator.operator, Expr.isReserved]
  | _ => simp [toMember, Expr.isReserved]

theorem Test.toMember_ne (t : Test) (d : Document) : t.toMember ≠ ("$elemMatch", d) := by
  cases t with
  | compare c bound => cases c <;> simp [toMember, Comparator.operator]
  | _ => simp [toMember]

mutual

def Query.isLegible : Query → Bool
  | .all conditions => Condition.areLegible conditions
  | .given _ => false

def Query.areLegible : List Query → Bool
  | [] => true
  | q :: qs => q.isLegible && Query.areLegible qs

def Condition.isLegible : Condition → Bool
  | .equals path d => Expr.isPath path && !d.isObject
  | .passes path tests => Expr.isPath path && !tests.isEmpty
  | .someElement path query => Expr.isPath path && query.isLegible
  | .anyOf queries => Query.areLegible queries
  | .allOf queries => Query.areLegible queries

def Condition.areLegible : List Condition → Bool
  | [] => true
  | c :: cs => c.isLegible && Condition.areLegible cs

end

namespace Condition

variable {path : List String} (hp : Expr.isPath path = true)
include hp

theorem ofMember?_equals {d : Document} (hd : d.isObject = false) :
    ofMember? (Expr.pathText path) d = some (equals path d) := by
  have hr := Expr.isReserved_pathText hp
  cases d with
  | obj members => simp [Document.isObject] at hd
  | arr items =>
    have hor : Expr.pathText path ≠ "$or" := Expr.ne_of_isReserved hr (by decide)
    have hand : Expr.pathText path ≠ "$and" := Expr.ne_of_isReserved hr (by decide)
    simp [ofMember?, hor, hand, hr, Expr.pathOf_pathText hp]
  | _ => simp [ofMember?, hr, Expr.pathOf_pathText hp]

theorem ofMember?_passes {tests : List Test} (ht : tests ≠ []) :
    ofMember? (Expr.pathText path) (.obj (tests.map Test.toMember)) =
      some (passes path tests) := by
  have htests := mapM_map_eq_some fun t (_ : t ∈ tests) => Test.ofMember?_toMember t
  have helement (d : Document) : tests.map Test.toMember ≠ [("$elemMatch", d)] := by
    intro he
    obtain ⟨t, -, ht⟩ := List.exists_of_mem_map (he ▸ List.mem_singleton_self ("$elemMatch", d))
    exact Test.toMember_ne t d ht
  have hreserved : (tests.map Test.toMember).head?.any (Expr.isReserved ·.1) = true := by
    cases tests with
    | nil => exact absurd rfl ht
    | cons t rest => simp [Test.isReserved_toMember]
  rw [ofMember?]
  · rw [Expr.isReserved_pathText hp, hreserved, Expr.pathOf_pathText hp, htests]
    rfl
  · exact helement

theorem ofMember?_someElement {query : Query}
    (hq : Query.ofDocument? query.toDocument = some query) :
    ofMember? (Expr.pathText path) (.single "$elemMatch" query.toDocument) =
      some (someElement path query) := by
  simp [Document.single, ofMember?, Expr.isReserved_pathText hp, Expr.pathOf_pathText hp, hq]

end Condition

mutual

theorem Query.ofDocument?_toDocument : (q : Query) → q.isLegible = true →
    Query.ofDocument? q.toDocument = some q
  | .all conditions, h => by
    rw [Query.toDocument, Query.ofDocument?, Condition.ofMembers?_toMembers conditions h]
    rfl

theorem Query.ofItems?_toDocuments : (qs : List Query) → Query.areLegible qs = true →
    Query.ofItems? (Query.toDocuments qs) = some qs
  | [], _ => rfl
  | q :: qs, h => by
    obtain ⟨hq, hqs⟩ := Bool.and_eq_true_iff.mp h
    rw [Query.toDocuments, Query.ofItems?, Query.ofDocument?_toDocument q hq,
      Query.ofItems?_toDocuments qs hqs]
    rfl

theorem Condition.ofMember?_toMember : (c : Condition) → c.isLegible = true →
    Condition.ofMember? c.toMember.1 c.toMember.2 = some c
  | .equals path d, h => by
    obtain ⟨hp, hd⟩ := Bool.and_eq_true_iff.mp h
    exact Condition.ofMember?_equals hp (Bool.not_eq_true' _ ▸ hd)
  | .passes path tests, h => by
    obtain ⟨hp, ht⟩ := Bool.and_eq_true_iff.mp h
    exact Condition.ofMember?_passes hp (by simpa using ht)
  | .someElement path query, h => by
    obtain ⟨hp, hq⟩ := Bool.and_eq_true_iff.mp h
    exact Condition.ofMember?_someElement hp (Query.ofDocument?_toDocument query hq)
  | .anyOf queries, h => by
    rw [Condition.toMember, Condition.ofMember?, if_pos rfl, Query.ofItems?_toDocuments queries h]
    rfl
  | .allOf queries, h => by
    rw [Condition.toMember, Condition.ofMember?, if_neg (by simp), if_pos rfl,
      Query.ofItems?_toDocuments queries h]
    rfl

theorem Condition.ofMembers?_toMembers : (cs : List Condition) → Condition.areLegible cs = true →
    Condition.ofMembers? (Condition.toMembers cs) = some cs
  | [], _ => rfl
  | c :: cs, h => by
    obtain ⟨hc, hcs⟩ := Bool.and_eq_true_iff.mp h
    rw [Condition.toMembers, Condition.ofMembers?, Condition.ofMember?_toMember c hc,
      Condition.ofMembers?_toMembers cs hcs]
    rfl

end

theorem Slice.ofDocument?_toDocument (s : Slice) : ofDocument? s.toDocument = some s := by
  cases s <;> rfl

namespace Stage

def isLegible : Stage → Bool
  | addFields fields => Expr.haveLegible fields
  | set fields => Expr.haveLegible fields
  | filterBy query => query.isLegible
  | countBy key _ => key.isLegible
  | sort _ => true
  | facet _ => true

theorem ofDocument?_toDocument {s : Stage} (h : s.isLegible = true) :
    ofDocument? s.toDocument = some s := by
  cases s with
  | addFields fields => exact congrArg (Option.map addFields) (Expr.ofMembers?_toMembers fields h)
  | set fields => exact congrArg (Option.map set) (Expr.ofMembers?_toMembers fields h)
  | filterBy query =>
    exact congrArg (Option.map filterBy) (Query.ofDocument?_toDocument query h)
  | sort keys =>
    refine congrArg (Option.map sort) (mapM_map_eq_some ?_)
    rintro ⟨name, direction⟩ -
    rfl
  | facet outputs =>
    refine congrArg (Option.map facet) (mapM_map_eq_some ?_)
    rintro ⟨name, slices⟩ -
    have hslices := mapM_map_eq_some fun s (_ : s ∈ slices) => Slice.ofDocument?_toDocument s
    simp [hslices]
  | countBy key name =>
    have hkey := Expr.ofDocument?_toDocument key h
    simp [toDocument, operator, body, Document.single, ofDocument?, hkey]

end Stage

namespace Pipeline

def isLegible (p : Pipeline) : Bool := p.all Stage.isLegible

/-- A legible pipeline is read stage by stage from the array that it is sent as. -/
theorem ofDocument?_toDocument {p : Pipeline} (h : p.isLegible = true) :
    ofDocument? p.toDocument = some p :=
  mapM_map_eq_some fun _ hs => Stage.ofDocument?_toDocument (List.all_eq_true.mp h _ hs)

end Pipeline

/-- A store that is sent legible stages runs these stages. -/
theorem StoreModel.runDocument_toDocument (m : StoreModel) {p : Pipeline}
    (h : p.isLegible = true) (ds : List Document) :
    m.runDocument p.toDocument ds = m.run p ds := by
  rw [runDocument, Pipeline.ofDocument?_toDocument h]

end DialogueQuery
