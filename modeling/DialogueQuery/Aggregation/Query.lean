import DialogueQuery.Aggregation.Expr
import DialogueQuery.Comparator

/-! Query documents: conjunctions of conditions on the fields of a document. -/

namespace DialogueQuery

/-- What one operator asks of the value of a field. -/
inductive Test where
  | isIn (values : List Document)
  | notIn (values : List Document)
  | compare (c : Comparator) (bound : Document)
  | isPresent
  | hasSize (n : Nat)

mutual

inductive Query where
  /-- All conditions hold. -/
  | all (conditions : List Condition)
  /-- A query document that was made elsewhere. -/
  | given (d : Document)

inductive Condition where
  | equals (path : List String) (d : Document)
  /-- The value of a field passes every test. -/
  | passes (path : List String) (tests : List Test)
  /-- One element of an array meets a query. -/
  | someElement (path : List String) (query : Query)
  | anyOf (queries : List Query)
  | allOf (queries : List Query)

end

def Test.toMember : Test → String × Document
  | isIn values => ("$in", .arr values)
  | notIn values => ("$nin", .arr values)
  | compare c bound => (c.operator, bound)
  | isPresent => ("$exists", .bool true)
  | hasSize n => ("$size", .int n)

mutual

def Query.toDocument : Query → Document
  | .all conditions => .obj (Condition.toMembers conditions)
  | .given d => d

def Query.toDocuments : List Query → List Document
  | [] => []
  | q :: qs => q.toDocument :: Query.toDocuments qs

def Condition.toMember : Condition → String × Document
  | .equals path d => (Expr.pathText path, d)
  | .passes path tests => (Expr.pathText path, .obj (tests.map Test.toMember))
  | .someElement path query => (Expr.pathText path, .single "$elemMatch" query.toDocument)
  | .anyOf queries => ("$or", .arr (Query.toDocuments queries))
  | .allOf queries => ("$and", .arr (Query.toDocuments queries))

def Condition.toMembers : List Condition → Members
  | [] => []
  | c :: cs => c.toMember :: Condition.toMembers cs

end

/-- The query that every document meets. -/
def Query.any : Query := .all []

end DialogueQuery
