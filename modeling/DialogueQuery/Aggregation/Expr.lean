import DialogueQuery.Document.Basic

/-! Expressions of the aggregation language: values computed from a document,
with paths into it, variables, and operators on arrays. -/

namespace DialogueQuery

inductive Expr where
  /-- A value written as it stands; a text in it that begins with a dollar sign is
  read as a path, and an object as an expression. -/
  | const (d : Document)
  /-- A value that is taken as it is, whatever it contains. -/
  | literal (d : Document)
  /-- A path from the document. -/
  | field (path : List String)
  /-- A path from a variable. -/
  | var (name : String) (path : List String)
  | array (items : List Expr)
  | object (members : List (String × Expr))
  | eq (a b : Expr)
  | ne (a b : Expr)
  | and (es : List Expr)
  | ifNull (e default : Expr)
  | cond (test yes no : Expr)
  | isIn (e items : Expr)
  | elemAt (items index : Expr)
  | concat (arrays : List Expr)
  | filter (input : Expr) (name : Option String) (cond : Expr)
  /-- A fold: the step sees the item as `this` and the state as `value`. -/
  | reduce (input initial step : Expr)
  | letIn (name : String) (value body : Expr)
  | size (e : Expr)
  | add (es : List Expr)
  | subtract (a b : Expr)
deriving Inhabited

namespace Expr

def pathText (path : List String) : String := ".".intercalate path

/-- The name under which a filter binds an item when none is given. -/
def defaultItem : String := "this"

mutual

def toDocument : Expr → Document
  | const d => d
  | literal d => .single "$literal" d
  | field path => .str ("$" ++ pathText path)
  | var name path => .str ("$$" ++ pathText (name :: path))
  | array items => .arr (toDocuments items)
  | object members => .obj (toMembers members)
  | eq a b => .single "$eq" (.arr [a.toDocument, b.toDocument])
  | ne a b => .single "$ne" (.arr [a.toDocument, b.toDocument])
  | and es => .single "$and" (.arr (toDocuments es))
  | ifNull e d => .single "$ifNull" (.arr [e.toDocument, d.toDocument])
  | cond t y n => .single "$cond" (.arr [t.toDocument, y.toDocument, n.toDocument])
  | isIn e items => .single "$in" (.arr [e.toDocument, items.toDocument])
  | elemAt items i => .single "$arrayElemAt" (.arr [items.toDocument, i.toDocument])
  | concat arrays => .single "$concatArrays" (.arr (toDocuments arrays))
  | filter input name c =>
    let as : Members := match name with
      | some n => [("as", .str n)]
      | none => []
    .single "$filter" (.obj (("input", input.toDocument) :: as ++ [("cond", c.toDocument)]))
  | reduce input initial step => .single "$reduce" (.obj [("input", input.toDocument),
      ("initialValue", initial.toDocument), ("in", step.toDocument)])
  | letIn name value body => .single "$let"
      (.obj [("vars", .single name value.toDocument), ("in", body.toDocument)])
  | size e => .single "$size" e.toDocument
  | add es => .single "$add" (.arr (toDocuments es))
  | subtract a b => .single "$subtract" (.arr [a.toDocument, b.toDocument])

def toDocuments : List Expr → List Document
  | [] => []
  | e :: es => e.toDocument :: toDocuments es

def toMembers : List (String × Expr) → Members
  | [] => []
  | (k, e) :: rest => (k, e.toDocument) :: toMembers rest

end

end Expr

end DialogueQuery
