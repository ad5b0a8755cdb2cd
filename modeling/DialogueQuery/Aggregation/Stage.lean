import DialogueQuery.Aggregation.Query

/-! Stages of an aggregation: each one extends, filters, orders or summarises
the documents that the stage before it yields. -/

namespace DialogueQuery

/-- One step within an output of a facet. -/
inductive Slice where
  | skip (n : Document)
  | limit (n : Document)
  | count (name : String)

def Slice.toDocument : Slice → Document
  | skip n => .single "$skip" n
  | limit n => .single "$limit" n
  | count name => .single "$count" (.str name)

inductive Stage where
  | addFields (fields : List (String × Expr))
  | set (fields : List (String × Expr))
  | filterBy (query : Query)
  /-- Orders by the fields in turn, ascending for 1 and descending for -1. -/
  | sort (keys : List (String × Int))
  | facet (outputs : List (String × List Slice))
  /-- The number of documents for each value of the key. -/
  | countBy (key : Expr) (name : String)

namespace Stage

/-- The operator that a stage is written with. -/
def operator : Stage → String
  | addFields _ => "$addFields"
  | set _ => "$set"
  | filterBy _ => "$match"
  | sort _ => "$sort"
  | facet _ => "$facet"
  | countBy _ _ => "$group"

def body : Stage → Document
  | addFields fields => .obj (Expr.toMembers fields)
  | set fields => .obj (Expr.toMembers fields)
  | filterBy query => query.toDocument
  | sort keys => .obj (keys.map fun k => (k.1, .int k.2))
  | facet outputs => .obj (outputs.map fun o => (o.1, .arr (o.2.map Slice.toDocument)))
  | countBy key name => .obj [("_id", key.toDocument), (name, .single "$sum" (.int 1))]

def toDocument (s : Stage) : Document := .single s.operator s.body

end Stage

abbrev Pipeline := List Stage

def Pipeline.toDocument (p : Pipeline) : Document := .arr (p.map Stage.toDocument)

end DialogueQuery
