import DialogueQuery.Aggregation.Run

/-! What a store makes of a pipeline that is sent to it. It is sent a document and
knows nothing of the expressions that this was written from: it tells paths and
operators by their dollar signs, and only `$literal` keeps it from doing so. -/

namespace DialogueQuery

namespace Expr

/-- Texts that are paths, and names that are operators, begin with a dollar sign. -/
def isReserved (s : String) : Bool := s.toList.head? == some '$'

def pathOf (cs : List Char) : List String := (cs.splitOn '.').map String.ofList

def ofText (s : String) : Expr :=
  match s.toList with
  | '$' :: '$' :: path => var ((pathOf path).headD "") (pathOf path).tail
  | '$' :: path => field (pathOf path)
  | _ => const (.str s)

def ofOperator? (name : String) (operand : Expr) : Option Expr :=
  match name, operand with
  | "$eq", array [a, b] => some (eq a b)
  | "$ne", array [a, b] => some (ne a b)
  | "$and", array es => some (and es)
  | "$ifNull", array [e, default] => some (ifNull e default)
  | "$cond", array [test, yes, no] => some (cond test yes no)
  | "$in", array [e, items] => some (isIn e items)
  | "$arrayElemAt", array [items, index] => some (elemAt items index)
  | "$concatArrays", array es => some (concat es)
  | "$filter", object members => do
    let input ← members.lookup "input"
    let test ← members.lookup "cond"
    match members.lookup "as" with
    | none => return filter input none test
    | some (const (.str item)) => return filter input (some item) test
    | _ => none
  | "$reduce", object members => do
    return reduce (← members.lookup "input") (← members.lookup "initialValue")
      (← members.lookup "in")
  | "$let", object members => do
    match ← members.lookup "vars" with
    | object [(name, value)] => return letIn name value (← members.lookup "in")
    | _ => none
  | "$size", e => some (size e)
  | "$add", array es => some (add es)
  | "$subtract", array [a, b] => some (subtract a b)
  | _, _ => none

mutual

def ofDocument? : Document → Option Expr
  | .str s => some (ofText s)
  | .arr items => do return array (← ofItems? items)
  | .obj [(name, d)] =>
    if name = "$literal" then some (literal d)
    else do
      let e ← ofDocument? d
      if isReserved name then ofOperator? name e else return object [(name, e)]
  | .obj members => do return object (← ofMembers? members)
  | d => some (const d)

def ofItems? : List Document → Option (List Expr)
  | [] => some []
  | d :: ds => do return (← ofDocument? d) :: (← ofItems? ds)

def ofMembers? : List (String × Document) → Option (List (String × Expr))
  | [] => some []
  | (name, d) :: rest => do return (name, ← ofDocument? d) :: (← ofMembers? rest)

end

end Expr

def Test.ofMember? : String × Document → Option Test
  | ("$in", .arr values) => some (isIn values)
  | ("$nin", .arr values) => some (notIn values)
  | ("$exists", .bool true) => some isPresent
  | ("$size", .int n) => if 0 ≤ n then some (hasSize n.toNat) else none
  | (name, bound) => (Comparator.all.find? (·.operator == name)).map fun c => compare c bound

mutual

def Query.ofDocument? : Document → Option Query
  | .obj members => do return .all (← Condition.ofMembers? members)
  | _ => none

def Query.ofItems? : List Document → Option (List Query)
  | [] => some []
  | d :: ds => do return (← Query.ofDocument? d) :: (← Query.ofItems? ds)

/-- The condition under a name. An object is a value to be equal to unless it begins
with an operator. -/
def Condition.ofMember? (name : String) : Document → Option Condition
  | .arr items =>
    if name = "$or" then do return .anyOf (← Query.ofItems? items)
    else if name = "$and" then do return .allOf (← Query.ofItems? items)
    else if Expr.isReserved name then none
    else some (.equals (Expr.pathOf name.toList) (.arr items))
  | .obj [("$elemMatch", d)] =>
    if Expr.isReserved name then none
    else do return .someElement (Expr.pathOf name.toList) (← Query.ofDocument? d)
  | .obj members =>
    if Expr.isReserved name then none
    else if members.head?.any (Expr.isReserved ·.1) then do
      return .passes (Expr.pathOf name.toList) (← members.mapM Test.ofMember?)
    else some (.equals (Expr.pathOf name.toList) (.obj members))
  | d => if Expr.isReserved name then none else some (.equals (Expr.pathOf name.toList) d)

def Condition.ofMembers? : List (String × Document) → Option (List Condition)
  | [] => some []
  | (name, d) :: rest => do return (← Condition.ofMember? name d) :: (← Condition.ofMembers? rest)

end

def Slice.ofDocument? : Document → Option Slice
  | .obj [("$skip", n)] => some (skip n)
  | .obj [("$limit", n)] => some (limit n)
  | .obj [("$count", .str name)] => some (count name)
  | _ => none

def Stage.ofDocument? : Document → Option Stage
  | .obj [("$addFields", .obj fields)] => (Expr.ofMembers? fields).map addFields
  | .obj [("$set", .obj fields)] => (Expr.ofMembers? fields).map set
  | .obj [("$match", query)] => (Query.ofDocument? query).map filterBy
  | .obj [("$sort", .obj keys)] => sort <$> keys.mapM fun
    | (name, .int direction) => some (name, direction)
    | _ => none
  | .obj [("$facet", .obj outputs)] => facet <$> outputs.mapM fun
    | (name, .arr slices) => do return (name, ← slices.mapM Slice.ofDocument?)
    | _ => none
  | .obj [("$group", .obj [("_id", key), (name, .obj [("$sum", .int 1)])])] => do
    return countBy (← Expr.ofDocument? key) name
  | _ => none

def Pipeline.ofDocument? : Document → Option Pipeline
  | .arr stages => stages.mapM Stage.ofDocument?
  | _ => none

/-- Runs the pipeline that it is sent, if it can read it. -/
def StoreModel.runDocument (m : StoreModel) (p : Document) (ds : List Document) :
    Except Fault (List Document) :=
  match Pipeline.ofDocument? p with
  | some p => m.run p ds
  | none => .error .missingMember

end DialogueQuery
