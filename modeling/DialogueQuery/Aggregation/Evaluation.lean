import DialogueQuery.Aggregation.Expr
import DialogueQuery.Document.Arithmetic

/-! The value of an expression for a document. An expression may have no value,
which is not the same as the value null. -/

namespace DialogueQuery

/-- Where a path leads from a value, if it leads anywhere. -/
abbrev Resolver := Document → List String → Option Document

namespace Resolver

/-- A path goes from object to member and through no array. -/
def byMember (d : Document) : List String → Option Document
  | [] => some d
  | name :: rest => (d.member? name).bind fun value => byMember value rest

/-- At an array a path collects what it leads to from the objects among the items. -/
def collecting (d : Document) : List String → Option Document
  | [] => some d
  | name :: rest =>
    match d with
    | .arr items => some (.arr (items.filterMap fun item =>
        (item.member? name).bind fun value => collecting value rest))
    | d => (d.member? name).bind fun value => collecting value rest

end Resolver

/-- What the variables are bound to; a variable may have no value. -/
abbrev Bindings := List (String × Option Document)

namespace Expr

def isNullish (v : Option Document) : Bool := v.all Document.isNull

/-- Only absent values, null, false and zero count as false. -/
def isHolding : Option Document → Bool
  | some (.bool b) => b
  | some (.int n) => n != 0
  | some (.float x) => !x.isZero
  | v => !isNullish v

def sameValue : Option Document → Option Document → Bool
  | some a, some b => a.equal b
  | none, none => true
  | _, _ => false

/-- The element at an index; a negative one counts from the end. -/
def elementAt (items : List Document) (index : Int) : Option Document :=
  if 0 ≤ index then items[index.toNat]?
  else if -(items.length : Int) ≤ index then items[(items.length + index).toNat]? else none

/-- The items of an array; nothing is read from an absent one or from null. -/
def itemsOf (v : Option Document) : Except Fault (Option (List Document)) :=
  match v with
  | some (.arr items) => .ok (some items)
  | v => if isNullish v then .ok none else .error .notCollection

/-- The difference of two numbers, null if one of them is absent. -/
def difference (a b : Option Document) : Except Fault (Option Document) :=
  match a, b with
  | some x, some y =>
    if x.isNull || y.isNull then .ok (some .null) else (x.minus y).map some
  | _, _ => .ok (some .null)

mutual

def eval (follow : Resolver) (doc : Document) (env : Bindings) :
    Expr → Except Fault (Option Document)
  | const d => .ok (some d)
  | literal d => .ok (some d)
  | field path => .ok (follow doc path)
  | var name path => match env.lookup name with
    | some v => .ok (v.bind fun d => follow d path)
    | none => .error .missingMember
  | array items => do return some (.arr ((← evalAll follow doc env items).map (·.getD .null)))
  | object members => do return some (.obj (← evalMembers follow doc env members))
  | eq a b => do
    return some (.bool (sameValue (← eval follow doc env a) (← eval follow doc env b)))
  | ne a b => do
    return some (.bool (!sameValue (← eval follow doc env a) (← eval follow doc env b)))
  | and es => do return some (.bool (← evalConjunction follow doc env es))
  | ifNull e default => do
    let v ← eval follow doc env e
    if isNullish v then eval follow doc env default else return v
  | cond test yes no => do
    if isHolding (← eval follow doc env test) then eval follow doc env yes
    else eval follow doc env no
  | isIn e items => do
    let v ← eval follow doc env e
    match ← eval follow doc env items with
    | some (.arr ds) => return some (.bool (v.any fun d => d.isAmong ds))
    | _ => .error .notCollection
  | elemAt items index => do
    let ds ← itemsOf (← eval follow doc env items)
    match ds, ← eval follow doc env index with
    | some ds, some (.int i) => return elementAt ds i
    | none, _ => return none
    | _, _ => .error .notNumeric
  | concat arrays => do
    let parts ← (← evalAll follow doc env arrays).mapM itemsOf
    if parts.all Option.isSome then return some (.arr (parts.filterMap id).flatten)
    else return some .null
  | filter input name test => do
    match ← itemsOf (← eval follow doc env input) with
    | none => return some .null
    | some ds =>
      let kept ← ds.filterM fun d => do
        return isHolding (← eval follow doc ((name.getD defaultItem, some d) :: env) test)
      return some (.arr kept)
  | reduce input initial step => do
    match ← itemsOf (← eval follow doc env input) with
    | none => return some .null
    | some ds =>
      let start ← eval follow doc env initial
      ds.foldlM (fun value d => eval follow doc (("this", some d) :: ("value", value) :: env) step)
        start
  | letIn name value body => do
    let v ← eval follow doc env value
    eval follow doc ((name, v) :: env) body
  | size e => do
    match ← eval follow doc env e with
    | some (.arr ds) => return some (.int ds.length)
    | _ => .error .notCollection
  | add es => do
    return some (← Document.total ((← evalAll follow doc env es).map (·.getD .null)))
  | subtract a b => do difference (← eval follow doc env a) (← eval follow doc env b)

def evalAll (follow : Resolver) (doc : Document) (env : Bindings) :
    List Expr → Except Fault (List (Option Document))
  | [] => .ok []
  | e :: es => do return (← eval follow doc env e) :: (← evalAll follow doc env es)

/-- A member without a value is left out. -/
def evalMembers (follow : Resolver) (doc : Document) (env : Bindings) :
    List (String × Expr) → Except Fault Members
  | [] => .ok []
  | (name, e) :: rest => do
    let v ← eval follow doc env e
    let members ← evalMembers follow doc env rest
    return v.elim members fun d => (name, d) :: members

/-- Stops at the first expression that does not hold. -/
def evalConjunction (follow : Resolver) (doc : Document) (env : Bindings) :
    List Expr → Except Fault Bool
  | [] => .ok true
  | e :: es => do
    if isHolding (← eval follow doc env e) then evalConjunction follow doc env es
    else return false

end

end Expr

end DialogueQuery
