import DialogueQuery.Aggregation.Matching
import DialogueQuery.Aggregation.Stage

/-! What the stages of a pipeline make of a list of documents. -/

namespace DialogueQuery

/-- How a store reads paths, and the total order by which it sorts values. -/
structure StoreModel where
  follow : Resolver
  le : Document → Document → Bool

namespace Document

/-- The document with a derived field; a field without a value is removed. -/
def withField (name : String) (value : Option Document) (members : Members) : Members :=
  match value with
  | some d => setMember name d members
  | none => members.filter (·.1 != name)

/-- The value of a field for sorting, null if it is missing. -/
def sortValue (d : Document) (name : String) : Document := (d.member? name).getD null

end Document

/-- Keeps or drops documents by their place in the list. -/
def Slice.run (ds : List Document) : Slice → List Document
  | skip (.int n) => ds.drop n.toNat
  | limit (.int n) => ds.take n.toNat
  | count name => if ds.isEmpty then [] else [.single name (.int ds.length)]
  | _ => ds

namespace StoreModel

/-- The first key on which two documents differ decides; one that goes down is turned round. -/
def precedes (m : StoreModel) : List (String × Int) → Document → Document → Bool
  | [], _, _ => true
  | (name, direction) :: keys, a, b =>
    let x := a.sortValue name
    let y := b.sortValue name
    if m.le x y && m.le y x then m.precedes keys a b
    else if 0 < direction then m.le x y else m.le y x

/-- The fields are derived from the document as it was before. -/
def addFields (m : StoreModel) (fields : List (String × Expr)) (d : Document) :
    Except Fault Document :=
  match d with
  | .obj members => do
    let values ← fields.mapM fun f => do return (f.1, ← f.2.eval m.follow d [])
    return .obj (values.foldl (fun ms v => Document.withField v.1 v.2 ms) members)
  | _ => .error .notRecord

/-- The number of documents by the value of a key, in the order of the first ones. -/
def tally (keys : List Document) : List (Document × Nat) :=
  (keys.foldl (fun distinct k => if k.isAmong distinct then distinct else distinct ++ [k]) []).map
    fun k => (k, keys.countP k.equal)

def runStage (m : StoreModel) (ds : List Document) : Stage → Except Fault (List Document)
  | .addFields fields => ds.mapM (m.addFields fields)
  | .set fields => ds.mapM (m.addFields fields)
  | .filterBy query => .ok (ds.filter fun d => query.isMetBy d)
  | .sort keys => .ok (ds.mergeSort (m.precedes keys))
  | .facet outputs =>
    .ok [.obj (outputs.map fun o => (o.1, .arr (o.2.foldl Slice.run ds)))]
  | .countBy key name => do
    let keys ← ds.mapM fun d => do return (← key.eval m.follow d []).getD .null
    return (tally keys).map fun k => .obj [("_id", k.1), (name, .int k.2)]

def run (m : StoreModel) (p : Pipeline) (ds : List Document) : Except Fault (List Document) :=
  p.foldlM m.runStage ds

end StoreModel

end DialogueQuery
