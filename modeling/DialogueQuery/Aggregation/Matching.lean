import DialogueQuery.Aggregation.Evaluation
import DialogueQuery.Aggregation.Query

/-! Which documents meet a query. A missing field is equal to null, and an
order holds between two numbers only. -/

namespace DialogueQuery

namespace Document

def isNumber : Document → Bool
  | int _ => true
  | float _ => true
  | _ => false

end Document

def Test.passes (value : Option Document) : Test → Bool
  | isIn items => (value.getD .null).isAmong items
  | notIn items => !(value.getD .null).isAmong items
  | compare .equals bound => (value.getD .null).equal bound
  | compare c bound => value.any fun d =>
    d.isNumber && bound.isNumber && (c.test d bound).toOption == some true
  | isPresent => value.isSome
  | hasSize n => value.any fun d => match d with
    | .arr items => items.length == n
    | _ => false

mutual

/-- A query that was made elsewhere has no reading here and is met by nothing. -/
def Query.isMetBy (d : Document) : Query → Bool
  | .all conditions => Condition.areMetBy d conditions
  | .given _ => false

def Condition.isMetBy (d : Document) : Condition → Bool
  | .equals path value => ((Resolver.byMember d path).getD .null).equal value
  | .passes path tests => tests.all (Test.passes (Resolver.byMember d path))
  | .someElement path query => match Resolver.byMember d path with
    | some (.arr items) => items.any fun item => Query.isMetBy item query
    | _ => false
  | .anyOf queries => Query.someMetBy d queries
  | .allOf queries => Query.allMetBy d queries

def Condition.areMetBy (d : Document) : List Condition → Bool
  | [] => true
  | c :: cs => c.isMetBy d && Condition.areMetBy d cs

def Query.someMetBy (d : Document) : List Query → Bool
  | [] => false
  | q :: qs => q.isMetBy d || Query.someMetBy d qs

def Query.allMetBy (d : Document) : List Query → Bool
  | [] => true
  | q :: qs => q.isMetBy d && Query.allMetBy d qs

end

end DialogueQuery
