import DialogueQuery.Document.Compare
import DialogueQuery.Document.Literal

/-! The comparisons that thresholds are given by: their names, the operators
they are written with, and the in-process test. -/

namespace DialogueQuery

inductive Comparator where
  | greaterThan
  | lessThan
  | equals
deriving DecidableEq, Repr

structure UnsupportedComparison where
  name : Document
deriving Repr

def UnsupportedComparison.message (e : UnsupportedComparison) : String :=
  "Comparison with " ++ e.name.display ++ " not supported"

namespace Comparator

def all : List Comparator := [greaterThan, lessThan, equals]

def name : Comparator → String
  | greaterThan => "greaterThan"
  | lessThan => "lessThan"
  | equals => "equals"

def symbol : Comparator → String
  | greaterThan => ">="
  | lessThan => "<="
  | equals => "=="

def operator : Comparator → String
  | greaterThan => "$gte"
  | lessThan => "$lte"
  | equals => "$eq"

def ofName? (s : String) : Option Comparator := all.find? fun c => c.name == s

/-- Only a text that is a name resolves. -/
def resolve (name : Document) : Except UnsupportedComparison Comparator :=
  match name with
  | .str s => (ofName? s).elim (.error ⟨name⟩) .ok
  | _ => .error ⟨name⟩

/-- Compares a value with a bound; both bounds are inclusive. -/
def test : Comparator → Document → Document → Except Fault Bool
  | greaterThan, a, b => Document.holds .atLeast a b
  | lessThan, a, b => Document.holds .atMost a b
  | equals, a, b => .ok (a.equal b)

def condition (c : Comparator) (bound : Document) : Document := .single c.operator bound

def expression (c : Comparator) (value bound : Document) : Document :=
  .single c.operator (.arr [value, bound])

end Comparator

end DialogueQuery
