import DialogueQuery.Document.Literal
import DialogueQuery.FilterSpec.Basic
import DialogueQuery.Funnel.Step
import DialogueQuery.Text.Blank

/-! From the entries of an event filter to funnel steps. A name is a text, an
object whose only member is named for the type, or an array of names. -/

namespace DialogueQuery.Funnel

/-- Why an entry is no step; each cause shows the entry. -/
inductive SpecError where
  | unknownType (type entry : Document)
  | noSeparator (entry : Document)
  | noType (entry : Document)
  | unresolvedName (entry : Document)
  | emptyName (entry : Document)
  /-- A report was asked for without a funnel. -/
  | noFunnel
deriving Repr

def SpecError.message : SpecError → String
  | unknownType type entry =>
    "Unknown funnel step type " ++ type.literal ++ " in " ++ entry.literal
  | noSeparator entry => "Funnel step " ++ entry.literal ++ " is not of the form 'type: name'"
  | noType entry => "Funnel step " ++ entry.literal ++ " has no type"
  | unresolvedName entry => "Cannot resolve funnel step name in " ++ entry.literal
  | emptyName entry => "Empty funnel step name in " ++ entry.literal
  | noFunnel => "A funnel report needs an inOrder event filter with at least one step"

/-- The type that a text names, blanks around it ignored. -/
def resolveType (type entry : Document) : Except SpecError StepType :=
  match type with
  | .str s => (StepType.ofName? (Text.strip s)).elim (.error (.unknownType type entry)) .ok
  | _ => .error (.unknownType type entry)

def nonEmptyNames (entry : Document) (names : List String) : Except SpecError (List String) :=
  if names.isEmpty || names.any (· == "") then .error (.emptyName entry) else .ok names

mutual

/-- The names in a tree of names, from left to right. -/
def collectNames (type : StepType) (entry : Document) : Document → Except SpecError (List String)
  | .str s => nonEmptyNames entry [Text.strip s]
  | .obj members => namesOfMember type entry members
  | .arr items => do nonEmptyNames entry (← collectItems type entry items)
  | _ => .error (.unresolvedName entry)

def namesOfMember (type : StepType) (entry : Document) :
    List (String × Document) → Except SpecError (List String)
  | [(key, d)] =>
    if key = type.name then collectNames type entry d else .error (.unresolvedName entry)
  | _ => .error (.unresolvedName entry)

def collectItems (type : StepType) (entry : Document) :
    List Document → Except SpecError (List String)
  | [] => .ok []
  | d :: ds => do return (← collectNames type entry d) ++ (← collectItems type entry ds)

end

def distinctNames : List String → List String
  | [] => []
  | n :: ns => n :: (distinctNames ns).filter (· ≠ n)

/-- A text of a type, a colon and a name. -/
def Step.ofText (s : String) : Except SpecError Step := do
  let entry := Document.str s
  let type := s.toList.takeWhile (· ≠ ':')
  match s.toList.drop type.length with
  | [] => throw (.noSeparator entry)
  | _ :: name =>
    let type ← match resolveType (.str (String.ofList type)) entry with
      | .ok type => pure type
      | .error e => throw e
    return ⟨type, ← collectNames type entry (.str (String.ofList name)), false⟩

/-- The name tree of an entry, and whether its names are excluded: an object
that holds `NOT` excludes them, one that holds `OR` only wraps them. -/
def nameTree (members : Members) : Document × Bool :=
  let name := (members.lookup "name").getD .null
  let excluded := ((members.lookup "excluded").getD (.bool false)).isTruthy
  match name.member? "NOT", name.member? "OR" with
  | some d, _ => (d, true)
  | none, some d => (d, excluded)
  | none, none => (name, excluded)

def Step.ofMembers (members : Members) : Except SpecError Step := do
  let entry := Document.obj members
  match members.lookup "type" with
  | none => throw (.noType entry)
  | some raw =>
    let type ← resolveType raw entry
    let (tree, excluded) := nameTree members
    return ⟨type, distinctNames (← collectNames type entry tree), excluded⟩

def Step.ofEntry : Entry → Except SpecError Step
  | .text s => ofText s
  | .form members => ofMembers members

/-- A value that is neither a text nor an object has no type. -/
def Step.ofDocument : Document → Except SpecError Step
  | .str s => ofText s
  | .obj members => ofMembers members
  | d => .error (.noType d)

/-- The steps that a specification asks for; none unless its event filter is in order. -/
def stepsOf (spec : FilterSpec) : Except SpecError (List Step) :=
  if spec.isInOrder then spec.eventFilter.mapM Step.ofEntry else .ok []

end DialogueQuery.Funnel
