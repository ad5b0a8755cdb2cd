import DialogueQuery.Failure
import DialogueQuery.Funnel.Reshape

/-! How deeply the names of a funnel may be nested. There is room for so many
levels; an array takes two of them and an object takes one. An error shows the
whole entry, which takes room as well. -/

namespace DialogueQuery.Funnel

mutual

/-- The levels that showing a value takes. -/
def nesting : Document → Nat
  | .arr items => nestingOfItems items + 1
  | .obj members => nestingOfMembers members + 1
  | _ => 1

def nestingOfItems : List Document → Nat
  | [] => 0
  | d :: ds => max (nesting d) (nestingOfItems ds)

def nestingOfMembers : List (String × Document) → Nat
  | [] => 0
  | (_, d) :: ms => max (nesting d) (nestingOfMembers ms)

end

/-- Whether an entry cannot be shown in the room that is left. An error may take
two levels more than a further name might. -/
def errorOverruns (entry : Document) (room : Nat) : Bool := room + 2 < nesting entry

mutual

/-- Whether collecting the names of a tree takes more room than there is, before
it ends with them or with an error. -/
def overruns (type : StepType) (entry : Document) (room : Nat) : Document → Bool
  | .str s => Text.strip s == "" && errorOverruns entry room
  | .obj [(key, d)] =>
    if key = type.name then room = 0 || overruns type entry (room - 1) d
    else errorOverruns entry room
  | .arr items =>
    room < 2 || itemsOverrun type entry (room - 2) items
      || (items.isEmpty && errorOverruns entry room)
  | _ => errorOverruns entry room

def itemsOverrun (type : StepType) (entry : Document) (room : Nat) : List Document → Bool
  | [] => false
  | d :: ds =>
    overruns type entry room d
      || (!ds.isEmpty && (collectNames type entry d).isOk && itemsOverrun type entry room ds)

end

/-- Whether an entry is nested too deeply: its names, or the whole of it where it
is shown as an error. -/
def isTooDeep (room : Nat) : Document → Bool
  | .obj members =>
    match (members.lookup "type").map fun raw => resolveType raw (.obj members) with
    | some (.ok type) => overruns type (.obj members) room (nameTree members).1
    | _ => errorOverruns (.obj members) room
  | d => errorOverruns d room

def stepWithin (room : Nat) (entry : Document) : Except Failure Step :=
  if isTooDeep room entry then .error (.fault .tooDeep)
  else (Step.ofDocument entry).mapError fun e => .compile (.funnel e)

def stepsWithin (room : Nat) (entries : List Document) : Except Failure (List Step) :=
  entries.mapM (stepWithin room)

/-- Whether the first entry of a funnel that is no step is one that is too deep. -/
def specOverruns (room : Nat) (spec : FilterSpec) : Bool :=
  spec.isInOrder && match stepsWithin room (spec.eventFilter.map Entry.toDocument) with
    | .error (.fault _) => true
    | _ => false

/-- Decides on a specification. When its funnel is too deep, only what is decided
without the funnel comes before that. -/
def decideWithin (room : Nat) (spec : FilterSpec) (decide : FilterSpec → Except Failure α) :
    Except Failure α :=
  if specOverruns room spec then
    match decide { spec with eventFilter := [] } with
    | .error e => .error e
    | .ok _ => .error (.fault .tooDeep)
  else decide spec

end DialogueQuery.Funnel
