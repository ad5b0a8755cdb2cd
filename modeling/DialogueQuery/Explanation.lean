import DialogueQuery.Failure

/-! The clauses of a specification evaluated on one conversation: each clause
that takes part in the query is reported under its name. -/

namespace DialogueQuery

structure Explanation where
  conversationId : String
  /-- The clauses, and whether the conversation meets them. -/
  checks : Filter.Checks
  /-- The number of steps reached, when a funnel is asked for. -/
  progress : Option Nat
deriving Repr

namespace Explanation

/-- The query would return the conversation. -/
def isMatch (e : Explanation) : Bool := e.checks.all (·.2)

/-- The report of a clause that takes part only sometimes. -/
def clause (name : String) (c : Option α) (check : α → Except Failure Bool) :
    Except Failure Filter.Checks :=
  match c with
  | some a => do return [(name, ← check a)]
  | none => return []

def faulty (r : Except Fault α) : Except Failure α := r.mapError .fault

def comparing (r : Except UnsupportedComparison α) : Except Failure α :=
  r.mapError fun e => .compile (.comparison e)

/-- How the conversation starts; `triggers` are the trigger intents if this is asked. -/
def firstIntentChecks (spec : FilterSpec) (triggers : Option (List Document)) (c : Document) :
    Except Failure Filter.Checks :=
  clause "firstIntent" triggers fun intents => do
    return Filter.firstIntentCheck spec intents (← faulty (Conversation.firstIntent c))

def lengthChecks (spec : FilterSpec) (c : Document) : Except Failure Filter.Checks := do
  clause "length" (← comparing (Filter.lengthBound? spec)) fun (comparator, bound) => faulty do
    comparator.test (.int (← Conversation.length c)) (.int bound)

/-- A bound on the duration is checked if it counts as true and is positive. -/
def checkedBound (bound : Option Binary64) : Option Binary64 :=
  bound.filter fun b => (Document.float b).isTruthy && b.isPositive

/-- The duration is derived even if no bound asks for it. -/
def durationChecks (spec : FilterSpec) (c : Document) : Except Failure Filter.Checks := do
  let duration ← faulty (Conversation.duration c)
  let low ← clause "durationLowerBound" (checkedBound spec.minDuration) fun bound =>
    faulty (Filter.durationCheck .greaterThan duration bound)
  let high ← clause "durationUpperBound" (checkedBound spec.maxDuration) fun bound =>
    faulty (Filter.durationCheck .lessThan duration bound)
  return low ++ high

def confidenceChecks (spec : FilterSpec) (c : Document) : Except Failure Filter.Checks := do
  clause "confidence" (← comparing (Filter.confidenceBound? spec)) fun (comparator, bound) =>
    faulty (Filter.confidenceCheck comparator bound c)

def dateChecks (spec : FilterSpec) (c : Document) : Except Failure Filter.Checks :=
  clause "dateRange" (Filter.dateRange? spec) fun (first, last) =>
    faulty (Filter.dateRangeCheck first last c)

/-- How far the conversation gets in the funnel, when there is one. -/
def funnelOutcome? (spec : FilterSpec) (c : Document) : Except Failure (Option Funnel.Outcome) := do
  let steps ← (Funnel.stepsOf spec).mapError fun e => .compile (.funnel e)
  if steps.isEmpty then return none
  else return some (← faulty (Funnel.walkConversation c steps))

def identifierOf (c : Document) : Except Fault String :=
  match c with
  | .obj members => .ok ((members.lookup "_id").elim "" Document.display)
  | _ => .error .notRecord

/-- The clauses on what is derived from the events, after the stored ones. -/
def ofStored (stored : Filter.Checks) (spec : FilterSpec) (triggers : Option (List Document))
    (c : Document) : Except Failure Explanation := do
  let firstIntent ← firstIntentChecks spec triggers c
  let length ← lengthChecks spec c
  let duration ← durationChecks spec c
  let confidence ← confidenceChecks spec c
  let dates ← dateChecks spec c
  let outcome ← funnelOutcome? spec c
  let funnel := (outcome.map fun o => ("funnel", o.passed)).toList
  let conversationId ← faulty (identifierOf c)
  return { conversationId, progress := outcome.map Funnel.Outcome.progress,
           checks := stored ++ firstIntent ++ length ++ duration ++ confidence ++ dates ++ funnel }

end Explanation

end DialogueQuery
