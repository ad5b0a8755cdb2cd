import DialogueQuery.Explanation
import DialogueQuery.Funnel.Counts
import DialogueQuery.Funnel.Depth
import DialogueQuery.Store.Conversations
import DialogueQuery.Store.Projects

/-! The operations on recorded conversations. Each one asks the database at
most once for the trigger intents, and then at most once for its answer. -/

namespace DialogueQuery

/-- Each step of a funnel with the number of conversations that reached it. -/
structure FunnelReport where
  steps : List (String × Int)
  /-- The conversations that meet the other clauses. -/
  total : Int
deriving DecidableEq, Repr

def FunnelReport.ofCounts (counts : List (Int × Int)) (steps : List Funnel.Step) : FunnelReport :=
  ⟨Funnel.stepCounts counts steps, counts.foldr (fun c total => c.2 + total) 0⟩

structure Service where
  conversations : ConversationStore
  projects : ProjectStore
  /-- The environment of conversations without one, if they belong to any. -/
  defaultEnv : Option String := some "development"
deriving Repr

namespace Service

/-- The room for the nested names of a funnel. It was measured: calls nest a thousand
deep at most, and a service is 35 calls deep where it reads the names. -/
def nameRoom : Nat := 965

/-- The trigger intents of the project, when the specification asks how a
conversation starts. -/
def wantedTriggerIntents (s : Service) (spec : FilterSpec) : Action (Option (List Document)) := do
  if spec.needsTriggerIntents then
    return some (← s.projects.triggerIntents (.str spec.projectId))
  else return none

/-- The query on the first intent that a specification asks for. -/
def firstIntentQueryFor (spec : FilterSpec) (triggers : Option (List Document)) : Query :=
  match triggers with
  | some intents =>
    Filter.firstIntentQuery intents (spec.userInitiated.getD false) (spec.triggered.getD false)
  | none => .any

/-- One page of the matching conversations. -/
def query (s : Service) (spec : FilterSpec) : Action ConversationPage := do
  let triggers ← s.wantedTriggerIntents spec
  let pipeline ← Action.ofExcept id (Funnel.decideWithin nameRoom spec fun spec =>
    (Pipeline.ofSpec spec s.defaultEnv (firstIntentQueryFor spec triggers)).mapError .compile)
  Action.log .query .debug ("Querying conversations of project " ++ spec.projectId ++ " with "
    ++ toString pipeline.length ++ " stages")
  let results ← s.conversations.aggregate pipeline
  Action.ofExcept Failure.ofPageError
    (ConversationPage.ofResults (.arr results) (.int spec.pageSize))

/-- The steps of a report; there has to be one. -/
def reportSteps (spec : FilterSpec) : Except CompileError (List Funnel.Step) := do
  let steps ← (Funnel.stepsOf spec).mapError .funnel
  if steps.isEmpty then throw (.funnel .noFunnel) else return steps

/-- The number of conversations by progress, from the groups of an aggregation.
A group without a progress is passed over. -/
def countsOfGroups (groups : List Document) : Except Fault (List (Int × Int)) :=
  groups.foldlM (fun counts group => do
    let progress ← group.get "_id"
    if progress.isNull then return counts
    let progress ← progress.toInteger
    let count ← (← group.getRequired "count").toInteger
    return Funnel.putCount progress count counts) []

/-- How many of the matching conversations reached each step of the funnel. -/
def report (s : Service) (spec : FilterSpec) : Action FunnelReport := do
  if Funnel.specOverruns nameRoom spec then throw (.fault .tooDeep)
  let steps ← Action.ofExcept .compile (reportSteps spec)
  let triggers ← s.wantedTriggerIntents spec
  let pipeline ← Action.ofExcept .compile
    (Pipeline.ofReport spec steps s.defaultEnv (firstIntentQueryFor spec triggers))
  let groups ← s.conversations.aggregate pipeline
  return FunnelReport.ofCounts (← Action.ofFault (countsOfGroups groups)) steps

/-- One conversation, by its identifier or by its sender. -/
def find (s : Service) (project conversation sender : Document) : Action Document := do
  match ← s.conversations.findOne project conversation sender with
  | some d => return d
  | none => throw (.notFound (sender.orElse conversation))

def intents (s : Service) (project : Document) : Action (List Document) :=
  s.conversations.distinctIntents project

/-- Which clauses of a specification one conversation meets. -/
def explain (s : Service) (spec : FilterSpec) (c : Document) : Action Explanation := do
  let stored ← Action.ofFault (Filter.storedChecks spec s.defaultEnv c)
  let triggers ← s.wantedTriggerIntents spec
  Action.ofExcept id (Funnel.decideWithin nameRoom spec fun spec =>
    Explanation.ofStored stored spec triggers c)

end Service

end DialogueQuery
