import DialogueQuery.Filter.FirstIntent
import DialogueQuery.Filter.Length
import DialogueQuery.Filter.Stored
import DialogueQuery.Funnel.Stages
import DialogueQuery.Page

/-! The pipeline of a specification. The order of the stages is fixed: derived
fields, filters, funnel, order, page. -/

namespace DialogueQuery

inductive CompileError where
  | comparison (e : UnsupportedComparison)
  | funnel (e : Funnel.SpecError)
deriving Repr

def CompileError.message : CompileError → String
  | comparison e => e.message
  | funnel e => e.message

namespace Pipeline

/-- Everything before the funnel: derived fields, the query, length and duration. -/
def filterStages (spec : FilterSpec) (defaultEnv : Option String) (firstIntent : Query) :
    Except CompileError Pipeline := do
  let stored ← (Filter.storedQuery spec defaultEnv).mapError .comparison
  let length ← (Filter.lengthStages spec).mapError .comparison
  return [Filter.windowStage, Filter.firstIntentStage,
      .filterBy (.all [.allOf [stored, firstIntent]])]
    ++ length ++ Filter.durationStages spec

def pageStages (spec : FilterSpec) : Pipeline :=
  [.sort (Page.sortKeys (spec.sort.bind fun s => SortOrder.ofDocument? (.str s))),
    Page.facetStage spec.page spec.pageSize]

/-- The pipeline of a query. -/
def ofSpec (spec : FilterSpec) (defaultEnv : Option String) (firstIntent : Query) :
    Except CompileError Pipeline := do
  let filters ← filterStages spec defaultEnv firstIntent
  let steps ← (Funnel.stepsOf spec).mapError .funnel
  return filters ++ Funnel.matchingStages steps ++ pageStages spec

/-- The number of conversations by the progress they made. -/
def countByProgress : Stage := .countBy (.field ["funnelProgress"]) "count"

/-- The pipeline of a funnel report: the same filters, then the progress of
every conversation that passes them. -/
def ofReport (spec : FilterSpec) (steps : List Funnel.Step) (defaultEnv : Option String)
    (firstIntent : Query) : Except CompileError Pipeline := do
  let filters ← filterStages spec defaultEnv firstIntent
  return filters ++ Funnel.progressStages steps ++ [countByProgress]

end Pipeline

end DialogueQuery
