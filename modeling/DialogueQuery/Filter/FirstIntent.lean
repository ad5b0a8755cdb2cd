import DialogueQuery.Aggregation.Stage
import DialogueQuery.Document.Compare
import DialogueQuery.FilterSpec.Basic

/-! How a conversation starts: by a user, or by one of the project's trigger
intents. The first intent of a conversation tells which. -/

namespace DialogueQuery.Filter

open DialogueQuery.Expr in
/-- Derives the intent of the first user event that has one. -/
def firstIntentStage : Stage :=
  let intentEvents := filter (ifNull (field ["tracker", "events"]) (array [])) (some "event")
    (and [eq (var "event" ["event"]) (const (.str "user")),
      ne (ifNull (var "event" ["parse_data", "intent", "name"]) (const .null)) (const .null)])
  .addFields [("firstIntent", letIn "first" (elemAt intentEvents (const (.int 0)))
    (var "first" ["parse_data", "intent", "name"]))]

/-- The query on the first intent. Both ways of starting, or neither, ask for nothing. -/
def firstIntentQuery (triggerIntents : List Document) (userInitiated triggered : Bool) : Query :=
  if userInitiated == triggered then .any
  else if triggered then .all [.passes ["firstIntent"] [.isIn triggerIntents]]
  else .all [.passes ["firstIntent"] [.notIn triggerIntents]]

/-- The same query from values of any kind. The intents are enumerated only if needed. -/
def firstIntentQueryOf (triggerIntents userInitiated triggered : Document) :
    Except Fault Query :=
  if userInitiated.isTruthy == triggered.isTruthy then .ok .any
  else do
    return firstIntentQuery (← triggerIntents.elements) userInitiated.isTruthy triggered.isTruthy

def firstIntentCheck (spec : FilterSpec) (triggerIntents : List Document) (first : Document) :
    Bool :=
  let triggered := first.isAmong triggerIntents
  if spec.triggered.getD false then triggered else !triggered

end DialogueQuery.Filter
