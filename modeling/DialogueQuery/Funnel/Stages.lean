import DialogueQuery.Aggregation.Stage
import DialogueQuery.Funnel.Reshape
import DialogueQuery.Funnel.Walk

/-! The walk as stages of a pipeline: one fold over the events keeps a cursor
into the steps and collects the same tokens as the walk in process. -/

namespace DialogueQuery.Funnel

open DialogueQuery.Expr in
/-- The name that an event is matched by. -/
def eventNameExpr : Expr :=
  cond (eq (var "step" ["event"]) (const (.str "user")))
    (var "this" ["parse_data", "intent", "name"]) (var "this" ["name"])

open DialogueQuery.Expr in
/-- Whether the event `this` reaches the step `step`. Beyond the last step all
paths of `step` are missing, and the defaults keep the test false. -/
def reachesStepExpr : Expr :=
  and [eq (var "this" ["event"]) (var "step" ["event"]),
    ne (isIn (ifNull eventNameExpr (const .null)) (ifNull (var "step" ["names"]) (array [])))
      (ifNull (var "step" ["excluded"]) (const (.bool false)))]

open DialogueQuery.Expr in
def walkStepExpr : Expr :=
  letIn "step" (elemAt (field ["sequence"]) (var "value" ["cursor"]))
    (cond reachesStepExpr
      (object [("cursor", add [var "value" ["cursor"], const (.int 1)]),
        ("matching", concat [var "value" ["matching"], array [var "step" ["label"]]])])
      (object [("cursor", var "value" ["cursor"]),
        ("matching", concat [var "value" ["matching"], array [const (.str stopToken)]])]))

open DialogueQuery.Expr in
def walkExpr : Expr :=
  reduce
    (concat [ifNull (field ["tracker", "events"]) (array []),
      array [object [("event", const (.str "END"))]]])
    (object [("cursor", const (.int 0)), ("matching", array [])])
    walkStepExpr

open DialogueQuery.Expr in
/-- The stages that note on each conversation the labels it reached and their number. -/
def progressStages (steps : List Step) : Pipeline :=
  if steps.isEmpty then []
  else [
    .addFields [("sequence", literal (.arr (steps.map Step.toDocument))),
      ("eventTypes", literal (.arr (steps.map fun s => .str s.type.name)))],
    .addFields [("matching", letIn "walk" walkExpr (var "walk" ["matching"]))],
    .set [("matching", filter (field ["matching"]) none
      (ne (var "this" []) (const (.str stopToken))))],
    .addFields [("funnelProgress", size (field ["matching"]))]]

/-- The stages that keep the conversations which complete a funnel. -/
def matchingStages (steps : List Step) : Pipeline :=
  if steps.isEmpty then []
  else progressStages steps ++
    [.filterBy (.all [.passes ["matching"] [.hasSize steps.length]])]

end DialogueQuery.Funnel
