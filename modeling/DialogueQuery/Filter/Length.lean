import DialogueQuery.Aggregation.Stage
import DialogueQuery.Conversation
import DialogueQuery.FilterSpec.Basic

/-! The length of a conversation: its user turns after the opening one. -/

namespace DialogueQuery.Filter

def lengthBound? (spec : FilterSpec) : Except UnsupportedComparison (Option (Comparator × Int)) :=
  if spec.hasLength then do
    let c ← Comparator.resolve (.str (spec.lengthComparison.getD ""))
    return some (c, spec.lengthBound.getD 0)
  else return none

open DialogueQuery.Expr in
def lengthStages (spec : FilterSpec) : Except UnsupportedComparison Pipeline := do
  match ← lengthBound? spec with
  | none => return []
  | some (c, bound) =>
    let userEvents := filter (field ["tracker", "events"]) (some "event")
      (eq (var "event" ["event"]) (const (.str "user")))
    return [
      .addFields [("convLen",
        subtract (size (ifNull userEvents (array []))) (const (.int 1)))],
      .filterBy (.all [.passes ["convLen"] [.compare c (.int bound)]])]

end DialogueQuery.Filter
