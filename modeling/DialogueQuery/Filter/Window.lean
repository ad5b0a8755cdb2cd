import DialogueQuery.Aggregation.Stage
import DialogueQuery.Conversation
import DialogueQuery.FilterSpec.Basic

/-! The time window of a conversation: its first and last timestamp, the dates
it has to meet, and the bounds on its duration. -/

namespace DialogueQuery.Filter

open DialogueQuery.Expr in
/-- Derives the window from the timestamps of the events. -/
def windowStage : Stage :=
  .addFields [
    ("startTime", elemAt (field ["tracker", "events", "timestamp"]) (const (.int 0))),
    ("endTime", elemAt (field ["tracker", "events", "timestamp"]) (const (.int (-1))))]

/-- The window and the dates have an instant in common; all ends belong to them. -/
def dateRangeQueries (first last : Int) : List Query :=
  [.all [.passes ["startTime"] [.compare .lessThan (.int last)]],
    .all [.passes ["endTime"] [.compare .greaterThan (.int first)]]]

/-- The dates that a specification bounds the window by: both or none. -/
def dateRange? (spec : FilterSpec) : Option (Int × Int) :=
  match spec.startDate, spec.endDate with
  | some first, some last => some (first.toUnix, last.toUnix)
  | _, _ => none

def dateRangeCheck (first last : Int) (c : Document) : Except Fault Bool := do
  match ← Conversation.window c with
  | none => return false
  | some (start, finish) =>
    if ← start.holds .atMost (.int last) then finish.holds .atLeast (.int first)
    else return false

/-- A bound on the duration takes part in the query only when it is positive. -/
def activeBound (bound : Option Binary64) : Option Binary64 := bound.filter Binary64.isPositive

def durationMatch (c : Comparator) (bound : Binary64) : Stage :=
  .filterBy (.all [.passes ["difference"] [.compare c (.float bound)]])

open DialogueQuery.Expr in
def durationStages (spec : FilterSpec) : Pipeline :=
  match activeBound spec.minDuration, activeBound spec.maxDuration with
  | none, none => []
  | low, high =>
    .addFields [("difference", subtract (field ["endTime"]) (field ["startTime"]))]
      :: (low.map (durationMatch .greaterThan)).toList
      ++ (high.map (durationMatch .lessThan)).toList

/-- A conversation without a window meets no bound. -/
def durationCheck (c : Comparator) (duration : Option Document) (bound : Binary64) :
    Except Fault Bool :=
  match duration with
  | none => .ok false
  | some d => c.test d (.float bound)

end DialogueQuery.Filter
