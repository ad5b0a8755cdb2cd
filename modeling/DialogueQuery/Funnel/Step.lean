import DialogueQuery.Conversation

/-! Funnel steps: what an event has to be to advance a conversation by one. -/

namespace DialogueQuery.Funnel

inductive StepType where
  | intent
  | action
deriving DecidableEq, Repr

namespace StepType

def all : List StepType := [intent, action]

def name : StepType → String
  | intent => "intent"
  | action => "action"

def ofName? (s : String) : Option StepType := all.find? fun t => t.name == s

def event : StepType → String
  | intent => "user"
  | action => "action"

end StepType

/-- A step is reached by an event of its kind whose name is one of `names`, or
is none of them when the names are excluded. -/
structure Step where
  type : StepType
  names : List String
  excluded : Bool := false
deriving DecidableEq, Repr

namespace Step

def event (s : Step) : String := s.type.event

def label (s : Step) : String :=
  s.type.name ++ ": " ++ (if s.excluded then "NOT " else "") ++ " | ".intercalate s.names

/-- The name by which an event is matched: that of its intent for a user event. -/
def nameOf (event : Document) : Except Fault Document := do
  if Conversation.isUserEvent event then (← Conversation.intentOf event).get "name"
  else event.get "name"

/-- Whether an event reaches the step. -/
def reachedBy (s : Step) (event : Document) : Except Fault Bool := do
  if Conversation.hasText event "event" s.event then
    let name ← nameOf event
    return s.names.any (fun n => name.equal (.str n)) != s.excluded
  else return false

def toDocument (s : Step) : Document :=
  .obj [("event", .str s.event), ("names", .ofStrings s.names), ("excluded", .bool s.excluded),
    ("label", .str s.label)]

end Step

end DialogueQuery.Funnel
