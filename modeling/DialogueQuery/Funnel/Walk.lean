import DialogueQuery.Funnel.Step

/-! The walk of a conversation through a funnel: every event either advances
the step that is waited for and leaves its label, or leaves a stop token. -/

namespace DialogueQuery.Funnel

/-- The token of an event that advances nothing. -/
def stopToken : String := "STOP"

/-- The event that closes every walk; it reaches no step. -/
def endEvent : Document := .obj [("event", .str "END")]

/-- The steps that are still to be reached, and the tokens of the events so far. -/
structure WalkState where
  remaining : List Step
  tokens : List String
deriving DecidableEq, Repr

def advance (s : WalkState) (event : Document) : Except Fault WalkState :=
  match s.remaining with
  | [] => .ok ⟨[], s.tokens ++ [stopToken]⟩
  | step :: rest => do
    if ← step.reachedBy event then return ⟨rest, s.tokens ++ [step.label]⟩
    else return ⟨step :: rest, s.tokens ++ [stopToken]⟩

/-- How far a conversation got. -/
structure Outcome where
  /-- The labels of the steps that were reached. -/
  matching : List String
  /-- The number of steps of the funnel. -/
  expected : Nat
deriving DecidableEq, Repr

def Outcome.progress (o : Outcome) : Nat := o.matching.length

def Outcome.passed (o : Outcome) : Bool := o.progress == o.expected

def walk (events : List Document) (steps : List Step) : Except Fault Outcome := do
  let final ← (events ++ [endEvent]).foldlM advance ⟨steps, []⟩
  return ⟨final.tokens.filter (· != stopToken), steps.length⟩

def walkConversation (c : Document) (steps : List Step) : Except Fault Outcome := do
  walk (← Conversation.eventList c) steps

end DialogueQuery.Funnel
