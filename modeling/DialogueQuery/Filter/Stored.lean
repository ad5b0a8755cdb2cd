import DialogueQuery.Filter.Window

/-! The query on stored fields: project, status, environment, recognised
confidence, dates and user. -/

namespace DialogueQuery.Filter

def confidenceBound? (spec : FilterSpec) :
    Except UnsupportedComparison (Option (Comparator × Binary64)) :=
  if spec.hasConfidence then do
    let c ← Comparator.resolve (.str (spec.confidenceComparison.getD ""))
    return some (c, spec.confidenceBound.getD .zero)
  else return none

/-- Some event has a confidence that meets the bound, in its intent or of its own. -/
def confidenceQueries (c : Comparator) (bound : Binary64) : List Query :=
  let someEvent (path : List String) : Query :=
    .all [.someElement ["tracker", "events"]
      (.all [.passes path [.isPresent, .compare c (.float bound)]])]
  [someEvent ["parse_data", "intent", "confidence"], someEvent ["confidence"]]

/-- A text that is given and not empty. -/
def nonEmpty (s : Option String) : Option String := s.filter (· != "")

/-- Conversations without an environment belong to the default one, if there is one. -/
def envCondition (defaultEnv : Option String) (env : String) : Condition :=
  if defaultEnv = some env then .passes ["env"] [.isIn [.str env, .null]]
  else .equals ["env"] (.str env)

/-- The query that every wanted conversation meets; only the clauses that a
specification asks for are in it. -/
def storedQuery (spec : FilterSpec) (defaultEnv : Option String) :
    Except UnsupportedComparison Query := do
  let confidence ← confidenceBound? spec
  return .all (
    .equals ["projectId"] (.str spec.projectId)
    :: (if spec.status.isEmpty then []
      else [.passes ["status"] [.isIn (spec.status.map .str)]])
    ++ ((nonEmpty spec.env).map (envCondition defaultEnv)).toList
    ++ (confidence.map fun (c, bound) => .anyOf (confidenceQueries c bound)).toList
    ++ ((dateRange? spec).map fun (first, last) => .allOf (dateRangeQueries first last)).toList
    ++ ((nonEmpty spec.userId).map fun id => .equals ["userId"] (.str id)).toList)

abbrev Checks := List (String × Bool)

def envCheck (defaultEnv : Option String) (env : String) (value : Document) : Bool :=
  (value.isNull && defaultEnv = some env) || value.equal (.str env)

/-- The clauses on status, environment and user, evaluated on one conversation. -/
def storedChecks (spec : FilterSpec) (defaultEnv : Option String) (c : Document) :
    Except Fault Checks := do
  let status ← if spec.status.isEmpty then .ok [] else
    (c.get "status").map fun d => [("status", d.isAmong (spec.status.map .str))]
  let env ← (nonEmpty spec.env).elim (.ok []) fun env =>
    (c.get "env").map fun d => [("env", envCheck defaultEnv env d)]
  let user ← (nonEmpty spec.userId).elim (.ok []) fun id =>
    (c.get "userId").map fun d => [("userId", d.equal (.str id))]
  return status ++ env ++ user

/-- Some confidence of the conversation meets the bound; they are compared in order. -/
def confidenceCheck (c : Comparator) (bound : Binary64) (conversation : Document) :
    Except Fault Bool := do
  (← Conversation.confidences conversation).anyM fun value => c.test value (.float bound)

end DialogueQuery.Filter
