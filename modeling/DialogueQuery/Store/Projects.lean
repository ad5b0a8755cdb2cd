import DialogueQuery.Failure

/-! The collection of projects, which tells the intents that open a triggered
conversation. -/

namespace DialogueQuery

structure ProjectStore where
  collection : String := "projects"
deriving Repr

/-- The trigger intents of a project; none if it is unknown. -/
def ProjectStore.triggerIntents (store : ProjectStore) (project : Document) :
    Action (List Document) := do
  let attempt := "Failed to load project " ++ project.display
  let found ← Action.guarded .repository attempt attempt
    (Session.findOne store.collection [(["_id"], project)] (some [("triggerIntents", .int 1)]))
  match found.filter Document.isTruthy with
  | some d => Action.ofFault do (← d.get "triggerIntents").orEmptyArray.elements
  | none =>
    Action.log .repository .warning
      ("Project " ++ project.display ++ " not found, assuming no trigger intents")
    return []

end DialogueQuery
