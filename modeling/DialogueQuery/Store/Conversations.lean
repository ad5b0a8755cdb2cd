import DialogueQuery.Failure

/-! The collection of recorded conversations. Identifiers made by the store
leave it as text. A failed operation is not tried again. -/

namespace DialogueQuery

structure ConversationStore where
  collection : String := "conversations"
  /-- Handed to the database as it was given. -/
  allowDiskUse : Document := .bool true
deriving Repr

namespace ConversationStore

def withTextId (d : Document) : Except Fault Document := do
  match d, ← d.get "_id" with
  | .obj members, .objectId hex => return .obj (Document.setMember "_id" (.str hex) members)
  | d, _ => return d

/-- A result of an aggregation; the conversations in it have text identifiers. -/
def withTextIds (result : Document) : Except Fault Document := do
  match result, ← result.get "conversations" with
  | .obj members, .arr items =>
    return .obj (Document.setMember "conversations" (.arr (← items.mapM withTextId)) members)
  | result, _ => return result

def aggregate (store : ConversationStore) (pipeline : Pipeline) : Action (List Document) := do
  let attempt := "Conversation aggregation failed"
  let results ← Action.guarded .repository attempt attempt
    (Session.aggregate store.collection pipeline store.allowDiskUse)
  Action.ofFault (results.mapM withTextIds)

/-- One conversation of a project: the one of a sender if a sender is given,
else the one with the identifier. -/
def findOne (store : ConversationStore) (project conversation sender : Document) :
    Action (Option Document) := do
  let key := if sender.isTruthy then (["tracker", "sender_id"], sender) else (["_id"], conversation)
  let found ← Action.guarded .repository
    ("Failed to get conversation " ++ (conversation.orElse sender).display)
    "Failed to get conversation"
    (Session.findOne store.collection [(["projectId"], project), key] none)
  match found.filter Document.isTruthy with
  | some d => return some (← Action.ofFault (withTextId d))
  | none => return none

def distinctIntents (store : ConversationStore) (project : Document) : Action (List Document) := do
  let intents ← Action.guarded .repository
    ("Failed to list intents for project " ++ project.display) "Failed to list intents"
    (Session.distinct store.collection "intents" [("projectId", project)])
  Action.ofFault (Document.sorted (intents.filter (!·.isNull)))

end ConversationStore

end DialogueQuery
