import DialogueQuery.Document.Arithmetic

/-! Recorded conversations: the events of a tracker and what is derived from
them. Nothing is assumed about the shape of a conversation; a value of the
wrong kind on the way to an event is a fault. -/

namespace DialogueQuery.Conversation

/-- The events of a conversation, an empty array when it has none. -/
def events (c : Document) : Except Fault Document := do
  let tracker := (← c.get "tracker").orEmptyObject
  return (← tracker.get "events").orEmptyArray

def eventList (c : Document) : Except Fault (List Document) := do (← events c).elements

def hasText (event : Document) (name text : String) : Bool :=
  (event.member? name).any fun d => d.equal (.str text)

def isUserEvent (event : Document) : Bool := hasText event "event" "user"

/-- The intent that was recognised in a user event, an empty object when there is none. -/
def intentOf (event : Document) : Except Fault Document := do
  let parsed := (← event.get "parse_data").orEmptyObject
  return (← parsed.get "intent").orEmptyObject

/-- The timestamps that are there, in order. -/
def timestamps (c : Document) : Except Fault (List Document) := do
  return (← eventList c).filterMap fun e => (e.member? "timestamp").filter (!·.isNull)

def window (c : Document) : Except Fault (Option (Document × Document)) := do
  let times ← timestamps c
  return match times.head?, times.getLast? with
    | some first, some last => some (first, last)
    | _, _ => none

def duration (c : Document) : Except Fault (Option Document) := do
  match ← window c with
  | some (first, last) => return some (← last.minus first)
  | none => return none

/-- The number of user turns after the opening one. -/
def length (c : Document) : Except Fault Int := do
  return ((← eventList c).countP isUserEvent : Int) - 1

/-- The name of the intent of the first user event that has one. -/
def firstIntent (c : Document) : Except Fault Document := do
  let rec search : List Document → Except Fault Document
    | [] => return .null
    | e :: rest => do
      if isUserEvent e then
        let name ← (← intentOf e).get "name"
        if name.isNull then search rest else return name
      else search rest
  search (← eventList c)

/-- The confidence values of one event: that of its intent, then its own. -/
def confidencesOf (event : Document) : Except Fault (List Document) := do
  if event.isObject then
    let recognised ← (← intentOf event).get "confidence"
    let own ← event.get "confidence"
    return [recognised, own].filter (!·.isNull)
  else return []

def confidences (c : Document) : Except Fault (List Document) := do
  return (← (← eventList c).mapM confidencesOf).flatten

end DialogueQuery.Conversation
