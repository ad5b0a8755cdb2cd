import DialogueQuery.Conversation
import DialogueQuery.Proofs.Document.Members

/-! Conversations whose events can be read without a fault. Only what is on the
way to an event or to the name of an intent has to be of the right kind. -/

namespace DialogueQuery

namespace Conversation

def intentNamePath : List String := ["parse_data", "intent", "name"]

def hasIntent (event : Document) : Bool :=
  (event.follow ["parse_data"]).isRecord && (event.follow ["parse_data", "intent"]).isRecord

/-- An event that a walk can read: the intent of a user event is in its place. -/
def isWalkable (event : Document) : Bool := !isUserEvent event || hasIntent event

/-- The events that a conversation holds, none unless there is an array of them. -/
def recorded (c : Document) : List Document :=
  match c.follow ["tracker", "events"] with
  | .arr items => items
  | _ => []

/-- A conversation with a record for a tracker, whose events are an array or null. -/
def hasEvents (c : Document) : Bool :=
  c.isObject && (c.follow ["tracker"]).isRecord && match c.follow ["tracker", "events"] with
    | .arr _ => true
    | d => d.isNull

def isReadable (c : Document) : Bool := hasEvents c && (recorded c).all isWalkable

theorem isReadable_iff {c : Document} :
    isReadable c = true ↔ hasEvents c = true ∧ ∀ e ∈ recorded c, isWalkable e = true := by
  simp [isReadable]

theorem isObject_of_hasText {event : Document} {name text : String}
    (h : hasText event name text = true) : event.isObject = true := by
  cases hm : event.member? name with
  | none => simp [hasText, hm] at h
  | some d => exact Document.isObject_of_member? hm

theorem hasText_iff {event : Document} {name text : String} :
    hasText event name text = true ↔ event.member? name = some (.str text) := by
  cases hm : event.member? name with
  | none => simp [hasText, hm]
  | some d =>
    simp only [hasText, hm, Option.any_some, Option.some.injEq]
    cases d <;> simp [Document.equal, Document.equalNumbers, Document.numeral?, Document.isNull]

theorem intentOf_ok {event : Document} (ho : event.isObject = true)
    (h : hasIntent event = true) :
    ∃ i, intentOf event = .ok i ∧
      ∀ name, i.get name = .ok (event.follow ["parse_data", "intent", name]) := by
  simp only [hasIntent, Bool.and_eq_true, Document.follow_cons, Document.follow_nil] at h
  refine ⟨_, ?_, fun name => Document.get_orEmptyObject h.2 name⟩
  simp only [intentOf, Document.get_of_isObject ho, ok_bind, pure_eq_ok,
    Document.get_orEmptyObject h.1]

theorem isObject_of_hasEvents {c : Document} (h : hasEvents c = true) : c.isObject = true := by
  simp only [hasEvents, Bool.and_eq_true] at h
  exact h.1.1

theorem hasEvents_of_recorded {c : Document} (h : recorded c ≠ []) : hasEvents c = true := by
  unfold recorded at h
  split at h
  · next items he =>
    simp only [Document.follow_cons, Document.follow_nil] at he
    have htracker : ((c.member? "tracker").getD .null).isObject = true := by
      cases hm : ((c.member? "tracker").getD .null).member? "events" with
      | none => simp [hm] at he
      | some _ => exact Document.isObject_of_member? hm
    have ho : c.isObject = true := by
      cases hm : c.member? "tracker" with
      | none => simp [hm, Document.isObject] at htracker
      | some _ => exact Document.isObject_of_member? hm
    simp [hasEvents, ho, Document.isRecord_of_isObject htracker, he]
  · exact absurd rfl h

/-- Events that are missing or null count as none, and reading them does not fail. -/
theorem eventList_eq {c : Document} (h : hasEvents c = true) :
    eventList c = .ok (recorded c) := by
  simp only [hasEvents, Bool.and_eq_true] at h
  obtain ⟨⟨ho, ht⟩, he⟩ := h
  simp only [eventList, events, Document.get_of_isObject ho, ok_bind, pure_eq_ok]
  simp only [Document.follow_cons, Document.follow_nil] at ht he
  simp only [Document.get_orEmptyObject ht, ok_bind, recorded, Document.follow_cons,
    Document.follow_nil]
  cases hd : (((c.member? "tracker").getD .null).member? "events").getD .null with
  | arr items =>
    cases items <;> rfl
  | null => rfl
  | _ => simp [hd, Document.isNull] at he

theorem recorded_congr {c d : Document} (h : d.member? "tracker" = c.member? "tracker") :
    recorded d = recorded c := by
  simp [recorded, h]

theorem hasEvents_congr {c d : Document} (ho : d.isObject = c.isObject)
    (h : d.member? "tracker" = c.member? "tracker") : hasEvents d = hasEvents c := by
  simp [hasEvents, ho, h]

end Conversation

end DialogueQuery
