import DialogueQuery.Funnel.Walk
import DialogueQuery.Proofs.Conversation.Events

/-! Whether an event reaches a step, decided without a fault, and what an event
does to the walk. -/

namespace DialogueQuery.Funnel

open Conversation

def namePath (event : Document) : List String :=
  if isUserEvent event then intentNamePath else ["name"]

def eventName (event : Document) : Document := event.follow (namePath event)

/-- Whether an event reaches a step, given that it can be read. -/
def Step.accepts (s : Step) (event : Document) : Bool :=
  hasText event "event" s.event &&
    (s.names.any (fun n => (eventName event).equal (.str n)) != s.excluded)

theorem Step.nameOf_eq {event : Document} (ho : event.isObject = true)
    (h : isWalkable event = true) : nameOf event = .ok (eventName event) := by
  by_cases hu : isUserEvent event = true
  · obtain ⟨i, hi, hg⟩ := intentOf_ok ho (by simpa [isWalkable, hu] using h)
    simp only [nameOf, eventName, namePath, intentNamePath, hu, if_true, hi, ok_bind, hg]
  · simp [nameOf, eventName, namePath, hu, Document.get_of_isObject ho]

theorem Step.reachedBy_eq {event : Document} (h : isWalkable event = true) (s : Step) :
    s.reachedBy event = .ok (s.accepts event) := by
  by_cases ht : hasText event "event" s.event = true
  · simp [reachedBy, accepts, ht, nameOf_eq (isObject_of_hasText ht) h]
  · simp [reachedBy, accepts, ht]

theorem Step.reachedBy_iff {event : Document} (h : isWalkable event = true) (s : Step) :
    s.reachedBy event = .ok true ↔ s.accepts event = true := by
  rw [reachedBy_eq h, Except.ok.injEq]

theorem Step.accepts_endEvent (s : Step) : s.accepts endEvent = false := by
  have hk : hasText endEvent "event" s.event = false := by
    cases h : s.type <;> simp [hasText, endEvent, event, StepType.event, h]
  simp [accepts, hk]

theorem isWalkable_endEvent : isWalkable endEvent = true := by
  simp [isWalkable, isUserEvent, hasText, endEvent]

theorem isWalkable_append_endEvent {events : List Document}
    (h : ∀ e ∈ events, isWalkable e = true) : ∀ e ∈ events ++ [endEvent], isWalkable e = true := by
  simpa [or_imp, forall_and, isWalkable_endEvent] using h

/-- A label begins with the name of a type, so that no label is a stop token. -/
theorem Step.label_ne_stopToken (s : Step) : s.label ≠ stopToken := by
  intro h
  have hh := congrArg (fun t => t.toList.head?) h
  cases ht : s.type <;> simp [label, stopToken, StepType.name, ht] at hh

theorem advance_nil (tokens : List String) (event : Document) :
    advance ⟨[], tokens⟩ event = .ok ⟨[], tokens ++ [stopToken]⟩ := rfl

theorem advance_cons {event : Document} (h : isWalkable event = true) (s : Step)
    (rest : List Step) (tokens : List String) :
    advance ⟨s :: rest, tokens⟩ event =
      .ok (if s.accepts event then ⟨rest, tokens ++ [s.label]⟩
        else ⟨s :: rest, tokens ++ [stopToken]⟩) := by
  cases ha : s.accepts event <;> simp [advance, Step.reachedBy_eq h, ha]

end DialogueQuery.Funnel
