import DialogueQuery.Proofs.Aggregation.Rules
import DialogueQuery.Proofs.Document.Numbers

/-! What is derived from the events of a conversation in process, when they are
of the kinds that are recorded. -/

namespace DialogueQuery.Conversation

def confidencePaths : List (List String) := [["parse_data", "intent", "confidence"], ["confidence"]]

/-- An event with records on the way to its intent, and with numbers or null for confidences. -/
def isWellTypedEvent (event : Document) : Bool :=
  hasIntent event && confidencePaths.all fun path =>
    (event.follow path).isNull || (event.follow path).isNumber

/-- The timestamps that are there, null or not. -/
def stamps (c : Document) : List Document := (recorded c).filterMap (·.member? "timestamp")

/-- A conversation whose events have records on the way to their intents, and numbers
or null for confidences. -/
def hasTypedEvents (c : Document) : Bool := hasEvents c && (recorded c).all isWellTypedEvent

def isTimed (c : Document) : Bool :=
  hasTypedEvents c && (stamps c).all fun d => d.isNull || d.isMeasure

/-- A conversation whose events are of the kinds that are recorded. Of the timestamps
only the first and the last one have to be numbers. -/
def isWellTyped (c : Document) : Bool :=
  hasEvents c && (recorded c).all isWellTypedEvent
    && (stamps c).head?.all Document.isMeasure && (stamps c).getLast?.all Document.isMeasure

def namesIntent (event : Document) : Bool :=
  isUserEvent event && !(event.follow intentNamePath).isNull

/-- The intent of the first event that names one. -/
def openingIntent (c : Document) : Option Document :=
  ((recorded c).find? namesIntent).map fun e => e.follow intentNamePath

theorem hasIntent_of_isWellTypedEvent {event : Document} (h : isWellTypedEvent event = true) :
    hasIntent event = true := by
  simp only [isWellTypedEvent, Bool.and_eq_true] at h
  exact h.1

theorem head?_filter_of_head? {α : Type} {p : α → Bool} {xs : List α}
    (h : xs.head?.all p = true) : (xs.filter p).head? = xs.head? := by
  cases xs with
  | nil => rfl
  | cons x xs => simp_all

theorem getLast?_filter_of_getLast? {α : Type} {p : α → Bool} {xs : List α}
    (h : xs.getLast?.all p = true) : (xs.filter p).getLast? = xs.getLast? := by
  rw [List.getLast?_eq_head?_reverse, ← List.filter_reverse, List.getLast?_eq_head?_reverse]
  rw [List.getLast?_eq_head?_reverse] at h
  exact head?_filter_of_head? h

section

variable {c : Document} (h : hasTypedEvents c = true)
include h

theorem hasEvents_of_hasTypedEvents : hasEvents c = true := by
  simp only [hasTypedEvents, Bool.and_eq_true] at h
  exact h.1

theorem isWellTypedEvent_of_mem {e : Document} (he : e ∈ recorded c) :
    isWellTypedEvent e = true := by
  simp only [hasTypedEvents, Bool.and_eq_true, List.all_eq_true] at h
  exact h.2 e he

theorem isReadable_of_hasTypedEvents : isReadable c = true := by
  refine isReadable_iff.mpr ⟨hasEvents_of_hasTypedEvents h, fun e he => ?_⟩
  simp [isWalkable, hasIntent_of_isWellTypedEvent (isWellTypedEvent_of_mem h he)]

theorem length_eq : length c = .ok ((recorded c).countP isUserEvent - 1) := by
  simp only [length, eventList_eq (hasEvents_of_hasTypedEvents h), ok_bind, pure_eq_ok]

omit h in
theorem search_eq {events : List Document} (he : ∀ e ∈ events, isWellTypedEvent e = true) :
    firstIntent.search events =
      .ok (((events.find? namesIntent).map fun e => e.follow intentNamePath).getD .null) := by
  induction events with
  | nil => rfl
  | cons e rest ih =>
    have hi := ih fun e' he' => he e' (List.mem_cons_of_mem e he')
    have ht := hasIntent_of_isWellTypedEvent (he e List.mem_cons_self)
    by_cases hu : isUserEvent e = true
    · obtain ⟨i, hI, hg⟩ := intentOf_ok (isObject_of_hasText hu) ht
      have hn : namesIntent e = !(e.follow intentNamePath).isNull := by
        simp [namesIntent, hu]
      simp only [firstIntent.search, hu, if_true, hI, hg, ok_bind, pure_eq_ok, List.find?_cons,
        hn, intentNamePath]
      cases hd : (e.follow ["parse_data", "intent", "name"]).isNull
      · rfl
      · exact hi
    · have hn : namesIntent e = false := by simp [namesIntent, hu]
      simp [firstIntent.search, hu, hi, hn]

/-- The intent that opens a conversation is the one of its first event that names any. -/
theorem firstIntent_eq : firstIntent c = .ok ((openingIntent c).getD .null) := by
  simp only [firstIntent, eventList_eq (hasEvents_of_hasTypedEvents h), ok_bind]
  exact search_eq fun e he => isWellTypedEvent_of_mem h he

omit h in
theorem confidencesOf_eq {e : Document} (he : isWellTypedEvent e = true) :
    confidencesOf e = .ok ((confidencePaths.map e.follow).filter fun d => !d.isNull) := by
  by_cases ho : e.isObject = true
  · obtain ⟨i, hI, hg⟩ := intentOf_ok ho (hasIntent_of_isWellTypedEvent he)
    simp only [confidencesOf, ho, if_true, hI, hg, ok_bind, pure_eq_ok,
      Document.get_of_isObject ho, confidencePaths, List.map_cons, List.map_nil,
      Document.follow_cons, Document.follow_nil]
  · have hm (name : String) : e.member? name = none := by
      cases hv : e.member? name with
      | none => rfl
      | some v => exact absurd (Document.isObject_of_member? hv) ho
    simp [confidencesOf, ho, confidencePaths, hm, Document.isNull]

/-- The confidences of a conversation are those that its events hold at either place, in order. -/
theorem confidences_eq :
    confidences c = .ok ((recorded c).flatMap fun e =>
      (confidencePaths.map e.follow).filter fun d => !d.isNull) := by
  simp only [confidences, eventList_eq (hasEvents_of_hasTypedEvents h), ok_bind, pure_eq_ok]
  rw [mapM_ok fun e he => confidencesOf_eq (isWellTypedEvent_of_mem h he), ok_bind,
    List.flatMap]

end

/-- The ends of the timestamps that are set. -/
def window? (c : Document) : Option (Document × Document) :=
  let times := (stamps c).filter fun d => !d.isNull
  times.head?.bind fun first => times.getLast?.map fun last => (first, last)

theorem window_of_hasEvents {c : Document} (h : hasEvents c = true) :
    window c = .ok (window? c) := by
  have hstamps : timestamps c = .ok ((stamps c).filter fun d => !d.isNull) := by
    simp only [timestamps, eventList_eq h, ok_bind, pure_eq_ok, stamps, List.filter_filterMap]
  simp only [window, hstamps, ok_bind, pure_eq_ok, window?]
  cases ((stamps c).filter fun d => !d.isNull).head? <;>
    cases ((stamps c).filter fun d => !d.isNull).getLast? <;> rfl

section

variable {c : Document} (h : isTimed c = true)
include h

theorem hasTypedEvents_of_isTimed : hasTypedEvents c = true := by
  simp only [isTimed, Bool.and_eq_true] at h
  exact h.1

theorem isMeasure_of_window? {first last : Document} (hw : window? c = some (first, last)) :
    first.isMeasure = true ∧ last.isMeasure = true := by
  simp only [isTimed, Bool.and_eq_true, List.all_eq_true] at h
  have hset : ∀ d ∈ (stamps c).filter (fun d => !d.isNull), d.isMeasure = true := by
    intro d hd
    obtain ⟨hd, hn⟩ := List.mem_filter.mp hd
    have hm := h.2 d hd
    simpa [show d.isNull = false by simpa using hn] using hm
  simp only [window?, Option.bind_eq_some_iff, Option.map_eq_some_iff, Prod.mk.injEq] at hw
  obtain ⟨_, hfirst, _, hlast, rfl, rfl⟩ := hw
  exact ⟨hset _ (List.mem_of_head? hfirst), hset _ (List.mem_of_getLast? hlast)⟩

theorem duration_isTimed :
    ∃ v : Option Document, duration c = .ok v ∧ v.all Document.isNumber = true := by
  simp only [duration, window_of_hasEvents (hasEvents_of_hasTypedEvents
    (hasTypedEvents_of_isTimed h)), ok_bind]
  cases hw : window? c with
  | none => exact ⟨none, rfl, rfl⟩
  | some w =>
    obtain ⟨first, last⟩ := w
    obtain ⟨hfirst, hlast⟩ := isMeasure_of_window? h hw
    obtain ⟨d, hd, hn⟩ := Document.minus_of_isMeasure hlast hfirst
    exact ⟨some d, by simp [hd], by simp [hn]⟩

end

section

variable {c : Document} (h : isWellTyped c = true)
include h

theorem hasTypedEvents_of_isWellTyped : hasTypedEvents c = true := by
  simp only [isWellTyped, Bool.and_eq_true] at h
  simp only [hasTypedEvents, Bool.and_eq_true]
  exact h.1.1

theorem hasEvents_of_isWellTyped : hasEvents c = true :=
  hasEvents_of_hasTypedEvents (hasTypedEvents_of_isWellTyped h)

theorem isReadable_of_isWellTyped : isReadable c = true :=
  isReadable_of_hasTypedEvents (hasTypedEvents_of_isWellTyped h)

theorem stamps_ends : (stamps c).head?.all Document.isMeasure = true ∧
    (stamps c).getLast?.all Document.isMeasure = true := by
  simp only [isWellTyped, Bool.and_eq_true] at h
  exact ⟨h.1.2, h.2⟩

theorem stamps_cases :
    stamps c = [] ∨ ∃ first last, (stamps c).head? = some first ∧
      (stamps c).getLast? = some last ∧ first.isMeasure = true ∧ last.isMeasure = true := by
  obtain ⟨hfirst, hlast⟩ := stamps_ends h
  cases hs : stamps c with
  | nil => exact .inl rfl
  | cons first rest =>
    have hl := List.getLast?_eq_some_getLast (List.cons_ne_nil first rest)
    rw [hs, List.head?_cons, Option.all_some] at hfirst
    rw [hs, hl, Option.all_some] at hlast
    exact .inr ⟨first, _, List.head?_cons, hl, hfirst, hlast⟩

/-- The window reaches from the first timestamp to the last one. -/
theorem window_eq :
    window c = .ok ((stamps c).head?.bind fun first =>
      (stamps c).getLast?.map fun last => (first, last)) := by
  have hset {t : Option Document} (ht : t.all Document.isMeasure = true) :
      t.all (fun d => !d.isNull) = true := by
    cases t with
    | none => rfl
    | some d =>
      simp [Document.isNull_of_isNumber (Document.isNumber_of_isMeasure (by simpa using ht))]
  obtain ⟨hfirst, hlast⟩ := stamps_ends h
  rw [window_of_hasEvents (hasEvents_of_isWellTyped h), window?,
    head?_filter_of_head? (hset hfirst), getLast?_filter_of_getLast? (hset hlast)]

/-- The duration is what a store makes of the two ends of the window, null included. -/
theorem duration_eq :
    ∃ v : Option Document, duration c = .ok v ∧ v.all Document.isNumber = true ∧
      Expr.difference (stamps c).getLast? (stamps c).head? = .ok (some (v.getD .null)) := by
  simp only [duration, window_eq h]
  rcases stamps_cases h with hs | ⟨first, last, hs, hl, hfirst, hlast⟩
  · exact ⟨none, by simp [hs], rfl, by simp [hs, Expr.difference]⟩
  · obtain ⟨d, hd, hn⟩ := Document.minus_of_isMeasure hlast hfirst
    refine ⟨some d, by simp [hs, hl, hd], by simp [hn], ?_⟩
    simp [hs, hl, Expr.difference, hd, Except.map,
      Document.isNull_of_isNumber (Document.isNumber_of_isMeasure hfirst),
      Document.isNull_of_isNumber (Document.isNumber_of_isMeasure hlast)]

end

end DialogueQuery.Conversation
