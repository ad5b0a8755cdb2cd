import DialogueQuery.Proofs.Funnel.Greedy

/-! A walk that was ended after some events can be taken up again: what the later
events add is the walk of these events through the steps that are left. -/

namespace DialogueQuery.Funnel

open Conversation

theorem reachedCount_le_length (events : List Document) (steps : List Step) :
    reachedCount events steps ≤ events.length := by
  induction events generalizing steps with
  | nil => simp [reachedCount]
  | cons e events ih =>
    cases steps with
    | nil => simp
    | cons s rest =>
      by_cases ha : s.accepts e = true
      · have hi := ih rest
        simp only [reachedCount, ha, if_true, List.length_cons]
        omega
      · have hi := ih (s :: rest)
        simp only [reachedCount, ha, List.length_cons]
        exact Nat.le_succ_of_le hi

def Outcome.ofCount (steps : List Step) (count : Nat) : Outcome :=
  ⟨(steps.take count).map Step.label, steps.length⟩

theorem Outcome.progress_ofCount {steps : List Step} {count : Nat} (h : count ≤ steps.length) :
    (ofCount steps count).progress = count := by
  simp [ofCount, progress, h]

theorem Outcome.passed_ofCount {steps : List Step} {count : Nat} (h : count ≤ steps.length) :
    (ofCount steps count).passed = true ↔ count = steps.length := by
  rw [passed, progress_ofCount h, beq_iff_eq, ofCount]

/-- The labels of a resumed walk follow those of the walk before it. -/
theorem Outcome.matching_ofCount_add (steps : List Step) (count more : Nat) :
    (ofCount steps (count + more)).matching =
      (ofCount steps count).matching ++ (ofCount (steps.drop count) more).matching := by
  simp [ofCount, List.take_add]

/-- No step of a funnel is reached by the event, whether or not it could be read. -/
def IsPassedOver (steps : List Step) (event : Document) : Prop :=
  ∀ s ∈ steps, s.reachedBy event = .ok false

theorem isPassedOver_endEvent (steps : List Step) : IsPassedOver steps endEvent := by
  intro s _
  rw [Step.reachedBy_eq isWalkable_endEvent, s.accepts_endEvent]

theorem IsPassedOver.drop {steps : List Step} {event : Document} (h : IsPassedOver steps event)
    (n : Nat) : IsPassedOver (steps.drop n) event := by
  intro s hs
  exact h s (List.mem_of_mem_drop hs)

theorem IsPassedOver.advance_eq {steps : List Step} {event : Document}
    (h : IsPassedOver steps event) (tokens : List String) :
    advance ⟨steps, tokens⟩ event = .ok ⟨steps, tokens ++ [stopToken]⟩ := by
  cases steps with
  | nil => exact advance_nil tokens event
  | cons s rest =>
    have hs : s.reachedBy event = .ok false := h s List.mem_cons_self
    simp [advance, hs]

section

variable {before after : List Document} (hw : ∀ e ∈ before ++ after, isWalkable e = true)
  (steps : List Step)
include hw

/-- The event leaves a stop token among the tokens of the others, and the steps that
are open after it are those that were open before. -/
theorem walk_insert {event : Document} (h : IsPassedOver steps event) :
    walk (before ++ event :: after) steps = walk (before ++ after) steps := by
  have hbefore : ∀ e ∈ before, isWalkable e = true :=
    fun e he => hw e (List.mem_append_left after he)
  have hafter : ∀ e ∈ after ++ [endEvent], isWalkable e = true :=
    isWalkable_append_endEvent fun e he => hw e (List.mem_append_right before he)
  let count := reachedCount before steps
  let more := reachedCount after (steps.drop count)
  obtain ⟨first, hf, hfirst⟩ := foldlM_advance hbefore steps []
  have hskip := (h.drop count).advance_eq first
  obtain ⟨rest, hr, hrest⟩ := foldlM_advance hafter (steps.drop count) (first ++ [stopToken])
  rw [reachedCount_append_endEvent] at hr hrest
  have hfold : (before ++ event :: (after ++ [endEvent])).foldlM advance ⟨steps, []⟩ =
      .ok ⟨(steps.drop count).drop more, first ++ [stopToken] ++ rest⟩ := by
    rw [List.foldlM_append, hf, ok_bind, List.nil_append, List.foldlM_cons, hskip, ok_bind, hr]
  rw [walk_eq hw, walk, List.append_assoc, List.cons_append, hfold, ok_bind]
  simp [hfirst, hrest, reachedCount_append, List.take_add, count]

end

/-- How the walks before and after an interruption make up the walk as a whole. -/
structure Resumes (before after : List Document) (steps : List Step)
    (first rest whole : Outcome) : Prop where
  matching : whole.matching = first.matching ++ rest.matching
  kept : first.matching <+: whole.matching
  progress_le : whole.progress ≤ first.progress + after.length
  passed : whole.passed = rest.passed
  inserted (event : Document) : event = endEvent ∨ IsPassedOver steps event →
    walk (before ++ event :: after) steps = .ok whole

/-- The walk of all events reaches what the walk of the first ones reaches, and then what
the others reach of the steps that are left. What reaches none of the steps may stand
anywhere among them. -/
theorem walk_resumes {before after : List Document}
    (hw : ∀ e ∈ before ++ after, isWalkable e = true) (steps : List Step) :
    ∃ first rest whole, walk before steps = .ok first ∧
      walk after (steps.drop first.progress) = .ok rest ∧
      walk (before ++ after) steps = .ok whole ∧
      Resumes before after steps first rest whole := by
  let count := reachedCount before steps
  let more := reachedCount after (steps.drop count)
  have hfirst : walk before steps = .ok (.ofCount steps count) :=
    walk_eq (fun e he => hw e (List.mem_append_left after he)) steps
  have hrest : walk after (steps.drop count) = .ok (.ofCount (steps.drop count) more) :=
    walk_eq (fun e he => hw e (List.mem_append_right before he)) (steps.drop count)
  have hwhole : walk (before ++ after) steps = .ok (.ofCount steps (count + more)) := by
    rw [walk_eq hw, reachedCount_append]
    rfl
  have hcount : count ≤ steps.length := reachedCount_le before steps
  have hmore : more ≤ (steps.drop count).length := reachedCount_le after (steps.drop count)
  have hlength : more ≤ after.length := reachedCount_le_length after (steps.drop count)
  have hsum : count + more ≤ steps.length := by
    rw [List.length_drop] at hmore
    omega
  have hmatching := Outcome.matching_ofCount_add steps count more
  refine ⟨_, _, _, hfirst, ?_, hwhole, hmatching, ?_, ?_, ?_, ?_⟩
  · rw [Outcome.progress_ofCount hcount, hrest]
  · rw [hmatching]
    exact List.prefix_append _ _
  · rw [Outcome.progress_ofCount hcount, Outcome.progress_ofCount hsum]
    omega
  · rw [Bool.eq_iff_iff, Outcome.passed_ofCount hsum, Outcome.passed_ofCount hmore,
      List.length_drop]
    omega
  · rintro event (rfl | h)
    · rw [walk_insert hw steps (isPassedOver_endEvent steps), hwhole]
    · rw [walk_insert hw steps h, hwhole]

/-- The last step is reached before the last event, and the end may be marked early. -/
theorem walk_resumes_pastLast :
    let before : List Document :=
      [.obj [("event", .str "action"), ("name", .str "greet")], endEvent]
    let after : List Document := [.str "END", .obj [("event", .str "user")],
      .obj [("event", .str "action"), ("name", .str "greet")]]
    let steps : List Step := [⟨.action, ["greet"], false⟩, ⟨.intent, ["greet"], true⟩]
    (∀ e ∈ before ++ after, isWalkable e = true) ∧
      ∃ first rest whole, walk before steps = .ok first ∧
        walk after (steps.drop first.progress) = .ok rest ∧
        walk (before ++ after) steps = .ok whole ∧
        Resumes before after steps first rest whole :=
  ⟨by decide, walk_resumes (by decide) _⟩

end DialogueQuery.Funnel
