import DialogueQuery.Explanation
import DialogueQuery.Proofs.Filter.Length
import DialogueQuery.Proofs.Filter.Stored
import DialogueQuery.Proofs.Funnel.CompiledStages

/-! The checks of an explanation succeed on every conversation whose events are
of the kinds that are recorded, and what they come to. -/

namespace DialogueQuery.Explanation

open Conversation

theorem clause_eq {α : Type} (name : String) {x : Option α} {check : α → Except Failure Bool}
    {p : α → Bool} (h : ∀ a, x = some a → check a = .ok (p a)) :
    ∃ checks, clause name x check = .ok checks ∧ checks.all (·.2) = x.all p := by
  cases x with
  | none => exact ⟨[], rfl, rfl⟩
  | some a => exact ⟨[(name, p a)], by simp [clause, h a rfl], by simp⟩

section

variable {c : Document} (h : hasTypedEvents c = true)
include h

theorem firstIntentChecks_eq (spec : FilterSpec) (triggers : Option (List Document)) :
    ∃ checks, firstIntentChecks spec triggers c = .ok checks ∧
      checks.all (·.2) = triggers.all fun intents =>
        Filter.firstIntentCheck spec intents ((openingIntent c).getD .null) :=
  clause_eq "firstIntent" fun intents _ => by
    simp [firstIntent_eq h, faulty]

theorem lengthChecks_eq {spec : FilterSpec} {bound : Option (Comparator × Int)}
    (hb : Filter.lengthBound? spec = .ok bound) :
    ∃ checks, lengthChecks spec c = .ok checks ∧
      checks.all (·.2) = Filter.lengthMet bound c := by
  simp only [lengthChecks, hb, comparing, mapError_ok, ok_bind]
  refine clause_eq "length" fun b _ => ?_
  have ht := Comparator.test_of_isNumber b.1
    (show (Document.int ((recorded c).countP isUserEvent - 1)).isNumber = true from rfl)
    (show (Document.int b.2).isNumber = true from rfl)
  simp [length_eq h, faulty, ht]

theorem confidenceChecks_eq {spec : FilterSpec} {bound : Option (Comparator × Binary64)}
    (hb : Filter.confidenceBound? spec = .ok bound) :
    ∃ checks, confidenceChecks spec c = .ok checks ∧
      checks.all (·.2) = Filter.confidenceMet bound c := by
  simp only [confidenceChecks, hb, comparing, mapError_ok, ok_bind]
  refine clause_eq "confidence" fun b _ => ?_
  simp [Filter.confidenceCheck_eq h, faulty]

end

/-- The bounds that are checked are those that take part in the query: no zero is
positive, and neither is a value that is no number. -/
theorem checkedBound_eq_activeBound (bound : Option Binary64) :
    checkedBound bound = Filter.activeBound bound := by
  have hpositive (b : Binary64) : ((Document.float b).isTruthy && b.isPositive) = b.isPositive := by
    cases b with
    | finite negative m e => cases negative <;> simp [Document.isTruthy, Binary64.isZero,
        Binary64.isPositive]
    | _ => simp [Document.isTruthy, Binary64.isZero]
  simp only [checkedBound, Filter.activeBound, hpositive]

theorem durationChecks_of_duration (spec : FilterSpec) {c : Document} {v : Option Document}
    (hv : Conversation.duration c = .ok v) (hn : v.all Document.isNumber = true) :
    ∃ checks, durationChecks spec c = .ok checks ∧ checks.all (·.2) =
      (Filter.withinBound .greaterThan (Filter.activeBound spec.minDuration) v &&
        Filter.withinBound .lessThan (Filter.activeBound spec.maxDuration) v) := by
  have hcheck (comparator : Comparator) (bound : Binary64) :
      faulty (Filter.durationCheck comparator v bound) =
        .ok ((Test.compare comparator (.float bound)).passes v) := by
    rw [Filter.durationCheck_eq comparator hn bound]
    rfl
  obtain ⟨low, hlow, hl⟩ := clause_eq "durationLowerBound"
    (x := Filter.activeBound spec.minDuration) fun b _ => hcheck .greaterThan b
  obtain ⟨high, hhigh, hh⟩ := clause_eq "durationUpperBound"
    (x := Filter.activeBound spec.maxDuration) fun b _ => hcheck .lessThan b
  have hduration : faulty (Conversation.duration c) = .ok v := by
    rw [hv]
    rfl
  refine ⟨low ++ high, ?_, ?_⟩
  · simp only [durationChecks, checkedBound_eq_activeBound, hduration, ok_bind, hlow, hhigh,
      pure_eq_ok]
  · rw [List.all_append, hl, hh]
    rfl

theorem dateChecks_of_range (spec : FilterSpec) {c : Document} {p : Int → Int → Bool}
    (hp : ∀ first last, Filter.dateRangeCheck first last c = .ok (p first last)) :
    ∃ checks, dateChecks spec c = .ok checks ∧
      checks.all (·.2) = (Filter.dateRange? spec).all fun range => p range.1 range.2 :=
  clause_eq "dateRange" fun range _ => by simp [hp, faulty]

section

variable {c : Document} (h : isWellTyped c = true) (spec : FilterSpec)
include h

theorem durationChecks_eq :
    ∃ v checks, Expr.difference (stamps c).getLast? (stamps c).head? =
        .ok (some (v.getD .null)) ∧
      durationChecks spec c = .ok checks ∧ checks.all (·.2) =
        (Filter.withinBound .greaterThan (Filter.activeBound spec.minDuration) v &&
          Filter.withinBound .lessThan (Filter.activeBound spec.maxDuration) v) := by
  obtain ⟨v, hv, hn, hdiff⟩ := duration_eq h
  obtain ⟨checks, hchecks, hall⟩ := durationChecks_of_duration spec hv hn
  exact ⟨v, checks, hdiff, hchecks, hall⟩

/-- The dates are checked if both of them are given, against the ends of the window. -/
theorem dateChecks_eq :
    ∃ checks, dateChecks spec c = .ok checks ∧
      checks.all (·.2) = Filter.datesMet (Filter.dateRange? spec) c :=
  dateChecks_of_range spec (Filter.dateRangeCheck_eq h)

end

theorem identifierOf_eq {c : Document} (ho : c.isObject = true) :
    ∃ id, identifierOf c = .ok id := by
  cases c with
  | obj members => exact ⟨_, rfl⟩
  | _ => simp [Document.isObject] at ho

end DialogueQuery.Explanation
