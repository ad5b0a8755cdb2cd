import DialogueQuery.Service
import DialogueQuery.Proofs.Results

/-! How the operations of the service run: what was recorded stays recorded, and
the first failure is the failure of the whole. -/

namespace DialogueQuery

theorem Action.run_bind {α β : Type} (x : Action α) (f : α → Action β) (w : World) :
    (x >>= f).run.run w = match x.run.run w with
      | (.ok a, w') => (f a).run.run w'
      | (.error e, w') => (.error e, w') := by
  simp only [ExceptT.run_bind, StateT.run_bind]
  rcases x.run.run w with ⟨_ | a, w'⟩ <;> rfl

/-- An action that yields something has yielded something at each of its parts. -/
theorem Action.run_bind_eq_ok {α β : Type} {x : Action α} {f : α → Action β} {w w' : World} {b : β} :
    (x >>= f).run.run w = (.ok b, w') ↔
      ∃ a w₁, x.run.run w = (.ok a, w₁) ∧ (f a).run.run w₁ = (.ok b, w') := by
  constructor
  · intro h
    rw [run_bind] at h
    rcases hx : x.run.run w with ⟨e | a, w₁⟩
    · rw [hx] at h
      cases h
    · rw [hx] at h
      exact ⟨a, w₁, rfl, h⟩
  · rintro ⟨a, w₁, hx, hf⟩
    rw [run_bind, hx]
    exact hf

theorem Action.run_return {α β : Type} (x : Action α) (f : α → β) (w : World) :
    (do return f (← x) : Action β).run.run w = ((x.run.run w).1.map f, (x.run.run w).2) := by
  rw [run_bind]
  rcases x.run.run w with ⟨_ | a, w'⟩ <;> rfl

theorem Action.error_of_return {α β : Type} {x : Action α} {f : α → β} {w : World} {e : Failure}
    (h : ((do return f (← x) : Action β).run.run w).1 = .error e) : (x.run.run w).1 = .error e := by
  rw [run_return] at h
  generalize (x.run.run w).1 = r at h ⊢
  cases r with
  | ok a => cases h
  | error e' => exact congrArg Except.error (Except.error.inj h)

theorem Action.run_ofExcept {ε α : Type} (f : ε → Failure) (r : Except ε α) (w : World) :
    (ofExcept f r).run.run w = (r.mapError f, w) := rfl

/-- Nothing is decided on a funnel for which there is no room. -/
theorem Funnel.decideWithin_eq_ok {α : Type} {room : Nat} {spec : FilterSpec}
    {decide : FilterSpec → Except Failure α} {a : α} :
    decideWithin room spec decide = .ok a ↔
      specOverruns room spec = false ∧ decide spec = .ok a := by
  unfold decideWithin
  cases specOverruns room spec
  · simp
  · simp only [if_true]
    split <;> simp

theorem Service.isSome_of_wantedTriggerIntents {s : Service} {spec : FilterSpec}
    {triggers : Option (List Document)} {w w' : World}
    (ht : (s.wantedTriggerIntents spec).run.run w = (.ok triggers, w')) :
    triggers.isSome = spec.needsTriggerIntents := by
  unfold wantedTriggerIntents at ht
  split at ht
  · next hn =>
    rw [Action.run_bind] at ht
    split at ht
    · next intents w₁ _ =>
      have hh : ((.ok (some intents), w₁) : Except Failure (Option (List Document)) × World) =
        (.ok triggers, w') := ht
      cases hh
      exact hn.symm
    · cases ht
  · next hn =>
    have hh : ((.ok none, w) : Except Failure (Option (List Document)) × World) =
      (.ok triggers, w') := ht
    cases hh
    simpa using hn

end DialogueQuery
