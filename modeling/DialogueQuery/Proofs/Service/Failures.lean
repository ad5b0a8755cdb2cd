import DialogueQuery.Proofs.Funnel.Errors
import DialogueQuery.Proofs.Service.Verdicts
import DialogueQuery.Proofs.Store.Attempts

/-! Which failures an operation can end with. A specification fails for what it asks,
a call fails for the store, and what the store answers fails for its data. -/

namespace DialogueQuery

namespace CompileError

/-- If it is an error of the funnel, its message can be sent where the entries of the
specification hold no identifiers made by a store. -/
def IsSayable (spec : FilterSpec) (e : CompileError) : Prop :=
  ∀ c, e = funnel c → spec.IsIdFree → Text.isWellFormed c.message = true

variable {spec : FilterSpec} {defaultEnv : Option String} {firstIntent : Query} {e : CompileError}

theorem isSayable_of_stepsOf {c : Funnel.SpecError} (h : Funnel.stepsOf spec = .error c) :
    (funnel c).IsSayable spec := by
  rintro _ ⟨⟩ hspec
  exact Funnel.isWellFormed_of_stepsOf hspec h

theorem isSayable_of_filterStages
    (h : Pipeline.filterStages spec defaultEnv firstIntent = .error e) : e.IsSayable spec := by
  rcases Pipeline.filterStages_cases spec defaultEnv firstIntent with ⟨-, c, hc⟩ | ⟨-, p, hp⟩
  · rw [hc] at h
    cases h
    nofun
  · rw [hp] at h
    cases h

theorem isSayable_of_ofSpec (h : Pipeline.ofSpec spec defaultEnv firstIntent = .error e) :
    e.IsSayable spec := by
  rcases bind_eq_error.mp h with h | ⟨filters, -, h⟩
  · exact isSayable_of_filterStages h
  · rcases bind_eq_error.mp h with h | ⟨steps, -, h⟩
    · obtain ⟨c, hc, rfl⟩ := mapError_eq_error.mp h
      exact isSayable_of_stepsOf hc
    · cases h

theorem isSayable_of_ofReport {steps : List Funnel.Step}
    (h : Pipeline.ofReport spec steps defaultEnv firstIntent = .error e) : e.IsSayable spec := by
  rcases bind_eq_error.mp h with h | ⟨filters, -, h⟩
  · exact isSayable_of_filterStages h
  · cases h

theorem isSayable_of_reportSteps (h : Service.reportSteps spec = .error e) : e.IsSayable spec := by
  rcases bind_eq_error.mp h with h | ⟨steps, -, h⟩
  · obtain ⟨c, hc, rfl⟩ := mapError_eq_error.mp h
    exact isSayable_of_stepsOf hc
  · split at h <;> cases h
    rintro _ ⟨⟩ -
    exact Funnel.SpecError.isWellFormed_message nofun

end CompileError

namespace Failure

/-- A specification that does not compile, or an operation on data of the wrong shape. -/
def IsOfSpec (spec : FilterSpec) (f : Failure) : Prop :=
  (∃ e, f = compile e ∧ e.IsSayable spec) ∨ ∃ e, f = fault e

/-- An answer of the store that has the wrong shape. -/
def IsOfAnswer (f : Failure) : Prop := (∃ es, f = invalidPage es) ∨ ∃ e, f = fault e

end Failure

open Failure FailsBy

theorem FailsBy.ofSpec_blameless {α : Type} {spec : FilterSpec} {r : Except Failure α}
    (h : FailsBy (IsOfSpec spec) r) : Blameless r := by
  refine h.mono fun f hf => ?_
  rcases hf with ⟨e, rfl, -⟩ | ⟨e, rfl⟩ <;> rfl

theorem FailsBy.ofAnswer_blameless {α : Type} {r : Except Failure α} (h : FailsBy IsOfAnswer r) :
    Blameless r := by
  refine h.mono fun f hf => ?_
  rcases hf with ⟨e, rfl⟩ | ⟨e, rfl⟩ <;> rfl

/-- A specification without its event filter has no other failures. -/
theorem FailsBy.of_unfiltered {α : Type} {spec : FilterSpec} {r : Except Failure α}
    (h : FailsBy (IsOfSpec { spec with eventFilter := [] }) r) : FailsBy (IsOfSpec spec) r := by
  refine h.mono fun f hf => ?_
  rcases hf with ⟨e, rfl, he⟩ | ⟨e, rfl⟩
  · exact .inl ⟨e, rfl, fun c hc _ => he c hc nofun⟩
  · exact .inr ⟨e, rfl⟩

namespace Explanation

theorem failsBy_clause {α : Type} {P : Failure → Prop} (name : String) (x : Option α)
    {check : α → Except Failure Bool} (h : ∀ a, FailsBy P (check a)) :
    FailsBy P (clause name x check) := by
  cases x with
  | none => exact ok _
  | some a => exact (h a).bind fun _ => ok _

section

variable {α : Type} {spec : FilterSpec}

theorem failsBy_faulty (r : Except Fault α) : FailsBy (IsOfSpec spec) (faulty r) :=
  mapError fun e _ => .inr ⟨e, rfl⟩

theorem failsBy_comparing (r : Except UnsupportedComparison α) :
    FailsBy (IsOfSpec spec) (comparing r) :=
  mapError fun e _ => .inl ⟨.comparison e, rfl, nofun⟩

end

theorem failsBy_ofStored (stored : Filter.Checks) (spec : FilterSpec)
    (triggers : Option (List Document)) (c : Document) :
    FailsBy (IsOfSpec spec) (ofStored stored spec triggers c) := by
  have hfirst : FailsBy (IsOfSpec spec) (firstIntentChecks spec triggers c) :=
    failsBy_clause _ _ fun _ => (failsBy_faulty _).bind fun _ => ok _
  have hlength : FailsBy (IsOfSpec spec) (lengthChecks spec c) :=
    (failsBy_comparing _).bind fun _ => failsBy_clause _ _ fun _ => failsBy_faulty _
  have hduration : FailsBy (IsOfSpec spec) (durationChecks spec c) :=
    (failsBy_faulty _).bind fun _ => (failsBy_clause _ _ fun _ => failsBy_faulty _).bind fun _ =>
      (failsBy_clause _ _ fun _ => failsBy_faulty _).bind fun _ => ok _
  have hconfidence : FailsBy (IsOfSpec spec) (confidenceChecks spec c) :=
    (failsBy_comparing _).bind fun _ => failsBy_clause _ _ fun _ => failsBy_faulty _
  have hdates : FailsBy (IsOfSpec spec) (dateChecks spec c) :=
    failsBy_clause _ _ fun _ => failsBy_faulty _
  have hfunnel : FailsBy (IsOfSpec spec) (funnelOutcome? spec c) :=
    (mapError fun e he => .inl ⟨.funnel e, rfl, CompileError.isSayable_of_stepsOf he⟩).bind
      fun steps => by
        cases steps.isEmpty
        · exact (failsBy_faulty _).bind fun _ => ok _
        · exact ok _
  exact hfirst.bind fun _ => hlength.bind fun _ => hduration.bind fun _ => hconfidence.bind fun _ =>
    hdates.bind fun _ => hfunnel.bind fun _ => (failsBy_faulty _).bind fun _ => ok _

end Explanation

namespace Service

variable (s : Service) (spec : FilterSpec)

theorem failsBy_decideWithin {α : Type} {decide : FilterSpec → Except Failure α}
    (h : ∀ spec, FailsBy (IsOfSpec spec) (decide spec)) (room : Nat) :
    FailsBy (IsOfSpec spec) (Funnel.decideWithin room spec decide) := by
  unfold Funnel.decideWithin
  split
  · split
    · next e hd => exact error ((h _).of_unfiltered e hd)
    · exact error (.inr ⟨_, rfl⟩)
  · exact h spec

theorem failsBy_compile (triggers : Option (List Document)) :
    FailsBy (IsOfSpec spec) (s.compile spec triggers) :=
  failsBy_decideWithin spec
    (fun _ => mapError fun e he => .inl ⟨e, rfl, CompileError.isSayable_of_ofSpec he⟩) nameRoom

theorem failsBy_funnelOf : FailsBy (IsOfSpec spec) (funnelOf spec) := by
  unfold funnelOf
  split
  · exact error (.inr ⟨_, rfl⟩)
  · exact mapError fun e he => .inl ⟨e, rfl, CompileError.isSayable_of_reportSteps he⟩

theorem failsBy_compileReport (steps : List Funnel.Step) (triggers : Option (List Document)) :
    FailsBy (IsOfSpec spec) (s.compileReport spec steps triggers) :=
  mapError fun e he => .inl ⟨e, rfl, CompileError.isSayable_of_ofReport he⟩

theorem failsBy_pageOf (results : List Document) : FailsBy IsOfAnswer (pageOf spec results) :=
  mapError fun e _ => by
    cases e with
    | fault f => exact .inr ⟨f, rfl⟩
    | invalid es => exact .inl ⟨es, rfl⟩

theorem failsBy_reportOf (steps : List Funnel.Step) (groups : List Document) :
    FailsBy IsOfAnswer (reportOf steps groups) :=
  mapError fun e _ => .inr ⟨e, rfl⟩

end Service

end DialogueQuery
