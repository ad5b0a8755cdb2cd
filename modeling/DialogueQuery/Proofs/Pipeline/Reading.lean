import DialogueQuery.Proofs.Funnel.CompiledStages
import DialogueQuery.Proofs.Pipeline.Layout

/-! The pipelines of all specifications are legible. Text that was sent stands in them
as a value in a query or under `$literal`, and no store takes it for a path. -/

namespace DialogueQuery

theorem Condition.areLegible_iff {cs : List Condition} :
    areLegible cs = true ↔ ∀ c ∈ cs, c.isLegible = true := by
  induction cs with
  | nil => simp [areLegible]
  | cons c cs ih => simp [areLegible, ih]

attribute [local simp] Stage.isLegible Query.isLegible Query.areLegible Condition.areLegible
  Condition.isLegible Expr.haveLegible Expr.isLegible Expr.isPath Expr.isPathName Expr.isReserved
  Document.isPlain Document.isObject

namespace Filter

variable {spec : FilterSpec} {defaultEnv : Option String}

theorem isLegible_envCondition (env : String) : (envCondition defaultEnv env).isLegible = true := by
  unfold envCondition
  split <;> simp

theorem isLegible_storedQuery {stored : Query} (h : storedQuery spec defaultEnv = .ok stored) :
    stored.isLegible = true := by
  obtain ⟨confidence, -, h⟩ := bind_eq_ok.mp h
  cases h
  refine Condition.areLegible_iff.mpr fun c hc => ?_
  simp only [List.cons_append, List.mem_cons, List.mem_append, Option.mem_toList,
    Option.map_eq_some_iff, or_assoc] at hc
  rcases hc with rfl | hstatus | ⟨env, -, rfl⟩ | ⟨bound, -, rfl⟩ | ⟨range, -, rfl⟩ | ⟨id, -, rfl⟩
  · simp
  · split at hstatus
    · cases hstatus
    · cases List.mem_singleton.mp hstatus
      simp
  · exact isLegible_envCondition env
  · simp [confidenceQueries]
  · simp [dateRangeQueries]
  · simp

theorem isLegible_firstIntentQuery (intents : List Document) (userInitiated triggered : Bool) :
    (firstIntentQuery intents userInitiated triggered).isLegible = true := by
  cases userInitiated <;> cases triggered <;> simp [firstIntentQuery, Query.any]

theorem isLegible_lengthStages {stages : Pipeline} (h : lengthStages spec = .ok stages) :
    stages.isLegible = true := by
  obtain ⟨bound, -, h⟩ := bind_eq_ok.mp h
  cases bound with
  | none =>
    cases h
    rfl
  | some b =>
    cases h
    simp [Pipeline.isLegible, Expr.areLegible]

theorem isLegible_durationStages (spec : FilterSpec) :
    Pipeline.isLegible (durationStages spec) = true := by
  unfold durationStages
  cases activeBound spec.minDuration <;> cases activeBound spec.maxDuration <;>
    simp [Pipeline.isLegible, durationMatch]

end Filter

namespace Pipeline

variable {spec : FilterSpec} {defaultEnv : Option String} {firstIntent : Query}

theorem isLegible_append {p q : Pipeline} :
    isLegible (p ++ q) = true ↔ isLegible p = true ∧ isLegible q = true := by
  rw [isLegible, List.all_append, Bool.and_eq_true]
  rfl

theorem isLegible_filterStages (hf : firstIntent.isLegible = true) {p : Pipeline}
    (h : filterStages spec defaultEnv firstIntent = .ok p) : isLegible p = true := by
  simp only [filterStages, bind_eq_ok, mapError_eq_ok, pure_eq_ok, Except.ok.injEq] at h
  obtain ⟨stored, hstored, length, hlength, rfl⟩ := h
  have hwindow : Filter.windowStage.isLegible = true := by decide
  have hintent : Filter.firstIntentStage.isLegible = true := by decide
  refine isLegible_append.mpr ⟨isLegible_append.mpr ⟨?_, Filter.isLegible_lengthStages hlength⟩,
    Filter.isLegible_durationStages spec⟩
  simp only [isLegible, List.all_cons, List.all_nil, hwindow, hintent]
  simp [Filter.isLegible_storedQuery hstored, hf]

/-- What a query is compiled to can be read back, whatever texts its specification holds. -/
theorem isLegible_ofSpec (hf : firstIntent.isLegible = true) {p : Pipeline}
    (h : ofSpec spec defaultEnv firstIntent = .ok p) : isLegible p = true := by
  obtain ⟨filters, hfilters, h⟩ := bind_eq_ok.mp h
  obtain ⟨steps, -, h⟩ := bind_eq_ok.mp h
  cases h
  exact isLegible_append.mpr ⟨isLegible_append.mpr ⟨isLegible_filterStages hf hfilters,
    Funnel.isLegible_matchingStages steps⟩, rfl⟩

theorem isLegible_ofReport (hf : firstIntent.isLegible = true) {steps : List Funnel.Step}
    {p : Pipeline} (h : ofReport spec steps defaultEnv firstIntent = .ok p) :
    isLegible p = true := by
  obtain ⟨filters, hfilters, h⟩ := bind_eq_ok.mp h
  cases h
  exact isLegible_append.mpr ⟨isLegible_append.mpr ⟨isLegible_filterStages hf hfilters,
    Funnel.isLegible_progressStages steps⟩, by decide⟩

end Pipeline

namespace Service

variable {s : Service} {spec : FilterSpec} {triggers : Option (List Document)} {p : Pipeline}

theorem isLegible_firstIntentQueryFor (spec : FilterSpec) (triggers : Option (List Document)) :
    (firstIntentQueryFor spec triggers).isLegible = true := by
  cases triggers with
  | none => rfl
  | some intents => exact Filter.isLegible_firstIntentQuery intents _ _

/-- A store that is sent the pipeline of a query reads the stages that were compiled,
whatever text the specification holds. -/
theorem ofDocument?_compile (h : s.compile spec triggers = .ok p) :
    Pipeline.ofDocument? p.toDocument = some p := by
  obtain ⟨-, h⟩ := Funnel.decideWithin_eq_ok.mp h
  exact Pipeline.ofDocument?_toDocument (Pipeline.isLegible_ofSpec
    (isLegible_firstIntentQueryFor spec triggers) (mapError_eq_ok.mp h))

theorem ofDocument?_compileReport {steps : List Funnel.Step}
    (h : s.compileReport spec steps triggers = .ok p) :
    Pipeline.ofDocument? p.toDocument = some p :=
  Pipeline.ofDocument?_toDocument (Pipeline.isLegible_ofReport
    (isLegible_firstIntentQueryFor spec triggers) (mapError_eq_ok.mp h))

end Service

end DialogueQuery
