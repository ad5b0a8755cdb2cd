import DialogueQuery.Proofs.Number.Rounding
import DialogueQuery.Proofs.Service.Pipelines

/-! Which specifications have a pipeline, and why the others have none: a
comparison is checked before the funnel by a query, and after it by a report. -/

namespace DialogueQuery

inductive Verdict where
  | accepted
  | badComparison
  | badFunnel
  /-- The funnel is nested too deeply to be read. -/
  | tooDeep
deriving DecidableEq, Repr

/-- The verdict that a failure tells, if it is about the specification. -/
def Failure.verdict? : Failure → Option Verdict
  | .compile (.comparison _) => some .badComparison
  | .compile (.funnel _) => some .badFunnel
  | .fault .tooDeep => some .tooDeep
  | _ => none

def Verdict.of? {α : Type} : Except Failure α → Option Verdict
  | .ok _ => some accepted
  | .error e => e.verdict?

theorem Failure.verdict?_ne_accepted (e : Failure) : e.verdict? ≠ some .accepted := by
  unfold verdict?
  split <;> simp

theorem Verdict.of?_eq_accepted {α : Type} {r : Except Failure α} :
    of? r = some accepted ↔ r.isOk = true := by
  cases r with
  | ok a => simp [of?, Except.isOk, Except.toBool]
  | error e => simpa [of?, Except.isOk, Except.toBool] using e.verdict?_ne_accepted

namespace FilterSpec

/-- A comparison that is given by a name which has no meaning. -/
def isBadName (name : Option String) : Bool :=
  name.any fun s => s != "" && !(["greaterThan", "lessThan", "equals"].contains s)

/-- A filter takes part in the query whose comparison has no meaning. -/
def hasBadComparison (spec : FilterSpec) : Bool :=
  (spec.confidenceBound.any Binary64.exceedsZero && isBadName spec.confidenceComparison) ||
    (spec.lengthBound.any (0 < ·) && isBadName spec.lengthComparison)

def hasSteps (spec : FilterSpec) : Bool :=
  spec.eventFilter.all fun e => (Funnel.Step.ofEntry e).isOk

def queryVerdict (spec : FilterSpec) : Verdict :=
  if spec.hasBadComparison then .badComparison
  else if spec.eventFilterOperator == "inOrder" && !spec.hasSteps then .badFunnel
  else .accepted

def reportVerdict (spec : FilterSpec) : Verdict :=
  if spec.eventFilterOperator != "inOrder" || spec.eventFilter.isEmpty || !spec.hasSteps then
    .badFunnel
  else if spec.hasBadComparison then .badComparison
  else .accepted

def isTooDeep (spec : FilterSpec) : Bool := Funnel.specOverruns Service.nameRoom spec

/-- What becomes of the specification in a query, when the depth of its funnel counts. -/
def deepQueryVerdict (spec : FilterSpec) : Verdict :=
  if spec.isTooDeep && !spec.hasBadComparison then .tooDeep else spec.queryVerdict

def deepReportVerdict (spec : FilterSpec) : Verdict :=
  if spec.isTooDeep then .tooDeep else spec.reportVerdict

end FilterSpec

theorem Comparator.isOk_resolve (s : String) :
    (resolve (.str s)).isOk = ["greaterThan", "lessThan", "equals"].contains s := by
  have h : (ofName? s).isSome = (all.map name).contains s := by
    rw [Bool.eq_iff_iff, ofName?, List.find?_isSome]
    simp
  rw [show ["greaterThan", "lessThan", "equals"] = all.map name from rfl, ← h, resolve]
  cases ofName? s <;> rfl

namespace Filter

/-- A bound has a meaning unless it takes part in the query by a name that has none. -/
theorem isOk_bound {α : Type} (name : Option String) (active : Bool) (bound : Comparator → α) :
    (if name.any (· != "") && active then do
        let c ← Comparator.resolve (.str (name.getD ""))
        return some (bound c)
      else return none : Except UnsupportedComparison (Option α)).isOk =
      !(active && FilterSpec.isBadName name) := by
  cases name with
  | none => simp [FilterSpec.isBadName]
  | some s =>
    have hs := Comparator.isOk_resolve s
    simp only [Option.any_some, Option.getD_some, FilterSpec.isBadName, ← hs]
    cases s != "" <;> cases active <;> cases Comparator.resolve (.str s) <;> rfl

variable (spec : FilterSpec)

theorem isOk_confidenceBound? : (confidenceBound? spec).isOk =
    !(spec.confidenceBound.any Binary64.exceedsZero &&
      FilterSpec.isBadName spec.confidenceComparison) := by
  rw [← Binary64.isPositive_eq]
  exact isOk_bound _ _ fun c => (c, spec.confidenceBound.getD .zero)

theorem isOk_lengthBound? : (lengthBound? spec).isOk =
    !(spec.lengthBound.any (0 < ·) && FilterSpec.isBadName spec.lengthComparison) :=
  isOk_bound _ _ fun c => (c, spec.lengthBound.getD 0)

end Filter

theorem FilterSpec.hasBadComparison_eq (spec : FilterSpec) : spec.hasBadComparison =
    !((Filter.confidenceBound? spec).isOk && (Filter.lengthBound? spec).isOk) := by
  rw [Filter.isOk_confidenceBound?, Filter.isOk_lengthBound?, hasBadComparison]
  simp

theorem Funnel.isOk_stepsOf (spec : FilterSpec) :
    (stepsOf spec).isOk = !(spec.eventFilterOperator == "inOrder" && !spec.hasSteps) := by
  unfold stepsOf FilterSpec.isInOrder
  cases spec.eventFilterOperator == "inOrder"
  · rfl
  · simpa [FilterSpec.hasSteps] using isOk_mapM Step.ofEntry spec.eventFilter

/-- What decides on every specification by its comparisons and then by its steps,
decides within the room for the funnel on those that are not too deep. -/
theorem Funnel.of?_decideWithin {α : Type} {decide : FilterSpec → Except Failure α}
    (h : ∀ spec, Verdict.of? (decide spec) = some spec.queryVerdict) (spec : FilterSpec) :
    Verdict.of? (decideWithin Service.nameRoom spec decide) = some spec.deepQueryVerdict := by
  have hbare : ({ spec with eventFilter := [] } : FilterSpec).queryVerdict =
      if spec.hasBadComparison then .badComparison else .accepted := by
    simp [FilterSpec.queryVerdict, FilterSpec.hasSteps, FilterSpec.hasBadComparison]
  have hb := h { spec with eventFilter := [] }
  rw [hbare] at hb
  unfold decideWithin FilterSpec.deepQueryVerdict FilterSpec.isTooDeep
  cases specOverruns Service.nameRoom spec with
  | false => simpa using h spec
  | true =>
    cases hd : decide { spec with eventFilter := [] } with
    | ok a =>
      rw [hd] at hb
      cases hbad : spec.hasBadComparison with
      | false => rfl
      | true => simp [Verdict.of?, hbad] at hb
    | error e =>
      rw [hd] at hb
      cases hbad : spec.hasBadComparison with
      | false => exact absurd (by simpa [Verdict.of?, hbad] using hb) e.verdict?_ne_accepted
      | true => simpa [FilterSpec.queryVerdict, hbad] using hb

namespace Pipeline

variable (spec : FilterSpec) (defaultEnv : Option String) (firstIntent : Query)

theorem filterStages_cases :
    (spec.hasBadComparison = true ∧
        ∃ e, filterStages spec defaultEnv firstIntent = .error (.comparison e)) ∨
      (spec.hasBadComparison = false ∧ ∃ p, filterStages spec defaultEnv firstIntent = .ok p) := by
  rw [FilterSpec.hasBadComparison_eq]
  unfold filterStages Filter.storedQuery Filter.lengthStages
  cases Filter.confidenceBound? spec with
  | error e => exact .inl ⟨rfl, e, rfl⟩
  | ok confidence =>
    cases Filter.lengthBound? spec with
    | error e => exact .inl ⟨rfl, e, rfl⟩
    | ok length => cases length <;> exact .inr ⟨rfl, _, rfl⟩

/-- A query is refused for its comparisons before it is refused for its funnel. -/
theorem of?_ofSpec :
    Verdict.of? ((ofSpec spec defaultEnv firstIntent).mapError Failure.compile) =
      some spec.queryVerdict := by
  rcases filterStages_cases spec defaultEnv firstIntent with ⟨hb, e, hf⟩ | ⟨hb, p, hf⟩
  · simp only [ofSpec, hf, FilterSpec.queryVerdict, hb]
    rfl
  · have hs := Funnel.isOk_stepsOf spec
    simp only [ofSpec, hf, FilterSpec.queryVerdict, hb, ok_bind]
    generalize (spec.eventFilterOperator == "inOrder" && !spec.hasSteps) = refused at hs ⊢
    cases hsteps : Funnel.stepsOf spec with
    | ok steps =>
      obtain rfl : refused = false := by simpa [hsteps] using hs
      rfl
    | error e =>
      obtain rfl : refused = true := by simpa [hsteps] using hs
      rfl

end Pipeline

namespace Service

/-- A group that counts: the conversations without a progress are passed over. -/
inductive IsGroup : Document → Prop
  | reached {members : Members} {progress count : Int}
      (hp : members.lookup "_id" = some (.int progress))
      (hc : members.lookup "count" = some (.int count)) : IsGroup (.obj members)
  | unknown {members : Members} (hp : (members.lookup "_id").all Document.isNull = true) :
      IsGroup (.obj members)

theorem countsOfGroups_of_isGroup {groups : List Document} (h : ∀ g ∈ groups, IsGroup g) :
    ∃ counts, countsOfGroups groups = .ok counts := by
  unfold countsOfGroups
  generalize ([] : List (Int × Int)) = counts
  induction groups generalizing counts with
  | nil => exact ⟨counts, rfl⟩
  | cons g gs ih =>
    have hi := ih fun g hg => h g (List.mem_cons_of_mem _ hg)
    rw [List.foldlM_cons]
    cases h g List.mem_cons_self with
    | reached hp hc =>
      simpa [Document.get, Document.getRequired, hp, hc, Document.isNull, Document.toInteger]
        using hi _
    | @unknown members hp =>
      cases hm : members.lookup "_id" with
      | none => simpa [Document.get, hm, Document.isNull] using hi counts
      | some d =>
        have hd : d.isNull = true := by simpa [hm] using hp
        simpa [Document.get, hm, hd] using hi counts

theorem isOk_reportSteps (spec : FilterSpec) : (reportSteps spec).isOk =
    !(spec.eventFilterOperator != "inOrder" || spec.eventFilter.isEmpty || !spec.hasSteps) := by
  have hs := isOk_mapM Funnel.Step.ofEntry spec.eventFilter
  unfold reportSteps Funnel.stepsOf FilterSpec.hasSteps FilterSpec.isInOrder
  rw [bne]
  cases spec.eventFilterOperator == "inOrder" with
  | false => rfl
  | true =>
    rw [← hs]
    cases spec.eventFilter with
    | nil => rfl
    | cons e es =>
      rw [List.mapM_cons]
      cases Funnel.Step.ofEntry e with
      | error e => rfl
      | ok step => cases es.mapM Funnel.Step.ofEntry <;> rfl

theorem reportSteps_error {spec : FilterSpec} {e : CompileError} (h : reportSteps spec = .error e) :
    ∃ cause, e = .funnel cause := by
  unfold reportSteps at h
  cases hs : Funnel.stepsOf spec with
  | error cause =>
    rw [hs] at h
    exact ⟨cause, (Except.error.inj h).symm⟩
  | ok steps =>
    rw [hs] at h
    cases steps with
    | nil => exact ⟨.noFunnel, (Except.error.inj h).symm⟩
    | cons step steps => cases h

variable (s : Service) (spec : FilterSpec) {triggers : Option (List Document)} {w w₁ : World}
  (ht : (s.wantedTriggerIntents spec).run.run w = (.ok triggers, w₁))
include ht

theorem queryPipeline_verdict :
    ∃ r, (s.queryPipeline spec).run.run w = (r, w₁) ∧
      Verdict.of? r = some spec.deepQueryVerdict := by
  refine ⟨_, ?_, Funnel.of?_decideWithin (fun spec => Pipeline.of?_ofSpec spec s.defaultEnv
    (firstIntentQueryFor spec triggers)) spec⟩
  simp only [queryPipeline, Action.run_bind, ht, Action.run_ofExcept, compile]
  cases Funnel.decideWithin nameRoom spec _ <;> rfl

/-- A report is refused for its funnel before its comparisons are looked at. -/
theorem reportPipeline_verdict :
    ∃ r w₂, (s.reportPipeline spec).run.run w = (r, w₂) ∧
      Verdict.of? r = some spec.deepReportVerdict := by
  unfold reportPipeline funnelOf FilterSpec.deepReportVerdict FilterSpec.isTooDeep
  cases Funnel.specOverruns nameRoom spec with
  | true => exact ⟨_, w, rfl, rfl⟩
  | false =>
    have hok := isOk_reportSteps spec
    simp only [Bool.false_eq_true, if_false, FilterSpec.reportVerdict, Action.run_bind,
      Action.run_ofExcept]
    generalize (spec.eventFilterOperator != "inOrder" || spec.eventFilter.isEmpty ||
      !spec.hasSteps) = refused at hok ⊢
    cases hs : reportSteps spec with
    | error e =>
      obtain ⟨cause, rfl⟩ := reportSteps_error hs
      obtain rfl : refused = true := by simpa [hs] using hok
      exact ⟨_, w, rfl, rfl⟩
    | ok steps =>
      obtain rfl : refused = false := by simpa [hs] using hok
      rcases Pipeline.filterStages_cases spec s.defaultEnv (firstIntentQueryFor spec triggers)
        with ⟨hb, e, hf⟩ | ⟨hb, p, hf⟩ <;>
      simp only [mapError_ok, ht, compileReport, Pipeline.ofReport, hf, hb] <;>
      exact ⟨_, w₁, rfl, rfl⟩

omit ht in
theorem report_of_error {e : Failure} {w₂ : World}
    (hp : (s.reportPipeline spec).run.run w = (.error e, w₂)) :
    (s.report spec).run.run w = (.error e, w₂) := by
  rw [report_eq, Action.run_bind, hp]

omit ht in
theorem report_of_groups {steps : List Funnel.Step} {pipeline : Pipeline}
    {groups : List Document} {w₂ w₃ : World}
    (hp : (s.reportPipeline spec).run.run w = (.ok (steps, pipeline), w₂))
    (ha : (s.conversations.aggregate pipeline).run.run w₂ = (.ok groups, w₃))
    (hg : ∀ g ∈ groups, IsGroup g) :
    ∃ r, (s.report spec).run.run w = (.ok r, w₃) := by
  obtain ⟨counts, hcounts⟩ := countsOfGroups_of_isGroup hg
  exact ⟨_, by rw [run_report hp ha, reportOf, hcounts]; rfl⟩

end Service

end DialogueQuery
