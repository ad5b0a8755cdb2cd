import DialogueQuery.Proofs.Explanation.Checks
import DialogueQuery.Proofs.Funnel.Greedy
import DialogueQuery.Proofs.Service.Verdicts

/-! An explanation is refused for the reasons that a query is refused for, and for
no other: on a conversation with numbers for its times no clause fails. -/

namespace DialogueQuery

open Conversation

namespace Explanation

section

variable {c : Document} (h : isTimed c = true)
include h

theorem durationChecks_isTimed (spec : FilterSpec) :
    ∃ checks, durationChecks spec c = .ok checks := by
  obtain ⟨v, hv, hn⟩ := duration_isTimed h
  obtain ⟨checks, hchecks, -⟩ := durationChecks_of_duration spec hv hn
  exact ⟨checks, hchecks⟩

theorem dateChecks_isTimed (spec : FilterSpec) : ∃ checks, dateChecks spec c = .ok checks := by
  have hw := window_of_hasEvents (hasEvents_of_hasTypedEvents (hasTypedEvents_of_isTimed h))
  have hn : (window? c).all (fun e => e.1.isNumber && e.2.isNumber) = true := by
    cases hends : window? c with
    | none => rfl
    | some ends =>
      obtain ⟨hfirst, hlast⟩ := isMeasure_of_window? h hends
      simp [Document.isNumber_of_isMeasure hfirst, Document.isNumber_of_isMeasure hlast]
  obtain ⟨checks, hchecks, -⟩ := dateChecks_of_range spec (Filter.dateRangeCheck_of_window hw hn)
  exact ⟨checks, hchecks⟩

theorem funnelOutcome?_ok {spec : FilterSpec} {steps : List Funnel.Step}
    (hs : Funnel.stepsOf spec = .ok steps) : ∃ outcome, funnelOutcome? spec c = .ok outcome := by
  have hread := isReadable_of_hasTypedEvents (hasTypedEvents_of_isTimed h)
  simp only [funnelOutcome?, hs, mapError_ok, ok_bind, Funnel.walkConversation_reached hread]
  split <;> exact ⟨_, rfl⟩

theorem of?_ofStored (stored : Filter.Checks) (triggers : Option (List Document))
    (spec : FilterSpec) :
    Verdict.of? (ofStored stored spec triggers c) = some spec.queryVerdict := by
  have htyped := hasTypedEvents_of_isTimed h
  obtain ⟨first, hfirst, -⟩ := firstIntentChecks_eq htyped spec triggers
  obtain ⟨durations, hdurations⟩ := durationChecks_isTimed h spec
  obtain ⟨dates, hdates⟩ := dateChecks_isTimed h spec
  obtain ⟨id, hid⟩ := identifierOf_eq (isObject_of_hasEvents (hasEvents_of_hasTypedEvents htyped))
  have hbad := spec.hasBadComparison_eq
  have hsteps := Funnel.isOk_stepsOf spec
  simp only [ofStored, hfirst, hdurations, hdates, hid, faulty, mapError_ok, ok_bind,
    FilterSpec.queryVerdict]
  generalize (spec.eventFilterOperator == "inOrder" && !spec.hasSteps) = refused at hsteps ⊢
  cases hl : Filter.lengthBound? spec with
  | error e =>
    rw [hbad, hl, lengthChecks, hl]
    simp [comparing, Verdict.of?, Failure.verdict?]
  | ok length =>
    obtain ⟨turns, hturns, -⟩ := lengthChecks_eq htyped hl
    cases hc : Filter.confidenceBound? spec with
    | error e =>
      rw [hbad, hc, hturns, confidenceChecks, hc]
      simp [comparing, Verdict.of?, Failure.verdict?]
    | ok confidence =>
      obtain ⟨confidences, hconfidences, -⟩ := confidenceChecks_eq htyped hc
      rw [hbad, hl, hc, hturns, hconfidences]
      cases hs : Funnel.stepsOf spec with
      | error e =>
        obtain rfl : refused = true := by simpa [hs] using hsteps
        simp [funnelOutcome?, hs, Verdict.of?, Failure.verdict?]
      | ok steps =>
        obtain rfl : refused = false := by simpa [hs] using hsteps
        obtain ⟨outcome, houtcome⟩ := funnelOutcome?_ok h hs
        simp [houtcome, Verdict.of?]

end

end Explanation

/-- Once the trigger intents are known, the specification alone decides whether an explanation is
refused. -/
theorem Service.explain_verdict {s : Service} (spec : FilterSpec) {c : Document}
    (hc : isTimed c = true) {triggers : Option (List Document)} {w w₁ : World}
    (ht : (s.wantedTriggerIntents spec).run.run w = (.ok triggers, w₁)) :
    ∃ r, (s.explain spec c).run.run w = (r, w₁) ∧ Verdict.of? r = some spec.deepQueryVerdict := by
  obtain ⟨stored, hstored, -⟩ := Filter.storedChecks_eq spec s.defaultEnv
    (isObject_of_hasEvents (hasEvents_of_hasTypedEvents (hasTypedEvents_of_isTimed hc)))
  refine ⟨_, ?_, Funnel.of?_decideWithin (Explanation.of?_ofStored hc stored triggers) spec⟩
  simp only [explain, hstored, Action.run_bind, Action.ofFault, Action.run_ofExcept,
    mapError_ok, ht]
  cases Funnel.decideWithin nameRoom spec _ <;> rfl

/-- What the operations make of a specification, when the trigger intents are at hand. -/
structure Service.Judges (s : Service) (spec : FilterSpec) (c : Document) (w w₁ : World) :
    Prop where
  pipeline (firstIntent : Query) : Verdict.of? (Funnel.decideWithin nameRoom spec fun spec =>
    (Pipeline.ofSpec spec s.defaultEnv firstIntent).mapError .compile) = some spec.deepQueryVerdict
  query : ∃ r, (s.queryPipeline spec).run.run w = (r, w₁) ∧
    Verdict.of? r = some spec.deepQueryVerdict
  explain : ∃ r, (s.explain spec c).run.run w = (r, w₁) ∧
    Verdict.of? r = some spec.deepQueryVerdict
  report : ∃ r w₂, (s.reportPipeline spec).run.run w = (r, w₂) ∧
    Verdict.of? r = some spec.deepReportVerdict
  refused (e : Failure) (w₂ : World) : (s.reportPipeline spec).run.run w = (.error e, w₂) →
    (s.report spec).run.run w = (.error e, w₂)
  reported (steps : List Funnel.Step) (p : Pipeline) (groups : List Document) (w₂ w₃ : World) :
    (s.reportPipeline spec).run.run w = (.ok (steps, p), w₂) →
    (s.conversations.aggregate p).run.run w₂ = (.ok groups, w₃) → (∀ g ∈ groups, IsGroup g) →
    ∃ r, (s.report spec).run.run w = (.ok r, w₃)

/-- Queries, explanations and reports refuse a specification for its comparisons and
for its funnel alone. Only the report asks for a funnel and looks at it first, and
only a funnel that is too deep to be read is refused otherwise. -/
theorem Service.judges {s : Service} (spec : FilterSpec) {c : Document} (hc : isTimed c = true)
    {triggers : Option (List Document)} {w w₁ : World}
    (ht : (s.wantedTriggerIntents spec).run.run w = (.ok triggers, w₁)) :
    s.Judges spec c w w₁ where
  pipeline firstIntent :=
    Funnel.of?_decideWithin (fun spec => Pipeline.of?_ofSpec spec s.defaultEnv firstIntent) spec
  query := queryPipeline_verdict s spec ht
  explain := explain_verdict spec hc ht
  report := reportPipeline_verdict s spec ht
  refused _ _ := report_of_error s spec
  reported _ _ _ _ _ := report_of_groups s spec

/-- A comparison without a meaning and an entry that is no step. -/
def misnamedSpec : FilterSpec :=
  { projectId := "bf"
    triggered := some true
    lengthBound := some 3
    lengthComparison := some "atLeast"
    eventFilterOperator := "inOrder"
    eventFilter := [.text "greet"] }

/-- A conversation with gaps: not every event is an object or has a time. -/
def sparse : Document :=
  .obj [("tracker", .obj [("events", .arr [.null, .str "user",
    .obj [("event", .str "user"), ("parse_data", .null), ("timestamp", .null)],
    .obj [("event", .str "user"), ("parse_data", .obj [("intent", .null)]),
      ("timestamp", .int 7)]])])]

def sparseService : Service := ⟨{}, {}, none⟩

def sparseWorld : World where
  script := {}
  collections := [("projects",
    { documents := [.obj [("_id", .str "bf"), ("triggerIntents", .ofStrings ["greet"])]] })]

theorem Service.judges_misnamed :
    ∃ w₁, isTimed sparse = true ∧
      (sparseService.wantedTriggerIntents misnamedSpec).run.run sparseWorld =
        (.ok (some [.str "greet"]), w₁) ∧
      misnamedSpec.deepQueryVerdict = .badComparison ∧
      misnamedSpec.deepReportVerdict = .badFunnel ∧
      sparseService.Judges misnamedSpec sparse sparseWorld w₁ := by
  have hc : isTimed sparse = true := by decide
  obtain ⟨w₁, ht⟩ : ∃ w₁, (sparseService.wantedTriggerIntents misnamedSpec).run.run sparseWorld =
      (.ok (some [.str "greet"]), w₁) := ⟨_, rfl⟩
  exact ⟨w₁, hc, ht, by decide +kernel, by decide +kernel, judges misnamedSpec hc ht⟩

namespace Funnel

def nested : Nat → Document
  | 0 => .arr []
  | n + 1 => .arr [nested n]

theorem collectNames_nested (type : StepType) (entry : Document) (n : Nat) :
    collectNames type entry (nested n) = .error (.emptyName entry) := by
  induction n with
  | zero => simp [nested, collectNames, collectItems, nonEmptyNames]
  | succ n ih => simp [nested, collectNames, collectItems, ih]

theorem overruns_nested (type : StepType) (entry : Document) {n room : Nat} (h : room < 2 * n) :
    overruns type entry room (nested n) = true := by
  induction n generalizing room with
  | zero => omega
  | succ n ih =>
    by_cases hr : room < 2
    · simp [nested, overruns, hr]
    · simp [nested, overruns, itemsOverrun, ih (show room - 2 < 2 * n by omega)]

def nestedEntry (n : Nat) : Members := [("type", .str "intent"), ("name", nested n)]

theorem resolveType_intent (entry : Document) :
    resolveType (.str "intent") entry = .ok .intent := by
  have hname : StepType.ofName? (Text.strip "intent") = some .intent := by decide +kernel
  simp [resolveType, hname]

theorem nameTree_nestedEntry (n : Nat) : nameTree (nestedEntry n) = (nested n, false) := by
  cases n <;> rfl

theorem ofMembers_nestedEntry (n : Nat) :
    Step.ofMembers (nestedEntry n) = .error (.emptyName (.obj (nestedEntry n))) := by
  have ht : (nestedEntry n).lookup "type" = some (.str "intent") := rfl
  simp [Step.ofMembers, ht, resolveType_intent, nameTree_nestedEntry, collectNames_nested]

theorem isTooDeep_nestedEntry {n room : Nat} (h : room < 2 * n) :
    isTooDeep room (.obj (nestedEntry n)) = true := by
  have ht : (nestedEntry n).lookup "type" = some (.str "intent") := rfl
  simp [isTooDeep, ht, resolveType_intent, nameTree_nestedEntry, overruns_nested _ _ h]

end Funnel

def nestedSpec (n : Nat) : FilterSpec :=
  { projectId := "bf"
    eventFilterOperator := "inOrder"
    eventFilter := [.form (Funnel.nestedEntry n)] }

theorem FilterSpec.isTooDeep_nestedSpec {n : Nat} (h : Service.nameRoom < 2 * n) :
    (nestedSpec n).isTooDeep = true := by
  simp [isTooDeep, Funnel.specOverruns, nestedSpec, isInOrder, Funnel.stepsWithin, Entry.toDocument,
    Funnel.stepWithin, Funnel.isTooDeep_nestedEntry h]

/-- An entry without a name is no step, which is not what is found out about one
that is nested too deeply. -/
theorem Service.verdict_nested :
    (nestedSpec 799).hasBadComparison = false ∧ (nestedSpec 799).isInOrder = true ∧
      (nestedSpec 799).hasSteps = false ∧
      Verdict.of? (Funnel.decideWithin nameRoom (nestedSpec 799) fun spec =>
        (Pipeline.ofSpec spec (some "development") .any).mapError .compile) = some .tooDeep := by
  have hbad : (nestedSpec 799).hasBadComparison = false := rfl
  have hsteps : (nestedSpec 799).hasSteps = false := by
    simp [nestedSpec, FilterSpec.hasSteps, Funnel.Step.ofEntry, Funnel.ofMembers_nestedEntry]
  refine ⟨hbad, rfl, hsteps, ?_⟩
  rw [Funnel.of?_decideWithin fun spec => Pipeline.of?_ofSpec spec (some "development") .any,
    FilterSpec.deepQueryVerdict, FilterSpec.isTooDeep_nestedSpec (by decide), hbad]
  rfl

end DialogueQuery
