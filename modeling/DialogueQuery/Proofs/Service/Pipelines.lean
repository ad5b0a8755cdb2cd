import DialogueQuery.Proofs.Actions

/-! Queries and reports first get their pipeline, which asks for trigger intents at
most, and then run it. -/

namespace DialogueQuery.Service

/-- The pipeline of a query, once the trigger intents are at hand. -/
def compile (s : Service) (spec : FilterSpec) (triggers : Option (List Document)) :
    Except Failure Pipeline :=
  Funnel.decideWithin nameRoom spec fun spec =>
    (Pipeline.ofSpec spec s.defaultEnv (firstIntentQueryFor spec triggers)).mapError .compile

def queryPipeline (s : Service) (spec : FilterSpec) : Action Pipeline := do
  Action.ofExcept id (s.compile spec (← s.wantedTriggerIntents spec))

/-- The steps of a report, which have to be there and to be read. -/
def funnelOf (spec : FilterSpec) : Except Failure (List Funnel.Step) :=
  if Funnel.specOverruns nameRoom spec then .error (.fault .tooDeep)
  else (reportSteps spec).mapError .compile

def compileReport (s : Service) (spec : FilterSpec) (steps : List Funnel.Step)
    (triggers : Option (List Document)) : Except Failure Pipeline :=
  (Pipeline.ofReport spec steps s.defaultEnv (firstIntentQueryFor spec triggers)).mapError .compile

def reportPipeline (s : Service) (spec : FilterSpec) : Action (List Funnel.Step × Pipeline) := do
  let steps ← Action.ofExcept id (funnelOf spec)
  let pipeline ← Action.ofExcept id (s.compileReport spec steps (← s.wantedTriggerIntents spec))
  return (steps, pipeline)

def pageOf (spec : FilterSpec) (results : List Document) : Except Failure ConversationPage :=
  (ConversationPage.ofResults (.arr results) (.int spec.pageSize)).mapError .ofPageError

def reportOf (steps : List Funnel.Step) (groups : List Document) : Except Failure FunnelReport :=
  ((countsOfGroups groups).map fun counts => FunnelReport.ofCounts counts steps).mapError .fault

def queryWith (s : Service) (spec : FilterSpec) (p : Pipeline) : Action ConversationPage := do
  Action.log .query .debug ("Querying conversations of project " ++ spec.projectId ++ " with "
    ++ toString p.length ++ " stages")
  Action.ofExcept id (pageOf spec (← s.conversations.aggregate p))

def reportWith (s : Service) (steps : List Funnel.Step) (p : Pipeline) : Action FunnelReport := do
  Action.ofExcept id (reportOf steps (← s.conversations.aggregate p))

theorem query_eq (s : Service) (spec : FilterSpec) :
    s.query spec = (do s.queryWith spec (← s.queryPipeline spec)) := by
  have hpage (results : List Document) : Action.ofExcept Failure.ofPageError
      (ConversationPage.ofResults (.arr results) (.int spec.pageSize)) =
        Action.ofExcept id (pageOf spec results) := by
    unfold pageOf
    cases ConversationPage.ofResults (.arr results) (.int spec.pageSize) <;> rfl
  simp only [query, queryWith, queryPipeline, compile, bind_assoc, hpage]

theorem report_eq (s : Service) (spec : FilterSpec) :
    s.report spec = (do
      let (steps, pipeline) ← s.reportPipeline spec
      s.reportWith steps pipeline) := by
  have hreport (steps : List Funnel.Step) (groups : List Document) : (do
      return FunnelReport.ofCounts (← Action.ofFault (countsOfGroups groups)) steps) =
        Action.ofExcept id (reportOf steps groups) := by
    unfold reportOf
    cases countsOfGroups groups <;> rfl
  have hcompiled (steps : List Funnel.Step) (triggers : Option (List Document)) :
      Action.ofExcept .compile (Pipeline.ofReport spec steps s.defaultEnv
        (firstIntentQueryFor spec triggers)) =
          Action.ofExcept id (s.compileReport spec steps triggers) := by
    unfold compileReport
    cases Pipeline.ofReport spec steps s.defaultEnv (firstIntentQueryFor spec triggers) <;> rfl
  simp only [report, reportWith, reportPipeline, funnelOf, hcompiled, hreport, bind_assoc, pure_bind]
  cases Funnel.specOverruns nameRoom spec with
  | true => rfl
  | false => cases reportSteps spec <;> rfl

/-- Asks for the trigger intents, compiles, and goes on with the pipeline. -/
def compiled {α : Type} (s : Service) (spec : FilterSpec)
    (compile : Option (List Document) → Except Failure Pipeline) (k : Pipeline → Action α) :
    Action α := do
  k (← Action.ofExcept id (compile (← s.wantedTriggerIntents spec)))

theorem query_eq_compiled (s : Service) (spec : FilterSpec) :
    s.query spec = s.compiled spec (s.compile spec) (s.queryWith spec) := by
  rw [query_eq]
  simp only [queryPipeline, compiled, bind_assoc]

theorem report_eq_compiled (s : Service) (spec : FilterSpec) :
    s.report spec = (do
      let steps ← Action.ofExcept id (funnelOf spec)
      s.compiled spec (s.compileReport spec steps) (s.reportWith steps)) := by
  rw [report_eq]
  simp only [reportPipeline, compiled, bind_assoc, pure_bind]

theorem run_reportPipeline {s : Service} {spec : FilterSpec} {steps : List Funnel.Step}
    {triggers : Option (List Document)} {pipeline : Pipeline} {w w₁ : World}
    (hs : funnelOf spec = .ok steps)
    (ht : (s.wantedTriggerIntents spec).run.run w = (.ok triggers, w₁))
    (hp : s.compileReport spec steps triggers = .ok pipeline) :
    (s.reportPipeline spec).run.run w = (.ok (steps, pipeline), w₁) := by
  simp only [reportPipeline, Action.run_bind, Action.run_ofExcept, hs, ht, hp, mapError_ok]
  rfl

theorem stepsOf_of_funnelOf {spec : FilterSpec} {steps : List Funnel.Step}
    (h : funnelOf spec = .ok steps) : Funnel.stepsOf spec = .ok steps ∧ steps ≠ [] := by
  unfold funnelOf at h
  split at h
  · cases h
  · obtain ⟨found, hfound, hsteps⟩ := bind_eq_ok.mp (mapError_eq_ok.mp h)
    split at hsteps
    · cases hsteps
    · next hne =>
      cases hsteps
      exact ⟨mapError_eq_ok.mp hfound, by simpa using hne⟩

theorem funnelOf_of_reportPipeline {s : Service} {spec : FilterSpec} {steps : List Funnel.Step}
    {pipeline : Pipeline} {w w₁ : World}
    (hp : (s.reportPipeline spec).run.run w = (.ok (steps, pipeline), w₁)) :
    funnelOf spec = .ok steps := by
  obtain ⟨found, w₂, hfound, hp⟩ := Action.run_bind_eq_ok.mp hp
  obtain ⟨triggers, w₃, -, hp⟩ := Action.run_bind_eq_ok.mp hp
  obtain ⟨compiled, w₄, -, hp⟩ := Action.run_bind_eq_ok.mp hp
  cases hp
  rw [Action.run_ofExcept] at hfound
  exact mapError_eq_ok.mp (congrArg Prod.fst hfound)

theorem run_report {s : Service} {spec : FilterSpec} {steps : List Funnel.Step}
    {pipeline : Pipeline} {groups : List Document} {w w₁ w₂ : World}
    (hp : (s.reportPipeline spec).run.run w = (.ok (steps, pipeline), w₁))
    (hg : (s.conversations.aggregate pipeline).run.run w₁ = (.ok groups, w₂)) :
    (s.report spec).run.run w = (reportOf steps groups, w₂) := by
  rw [report_eq, Action.run_bind, hp]
  simp only [reportWith, Action.run_bind, hg, Action.run_ofExcept]
  cases reportOf steps groups <;> rfl

end DialogueQuery.Service
