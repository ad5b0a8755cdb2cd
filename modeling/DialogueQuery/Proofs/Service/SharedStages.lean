import DialogueQuery.Proofs.Page.Order
import DialogueQuery.Proofs.Service.Turns
import DialogueQuery.Proofs.Service.Verdicts

/-! A report looks at the conversations that a query looks at. The pipelines of the
two are the same up to the stages that select, order and count. -/

namespace DialogueQuery

namespace Funnel

/-- The stage that keeps the conversations with every label of the funnel. -/
def completion (steps : List Step) : Stage :=
  .filterBy (.all [.passes ["matching"] [.hasSize steps.length]])

theorem matchingStages_eq {steps : List Step} (h : steps ≠ []) :
    matchingStages steps = progressStages steps ++ [completion steps] := by
  have he : steps.isEmpty = false := by simpa using h
  simp only [matchingStages, he, Bool.false_eq_true, if_false]
  rfl

theorem stepsOf_ne_nil {spec : FilterSpec} {steps : List Step} (hin : spec.isInOrder = true)
    (hne : spec.eventFilter ≠ []) (h : stepsOf spec = .ok steps) : steps ≠ [] := by
  obtain ⟨e, es, he⟩ := List.exists_cons_of_ne_nil hne
  rw [stepsOf, if_pos hin, he, List.mapM_cons] at h
  obtain ⟨step, -, hrest⟩ := bind_eq_ok.mp h
  obtain ⟨rest, -, hcons⟩ := bind_eq_ok.mp hrest
  cases hcons
  exact List.cons_ne_nil step rest

end Funnel

namespace Pipeline

theorem pageStages_eq (spec : FilterSpec) : pageStages spec =
    [Page.sortStage (FilterSpec.ofOption .str spec.sort),
      Page.facetStage spec.page spec.pageSize] := by
  have hsort : (spec.sort.bind fun s => SortOrder.ofDocument? (.str s)) =
      SortOrder.ofDocument? (FilterSpec.ofOption .str spec.sort) := by
    cases spec.sort <;> rfl
  rw [pageStages, hsort]
  rfl

/-- A specification that asks for a funnel compiles to the same filters and the same walk for a
report. -/
theorem ofReport_of_ofSpec {spec : FilterSpec} {defaultEnv : Option String} {firstIntent : Query}
    {p : Pipeline} (hin : spec.isInOrder = true) (hne : spec.eventFilter ≠ [])
    (h : ofSpec spec defaultEnv firstIntent = .ok p) :
    ∃ steps shared, Funnel.stepsOf spec = .ok steps ∧ steps ≠ [] ∧
      p = shared ++ Funnel.completion steps :: pageStages spec ∧
      ofReport spec steps defaultEnv firstIntent = .ok (shared ++ [countByProgress]) := by
  obtain ⟨filters, hfilters, h⟩ := bind_eq_ok.mp h
  obtain ⟨steps, hsteps, h⟩ := bind_eq_ok.mp h
  have hsteps := mapError_eq_ok.mp hsteps
  have hne := Funnel.stepsOf_ne_nil hin hne hsteps
  refine ⟨steps, filters ++ Funnel.progressStages steps, hsteps, hne, ?_, ?_⟩
  · rw [← Except.ok.inj h, Funnel.matchingStages_eq hne]
    simp
  · simp [ofReport, hfilters]

end Pipeline

namespace Service

variable (s : Service) {spec : FilterSpec}

/-- The keys that a query sorts by, as they are written. -/
def writtenOrder (sort : Option String) : Members :=
  (Page.askedKeys (FilterSpec.ofOption .str sort)).map fun key => (key.1, .int key.2)

/-- The slices of the page of a query, as they are written. -/
def writtenSlices (page pageSize : Int) : List Document :=
  if pageSize = -1 then [.single "$skip" (.int 0)]
  else [.single "$skip" (.int ((min (if -1 < pageSize then pageSize else 1) page - 1) * pageSize)),
    .single "$limit" (.int pageSize)]

/-- A query and a report send the same stages up to those that end them: the query
keeps what completes the funnel, orders it and cuts out a page, and the report counts
by progress. No page and no order that is asked for makes a difference to a report. -/
structure SharesStages (spec : FilterSpec) (w : World) (steps : List Funnel.Step)
    (shared p : Pipeline) : Prop where
  pipeline : ∃ ends, p = shared ++ ends ∧ ends.map Stage.toDocument =
    [.single "$match" (.single "matching" (.single "$size" (.int steps.length))),
      .single "$sort" (.obj (writtenOrder spec.sort)),
      .single "$facet" (.obj
        [("conversations", .arr (writtenSlices spec.page spec.pageSize)),
          ("pages", .arr [.single "$count" (.str "numberOfDocuments")])])]
  ofQuery : ((s.query spec).run.run w).2.calls = w.calls ++ s.lookups spec ++
    [.aggregate s.conversations.collection p s.conversations.allowDiskUse]
  ofReport : ∃ count, Stage.toDocument count = .single "$group" (.obj
      [("_id", .str "$funnelProgress"), ("count", .single "$sum" (.int 1))]) ∧
    ((s.report spec).run.run w).2.calls = w.calls ++ s.lookups spec ++
      [.aggregate s.conversations.collection (shared ++ [count]) s.conversations.allowDiskUse]
  ofAnyPage (page pageSize : Int) (sort : Option String) :
    s.report { spec with page, pageSize, sort } = s.report spec

theorem toDocument_sortStage (sort : Option String) :
    (Page.sortStage (FilterSpec.ofOption .str sort)).toDocument =
      .single "$sort" (.obj (writtenOrder sort)) := by
  rw [Page.sortStage, Page.sortKeys_eq]
  rfl

theorem toDocument_facetStage (page pageSize : Int) :
    (Page.facetStage page pageSize).toDocument = .single "$facet" (.obj
      [("conversations", .arr (writtenSlices page pageSize)),
        ("pages", .arr [.single "$count" (.str "numberOfDocuments")])]) := by
  unfold Page.facetStage Page.slices writtenSlices
  rw [show unboundedPageSize = -1 from rfl]
  split <;> rfl

section

variable {triggers : Option (List Document)} {w w₁ : World} {p : Pipeline}
variable (ht : (s.wantedTriggerIntents spec).run.run w = (.ok triggers, w₁))
include ht

theorem provided_eq : s.provided spec w = .ok triggers := by rw [provided, ht]

/-- A query looks the trigger intents up if it needs them, and then runs its pipeline. -/
theorem query_calls (hp : s.compile spec triggers = .ok p) :
    ((s.query spec).run.run w).2.calls = w.calls ++ s.lookups spec ++
      [.aggregate s.conversations.collection p s.conversations.allowDiskUse] := by
  have he := (s.query_attempts spec w).effect.calls_eq
  simp only [Request.uses, s.provided_eq ht, ok_bind, hp, aggregations] at he
  rw [he, List.append_assoc]

theorem report_calls {steps : List Funnel.Step} (hs : funnelOf spec = .ok steps)
    (hp : s.compileReport spec steps triggers = .ok p) :
    ((s.report spec).run.run w).2.calls = w.calls ++ s.lookups spec ++
      [.aggregate s.conversations.collection p s.conversations.allowDiskUse] := by
  have he := (s.report_attempts spec w).effect.calls_eq
  simp only [Request.uses, hs, s.provided_eq ht, ok_bind, hp, aggregations] at he
  rw [he, List.append_assoc]

/-- A report counts among the conversations that a query would have selected from,
if its specification asks for a funnel and compiles. -/
theorem report_sharesStages (hin : spec.eventFilterOperator = "inOrder")
    (hne : spec.eventFilter ≠ []) (hp : s.compile spec triggers = .ok p) :
    ∃ steps shared, Funnel.stepsOf spec = .ok steps ∧ s.SharesStages spec w steps shared p := by
  obtain ⟨hdepth, hcompiled⟩ := Funnel.decideWithin_eq_ok.mp hp
  obtain ⟨steps, shared, hsteps, hne, hshared, hreport⟩ :=
    Pipeline.ofReport_of_ofSpec (by simpa [FilterSpec.isInOrder] using hin) hne
      (mapError_eq_ok.mp hcompiled)
  have hfunnel : funnelOf spec = .ok steps := by
    simp [funnelOf, hdepth, reportSteps, hsteps, hne]
  have hcounted : s.compileReport spec steps triggers =
      .ok (shared ++ [Pipeline.countByProgress]) := by
    rw [compileReport, hreport, mapError_ok]
  have hends : (Funnel.completion steps :: Pipeline.pageStages spec).map Stage.toDocument =
      [.single "$match" (.single "matching" (.single "$size" (.int steps.length))),
        .single "$sort" (.obj (writtenOrder spec.sort)),
        .single "$facet" (.obj
          [("conversations", .arr (writtenSlices spec.page spec.pageSize)),
            ("pages", .arr [.single "$count" (.str "numberOfDocuments")])])] := by
    rw [Pipeline.pageStages_eq, List.map_cons, List.map_cons, List.map_cons,
      toDocument_sortStage, toDocument_facetStage]
    rfl
  exact ⟨steps, shared, hsteps, ⟨_, hshared, hends⟩, s.query_calls ht hp,
    ⟨_, rfl, s.report_calls ht hfunnel hcounted⟩, fun _ _ _ => rfl⟩

end

end Service

def narrowSpec : FilterSpec :=
  { projectId := "bf"
    page := 3
    pageSize := 5
    status := ["new"]
    sort := some "updatedAt_DESC"
    lengthBound := some 2
    lengthComparison := some "greaterThan"
    minDuration := some (.finite false 10 0)
    maxDuration := some (.finite false 90 0)
    confidenceBound := some (.finite false 1 (-1))
    confidenceComparison := some "lessThan"
    startDate := some ⟨⟨2020, 1, 1, by decide⟩, .midnight, none⟩
    endDate := some ⟨⟨2020, 2, 1, by decide⟩, .midnight, some 60⟩
    userId := some "u"
    eventFilterOperator := "inOrder"
    eventFilter := [.text "intent: greet", .text "action: utter_hi"]
    triggered := some true }

def narrowWorld : World where
  script := {}
  collections := [("projects",
    { documents := [.obj [("_id", .str "bf"), ("triggerIntents", .ofStrings ["greet"])]] })]

theorem Service.report_sharesStages_narrow :
    ∃ w₁ p, narrowSpec.eventFilterOperator = "inOrder" ∧ narrowSpec.eventFilter ≠ [] ∧
      (wantedTriggerIntents ⟨{}, {}, none⟩ narrowSpec).run.run narrowWorld =
        (.ok (some [.str "greet"]), w₁) ∧
      compile ⟨{}, {}, none⟩ narrowSpec (some [.str "greet"]) = .ok p ∧
      ∃ steps shared, Funnel.stepsOf narrowSpec = .ok steps ∧
        SharesStages ⟨{}, {}, none⟩ narrowSpec narrowWorld steps shared p := by
  have hin : narrowSpec.eventFilterOperator = "inOrder" := rfl
  have hne : narrowSpec.eventFilter ≠ [] := by simp [narrowSpec]
  obtain ⟨w₁, ht⟩ : ∃ w₁, (wantedTriggerIntents ⟨{}, {}, none⟩ narrowSpec).run.run narrowWorld =
      (.ok (some [.str "greet"]), w₁) := ⟨_, rfl⟩
  have hverdict : Verdict.of? (compile ⟨{}, {}, none⟩ narrowSpec (some [.str "greet"])) =
      some narrowSpec.deepQueryVerdict :=
    Funnel.of?_decideWithin (fun spec => Pipeline.of?_ofSpec spec _ _) narrowSpec
  have haccepted : narrowSpec.deepQueryVerdict = .accepted := by decide +kernel
  obtain ⟨p, hp⟩ := exists_of_isOk (Verdict.of?_eq_accepted.mp (hverdict.trans (by rw [haccepted])))
  exact ⟨w₁, p, hin, hne, ht, hp, report_sharesStages ⟨{}, {}, none⟩ ht hin hne hp⟩

end DialogueQuery
