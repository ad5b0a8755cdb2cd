import DialogueQuery.Proofs.Actions
import DialogueQuery.Proofs.Explanation.Checks
import DialogueQuery.Proofs.Filter.FirstIntent
import DialogueQuery.Proofs.Pipeline.Reading

/-! An explanation tells a match exactly where the pipeline hands a conversation
on. The clauses come in another order in the two, and each is decided alike. -/

namespace DialogueQuery

open Conversation

variable {m : StoreModel} {c : Document} {spec : FilterSpec} {defaultEnv : Option String}
  {triggers : Option (List Document)}

theorem Pipeline.bounds_of_filterStages {query : Query} {filters : Pipeline}
    (hf : filterStages spec defaultEnv query = .ok filters) :
    ∃ confidence length, Filter.confidenceBound? spec = .ok confidence ∧
      Filter.lengthBound? spec = .ok length := by
  obtain ⟨stored, hstored, hf⟩ := bind_eq_ok.mp hf
  obtain ⟨lengths, hlengths, -⟩ := bind_eq_ok.mp hf
  obtain ⟨confidence, hc, -⟩ := bind_eq_ok.mp (mapError_eq_ok.mp hstored)
  obtain ⟨length, hl, -⟩ := bind_eq_ok.mp (mapError_eq_ok.mp hlengths)
  exact ⟨confidence, length, hc, hl⟩

/-- The stages before the funnel keep a conversation exactly if every clause up to there is met,
and leave the events as they are. -/
theorem Pipeline.filterStages_pass (hm : m.follow = .collecting) (h : isWellTyped c = true)
    (hp : c.member? "projectId" = some (.str spec.projectId))
    (ht : triggers.isSome = spec.needsTriggerIntents) {filters : Pipeline}
    (hf : filterStages spec defaultEnv (Service.firstIntentQueryFor spec triggers) = .ok filters)
    {confidence : Option (Comparator × Binary64)} {length : Option (Comparator × Int)}
    (hc : Filter.confidenceBound? spec = .ok confidence)
    (hl : Filter.lengthBound? spec = .ok length) {v : Option Document}
    (hv : Expr.difference (stamps c).getLast? (stamps c).head? = .ok (some (v.getD .null))) :
    ∃ d, Filter.Windowed c d ∧ m.Passes filters c
      ((Filter.statusMet spec c && Filter.envMet spec defaultEnv c &&
          Filter.confidenceMet confidence c && Filter.datesMet (Filter.dateRange? spec) c &&
          Filter.userMet spec c &&
          triggers.all fun intents =>
            Filter.firstIntentCheck spec intents ((openingIntent c).getD .null)) &&
        Filter.lengthMet length c &&
        (Filter.withinBound .greaterThan (Filter.activeBound spec.minDuration) v &&
          Filter.withinBound .lessThan (Filter.activeBound spec.maxDuration) v)) d := by
  have hr : m.follow.IsMemberwise := hm ▸ Resolver.collecting_isMemberwise
  have hev := hasEvents_of_isWellTyped h
  simp only [filterStages, bind_eq_ok, mapError_eq_ok, pure_eq_ok, Except.ok.injEq] at hf
  obtain ⟨stored, hstored, lengths, hlengths, rfl⟩ := hf
  obtain ⟨d₁, hp₁, hd₁⟩ := Filter.windowStage_passes hev hm
  obtain ⟨first, hp₂, hfirst⟩ := Filter.firstIntentStage_passes hr h hd₁
  have hd₂ : Filter.Windowed c (d₁.derive "firstIntent" first) := hd₁.derive (by decide) first
  obtain ⟨query, hquery, hmet⟩ := Filter.storedQuery_eq hc defaultEnv hev hd₂ hp
  obtain rfl : stored = query := by rw [hstored] at hquery; exact Except.ok.inj hquery
  have hp₃ := StoreModel.Passes.filterBy m
    (.all [.allOf [stored, Service.firstIntentQueryFor spec triggers]])
    (d₁.derive "firstIntent" first)
  obtain ⟨stages, d₄, hstages, hd₄, hp₄⟩ := Filter.lengthStages_pass hr hev hd₂ hl
  obtain rfl : lengths = stages := by rw [hlengths] at hstages; exact Except.ok.inj hstages
  obtain ⟨d₅, hd₅, hp₅⟩ := Filter.durationStages_pass hr hd₄ spec hv
  have hfi : (d₁.derive "firstIntent" first).member? "firstIntent" = first := by
    simp [Document.member?_derive, hd₁.isObject]
  simp only [Query.isMetBy_all, Condition.areMetBy_cons, Condition.areMetBy_nil,
    Condition.isMetBy_allOf, List.all_cons, List.all_nil, Bool.and_true, hmet,
    Service.isMetBy_firstIntentQueryFor ht, hfi, hfirst] at hp₃
  exact ⟨d₅, hd₅, (((hp₁.append hp₂).append hp₃).append hp₄).append hp₅⟩

/-- The walk in process passes where the stages of the funnel keep the conversation. -/
theorem Explanation.funnelOutcome_agrees (hr : m.follow.IsMemberwise) (h : isWellTyped c = true)
    {steps : List Funnel.Step} (hs : Funnel.stepsOf spec = .ok steps) {d : Document}
    (hd : Filter.Windowed c d) :
    ∃ outcome d', funnelOutcome? spec c = .ok outcome ∧
      m.Passes (Funnel.matchingStages steps) d (outcome.all Funnel.Outcome.passed) d' := by
  have hev := hasEvents_of_isWellTyped h
  have hev' := hd.hasEvents hev
  by_cases hne : steps = []
  · subst hne
    refine ⟨none, d, ?_, .nil m d⟩
    simp [funnelOutcome?, hs]
  · have hread : isReadable d = true := by
      have hc := isReadable_iff.mp (isReadable_of_isWellTyped h)
      exact isReadable_iff.mpr ⟨hev', by rw [hd.recorded_eq]; exact hc.2⟩
    obtain ⟨outcome, d', hw, -, hp, -⟩ := Funnel.stages_agree hr hread hne
    have hw' : Funnel.walkConversation c steps = .ok outcome := by
      rw [← hw, Funnel.walkConversation, Funnel.walkConversation, eventList_eq hev,
        eventList_eq hev', hd.recorded_eq]
    refine ⟨some outcome, d', ?_, hp⟩
    simp [funnelOutcome?, hs, hne, faulty, hw']

/-- An explanation that is built on the stored checks is a match exactly if the stages before the
order and the page keep the conversation. -/
theorem Explanation.ofStored_agrees (hm : m.follow = .collecting) (h : isWellTyped c = true)
    (hp : c.member? "projectId" = some (.str spec.projectId))
    (ht : triggers.isSome = spec.needsTriggerIntents) {p : Pipeline}
    (hs : Pipeline.ofSpec spec defaultEnv (Service.firstIntentQueryFor spec triggers) = .ok p) :
    ∃ stored e kept d, Filter.storedChecks spec defaultEnv c = .ok stored ∧
      ofStored stored spec triggers c = .ok e ∧ p = kept ++ Pipeline.pageStages spec ∧
      m.Passes kept c e.isMatch d := by
  have hr : m.follow.IsMemberwise := hm ▸ Resolver.collecting_isMemberwise
  simp only [Pipeline.ofSpec, bind_eq_ok, mapError_eq_ok, pure_eq_ok, Except.ok.injEq] at hs
  obtain ⟨filters, hfilters, steps, hsteps, rfl⟩ := hs
  obtain ⟨confidence, length, hc, hl⟩ := Pipeline.bounds_of_filterStages hfilters
  obtain ⟨stored, hstored, hstored'⟩ := Filter.storedChecks_eq spec defaultEnv
    (isObject_of_hasEvents (hasEvents_of_isWellTyped h))
  have htyped := hasTypedEvents_of_isWellTyped h
  obtain ⟨first, hfirst, hfirst'⟩ := firstIntentChecks_eq htyped spec triggers
  obtain ⟨turns, hturns, hturns'⟩ := lengthChecks_eq htyped hl
  obtain ⟨v, durations, hv, hdurations, hdurations'⟩ := durationChecks_eq h spec
  obtain ⟨confidences, hconf, hconf'⟩ := confidenceChecks_eq htyped hc
  obtain ⟨dates, hdates, hdates'⟩ := dateChecks_eq h spec
  obtain ⟨d₁, hd₁, hp₁⟩ := Pipeline.filterStages_pass hm h hp ht hfilters hc hl hv
  obtain ⟨outcome, d₂, houtcome, hp₂⟩ := funnelOutcome_agrees hr h hsteps hd₁
  obtain ⟨id, hid⟩ := identifierOf_eq (isObject_of_hasEvents (hasEvents_of_isWellTyped h))
  let e : Explanation :=
    { conversationId := id
      progress := outcome.map Funnel.Outcome.progress
      checks := stored ++ first ++ turns ++ durations ++ confidences ++ dates ++
        (outcome.map fun o => ("funnel", o.passed)).toList }
  have he : ofStored stored spec triggers c = .ok e := by
    simp only [ofStored, hfirst, hturns, hdurations, hconf, hdates, houtcome, hid, faulty,
      mapError_ok, ok_bind, pure_eq_ok, e]
  have hfunnel : (outcome.map fun o => ("funnel", o.passed)).toList.all (·.2) =
      outcome.all Funnel.Outcome.passed := by
    cases outcome <;> simp
  refine ⟨stored, e, filters ++ Funnel.matchingStages steps, d₂, hstored, he, rfl, ?_⟩
  have hall := hp₁.append hp₂
  simp only [isMatch, e, List.all_append, hstored', hfirst', hturns', hdurations', hconf',
    hdates', hfunnel]
  -- The query puts the confidence and the dates before the user, and the first intent last.
  convert hall using 1
  ac_rfl

/-- Of a conversation of the project whose events are of the kinds that are
recorded, the service explains a match if and only if a store that is sent the stages
of the query before the order and the page hands it on. Neither of them fails. -/
theorem Service.explain_agrees {s : Service} (hm : m.follow = .collecting)
    (h : isWellTyped c = true) (hp : c.member? "projectId" = some (.str spec.projectId))
    {w w' : World} (ht : (s.wantedTriggerIntents spec).run.run w = (.ok triggers, w'))
    {p : Pipeline} (hs : Funnel.decideWithin nameRoom spec (fun spec =>
      (Pipeline.ofSpec spec s.defaultEnv (firstIntentQueryFor spec triggers)).mapError .compile) =
        .ok p) :
    ∃ e kept d, (s.explain spec c).run.run w = (.ok e, w') ∧
      p = kept ++ Pipeline.pageStages spec ∧
      (Pipeline.pageStages spec).map Stage.operator = ["$sort", "$facet"] ∧
      m.runDocument (Pipeline.toDocument kept) [c] = .ok (if e.isMatch then [d] else []) := by
  obtain ⟨hroom, hcompiled⟩ := Funnel.decideWithin_eq_ok.mp hs
  obtain ⟨stored, e, kept, d, hstored, he, hkept, hpass⟩ := Explanation.ofStored_agrees hm h hp
    (isSome_of_wantedTriggerIntents ht) (mapError_eq_ok.mp hcompiled)
  have hlegible := Pipeline.isLegible_ofSpec (isLegible_firstIntentQueryFor spec triggers)
    (mapError_eq_ok.mp hcompiled)
  rw [hkept, Pipeline.isLegible_append] at hlegible
  refine ⟨e, kept, d, ?_, hkept, rfl, (m.runDocument_toDocument hlegible.1 [c]).trans hpass.1⟩
  have hdecided : Funnel.decideWithin nameRoom spec (fun spec =>
      Explanation.ofStored stored spec triggers c) = .ok e :=
    Funnel.decideWithin_eq_ok.mpr ⟨hroom, he⟩
  simp only [explain, hstored, Action.run_bind, Action.ofFault, Action.run_ofExcept,
    mapError_ok, ht, hdecided]

/-- A funnel among triggered conversations, with bounds of every kind but dates. -/
def greetingSpec : FilterSpec :=
  { projectId := "bf"
    status := ["new"]
    triggered := some true
    lengthBound := some 1
    lengthComparison := some "lessThan"
    maxDuration := some (.finite false 60 0)
    confidenceBound := some (.finite false 1 (-1))
    confidenceComparison := some "greaterThan"
    eventFilterOperator := "inOrder"
    eventFilter := [.text "intent: greet"] }

def greeting : Document :=
  .obj [("projectId", .str "bf"), ("status", .str "new"),
    ("tracker", .obj [("events", .arr [
      .obj [("event", .str "user"), ("timestamp", .int 5),
        ("parse_data", .obj [("intent", .obj [("name", .str "greet"),
          ("confidence", .float (.finite false 3 (-2)))])])],
      .obj [("event", .str "slot"), ("timestamp", .null)],
      .obj [("event", .str "action"), ("timestamp", .int 7)]])])]

def greetingWorld : World where
  script := {}
  collections := [("projects",
    { documents := [.obj [("_id", .str "bf"), ("triggerIntents", .ofStrings ["greet"])]] })]

def greetingService : Service := ⟨{}, {}, some "development"⟩

theorem Service.explain_agrees_greeting :
    ∃ w p e kept d, isWellTyped greeting = true ∧
      greeting.member? "projectId" = some (.str greetingSpec.projectId) ∧
      (greetingService.wantedTriggerIntents greetingSpec).run.run greetingWorld =
        (.ok (some [.str "greet"]), w) ∧
      Funnel.decideWithin nameRoom greetingSpec (fun spec =>
        (Pipeline.ofSpec spec greetingService.defaultEnv
          (firstIntentQueryFor spec (some [.str "greet"]))).mapError .compile) = .ok p ∧
      (greetingService.explain greetingSpec greeting).run.run greetingWorld = (.ok e, w) ∧
      p = kept ++ Pipeline.pageStages greetingSpec ∧
      (Pipeline.pageStages greetingSpec).map Stage.operator = ["$sort", "$facet"] ∧
      (StoreModel.mk .collecting fun _ _ => true).runDocument (Pipeline.toDocument kept)
        [greeting] = .ok [d] := by
  have hc : isWellTyped greeting = true := by decide
  obtain ⟨w, ht⟩ : ∃ w, (greetingService.wantedTriggerIntents greetingSpec).run.run
      greetingWorld = (.ok (some [.str "greet"]), w) := ⟨_, rfl⟩
  obtain ⟨p, hs⟩ := exists_of_isOk (show (Funnel.decideWithin nameRoom greetingSpec fun spec =>
    (Pipeline.ofSpec spec greetingService.defaultEnv (firstIntentQueryFor spec
      (some [.str "greet"]))).mapError .compile).isOk = true by decide +kernel)
  obtain ⟨e, kept, d, he, hp, hends, hr⟩ := explain_agrees (m := ⟨.collecting, fun _ _ => true⟩)
    rfl hc rfl ht hs
  have hmatch : ((greetingService.explain greetingSpec greeting).run.run
      greetingWorld).1.toOption.all Explanation.isMatch = true := by decide +kernel
  rw [he] at hmatch
  rw [if_pos (show e.isMatch = true from hmatch)] at hr
  exact ⟨w, p, e, kept, d, hc, rfl, ht, hs, he, hp, hends, hr⟩

end DialogueQuery
