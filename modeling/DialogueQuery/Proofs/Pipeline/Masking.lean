import DialogueQuery.Proofs.Document.Masking
import DialogueQuery.Proofs.Pipeline.Layout

/-! Text that users send is data in the pipelines of their queries: a specification of
the same form, with other text, has a pipeline of the same view. -/

namespace DialogueQuery

namespace Funnel.Step

/-- All of a step but the text of its names. -/
def form (s : Step) : StepType × Nat × Bool := (s.type, s.names.length, s.excluded)

open Document in
theorem mask_toDocument (s : Step) : s.toDocument.mask .quoted =
    .obj [("event", .str ""), ("names", .arr (List.replicate s.form.2.1 (.str ""))),
      ("excluded", .bool s.form.2.2), ("label", .str "")] := by
  have hnames := mask_ofStrings (show Place.quoted ≠ .expression by decide) s.names
  simp [toDocument, form, mask, maskMembers, Place.under, hnames]

theorem mask_steps {steps steps' : List Step} (h : steps.map form = steps'.map form) :
    Document.maskItems .quoted (steps.map toDocument) =
      Document.maskItems .quoted (steps'.map toDocument) := by
  have hview (steps : List Step) : Document.maskItems .quoted (steps.map toDocument) =
      (steps.map form).map fun f => .obj [("event", .str ""),
        ("names", .arr (List.replicate f.2.1 (.str ""))), ("excluded", .bool f.2.2),
        ("label", .str "")] := by
    rw [Document.maskItems_eq_map, List.map_map, List.map_map]
    exact List.map_congr_left fun s _ => mask_toDocument s
  rw [hview, hview, h]

end Funnel.Step

namespace FilterSpec

/-- Two specifications that differ in text only: in the project, the statuses, the
environment, the user, and the names of the steps. -/
structure SameForm (defaultEnv : Option String) (spec spec' : FilterSpec) : Prop where
  others : spec' = { spec with
    projectId := spec'.projectId
    status := spec'.status
    env := spec'.env
    userId := spec'.userId
    eventFilter := spec'.eventFilter }
  status : spec.status.length = spec'.status.length
  env : (Filter.nonEmpty spec.env).isSome = (Filter.nonEmpty spec'.env).isSome
  defaultEnv : spec.env = defaultEnv ↔ spec'.env = defaultEnv
  userId : (Filter.nonEmpty spec.userId).isSome = (Filter.nonEmpty spec'.userId).isSome
  steps (steps steps' : List Funnel.Step) : Funnel.stepsOf spec = .ok steps →
    Funnel.stepsOf spec' = .ok steps' →
    steps.map Funnel.Step.form = steps'.map Funnel.Step.form

end FilterSpec

namespace Filter

open Document

variable {spec spec' : FilterSpec} {defaultEnv : Option String}

/-- A condition of a query as it is in view. -/
def maskedMember (c : Condition) : String × Document :=
  (c.toMember.1, c.toMember.2.mask (Place.query.under c.toMember.1))

theorem mask_all (cs : List Condition) :
    (Query.all cs).toDocument.mask .query = .obj (cs.map maskedMember) := by
  rw [Query.toDocument, mask]
  congr 1
  induction cs with
  | nil => rfl
  | cons c cs ih => rw [Condition.toMembers, maskMembers, ih, List.map_cons, maskedMember]

theorem mask_status {ss ss' : List String} (h : ss.length = ss'.length) :
    (if ss.isEmpty then [] else [Condition.passes ["status"] [.isIn (ss.map .str)]]).map
        maskedMember =
      (if ss'.isEmpty then [] else [Condition.passes ["status"] [.isIn (ss'.map .str)]]).map
        maskedMember := by
  have hview (ss : List String) : maskedMember (.passes ["status"] [.isIn (ss.map .str)]) =
      ("status", .obj [("$in", .arr (List.replicate ss.length (.str "")))]) := by
    show ("status", Document.obj [("$in", (ofStrings ss).mask .query)]) = _
    rw [mask_ofStrings (by decide)]
  cases ss with
  | nil =>
    cases ss' with
    | nil => rfl
    | cons _ _ => cases h
  | cons t ts =>
    cases ss' with
    | nil => cases h
    | cons t' ts' =>
      refine congrArg (· :: []) ?_
      rw [hview, hview, h]

theorem mask_envCondition {env env' : String}
    (h : some env = defaultEnv ↔ some env' = defaultEnv) :
    maskedMember (envCondition defaultEnv env) = maskedMember (envCondition defaultEnv env') := by
  rw [eq_comm, eq_comm (b := defaultEnv)] at h
  unfold envCondition
  by_cases hd : defaultEnv = some env
  · rw [if_pos hd, if_pos (h.mp hd)]
    rfl
  · rw [if_neg hd, if_neg (mt h.mpr hd)]
    rfl

theorem mask_nonEmpty {s s' : Option String} {f : String → Condition}
    (h : (nonEmpty s).isSome = (nonEmpty s').isSome)
    (hf : ∀ t t', s = some t → s' = some t' → maskedMember (f t) = maskedMember (f t')) :
    ((nonEmpty s).map f).toList.map maskedMember =
      ((nonEmpty s').map f).toList.map maskedMember := by
  cases ht : nonEmpty s with
  | none =>
    cases ht' : nonEmpty s' with
    | none => rfl
    | some _ => simp [ht, ht'] at h
  | some t =>
    cases ht' : nonEmpty s' with
    | none => simp [ht, ht'] at h
    | some t' =>
      have hs : s = some t := (Option.filter_eq_some_iff.mp ht).1
      have hs' : s' = some t' := (Option.filter_eq_some_iff.mp ht').1
      exact congrArg (· :: []) (hf t t' hs hs')

/-- Stored queries of specifications of the same form look the same without their data. -/
theorem mask_storedQuery {stored stored' : Query} (h : spec.SameForm defaultEnv spec')
    (hstored : storedQuery spec defaultEnv = .ok stored)
    (hstored' : storedQuery spec' defaultEnv = .ok stored') :
    stored.toDocument.mask .query = stored'.toDocument.mask .query := by
  have hconfidence : confidenceBound? spec' = confidenceBound? spec := by rw [h.others]; rfl
  have hdates : dateRange? spec' = dateRange? spec := by rw [h.others]; rfl
  obtain ⟨confidence, hc, hstored⟩ := bind_eq_ok.mp hstored
  obtain ⟨confidence', hc', hstored'⟩ := bind_eq_ok.mp hstored'
  cases hstored
  cases hstored'
  rw [hconfidence, hc] at hc'
  cases hc'
  have henv := mask_nonEmpty (f := envCondition defaultEnv) h.env fun env env' he he' => by
    have hdefault := h.defaultEnv
    rw [he, he'] at hdefault
    exact mask_envCondition hdefault
  have huser := mask_nonEmpty (f := fun id => .equals ["userId"] (.str id)) h.userId
    fun _ _ _ _ => rfl
  rw [mask_all, mask_all, hdates]
  simp only [List.map_cons, List.map_append, mask_status h.status, henv, huser]
  rfl

end Filter

namespace Pipeline

open Document

/-- The view of a pipeline: the texts left out are values in the query of its first
match, or quoted. -/
def masked : Pipeline → List Document
  | [] => []
  | .filterBy query :: rest =>
    .single "$match" (query.toDocument.mask .query) ::
      rest.map fun s => s.toDocument.mask .expression
  | s :: rest => s.toDocument.mask .expression :: masked rest

/-- The fields that a stage reads, as it is written. -/
def fieldsOfStage : Document → List String
  | .obj [("$match", query)] => query.queryFields
  | .obj [("$sort", keys)] => keys.names
  | .obj [(_, body)] => body.pathFields
  | _ => []

theorem fieldsOfStage_mask (s : Stage) :
    fieldsOfStage (s.toDocument.mask .expression) = s.reads := by
  cases s with
  | addFields fields => exact pathFields_mask (.obj (Expr.toMembers fields))
  | set fields => exact pathFields_mask (.obj (Expr.toMembers fields))
  | filterBy query => exact queryFields_mask .expression query.toDocument
  | sort keys =>
    show (maskMembers .expression (keys.map fun k => (k.1, .int k.2))).map Prod.fst = _
    rw [names_maskMembers, List.map_map]
    rfl
  | facet outputs => exact pathFields_mask (Stage.facet outputs).body
  | countBy key name => exact pathFields_mask (Stage.countBy key name).body

/-- What the stages read is in view. -/
theorem reads_eq_of_masked (p : Pipeline) : p.map Stage.reads = (masked p).map fieldsOfStage := by
  have hrest (p : Pipeline) : (p.map fun s => s.toDocument.mask .expression).map fieldsOfStage =
      p.map Stage.reads := by
    rw [List.map_map]
    exact List.map_congr_left fun s _ => fieldsOfStage_mask s
  induction p with
  | nil => rfl
  | cons s rest ih =>
    cases s with
    | filterBy query =>
      have hquery := queryFields_mask .query query.toDocument
      rw [masked, List.map_cons, List.map_cons, hrest]
      exact congrArg (· :: _) hquery.symm
    | _ => exact congrArg₂ (· :: ·) (fieldsOfStage_mask _).symm ih

def sequenceStage (steps : List Funnel.Step) : Stage :=
  .addFields [("sequence", .literal (.arr (steps.map Funnel.Step.toDocument))),
    ("eventTypes", .literal (.arr (steps.map fun s => .str s.type.name)))]

section

variable {steps steps' : List Funnel.Step} (h : steps.map Funnel.Step.form =
  steps'.map Funnel.Step.form)
include h

theorem mask_sequenceStage : (sequenceStage steps).toDocument.mask .expression =
    (sequenceStage steps').toDocument.mask .expression := by
  have hview (steps : List Funnel.Step) :
      (sequenceStage steps).toDocument.mask .expression = .single "$addFields" (.obj
        [("sequence", .single "$literal"
            (.arr (maskItems .quoted (steps.map Funnel.Step.toDocument)))),
          ("eventTypes", .single "$literal"
            (.arr (maskItems .quoted (steps.map fun s => .str s.type.name))))]) := rfl
  have htypes (steps : List Funnel.Step) : steps.map (fun s => Document.str s.type.name) =
      (steps.map Funnel.Step.form).map fun f => .str f.1.name := by
    rw [List.map_map]
    rfl
  rw [hview, hview, Funnel.Step.mask_steps h, htypes, htypes, h]

theorem mask_matchingStages :
    (Funnel.matchingStages steps).map (fun s => s.toDocument.mask .expression) =
      (Funnel.matchingStages steps').map fun s => s.toDocument.mask .expression := by
  have hlength : steps.length = steps'.length := by simpa using congrArg List.length h
  have hsequence := mask_sequenceStage h
  cases steps with
  | nil =>
    cases steps' with
    | nil => rfl
    | cons _ _ => cases hlength
  | cons s rest =>
    cases steps' with
    | nil => cases hlength
    | cons s' rest' =>
      refine congrArg₂ List.cons hsequence ?_
      rw [hlength]

end

/-- No text of a specification changes the shape of its pipeline or is evaluated in it. -/
theorem masked_ofSpec {spec spec' : FilterSpec} {defaultEnv : Option String} {firstIntent : Query}
    {p p' : Pipeline} (h : spec.SameForm defaultEnv spec')
    (hp : ofSpec spec defaultEnv firstIntent = .ok p)
    (hp' : ofSpec spec' defaultEnv firstIntent = .ok p') :
    masked p = masked p' ∧ p.map Stage.reads = p'.map Stage.reads := by
  have hview : masked p = masked p' := by
    obtain ⟨stored, length, steps, hstored, hlength, hsteps, rfl⟩ := ofSpec_eq_ok.mp hp
    obtain ⟨stored', length', steps', hstored', hlength', hsteps', rfl⟩ := ofSpec_eq_ok.mp hp'
    have hquery := Filter.mask_storedQuery h hstored hstored'
    have hmatching := mask_matchingStages (h.steps steps steps' hsteps hsteps')
    have hlengths : Filter.lengthStages spec' = Filter.lengthStages spec := by rw [h.others]; rfl
    have hdurations : Filter.durationStages spec' = Filter.durationStages spec := by
      rw [h.others]; rfl
    have hpage : pageStages spec' = pageStages spec := by rw [h.others]; rfl
    rw [hlengths, hlength] at hlength'
    cases hlength'
    have hsplit (query : Query) (rest : Pipeline) :
        masked ([Filter.windowStage, Filter.firstIntentStage, .filterBy query] ++ rest) =
          [Filter.windowStage.toDocument.mask .expression,
            Filter.firstIntentStage.toDocument.mask .expression,
            .single "$match" (query.toDocument.mask .query)] ++
            rest.map fun s => s.toDocument.mask .expression := rfl
    have hselection (stored : Query) :
        (Query.all [.allOf [stored, firstIntent]]).toDocument.mask .query = .single "$and"
          (.arr [stored.toDocument.mask .query, firstIntent.toDocument.mask .query]) := rfl
    simp only [List.append_assoc, hsplit, hselection, List.map_append, hdurations, hpage, hquery,
      hmatching]
  exact ⟨hview, by rw [reads_eq_of_masked, reads_eq_of_masked, hview]⟩

/-- Plain text in every place that a user can write to. -/
def plainSpec : FilterSpec :=
  { projectId := "bf", status := ["new", "read"], env := some "production", userId := some "ada",
    eventFilterOperator := "inOrder",
    eventFilter := [.text "intent: greet",
      .form [("type", .str "action"), ("name", .single "NOT" (.arr [.str "a", .str "b"]))]] }

/-- The same with paths and operators for text. -/
def dollarSpec : FilterSpec :=
  { plainSpec with
    projectId := "$$ROOT", status := ["$status", "$literal"], env := some "$env"
    userId := some "$expr"
    eventFilter := [.text "intent: $$NOW",
      .form [("type", .str "action"), ("name", .single "NOT" (.arr [.str "$or", .str "$_id"]))]] }

theorem masked_ofSpec_dollar : ∃ p p',
    plainSpec.SameForm (some "development") dollarSpec ∧
    ofSpec plainSpec (some "development") .any = .ok p ∧
    ofSpec dollarSpec (some "development") .any = .ok p' ∧
    masked p = masked p' ∧ p.map Stage.reads = p'.map Stage.reads := by
  have hplain : Funnel.stepsOf plainSpec =
      .ok [⟨.intent, ["greet"], false⟩, ⟨.action, ["a", "b"], true⟩] :=
    ok_of_toOption (by decide +kernel)
  have hdollar : Funnel.stepsOf dollarSpec =
      .ok [⟨.intent, ["$$NOW"], false⟩, ⟨.action, ["$or", "$_id"], true⟩] :=
    ok_of_toOption (by decide +kernel)
  have hform : plainSpec.SameForm (some "development") dollarSpec :=
    { others := rfl, status := rfl, env := by decide, defaultEnv := by decide
      userId := by decide
      steps := fun steps steps' h h' => by
        rw [hplain] at h
        rw [hdollar] at h'
        cases h
        cases h'
        rfl }
  obtain ⟨p, hp⟩ := exists_of_isOk (x := ofSpec plainSpec (some "development") .any)
    (by decide +kernel)
  obtain ⟨p', hp'⟩ := exists_of_isOk (x := ofSpec dollarSpec (some "development") .any)
    (by decide +kernel)
  exact ⟨p, p', hform, hp, hp', masked_ofSpec hform hp hp'⟩

end Pipeline

end DialogueQuery
