import DialogueQuery.Proofs.Actions
import DialogueQuery.Proofs.Explanation.Checks
import DialogueQuery.Proofs.Filter.Stored
import DialogueQuery.Proofs.Pipeline.Layout

/-! An explanation reports the clauses that a query is compiled with, each one once,
and no others. -/

namespace DialogueQuery

/-- The names of the clauses that are active. -/
def activeNames (clauses : List (String × Bool)) : List String :=
  (clauses.filter Prod.snd).map Prod.fst

theorem mem_activeNames {clauses : List (String × Bool)} {name : String} :
    name ∈ activeNames clauses ↔ (name, true) ∈ clauses := by
  simp [activeNames]

theorem sublist_activeNames (clauses : List (String × Bool)) :
    (activeNames clauses).Sublist (clauses.map Prod.fst) :=
  List.filter_sublist.map Prod.fst

theorem activeNames_append (clauses clauses' : List (String × Bool)) :
    activeNames (clauses ++ clauses') = activeNames clauses ++ activeNames clauses' := by
  simp only [activeNames, List.filter_append, List.map_append]

theorem map_optional {α β : Type} {f : α → β} {g : β → String} {name : String}
    (hname : ∀ a, g (f a) = name) (x : Option α) :
    (x.map f).toList.map g = activeNames [(name, x.isSome)] := by
  cases x with
  | none => rfl
  | some a => exact congrArg (· :: []) (hname a)

theorem map_unlessEmpty {α β : Type} {b : β} {g : β → String} {name : String} (hname : g b = name)
    (xs : List α) :
    (if xs.isEmpty then [] else [b]).map g = activeNames [(name, !xs.isEmpty)] := by
  cases xs with
  | nil => rfl
  | cons _ _ => exact congrArg (· :: []) hname

def Condition.name (c : Condition) : String := c.toMember.1

theorem Query.names_all (cs : List Condition) :
    (Query.all cs).toDocument.names = cs.map Condition.name := by
  rw [toDocument, Document.names]
  induction cs with
  | nil => rfl
  | cons c cs ih => rw [Condition.toMembers, List.map_cons, ih, List.map_cons, Condition.name]

namespace Filter

variable {spec : FilterSpec} {defaultEnv : Option String}

/-- The names in a stored query are those of the filters that the specification sets. -/
theorem names_storedQuery {stored : Query} (h : storedQuery spec defaultEnv = .ok stored) :
    stored.toDocument.names = activeNames [("projectId", true), ("status", !spec.status.isEmpty),
      ("env", (nonEmpty spec.env).isSome), ("$or", spec.hasConfidence),
      ("$and", (dateRange? spec).isSome), ("userId", (nonEmpty spec.userId).isSome)] := by
  obtain ⟨confidence, hconfidence, h⟩ := bind_eq_ok.mp h
  cases h
  have hstatus := map_unlessEmpty (g := Condition.name)
    (b := .passes ["status"] [.isIn (spec.status.map .str)]) rfl spec.status
  have henv := map_optional (g := Condition.name) (f := envCondition defaultEnv)
    (fun env => by unfold envCondition; split <;> rfl) (nonEmpty spec.env)
  have hor := map_optional (g := Condition.name)
    (f := fun bound => .anyOf (confidenceQueries bound.1 bound.2)) (fun _ => rfl) confidence
  have hand := map_optional (g := Condition.name)
    (f := fun range => .allOf (dateRangeQueries range.1 range.2)) (fun _ => rfl) (dateRange? spec)
  have huser := map_optional (g := Condition.name)
    (f := fun id => .equals ["userId"] (.str id)) (fun _ => rfl) (nonEmpty spec.userId)
  rw [Query.names_all, ← isSome_of_confidenceBound? hconfidence]
  simp only [List.map_cons, List.map_append, hstatus, henv, hor, hand, huser, List.cons_append,
    ← activeNames_append]
  rfl

theorem names_optional {α : Type} {name : String} {x : Option α} {value : Except Fault Document}
    {p : α → Document → Bool} {checks : Checks}
    (h : x.elim (.ok []) (fun a => value.map fun d => [(name, p a d)]) = .ok checks) :
    checks.map Prod.fst = activeNames [(name, x.isSome)] := by
  cases x with
  | none =>
    cases h
    rfl
  | some a =>
    obtain ⟨d, -, rfl⟩ := map_eq_ok.mp h
    rfl

theorem names_storedChecks {c : Document} {checks : Checks}
    (h : storedChecks spec defaultEnv c = .ok checks) :
    checks.map Prod.fst = activeNames [("status", !spec.status.isEmpty),
      ("env", (nonEmpty spec.env).isSome), ("userId", (nonEmpty spec.userId).isSome)] := by
  obtain ⟨status, hstatus, env, henv, user, huser, rfl⟩ : ∃ status,
      status.map Prod.fst = activeNames [("status", !spec.status.isEmpty)] ∧
      ∃ env, (nonEmpty spec.env).elim (.ok []) (fun env => (c.get "env").map fun d =>
        [("env", envCheck defaultEnv env d)]) = .ok env ∧
      ∃ user, (nonEmpty spec.userId).elim (.ok []) (fun id => (c.get "userId").map fun d =>
        [("userId", d.equal (.str id))]) = .ok user ∧ checks = status ++ env ++ user := by
    unfold storedChecks at h
    cases hs : spec.status with
    | nil =>
      rw [hs] at h
      obtain ⟨status, hstatus, h⟩ := bind_eq_ok.mp h
      obtain ⟨env, henv, h⟩ := bind_eq_ok.mp h
      obtain ⟨user, huser, h⟩ := bind_eq_ok.mp h
      cases hstatus
      exact ⟨[], rfl, env, henv, user, huser, (Except.ok.inj h).symm⟩
    | cons _ _ =>
      rw [hs] at h
      obtain ⟨status, hstatus, h⟩ := bind_eq_ok.mp h
      obtain ⟨env, henv, h⟩ := bind_eq_ok.mp h
      obtain ⟨user, huser, h⟩ := bind_eq_ok.mp h
      obtain ⟨d, -, hnames⟩ := map_eq_ok.mp hstatus
      exact ⟨status, by rw [← hnames]; rfl, env, henv, user, huser, (Except.ok.inj h).symm⟩
  rw [List.map_append, List.map_append, hstatus, names_optional henv, names_optional huser,
    ← activeNames_append, ← activeNames_append]
  rfl

theorem lengthStages_ne_nil {stages : Pipeline} (h : lengthStages spec = .ok stages) :
    stages ≠ [] ↔ spec.hasLength = true := by
  obtain ⟨bound, hbound, h⟩ := bind_eq_ok.mp h
  rw [← isSome_of_lengthBound? hbound]
  cases bound with
  | none =>
    cases h
    simp
  | some b =>
    cases h
    simp

theorem firstIntentQuery_ne_any (intents : List Document) :
    (firstIntentQuery intents (spec.userInitiated.getD false)
      (spec.triggered.getD false)).toDocument ≠ .obj [] ↔ spec.needsTriggerIntents = true := by
  unfold FilterSpec.needsTriggerIntents
  cases spec.userInitiated.getD false <;> cases spec.triggered.getD false <;>
    simp [firstIntentQuery, Query.any, Query.toDocument, Condition.toMembers]

/-- A duration is matched from below and from above by the bounds that are positive. -/
theorem mem_durationStages {operator : String} :
    (∃ bound, .single "$match" (.single "difference" (.single operator bound)) ∈
      (durationStages spec).map Stage.toDocument) ↔
    operator = "$gte" ∧ (activeBound spec.minDuration).isSome = true ∨
      operator = "$lte" ∧ (activeBound spec.maxDuration).isSome = true := by
  have hmatch (c : Comparator) (bound : Binary64) : (durationMatch c bound).toDocument =
      .single "$match" (.single "difference" (.single c.operator (.float bound))) := rfl
  have hadd (fields : List (String × Expr)) : (Stage.addFields fields).toDocument =
      .single "$addFields" (.obj (Expr.toMembers fields)) := rfl
  unfold durationStages
  cases activeBound spec.minDuration <;> cases activeBound spec.maxDuration <;>
    simp [hmatch, hadd, Document.single, Comparator.operator, exists_or]

end Filter

namespace Explanation

def clauses (e : Explanation) : List String := e.checks.map Prod.fst

theorem names_clause {α : Type} {name : String} {x : Option α} {check : α → Except Failure Bool}
    {checks : Filter.Checks} (h : clause name x check = .ok checks) :
    checks.map Prod.fst = activeNames [(name, x.isSome)] := by
  cases x with
  | none =>
    cases h
    rfl
  | some a =>
    obtain ⟨b, -, h⟩ := bind_eq_ok.mp h
    cases h
    rfl

theorem names_lengthChecks {spec : FilterSpec} {c : Document} {checks : Filter.Checks}
    (h : lengthChecks spec c = .ok checks) :
    checks.map Prod.fst = activeNames [("length", spec.hasLength)] ∧
      ∃ bound, Filter.lengthBound? spec = .ok bound := by
  obtain ⟨bound, hbound, h⟩ := bind_eq_ok.mp h
  have hbound := mapError_eq_ok.mp hbound
  rw [← Filter.isSome_of_lengthBound? hbound]
  exact ⟨names_clause h, bound, hbound⟩

theorem names_confidenceChecks {spec : FilterSpec} {c : Document} {checks : Filter.Checks}
    (h : confidenceChecks spec c = .ok checks) :
    checks.map Prod.fst = activeNames [("confidence", spec.hasConfidence)] ∧
      ∃ bound, Filter.confidenceBound? spec = .ok bound := by
  obtain ⟨bound, hbound, h⟩ := bind_eq_ok.mp h
  have hbound := mapError_eq_ok.mp hbound
  rw [← Filter.isSome_of_confidenceBound? hbound]
  exact ⟨names_clause h, bound, hbound⟩

theorem names_durationChecks {spec : FilterSpec} {c : Document} {checks : Filter.Checks}
    (h : durationChecks spec c = .ok checks) : checks.map Prod.fst = activeNames
      [("durationLowerBound", (Filter.activeBound spec.minDuration).isSome),
        ("durationUpperBound", (Filter.activeBound spec.maxDuration).isSome)] := by
  obtain ⟨duration, -, h⟩ := bind_eq_ok.mp h
  obtain ⟨low, hlow, h⟩ := bind_eq_ok.mp h
  obtain ⟨high, hhigh, h⟩ := bind_eq_ok.mp h
  cases h
  rw [List.map_append, names_clause hlow, names_clause hhigh, checkedBound_eq_activeBound,
    checkedBound_eq_activeBound, ← activeNames_append]
  rfl

theorem isSome_of_funnelOutcome? {spec : FilterSpec} {c : Document}
    {outcome : Option Funnel.Outcome} (h : funnelOutcome? spec c = .ok outcome) :
    ∃ steps, Funnel.stepsOf spec = .ok steps ∧ outcome.isSome = !steps.isEmpty := by
  obtain ⟨steps, hsteps, h⟩ := bind_eq_ok.mp h
  refine ⟨steps, mapError_eq_ok.mp hsteps, ?_⟩
  cases steps with
  | nil =>
    cases h
    rfl
  | cons _ _ =>
    obtain ⟨o, -, h⟩ := bind_eq_ok.mp h
    cases h
    rfl

/-- The clauses that can be reported, in their order. -/
def clauseNames : List String :=
  ["status", "env", "userId", "firstIntent", "length", "durationLowerBound", "durationUpperBound",
    "confidence", "dateRange", "funnel"]

/-- The clauses, and whether a specification asks for them. -/
def activity (spec : FilterSpec) (steps : List Funnel.Step) : List (String × Bool) :=
  [("status", !spec.status.isEmpty), ("env", (Filter.nonEmpty spec.env).isSome),
    ("userId", (Filter.nonEmpty spec.userId).isSome), ("firstIntent", spec.needsTriggerIntents),
    ("length", spec.hasLength),
    ("durationLowerBound", (Filter.activeBound spec.minDuration).isSome),
    ("durationUpperBound", (Filter.activeBound spec.maxDuration).isSome),
    ("confidence", spec.hasConfidence), ("dateRange", (Filter.dateRange? spec).isSome),
    ("funnel", !steps.isEmpty)]

/-- The clauses of an explanation are those of the active filters, each of them once and in order.
-/
theorem clauses_ofStored {stored : Filter.Checks} {spec : FilterSpec} {defaultEnv : Option String}
    {triggers : Option (List Document)} {c : Document} {e : Explanation}
    (hstored : Filter.storedChecks spec defaultEnv c = .ok stored)
    (ht : triggers.isSome = spec.needsTriggerIntents)
    (h : ofStored stored spec triggers c = .ok e) :
    ∃ confidence length steps, Filter.confidenceBound? spec = .ok confidence ∧
      Filter.lengthBound? spec = .ok length ∧ Funnel.stepsOf spec = .ok steps ∧
      e.clauses = activeNames (activity spec steps) ∧ e.progress.isSome = !steps.isEmpty := by
  obtain ⟨first, hfirst, h⟩ := bind_eq_ok.mp h
  obtain ⟨turns, hturns, h⟩ := bind_eq_ok.mp h
  obtain ⟨durations, hdurations, h⟩ := bind_eq_ok.mp h
  obtain ⟨confidences, hconfidences, h⟩ := bind_eq_ok.mp h
  obtain ⟨dates, hdates, h⟩ := bind_eq_ok.mp h
  obtain ⟨outcome, houtcome, h⟩ := bind_eq_ok.mp h
  obtain ⟨id, -, h⟩ := bind_eq_ok.mp h
  cases h
  obtain ⟨hlengths, length, hlength⟩ := names_lengthChecks hturns
  obtain ⟨hbounds, confidence, hconfidence⟩ := names_confidenceChecks hconfidences
  obtain ⟨steps, hsteps, hsome⟩ := isSome_of_funnelOutcome? houtcome
  have hfunnel : (outcome.map fun o => ("funnel", o.passed)).toList.map Prod.fst =
      activeNames [("funnel", !steps.isEmpty)] := by
    rw [← hsome]
    exact map_optional (f := fun o : Funnel.Outcome => ("funnel", o.passed)) (fun _ => rfl) outcome
  have hfirst := names_clause hfirst
  rw [ht] at hfirst
  refine ⟨confidence, length, steps, hconfidence, hlength, hsteps, ?_, ?_⟩
  · simp only [clauses, List.map_append, Filter.names_storedChecks hstored, hfirst, hlengths,
      names_durationChecks hdurations, hbounds, names_clause hdates, hfunnel, ← activeNames_append]
    rfl
  · rw [Option.isSome_map, hsome]

/-- The explanation reports a clause where what is compiled for the specification
has it: the stored query, the stages of the length and the duration, the query on the
first intent, the stages of the funnel. -/
structure Reports (e : Explanation) (spec : FilterSpec) (query : Query) (turns : Pipeline)
    (steps : List Funnel.Step) : Prop where
  stored (key : String) : key ∈ ["status", "env", "userId"] →
    (key ∈ e.clauses ↔ (query.toDocument.member? key).isSome = true)
  confidence : "confidence" ∈ e.clauses ↔ (query.toDocument.member? "$or").isSome = true
  dateRange : "dateRange" ∈ e.clauses ↔ (query.toDocument.member? "$and").isSome = true
  firstIntent (intents : List Document) : "firstIntent" ∈ e.clauses ↔
    (Filter.firstIntentQuery intents (spec.userInitiated.getD false)
      (spec.triggered.getD false)).toDocument ≠ .obj []
  length : "length" ∈ e.clauses ↔ turns ≠ []
  lowerBound : "durationLowerBound" ∈ e.clauses ↔
    ∃ bound, .single "$match" (.single "difference" (.single "$gte" bound)) ∈
      (Filter.durationStages spec).map Stage.toDocument
  upperBound : "durationUpperBound" ∈ e.clauses ↔
    ∃ bound, .single "$match" (.single "difference" (.single "$lte" bound)) ∈
      (Filter.durationStages spec).map Stage.toDocument
  funnel : "funnel" ∈ e.clauses ↔ Funnel.matchingStages steps ≠ []
  progress : e.progress.isSome = true ↔ Funnel.matchingStages steps ≠ []
  only (key : String) : key ∈ e.clauses → key ∈ clauseNames
  once : e.clauses.Nodup
  isMatch : e.isMatch = true ↔ ∀ check ∈ e.checks, check.2 = true

/-- Clauses that are named for the active filters report the clauses of the compiled stages. -/
theorem reports_of_clauses {e : Explanation} {spec : FilterSpec} {defaultEnv : Option String}
    {query : Query} {turns : Pipeline} {steps : List Funnel.Step}
    (hclauses : e.clauses = activeNames (activity spec steps))
    (hprogress : e.progress.isSome = !steps.isEmpty)
    (hquery : Filter.storedQuery spec defaultEnv = .ok query)
    (hturns : Filter.lengthStages spec = .ok turns) : e.Reports spec query turns steps := by
  have hmem (key : String) : key ∈ e.clauses ↔ (key, true) ∈ activity spec steps := by
    rw [hclauses, mem_activeNames]
  have hnames (key : String) := by
    have hkey := Document.isSome_member? (d := query.toDocument) (n := key)
    rw [Filter.names_storedQuery hquery, mem_activeNames] at hkey
    exact hkey
  have hmatching : Funnel.matchingStages steps ≠ [] ↔ (!steps.isEmpty) = true := by
    cases steps <;> simp [Funnel.matchingStages]
  have hsub : e.clauses.Sublist clauseNames := hclauses ▸ sublist_activeNames (activity spec steps)
  constructor
  case stored =>
    intro key hkey
    simp only [List.mem_cons, List.not_mem_nil, or_false] at hkey
    rw [hmem, hnames]
    rcases hkey with rfl | rfl | rfl <;> simp [activity]
  case only => exact fun key hkey => hsub.subset hkey
  case once => exact hsub.nodup (by decide)
  case firstIntent =>
    intro intents
    rw [hmem, Filter.firstIntentQuery_ne_any]
    simp [activity]
  case confidence =>
    rw [hmem, hnames]
    simp [activity]
  case dateRange =>
    rw [hmem, hnames]
    simp [activity]
  case length =>
    rw [hmem, Filter.lengthStages_ne_nil hturns]
    simp [activity]
  case lowerBound =>
    rw [hmem, Filter.mem_durationStages]
    simp [activity]
  case upperBound =>
    rw [hmem, Filter.mem_durationStages]
    simp [activity]
  case funnel =>
    rw [hmem, hmatching]
    simp [activity]
  case progress => rw [hprogress, hmatching]
  case isMatch => exact List.all_eq_true

end Explanation

/-- What the service explains is reported clause by clause as it would be compiled. -/
theorem Service.explain_reports {s : Service} {spec : FilterSpec} {c : Document} {w w' : World}
    {e : Explanation} (h : (s.explain spec c).run.run w = (.ok e, w')) :
    ∃ query turns steps, Filter.storedQuery spec s.defaultEnv = .ok query ∧
      Filter.lengthStages spec = .ok turns ∧ Funnel.stepsOf spec = .ok steps ∧
      e.Reports spec query turns steps := by
  obtain ⟨stored, w₁, hstored, h⟩ := Action.run_bind_eq_ok.mp h
  obtain ⟨triggers, w₂, ht, h⟩ := Action.run_bind_eq_ok.mp h
  have hstored : Filter.storedChecks spec s.defaultEnv c = .ok stored :=
    mapError_eq_ok.mp (congrArg Prod.fst hstored)
  obtain ⟨-, he⟩ := Funnel.decideWithin_eq_ok.mp (mapError_eq_ok.mp (congrArg Prod.fst h))
  obtain ⟨confidence, length, steps, hconfidence, hlength, hsteps, hclauses, hprogress⟩ :=
    Explanation.clauses_ofStored hstored (isSome_of_wantedTriggerIntents ht) he
  obtain ⟨query, hquery⟩ : ∃ query, Filter.storedQuery spec s.defaultEnv = .ok query :=
    ⟨_, bind_eq_ok.mpr ⟨confidence, hconfidence, rfl⟩⟩
  obtain ⟨turns, hturns⟩ : ∃ turns, Filter.lengthStages spec = .ok turns := by
    rw [Filter.lengthStages, hlength]
    cases length <;> exact ⟨_, rfl⟩
  exact ⟨query, turns, steps, hquery, hturns, hsteps,
    Explanation.reports_of_clauses hclauses hprogress hquery hturns⟩

/-- Bounds that are no numbers or have no end, flags that cancel out, and empty texts. -/
def boundlessSpec : FilterSpec :=
  { projectId := "bf"
    status := ["new"]
    env := some ""
    lengthBound := some 0
    lengthComparison := some "atMost"
    minDuration := some .nan
    maxDuration := some (.infinite false)
    confidenceBound := some (.infinite false)
    confidenceComparison := some "lessThan"
    userId := some ""
    userInitiated := some true
    triggered := some true
    eventFilterOperator := "inOrder"
    eventFilter := [.text "intent: greet"] }

def boundlessService : Service := ⟨{}, {}, some ""⟩

theorem Service.explain_reports_boundless : ∃ e w' query turns steps,
    (boundlessService.explain boundlessSpec (.obj [("status", .str "new")])).run.run
      { script := {}, collections := [] } = (.ok e, w') ∧
    e.clauses = ["status", "durationUpperBound", "confidence", "funnel"] ∧
    Filter.storedQuery boundlessSpec boundlessService.defaultEnv = .ok query ∧
    Filter.lengthStages boundlessSpec = .ok turns ∧ Funnel.stepsOf boundlessSpec = .ok steps ∧
    e.Reports boundlessSpec query turns steps := by
  have hrun : ((boundlessService.explain boundlessSpec (.obj [("status", .str "new")])).run.run
      { script := {}, collections := [] }).1.toOption.any (fun e =>
        e.clauses == ["status", "durationUpperBound", "confidence", "funnel"]) = true := by
    decide +kernel
  rcases he : (boundlessService.explain boundlessSpec (.obj [("status", .str "new")])).run.run
    { script := {}, collections := [] } with ⟨r, w'⟩
  rw [he] at hrun
  obtain ⟨e, rfl, hclauses⟩ := ok_of_any_toOption hrun
  obtain ⟨query, turns, steps, hquery, hturns, hsteps, hreports⟩ := explain_reports he
  exact ⟨e, w', query, turns, steps, rfl, beq_iff_eq.mp hclauses, hquery, hturns, hsteps, hreports⟩

end DialogueQuery
