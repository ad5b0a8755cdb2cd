import DialogueQuery.Http.Api
import DialogueQuery.Proofs.Service.Kinds
import DialogueQuery.Proofs.Store.Lookups

/-! What the routes have a service do: their operations, with the calls and the
failures of each. A conversation is explained only after it is found. -/

namespace DialogueQuery.Http

/-- What a route asks of a service. -/
inductive Operation where
  | query (spec : FilterSpec)
  | report (spec : FilterSpec)
  | intents (project : String)
  | fetch (project conversation : String) (sender : Document)
  | explain (project conversation : String) (spec : FilterSpec)

namespace Operation

open DialogueQuery.Action

def route : Operation → Route
  | query _ => .query
  | report _ => .report
  | intents _ => .intents
  | fetch .. => .conversation
  | explain .. => .explain

def run (s : Service) : Operation → Action Response
  | query spec => do return Api.pageResponse (← s.query spec)
  | report spec => do return Response.ofDocument (Api.reportDocument (← s.report spec))
  | intents project => do return Api.intentsResponse (← s.intents (.str project))
  | fetch project conversation sender => do
    return Api.conversationResponse (← s.find (.str project) (.str conversation) sender)
  | explain project conversation spec => do
    let c ← s.find (.str project) (.str conversation) .null
    return Response.ofDocument (Api.explanationDocument (← s.explain spec c))

/-- The lookup of a conversation by its identifier. -/
def lookup (s : Service) (project conversation : String) : Call :=
  .findOne s.conversations.collection
    [("projectId", .str project), ("_id", .str conversation)] none

/-- The calls of an operation. An explanation makes none but the lookup if nothing
is found. -/
def uses (s : Service) (w : World) : Operation → List Call
  | query spec => (DialogueQuery.Request.query spec).uses s w
  | report spec => (DialogueQuery.Request.report spec).uses s w
  | intents project => (DialogueQuery.Request.intents (.str project)).uses s w
  | fetch project conversation sender =>
    (DialogueQuery.Request.find (.str project) (.str conversation) sender).uses s w
  | explain project conversation spec =>
    lookup s project conversation ::
      if ((s.find (.str project) (.str conversation) .null).run.run w).1.isOk then s.lookups spec
      else []

def spec? : Operation → Option FilterSpec
  | query spec => some spec
  | report spec => some spec
  | explain _ _ spec => some spec
  | _ => none

def who? : Operation → Option Document
  | fetch _ conversation sender => some (sender.orElse (.str conversation))
  | explain _ conversation _ => some (.str conversation)
  | _ => none

theorem run_raises {P : Failure → Prop} (hP : Failure.Admits P) {op : Operation}
    (hspec : ∀ spec, op.spec? = some spec → ∀ f, f.IsOfSpec spec → P f)
    (hfound : op.who? ≠ none → ∀ who, P (.notFound who)) (s : Service) : Raises P (op.run s) := by
  cases op with
  | query spec =>
    have h : Raises P (s.query spec) := s.query_raises hP (hspec spec rfl)
    exact h.bind fun _ => raises_pure _
  | report spec =>
    have h : Raises P (s.report spec) := s.report_raises hP (hspec spec rfl)
    exact h.bind fun _ => raises_pure _
  | intents project =>
    have h : Raises P (s.intents (.str project)) := s.intents_raises hP (.str project)
    exact h.bind fun _ => raises_pure _
  | fetch project conversation sender =>
    have h : Raises P (s.find (.str project) (.str conversation) sender) :=
      s.find_raises hP (hfound nofun) _ _ sender
    exact h.bind fun _ => raises_pure _
  | explain project conversation spec =>
    have hfind : Raises P (s.find (.str project) (.str conversation) .null) :=
      s.find_raises hP (hfound nofun) _ _ .null
    have h (c : Document) : Raises P (s.explain spec c) := s.explain_raises hP (hspec spec rfl) c
    exact hfind.bind fun c => (h c).bind fun _ => raises_pure _

/-- A route expects all failures with a name that its operation can raise. -/
theorem run_raises_expected (op : Operation) (s : Service) :
    Raises (Failure.IsAmong op.route.expected) (op.run s) := by
  refine run_raises (Failure.admits_isAmong ?_) (fun spec hs f hf => ?_) (fun hw who => ?_) s
  · cases op <;> simp [route, Route.expected]
  · refine hf.isAmong ?_
    cases op <;> simp_all [spec?, route, Route.expected]
  · intro kind text hn
    cases hn
    cases op <;> simp_all [who?, route, Route.expected]

theorem run_raises_sayable {op : Operation} (h : ∀ spec, op.spec? = some spec → spec.IsIdFree)
    (s : Service) : Raises Failure.IsSayable (op.run s) :=
  run_raises Failure.admits_isSayable (fun spec hs _ hf => hf.isSayable (h spec hs))
    (fun _ _ => nofun) s

theorem explanation_attempts (s : Service) (w : World) (project conversation : String)
    (spec : FilterSpec) : Attempts (do
      s.explain spec (← s.find (.str project) (.str conversation) .null)) w
      ((explain project conversation spec).uses s w) := by
  have hfind : Attempts (s.find (.str project) (.str conversation) .null) w
      [lookup s project conversation] := s.find_attempts w (.str project) (.str conversation) .null
  have hnodup (found : Bool) : ([lookup s project conversation] ++
      if found then s.lookups spec else []).Nodup := by
    unfold Service.lookups lookup
    by_cases hs : spec.userInitiated.getD false = spec.triggered.getD false <;>
      cases found <;> simp [hs]
  change Attempts _ w ([lookup s project conversation] ++ _)
  refine hfind.bind (fun c hc name => ?_) (hnodup _) (fun e he => ?_) fun d w₁ hr => ?_
  · obtain rfl := List.mem_singleton.mp hc
    rfl
  · rw [he]
    rfl
  · rw [hr]
    obtain ⟨members, rfl⟩ := Service.exists_members_of_find (congrArg Prod.fst hr)
    exact s.explain_attempts spec w₁ members

/-- An operation makes its calls in order, up to the first one that fails. -/
theorem run_attempts (op : Operation) (s : Service) (w : World) :
    Attempts (op.run s) w (op.uses s w) := by
  cases op with
  | query spec => exact (s.query_attempts spec w).andThen fun _ => attempts_pure _
  | report spec => exact (s.report_attempts spec w).andThen fun _ => attempts_pure _
  | intents project =>
    exact (s.conversations.distinctIntents_attempts (.str project) w).andThen fun _ =>
      attempts_pure _
  | fetch project conversation sender =>
    exact (s.find_attempts w (.str project) (.str conversation) sender).andThen fun _ =>
      attempts_pure _
  | explain project conversation spec =>
    have h := (explanation_attempts s w project conversation spec).andThen fun e =>
      attempts_pure (Response.ofDocument (Api.explanationDocument e))
    rwa [bind_assoc] at h

def pipeline? (s : Service) (w : World) : Operation → Option (Except Failure Pipeline)
  | query spec => some (s.provided spec w >>= s.compile spec)
  | report spec => some (do
    let steps ← Service.funnelOf spec
    s.provided spec w >>= s.compileReport spec steps)
  | _ => none

/-- What draws from a collection is the aggregation of a pipeline that was compiled. -/
theorem exists_pipeline_of_drawsFrom {op : Operation} {s : Service} {w : World} {c : Call}
    (hc : c ∈ op.uses s w) {name : String} (hd : c.drawsFrom name = true) :
    ∃ p, op.pipeline? s w = some (.ok p) ∧
      c = .aggregate s.conversations.collection p s.conversations.allowDiskUse := by
  have hlookups {spec : FilterSpec} (hc : c ∈ s.lookups spec) : False := by
    rw [s.drawsFrom_lookups spec hc name] at hd
    cases hd
  have haggregations {r : Except Failure Pipeline} (hc : c ∈ s.aggregations r) :
      ∃ p, r = .ok p ∧
        c = .aggregate s.conversations.collection p s.conversations.allowDiskUse := by
    cases r with
    | error e => cases hc
    | ok p => exact ⟨p, rfl, List.mem_singleton.mp hc⟩
  cases op with
  | query spec =>
    rcases List.mem_append.mp hc with hc | hc
    · exact (hlookups hc).elim
    · obtain ⟨p, hp, hcall⟩ := haggregations hc
      exact ⟨p, congrArg some hp, hcall⟩
  | report spec =>
    simp only [uses, Request.uses] at hc
    cases hf : Service.funnelOf spec with
    | error e =>
      rw [hf] at hc
      cases hc
    | ok steps =>
      rw [hf] at hc
      rcases List.mem_append.mp hc with hc | hc
      · exact (hlookups hc).elim
      · obtain ⟨p, hp, hcall⟩ := haggregations hc
        exact ⟨p, by rw [pipeline?, hf, ok_bind, hp], hcall⟩
  | intents project =>
    obtain rfl := List.mem_singleton.mp hc
    cases hd
  | fetch project conversation sender =>
    obtain rfl := List.mem_singleton.mp hc
    cases hd
  | explain project conversation spec =>
    rcases List.mem_cons.mp hc with rfl | hc
    · cases hd
    · split at hc
      · exact (hlookups hc).elim
      · cases hc

/-- Nothing is aggregated for a specification that does not compile. -/
theorem drawsFrom_of_error {op : Operation} {s : Service} {w : World} {e : CompileError}
    (he : ((op.run s).run.run w).1 = .error (.compile e)) {c : Call} (hc : c ∈ op.uses s w)
    (name : String) : c.drawsFrom name = false := by
  have hlookups {spec : FilterSpec} (hc : c ∈ s.lookups spec) : c.drawsFrom name = false :=
    s.drawsFrom_lookups spec hc name
  cases op with
  | query spec =>
    rw [uses, s.query_uses_of_error spec (error_of_return he)] at hc
    exact hlookups hc
  | report spec => exact hlookups (s.report_uses_of_error spec (error_of_return he) hc)
  | intents project =>
    obtain rfl := List.mem_singleton.mp hc
    rfl
  | fetch project conversation sender =>
    obtain rfl := List.mem_singleton.mp hc
    rfl
  | explain project conversation spec =>
    rcases List.mem_cons.mp hc with rfl | hc
    · rfl
    · split at hc
      · exact hlookups hc
      · cases hc

theorem explain_notFound_iff {s : Service} {project conversation : String} {spec : FilterSpec}
    {who : Document} {w : World} :
    (((explain project conversation spec).run s).run.run w).1 = .error (.notFound who) ↔
      ((s.find (.str project) (.str conversation) .null).run.run w).1 = .error (.notFound who) := by
  rw [run, run_bind]
  rcases (s.find (.str project) (.str conversation) .null).run.run w with ⟨e | c, w₁⟩
  · simp
  · have hraises : Raises (Failure.IsAmong [.comparison, .funnel, .store]) (s.explain spec c) :=
      s.explain_raises (Failure.admits_isAmong (by decide)) (fun _ hf => hf.isAmong (by decide)) c
    refine ⟨fun he => ?_, fun he => by cases he⟩
    exact absurd (hraises w₁ _ (error_of_return he) _ _ rfl) (by decide)

theorem who?_of_notFound {op : Operation} {s : Service} {w : World} {who : Document}
    (he : ((op.run s).run.run w).1 = .error (.notFound who)) : op.who? = some who := by
  have hexpected : Failure.Kind.notFound ∈ op.route.expected := op.run_raises_expected s w _ he _ _ rfl
  cases op with
  | fetch project conversation sender =>
    obtain ⟨-, -, rfl⟩ := Service.find_notFound_iff.mp (error_of_return he)
    rfl
  | explain project conversation spec =>
    obtain ⟨-, -, rfl⟩ := Service.find_notFound_iff.mp (explain_notFound_iff.mp he)
    rfl
  | _ => simp [route, Route.expected] at hexpected

end Operation

end DialogueQuery.Http
