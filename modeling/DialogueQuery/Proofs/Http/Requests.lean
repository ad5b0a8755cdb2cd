import DialogueQuery.Proofs.FilterSpec.Entries
import DialogueQuery.Proofs.Http.Operations
import DialogueQuery.Proofs.Http.Refusals
import DialogueQuery.Proofs.Http.Routes

/-! What a request to a route of the conversations asks for: it is turned down before
anything is done, or the result of its operation is what the route answers with. -/

namespace DialogueQuery.Http

open Operation

namespace Response

theorem ofFailure_named {expected : List Failure.Kind} {e : Failure} {kind : Failure.Kind}
    {text : String} (hn : e.named? = some (kind, text)) (hk : kind ∈ expected) :
    ofFailure expected e =
      if Text.isWellFormed text then saying (statusOf kind) text else internalError := by
  simp only [ofFailure, hn, if_pos hk]
  cases h : Text.isWellFormed text with
  | false => exact detail_of_unsendable _ h
  | true => exact detail_eq_saying _ h

theorem ofFailure_unnamed {expected : List Failure.Kind} {e : Failure} (hn : e.named? = none) :
    ofFailure expected e = internalError := by
  simp only [ofFailure, hn]

theorem status_ofDocument (d : Document) : (ofDocument d).status ≠ 404 := by
  unfold ofDocument json
  split <;> simp [internalError]

end Response

namespace SpecBody

def spec (body : String) : Except Response FilterSpec :=
  match read body with
  | .error e => .error e.response
  | .ok d => (check d).mapError (refusal d)

theorem spec_of_unread {body : String} {e : ReadError} (h : read body = .error e) :
    spec body = .error e.response := by
  rw [spec, h]

theorem spec_of_rejected {body : String} {d : Option Document} {errors : List FieldError}
    (hd : read body = .ok d) (h : check d = .error errors) :
    spec body = .error (refusal d errors) := by
  rw [spec, hd]
  simp only [h, mapError_error]

theorem isIdFree_of_read {body : String} {d : Document} (h : read body = .ok (some d)) :
    d.isIdFree = true := by
  unfold read at h
  split at h
  · cases h
  · split at h
    · cases h
    · obtain ⟨d', hd, hsome⟩ := map_eq_ok.mp (mapError_eq_ok.mp h)
      cases hsome
      exact Document.Reader.isIdFree_of_read hd

/-- What is sent holds no identifiers made by a store. -/
theorem isIdFree_of_spec {body : String} {filter : FilterSpec} (h : spec body = .ok filter) :
    filter.IsIdFree := by
  cases hd : read body with
  | error e =>
    rw [spec_of_unread hd] at h
    cases h
  | ok d =>
    rw [spec, hd] at h
    have hcheck : check d = .ok filter := mapError_eq_ok.mp h
    cases d with
    | none => cases hcheck
    | some d =>
      have hfree := isIdFree_of_read hd
      cases d with
      | obj members => exact FilterSpec.isIdFree_of_ofDocument hfree hcheck
      | _ => cases hcheck

theorem status_of_spec {body : String} {response : Response} (h : spec body = .error response) :
    response.status ≠ 404 := by
  cases hd : read body with
  | error e =>
    obtain rfl := Except.error.inj ((spec_of_unread hd).symm.trans h)
    rcases status_response e with he | he <;> simp [he]
  | ok d =>
    cases hc : check d with
    | error errors =>
      obtain rfl := Except.error.inj ((spec_of_rejected hd hc).symm.trans h)
      rw [refusal_of_check hc]
      split <;> simp [Response.internalError]
    | ok spec =>
      rw [SpecBody.spec, hd] at h
      simp [hc] at h

end SpecBody

theorem Api.uninitialized_eq : uninitialized = Response.saying 500 "Query service not initialized" :=
  Response.detail_eq_saying 500 (Text.isWellFormed_ofList rfl)

theorem Api.projectMismatch_eq :
    projectMismatch = Response.saying 400 "projectId does not match the path" :=
  Response.detail_eq_saying 400 (Text.isWellFormed_ofList rfl)

def Route.takesSpec (r : Route) : Bool := r == .query || r == .report || r == .explain

/-- What a request asks of a service that runs, or the response that turns it down. -/
def Operation.asked (target : Target) (body : String) :
    Route → List String → Except Response Operation
  | .query, _ => (SpecBody.spec body).map .query
  | .report, _ => (SpecBody.spec body).map .report
  | .intents, project :: _ => .ok (.intents project)
  | .conversation, project :: conversation :: _ =>
    .ok (.fetch project conversation ((target.parameter? "sender_id").elim .null .str))
  | .explain, project :: conversation :: _ => do
    let spec ← SpecBody.spec body
    if spec.projectId ≠ project then .error Api.projectMismatch
    else .ok (.explain project conversation spec)
  | _, _ => .error Response.internalError

theorem Operation.route_of_asked {target : Target} {body : String} {r : Route}
    {parameters : List String} {op : Operation} (h : asked target body r parameters = .ok op) :
    op.route = r := by
  cases r with
  | query =>
    obtain ⟨spec, -, rfl⟩ := map_eq_ok.mp h
    rfl
  | report =>
    obtain ⟨spec, -, rfl⟩ := map_eq_ok.mp h
    rfl
  | intents =>
    cases parameters <;> cases h
    rfl
  | conversation =>
    match parameters with
    | [] | [_] => cases h
    | project :: conversation :: rest =>
      cases h
      rfl
  | explain =>
    match parameters with
    | [] | [_] => cases h
    | project :: conversation :: rest =>
      obtain ⟨spec, -, h⟩ := bind_eq_ok.mp h
      split at h <;> cases h
      rfl
  | health => cases h

theorem Operation.asked_of_refused {body : String} {refusal : Response}
    (h : SpecBody.spec body = .error refusal) {r : Route} (hr : r.takesSpec = true)
    {parameters : List String} (hl : parameters.length = r.segments.count .parameter)
    (target : Target) : asked target body r parameters = .error refusal := by
  cases r with
  | query => rw [asked, h, Except.map]
  | report => rw [asked, h, Except.map]
  | explain =>
    match parameters with
    | [project, conversation] => rw [asked, h, error_bind]
  | _ => cases hr

theorem Operation.exists_asked {body : String} {r : Route} (hr : r ≠ .health)
    {parameters : List String} (hl : parameters.length = r.segments.count .parameter)
    (hb : r.takesSpec = true → ∃ spec, SpecBody.spec body = .ok spec ∧
      (r = .explain → parameters.head? = some spec.projectId)) (target : Target) :
    ∃ op, asked target body r parameters = .ok op := by
  cases r with
  | query =>
    obtain ⟨spec, hspec, -⟩ := hb rfl
    exact ⟨.query spec, by rw [asked, hspec, Except.map]⟩
  | report =>
    obtain ⟨spec, hspec, -⟩ := hb rfl
    exact ⟨.report spec, by rw [asked, hspec, Except.map]⟩
  | intents =>
    match parameters with
    | [project] => exact ⟨_, rfl⟩
  | conversation =>
    match parameters with
    | [project, conversation] => exact ⟨_, rfl⟩
  | explain =>
    match parameters with
    | [project, conversation] =>
      obtain ⟨spec, hspec, hproject⟩ := hb rfl
      have heq : spec.projectId = project := (Option.some.inj (hproject rfl)).symm
      exact ⟨.explain project conversation spec, by simp [asked, hspec, heq]⟩
  | health => exact absurd rfl hr

theorem Operation.asked_of_mismatch {body : String} {spec : FilterSpec}
    (h : SpecBody.spec body = .ok spec) {project : String} (hp : spec.projectId ≠ project)
    (conversation : String) (target : Target) :
    asked target body .explain [project, conversation] = .error Api.projectMismatch := by
  rw [asked, h, ok_bind, if_pos hp]

theorem Operation.status_of_asked {target : Target} {body project conversation : String}
    {refusal : Response}
    (h : asked target body .explain [project, conversation] = .error refusal) :
    refusal.status ≠ 404 := by
  rw [asked] at h
  cases hs : SpecBody.spec body with
  | error response =>
    rw [hs] at h
    cases h
    exact SpecBody.status_of_spec hs
  | ok spec =>
    rw [hs, ok_bind] at h
    split at h <;> cases h
    rw [Api.projectMismatch_eq]
    simp [Response.saying]

theorem Operation.explain_of_asked {target : Target} {body project conversation : String}
    {op : Operation} (h : asked target body .explain [project, conversation] = .ok op) :
    ∃ spec, op = .explain project conversation spec := by
  obtain ⟨spec, -, h⟩ := bind_eq_ok.mp h
  split at h <;> cases h
  exact ⟨spec, rfl⟩

theorem Operation.spec_of_asked {target : Target} {body : String} {r : Route}
    {parameters : List String} {op : Operation} (h : asked target body r parameters = .ok op)
    {filter : FilterSpec} (hs : op.spec? = some filter) : SpecBody.spec body = .ok filter := by
  obtain rfl := route_of_asked h
  cases op with
  | query spec | report spec =>
    obtain ⟨spec, hspec, hop⟩ := map_eq_ok.mp h
    cases hop
    cases hs
    exact hspec
  | explain project conversation spec =>
    rcases parameters with _ | ⟨_, _ | ⟨_, rest⟩⟩
    · cases h
    · cases h
    · obtain ⟨spec, hspec, h⟩ := bind_eq_ok.mp h
      split at h <;> cases h
      cases hs
      exact hspec
  | _ => cases hs

/-- The lookup of an operation asks for a text that stands in the target. -/
theorem Operation.who?_of_asked {target : Target} {body : String} {r : Route}
    {parameters : List String} {op : Operation} (h : asked target body r parameters = .ok op)
    {who : Document} (hw : op.who? = some who) :
    ∃ t, who = .str t ∧ (t ∈ parameters ∨ target.parameter? "sender_id" = some t) := by
  have hroute := route_of_asked h
  cases op with
  | fetch project conversation sender =>
    obtain rfl : Route.conversation = r := hroute
    rcases parameters with _ | ⟨_, _ | ⟨_, rest⟩⟩
    · cases h
    · cases h
    · cases h
      cases hw
      cases hs : target.parameter? "sender_id" with
      | none => exact ⟨conversation, rfl, .inl (by simp)⟩
      | some t =>
        by_cases ht : t = ""
        · exact ⟨conversation, by simp [Document.orElse, Document.isTruthy, ht], .inl (by simp)⟩
        · exact ⟨t, by simp [Document.orElse, Document.isTruthy, ht], .inr rfl⟩
  | explain project conversation spec =>
    obtain rfl : Route.explain = r := hroute
    rcases parameters with _ | ⟨_, _ | ⟨_, rest⟩⟩
    · cases h
    · cases h
    · obtain ⟨spec, -, h⟩ := bind_eq_ok.mp h
      split at h <;> cases h
      cases hw
      exact ⟨conversation, rfl, .inl (by simp)⟩
  | _ => cases hw

/-- The answer to an operation that a route asked for. -/
def Route.conclude (r : Route) : Except Failure Response × World → Response × World
  | (.ok response, w) => (response, w)
  | (.error e, w) => (Response.ofFailure r.expected e, w)

section

variable (r : Route) {result : Except Failure Response × World}

theorem Route.conclude_world : (r.conclude result).2 = result.2 := by
  rcases result with ⟨_ | _, _⟩ <;> rfl

theorem Route.conclude_ok {answer : Response} (h : result.1 = .ok answer) :
    (r.conclude result).1 = answer := by
  obtain ⟨_, w⟩ := result
  subst h
  rfl

theorem Route.conclude_error {e : Failure} (h : result.1 = .error e) :
    (r.conclude result).1 = Response.ofFailure r.expected e := by
  obtain ⟨_, w⟩ := result
  subst h
  rfl

end

namespace Api

theorem run_respond {α : Type} (r : Route) (action : Action α) (response : α → Response)
    (w : World) : (respond r action response).run w =
      r.conclude ((do return response (← action) : Action Response).run.run w) := by
  rw [Action.run_return]
  unfold respond
  rw [StateT.run_bind]
  rcases action.run.run w with ⟨e | a, w'⟩ <;> rfl

theorem run_withSpec (s : Service) (body : String)
    (answer : Service → FilterSpec → Session Response) (w : World) :
    (withSpec (some s) body answer).run w = match SpecBody.spec body with
      | .error refusal => (refusal, w)
      | .ok spec => (answer s spec).run w := by
  unfold withSpec SpecBody.spec
  cases SpecBody.read body with
  | error e => rfl
  | ok d =>
    cases hc : SpecBody.check d with
    | error errors => simp only [hc]; rfl
    | ok spec => simp only [hc]; rfl

theorem run_handle (s : Service) (target : Target) (body : String) {r : Route} (hr : r ≠ .health)
    (parameters : List String) (w : World) : (handle (some s) target body r parameters).run w =
      match asked target body r parameters with
      | .error refusal => (refusal, w)
      | .ok op => r.conclude ((op.run s).run.run w) := by
  cases r with
  | query =>
    rw [handle, run_withSpec, asked]
    cases SpecBody.spec body with
    | error refusal => rfl
    | ok spec => exact run_respond .query (s.query spec) pageResponse w
  | report =>
    rw [handle, run_withSpec, asked]
    cases SpecBody.spec body with
    | error refusal => rfl
    | ok spec =>
      exact run_respond .report (s.report spec) (fun r => Response.ofDocument (reportDocument r)) w
  | intents =>
    cases parameters with
    | nil => rfl
    | cons project rest => exact run_respond .intents (s.intents (.str project)) intentsResponse w
  | conversation =>
    match parameters with
    | [] => rfl
    | [project] => rfl
    | project :: conversation :: rest => exact run_respond .conversation _ conversationResponse w
  | explain =>
    match parameters with
    | [] => rfl
    | [project] => rfl
    | project :: conversation :: rest =>
      rw [handle, run_withSpec, asked]
      cases SpecBody.spec body with
      | error refusal => rfl
      | ok spec =>
        rw [ok_bind]
        by_cases hp : spec.projectId ≠ project
        · simp only [explainConversation, if_pos hp]
          rfl
        · simp only [explainConversation, if_neg hp]
          rw [run_respond, bind_assoc]
          rfl
  | health => exact absurd rfl hr

theorem run_serve {service : Option Service} {request : Request} {r : Route}
    {parameters : List String}
    (hd : Destination.find request.method (Target.ofText request.target).path =
      .route r parameters) (w : World) :
    (serve service request).run w =
      (handle service (Target.ofText request.target) request.body r parameters).run w := by
  have hmethod : request.method ≠ "HEAD" := by
    rw [← (Destination.find_route hd).1]
    cases r <;> decide
  unfold serve
  simp only [hd, if_neg hmethod, bind_pure]

end Api

/-- The answer of a route while no service runs. -/
def Route.idleAnswer (r : Route) (body : String) : Response :=
  match r.takesSpec, SpecBody.read body with
  | true, .error e => e.response
  | _, _ => Api.uninitialized

theorem Route.idleAnswer_of_unread {r : Route} (hr : r.takesSpec = true) {body : String}
    {e : SpecBody.ReadError} (h : SpecBody.read body = .error e) :
    r.idleAnswer body = e.response := by
  rw [idleAnswer, hr, h]

theorem Route.idleAnswer_of_read {r : Route} {body : String}
    (h : r.takesSpec = true → ∃ d, SpecBody.read body = .ok d) :
    r.idleAnswer body = Api.uninitialized := by
  unfold idleAnswer
  split
  · next hr he =>
    obtain ⟨d, hd⟩ := h hr
    rw [hd] at he
    cases he
  · rfl

theorem Api.run_handle_none (target : Target) (body : String) {r : Route} (hr : r ≠ .health)
    {parameters : List String} (hl : parameters.length = r.segments.count .parameter) (w : World) :
    (handle none target body r parameters).run w = (r.idleAnswer body, w) := by
  have hspec (answer : Service → FilterSpec → Session Response) :
      (withSpec none body answer).run w = (Route.query.idleAnswer body, w) := by
    unfold withSpec Route.idleAnswer
    cases SpecBody.read body <;> rfl
  cases r with
  | query => rw [handle, hspec]
  | report =>
    rw [handle, hspec]
    rfl
  | intents =>
    match parameters with
    | [project] => rfl
  | conversation =>
    match parameters with
    | [project, conversation] => rfl
  | explain =>
    match parameters with
    | [project, conversation] =>
      rw [handle, hspec]
      rfl
  | health => exact absurd rfl hr

end DialogueQuery.Http
