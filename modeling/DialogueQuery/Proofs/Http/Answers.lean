import DialogueQuery.Proofs.Http.Requests

/-! How the requests to the routes of the conversations are answered, whatever the
store does. -/

namespace DialogueQuery

theorem Failure.eq_notFound {e : Failure} {text : String}
    (h : e.named? = some (.notFound, text)) : ∃ who, e = .notFound who := by
  unfold named? at h
  split at h <;> cases h
  exact ⟨_, rfl⟩

namespace Http

open Operation

/-- How an operation that is performed is answered. A failure with a name is one that
the route expects, and it decides the status; its text is the detail if it can be sent.
The texts about conversations and funnels always can. -/
structure Concludes (s : Service) (op : Operation) (w : World) (response : Response)
    (w' : World) : Prop where
  effect : Effect w w' (op.uses s w)
  yielded {answer : Response} : ((op.run s).run.run w).1 = .ok answer → response = answer
  named {e : Failure} {kind : Failure.Kind} {text : String} :
    ((op.run s).run.run w).1 = .error e → e.named? = some (kind, text) →
      kind ∈ op.route.expected ∧ response = if Text.isWellFormed text
        then Response.saying (Response.statusOf kind) text else Response.internalError
  comparison {e : UnsupportedComparison} {text : String} :
    ((op.run s).run.run w).1 = .error (.compile (.comparison e)) →
      text = "Comparison with " ++ e.name.display ++ " not supported" →
      response = if Text.isWellFormed text then Response.saying 400 text
        else Response.internalError
  store {attempt : String} {cause : Breakdown} {text : String} :
    ((op.run s).run.run w).1 = .error (.store attempt cause) →
      text = attempt ++ ": " ++ cause.message →
      response = if Text.isWellFormed text then Response.saying 503 text
        else Response.internalError
  notFound {who : Document} : ((op.run s).run.run w).1 = .error (.notFound who) →
    response = Response.saying 404 ("Conversation not found: " ++ who.display)
  funnel {e : Funnel.SpecError} : ((op.run s).run.run w).1 = .error (.compile (.funnel e)) →
    response = Response.saying 400 e.message
  unnamed {e : Failure} : ((op.run s).run.run w).1 = .error e → e.named? = none →
    response = Response.internalError
  /-- Nothing is aggregated but the pipeline that the specification compiles to. -/
  aggregated {c : Call} {name : String} : c ∈ op.uses s w → c.drawsFrom name = true →
    ∃ p, op.pipeline? s w = some (.ok p) ∧
      c = .aggregate s.conversations.collection p s.conversations.allowDiskUse
  uncompiled {e : CompileError} : ((op.run s).run.run w).1 = .error (.compile e) →
    ∀ c ∈ op.uses s w, ∀ name, c.drawsFrom name = false

theorem isWellFormed_notFoundMessage {t : String} (h : Text.isWellFormed t = true) :
    Text.isWellFormed (Failure.notFoundMessage (.str t)) = true :=
  (Text.isWellFormed_append (.ofList rfl) t).trans h

/-- What the failures of an operation show came with a request. -/
structure Operation.IsSent (op : Operation) : Prop where
  who {d : Document} : op.who? = some d → ∃ t, d = .str t ∧ Text.isWellFormed t = true
  spec {filter : FilterSpec} : op.spec? = some filter → filter.IsIdFree

/-- Every operation that is sent concludes in one of the ways in which it may. -/
theorem concludes_conclude {s : Service} {op : Operation} {w : World} (hop : op.IsSent) :
    Concludes s op w (op.route.conclude ((op.run s).run.run w)).1
      (op.route.conclude ((op.run s).run.run w)).2 := by
  have hnamed {e : Failure} {kind : Failure.Kind} {text : String}
      (he : ((op.run s).run.run w).1 = .error e) (hn : e.named? = some (kind, text)) :
      kind ∈ op.route.expected := op.run_raises_expected s w e he kind text hn
  constructor
  · rw [op.route.conclude_world]
    exact (op.run_attempts s w).effect
  · intro answer hr
    exact op.route.conclude_ok hr
  · intro e kind text hr hn
    rw [op.route.conclude_error hr]
    exact ⟨hnamed hr hn, Response.ofFailure_named hn (hnamed hr hn)⟩
  · rintro e _ hr rfl
    rw [op.route.conclude_error hr]
    exact Response.ofFailure_named rfl (hnamed hr rfl)
  · rintro attempt cause _ hr rfl
    rw [op.route.conclude_error hr]
    exact Response.ofFailure_named rfl (hnamed hr rfl)
  · intro who hr
    obtain ⟨t, rfl, ht⟩ := hop.who (who?_of_notFound hr)
    rw [op.route.conclude_error hr, Response.ofFailure_named rfl (hnamed hr rfl),
      if_pos (isWellFormed_notFoundMessage ht)]
    rfl
  · intro e hr
    have hsayable : Text.isWellFormed e.message = true :=
      run_raises_sayable (fun _ hs => hop.spec hs) s w _ hr e rfl
    rw [op.route.conclude_error hr, Response.ofFailure_named rfl (hnamed hr rfl), if_pos hsayable]
    rfl
  · intro e hr hn
    rw [op.route.conclude_error hr, Response.ofFailure_unnamed hn]
  · intro c name hc hd
    exact exists_pipeline_of_drawsFrom hc hd
  · intro e hr c hc name
    exact drawsFrom_of_error hr hc name

/-- The lookup of an explanation is made, and it finds nothing without failing. -/
structure LooksInVain (s : Service) (project conversation : String) (w w' : World) : Prop where
  made : ∃ calls, Effect w w' calls ∧ lookup s project conversation ∈ calls
  allowed : w.failureOf (lookup s project conversation) = none
  nothing : s.conversations.found w (.str project) (.str conversation) .null = none

/-- How a request to a route of the conversations is answered. What is turned down
leaves the world as it is, and every other request has its operation performed. -/
structure Answers (service : Option Service) (request : Request) (r : Route)
    (parameters : List String) (w : World) (response : Response) (w' : World) : Prop where
  unread {e : SpecBody.ReadError} : r.takesSpec = true → SpecBody.read request.body = .error e →
    w' = w ∧ response = e.response
  uninstalled : service = none → (r.takesSpec = true → ∃ d, SpecBody.read request.body = .ok d) →
    w' = w ∧ response = Response.saying 500 "Query service not initialized"
  rejected {s : Service} {d : Option Document} {errors : List FieldError} : service = some s →
    r.takesSpec = true → SpecBody.read request.body = .ok d → SpecBody.check d = .error errors →
      w' = w ∧ response = if SpecBody.areShown d errors
        then ⟨422, .json (Response.errorsShown errors), none, none⟩ else Response.internalError
  mismatched {s : Service} {spec : FilterSpec} {project conversation : String} :
    service = some s → r = .explain → parameters = [project, conversation] →
      SpecBody.spec request.body = .ok spec → spec.projectId ≠ project →
        w' = w ∧ response = Response.saying 400 "projectId does not match the path"
  performed {s : Service} : service = some s →
    (r.takesSpec = true → ∃ spec, SpecBody.spec request.body = .ok spec ∧
      (r = .explain → parameters.head? = some spec.projectId)) →
        ∃ op, asked (Target.ofText request.target) request.body r parameters = .ok op ∧
          op.route = r ∧ Concludes s op w response w'
  /-- Only an explanation that finds nothing is answered by 404, and nothing else is
  called for then. -/
  missing {project conversation : String} : r = .explain → parameters = [project, conversation] →
    (response.status = 404 ↔
      ∃ s, service = some s ∧ LooksInVain s project conversation w w') ∧
    (response.status = 404 → ∃ s, service = some s ∧
      Effect w w' [lookup s project conversation])

theorem Response.kind_of_status {kind : Failure.Kind} {text : String}
    (h : (if Text.isWellFormed text then saying (statusOf kind) text
      else internalError).status = 404) : kind = .notFound := by
  split at h
  · cases kind <;> simp [saying, statusOf] at h ⊢
  · simp [internalError] at h

theorem exists_ofDocument_of_explain {s : Service} {project conversation : String}
    {spec : FilterSpec} {w : World} {answer : Response}
    (h : (((explain project conversation spec).run s).run.run w).1 = .ok answer) :
    ∃ d, answer = Response.ofDocument d := by
  obtain ⟨c, w₁, -, h⟩ := Action.run_bind_eq_ok.mp (Prod.ext h rfl)
  rw [Action.run_return] at h
  obtain ⟨e, -, rfl⟩ := map_eq_ok.mp (congrArg Prod.fst h)
  exact ⟨_, rfl⟩

theorem Concludes.status_explain_iff {s : Service} {project conversation : String}
    {spec : FilterSpec} {w w' : World} {response : Response}
    (h : Concludes s (.explain project conversation spec) w response w') :
    response.status = 404 ↔ ((s.find (.str project) (.str conversation) .null).run.run w).1 =
      .error (.notFound (.str conversation)) := by
  rw [← explain_notFound_iff]
  constructor
  · intro hstatus
    cases hr : (((explain project conversation spec).run s).run.run w).1 with
    | ok answer =>
      obtain ⟨d, rfl⟩ := exists_ofDocument_of_explain hr
      rw [h.yielded hr] at hstatus
      exact absurd hstatus (Response.status_ofDocument d)
    | error e =>
      cases hn : e.named? with
      | none => simp [h.unnamed hr hn, Response.internalError] at hstatus
      | some named =>
        obtain ⟨kind, text⟩ := named
        rw [(h.named hr hn).2] at hstatus
        obtain rfl := Response.kind_of_status hstatus
        obtain ⟨who, rfl⟩ := Failure.eq_notFound hn
        rw [Option.some.inj (who?_of_notFound hr)]
  · intro he
    rw [h.notFound he]
    rfl

theorem Concludes.missing {s : Service} {project conversation : String} {spec : FilterSpec}
    {w w' : World} {response : Response}
    (h : Concludes s (.explain project conversation spec) w response w') :
    (response.status = 404 ↔ LooksInVain s project conversation w w') ∧
      (response.status = 404 → Effect w w' [lookup s project conversation]) := by
  rw [h.status_explain_iff]
  refine ⟨⟨fun hf => ?_, fun hv => ?_⟩, fun hf => ?_⟩
  · obtain ⟨hallowed, hnothing, -⟩ := Service.find_notFound_iff.mp hf
    exact ⟨⟨_, h.effect, List.mem_cons_self⟩, hallowed, hnothing⟩
  · exact Service.find_notFound_iff.mpr ⟨hv.allowed, hv.nothing, rfl⟩
  · have heffect := h.effect
    rw [uses, hf] at heffect
    exact heffect

section

variable {s : Service} {request : Request} {r : Route} {parameters : List String} {w w' : World}

theorem answers_none (r : Route) (parameters : List String) (w : World) :
    Answers none request r parameters w (r.idleAnswer request.body) w := by
  constructor
  · intro e hr he
    exact ⟨rfl, Route.idleAnswer_of_unread hr he⟩
  · intro _ hb
    exact ⟨rfl, (Route.idleAnswer_of_read hb).trans Api.uninitialized_eq⟩
  · intro s d errors hs
    cases hs
  · intro s spec project conversation hs
    cases hs
  · intro s hs
    cases hs
  · intro project conversation hr hp
    have hstatus : (r.idleAnswer request.body).status ≠ 404 := by
      unfold Route.idleAnswer
      split
      · next e _ _ => rcases SpecBody.status_response e with he | he <;> simp [he]
      · simp [Api.uninitialized_eq, Response.saying]
    refine ⟨⟨fun h => absurd h hstatus, ?_⟩, fun h => absurd h hstatus⟩
    rintro ⟨s, hs, -⟩
    cases hs

theorem answers_of_refused {refusal : Response}
    (h : asked (Target.ofText request.target) request.body r parameters = .error refusal)
    (hr : r ≠ .health) (hl : parameters.length = r.segments.count .parameter) :
    Answers (some s) request r parameters w refusal w := by
  have hrefused {response : Response} (hspec : SpecBody.spec request.body = .error response)
      (ht : r.takesSpec = true) : refusal = response :=
    Except.error.inj (h.symm.trans (asked_of_refused hspec ht hl _))
  constructor
  · intro e ht he
    exact ⟨rfl, hrefused (SpecBody.spec_of_unread he) ht⟩
  · intro hs
    cases hs
  · intro s d errors _ ht hd he
    refine ⟨rfl, ?_⟩
    rw [hrefused (SpecBody.spec_of_rejected hd he) ht, SpecBody.refusal_of_check he]
  · rintro s spec project conversation - rfl rfl hspec hne
    refine ⟨rfl, ?_⟩
    rw [← Api.projectMismatch_eq]
    exact Except.error.inj (h.symm.trans (asked_of_mismatch hspec hne conversation _))
  · intro s _ hb
    obtain ⟨op, hop⟩ := exists_asked hr hl hb (Target.ofText request.target)
    rw [h] at hop
    cases hop
  · rintro project conversation rfl rfl
    have hstatus := status_of_asked h
    refine ⟨⟨fun hf => absurd hf hstatus, ?_⟩, fun hf => absurd hf hstatus⟩
    rintro ⟨s, -, ⟨calls, heffect, hmem⟩, -, -⟩
    obtain rfl : calls = [] := by simpa using heffect.calls_eq
    cases hmem

theorem answers_of_asked {op : Operation} {response : Response}
    (h : asked (Target.ofText request.target) request.body r parameters = .ok op)
    (hl : parameters.length = r.segments.count .parameter) (hc : Concludes s op w response w') :
    Answers (some s) request r parameters w response w' := by
  have haccepted {refusal : Response} (hspec : SpecBody.spec request.body = .error refusal) :
      r.takesSpec ≠ true := by
    intro ht
    rw [asked_of_refused hspec ht hl] at h
    cases h
  constructor
  · intro e ht he
    exact absurd ht (haccepted (SpecBody.spec_of_unread he))
  · intro hs
    cases hs
  · intro s d errors _ ht hd he
    exact absurd ht (haccepted (SpecBody.spec_of_rejected hd he))
  · rintro s spec project conversation - rfl rfl hspec hne
    rw [asked_of_mismatch hspec hne] at h
    cases h
  · rintro s' hs -
    cases hs
    exact ⟨op, h, route_of_asked h, hc⟩
  · rintro project conversation rfl rfl
    obtain ⟨spec, rfl⟩ := explain_of_asked h
    obtain ⟨hiff, heffect⟩ := hc.missing
    refine ⟨hiff.trans ⟨fun hv => ⟨s, rfl, hv⟩, ?_⟩, fun hf => ⟨s, rfl, heffect hf⟩⟩
    rintro ⟨s', hs, hv⟩
    cases hs
    exact hv

end

/-- Every request to a route but the health check is turned down for a reason that can be told, or
performed, and the answer says which. -/
theorem serve_answers {service : Option Service} {request : Request} {r : Route}
    {parameters : List String}
    (hd : Destination.find request.method (Target.ofText request.target).path =
      .route r parameters) (hr : r ≠ .health) (w : World) :
    Answers service request r parameters w ((Api.serve service request).run w).1
      ((Api.serve service request).run w).2 := by
  obtain ⟨hl, hwell⟩ := Route.parameters?_some (Destination.find_route hd).2
  rw [Api.run_serve hd]
  cases service with
  | none =>
    rw [Api.run_handle_none _ _ hr hl]
    exact answers_none r parameters w
  | some s =>
    rw [Api.run_handle s _ _ hr]
    cases ha : asked (Target.ofText request.target) request.body r parameters with
    | error refusal => exact answers_of_refused ha hr hl
    | ok op =>
      have hop : op.IsSent := by
        constructor
        · intro who hw
          obtain ⟨t, rfl, ht⟩ := who?_of_asked ha hw
          refine ⟨t, rfl, ?_⟩
          rcases ht with ht | ht
          · exact hwell t ht
          · exact Target.isWellFormed_parameter ht
        · intro spec hs
          exact SpecBody.isIdFree_of_spec (spec_of_asked ha hs)
      obtain rfl := route_of_asked ha
      exact answers_of_asked ha hl (concludes_conclude hop)

def explainRequest : Request where
  method := "POST"
  target := "/api/v1/conversations/bf/c1/explain"
  body := "\x7b\"projectId\": \"bf\"\x7d"

theorem serve_answers_explainRequest :
    Destination.find explainRequest.method (Target.ofText explainRequest.target).path =
        .route .explain ["bf", "c1"] ∧
      ((Api.serve (some ⟨{}, {}, none⟩) explainRequest).run (World.ofScript {})).1.status = 404 ∧
      Effect (World.ofScript {})
        ((Api.serve (some ⟨{}, {}, none⟩) explainRequest).run (World.ofScript {})).2
        [lookup ⟨{}, {}, none⟩ "bf" "c1"] := by
  have hd : Destination.find explainRequest.method (Target.ofText explainRequest.target).path =
      .route .explain ["bf", "c1"] := by decide +kernel
  have hstatus : ((Api.serve (some ⟨{}, {}, none⟩) explainRequest).run
      (World.ofScript {})).1.status = 404 := by decide +kernel
  refine ⟨hd, hstatus, ?_⟩
  obtain ⟨s, hs, heffect⟩ := ((serve_answers hd nofun (World.ofScript {})).missing rfl rfl).2 hstatus
  cases hs
  exact heffect

/-- A request to compare with half of a code point, which no bytes encode. -/
def unencodableRequest : Request where
  method := "POST"
  target := "/api/v1/conversations/query"
  body := "\x7b\"projectId\": \"bf\", \"xThanConfidence\": \"\\ud800\", \"confidenceFilter\": 0.5\x7d"

/-- The failure has a status of its own, but the text of it cannot be sent. -/
theorem serve_unencodableRequest : ∃ spec e text,
    SpecBody.spec unencodableRequest.body = .ok spec ∧
      ((Service.query ⟨{}, {}, none⟩ spec).run.run (World.ofScript {})).1 = .error e ∧
      e.named? = some (.comparison, text) ∧
      ((Api.serve (some ⟨{}, {}, none⟩) unencodableRequest).run (World.ofScript {})).1.status =
        500 := by
  have hspec : (SpecBody.spec unencodableRequest.body).toOption.any (fun spec =>
      ((((Service.query ⟨{}, {}, none⟩ spec).run.run (World.ofScript {})).1.map fun _ => ()).mapError
        fun e => e.named?.map Prod.fst) = .error (some .comparison)) = true := by decide +kernel
  obtain ⟨spec, hread, hkind⟩ := ok_of_any_toOption hspec
  obtain ⟨e, he, hkind⟩ := mapError_eq_error.mp (of_decide_eq_true hkind)
  obtain ⟨⟨kind, text⟩, hnamed, rfl⟩ := Option.map_eq_some_iff.mp hkind
  exact ⟨spec, e, text, hread, map_eq_error.mp he, hnamed, by decide +kernel⟩

end Http

end DialogueQuery
