import DialogueQuery.Proofs.Filter.Stored
import DialogueQuery.Proofs.Service.Failures

/-! A service answers one request after another. Every request makes the calls that
it has to make, each of them once, and a call that fails ends it. -/

namespace DialogueQuery

inductive Request where
  | query (spec : FilterSpec)
  | report (spec : FilterSpec)
  /-- The conversation is given by its members. -/
  | explain (spec : FilterSpec) (conversation : Members)
  | find (project conversation sender : Document)
  | intents (project : Document)

inductive Answer where
  | page (p : ConversationPage)
  | report (r : FunnelReport)
  | explanation (e : Explanation)
  | conversation (d : Document)
  | intents (names : List Document)

def Request.run (s : Service) : Request → Action Answer
  | query spec => do return .page (← s.query spec)
  | report spec => do return .report (← s.report spec)
  | explain spec members => do return .explanation (← s.explain spec (.obj members))
  | find project conversation sender => do
    return .conversation (← s.find project conversation sender)
  | intents project => do return .intents (← s.intents project)

namespace Service

/-- The call for the trigger intents, if exactly one way of starting is wanted. -/
def lookups (s : Service) (spec : FilterSpec) : List Call :=
  if spec.userInitiated.getD false ≠ spec.triggered.getD false then
    [.findOne s.projects.collection [("_id", .str spec.projectId)]
      (some [("triggerIntents", .int 1)])]
  else []

/-- The call that runs a pipeline, if there is one. -/
def aggregations (s : Service) (pipeline : Except Failure Pipeline) : List Call :=
  match pipeline with
  | .ok p => [.aggregate s.conversations.collection p s.conversations.allowDiskUse]
  | .error _ => []

/-- What comes of asking for the trigger intents. -/
def provided (s : Service) (spec : FilterSpec) (w : World) :
    Except Failure (Option (List Document)) :=
  ((s.wantedTriggerIntents spec).run.run w).1

end Service

/-- The calls of a request: those for its trigger intents, and then the one for its
answer if the trigger intents were provided and the specification compiles. -/
def Request.uses (s : Service) (w : World) : Request → List Call
  | query spec => s.lookups spec ++ s.aggregations (s.provided spec w >>= s.compile spec)
  | report spec => match Service.funnelOf spec with
    | .ok steps =>
      s.lookups spec ++ s.aggregations (s.provided spec w >>= s.compileReport spec steps)
    | .error _ => []
  | explain spec _ => s.lookups spec
  | find project conversation sender =>
    let key := if sender.isTruthy then ("tracker.sender_id", sender) else ("_id", conversation)
    [.findOne s.conversations.collection [("projectId", project), key] none]
  | intents project => [.distinct s.conversations.collection "intents" [("projectId", project)]]

namespace Service

open DialogueQuery.Action

variable (s : Service) (spec : FilterSpec) (w : World)

theorem drawsFrom_lookups {c : Call} (hc : c ∈ s.lookups spec) (name : String) :
    c.drawsFrom name = false := by
  unfold lookups at hc
  split at hc
  · obtain rfl := List.mem_singleton.mp hc
    rfl
  · cases hc

theorem nodup_uses (p : Except Failure Pipeline) :
    (s.lookups spec ++ s.aggregations p).Nodup := by
  unfold lookups aggregations
  split <;> cases p <;> simp

theorem wantedTriggerIntents_attempts :
    Attempts (s.wantedTriggerIntents spec) w (s.lookups spec) := by
  unfold wantedTriggerIntents lookups FilterSpec.needsTriggerIntents
  simp only [bne_iff_ne]
  split
  · exact (s.projects.triggerIntents_attempts (.str spec.projectId) w).andThen
      fun _ => attempts_pure _
  · exact attempts_pure none w

/-- Trigger intents, pipeline, aggregation: the second call is made if and only if
there is a pipeline to run. -/
theorem compiled_attempts {α : Type} {compile : Option (List Document) → Except Failure Pipeline}
    (hc : ∀ triggers, Blameless (compile triggers)) {k : Pipeline → Action α}
    (hk : ∀ p w₁, Attempts (k p) w₁ (s.aggregations (.ok p))) :
    Attempts (s.compiled spec compile k) w
      (s.lookups spec ++ s.aggregations (s.provided spec w >>= compile)) := by
  refine (s.wantedTriggerIntents_attempts spec w).bind (fun c hc => s.drawsFrom_lookups spec hc)
    (s.nodup_uses spec _) (fun e he => ?_) fun triggers w₁ ht => ?_
  · rw [provided, he]
    rfl
  · rw [provided, ht, ok_bind]
    cases hp : compile triggers with
    | error e =>
      exact (attempts_of_blameless (hp ▸ hc triggers) w₁).after (fun _ _ => rfl)
        fun _ _ h => by cases h
    | ok p => exact hk p w₁

theorem query_attempts : Attempts (s.query spec) w ((Request.query spec).uses s w) := by
  rw [query_eq_compiled]
  refine s.compiled_attempts spec w
    (fun triggers => (s.failsBy_compile spec triggers).ofSpec_blameless) fun p w₁ => ?_
  refine (attempts_log .query .debug _ w₁).after (fun _ h => by cases h) fun _ w₂ _ => ?_
  exact (s.conversations.aggregate_attempts p w₂).andThen fun results =>
    attempts_of_blameless (failsBy_pageOf spec results).ofAnswer_blameless

theorem report_attempts : Attempts (s.report spec) w ((Request.report spec).uses s w) := by
  rw [report_eq_compiled]
  simp only [Request.uses]
  cases hf : funnelOf spec with
  | error e =>
    have hblameless := (hf ▸ failsBy_funnelOf spec).ofSpec_blameless
    exact (attempts_of_blameless hblameless w).after (fun _ _ => rfl) fun _ _ h => by cases h
  | ok steps =>
    refine s.compiled_attempts spec w
      (fun triggers => (s.failsBy_compileReport spec steps triggers).ofSpec_blameless) fun p w₁ => ?_
    exact (s.conversations.aggregate_attempts p w₁).andThen fun groups =>
      attempts_of_blameless (failsBy_reportOf steps groups).ofAnswer_blameless

theorem explain_attempts (members : Members) :
    Attempts (s.explain spec (.obj members)) w (s.lookups spec) := by
  obtain ⟨stored, hstored, -⟩ := Filter.storedChecks_eq spec s.defaultEnv
    (show (Document.obj members).isObject = true from rfl)
  unfold explain
  rw [hstored]
  refine (attempts_ofFault (.ok stored) w).after (fun _ h => by cases h) fun stored w₁ hrun => ?_
  obtain rfl : w = w₁ := congrArg Prod.snd hrun
  exact (s.wantedTriggerIntents_attempts spec w).andThen fun triggers => attempts_of_blameless
    (failsBy_decideWithin spec (fun spec => Explanation.failsBy_ofStored stored spec triggers _)
      nameRoom).ofSpec_blameless

theorem find_attempts (project conversation sender : Document) :
    Attempts (s.find project conversation sender) w
      ((Request.find project conversation sender).uses s w) := by
  refine (s.conversations.findOne_attempts project conversation sender w).andThen fun found w₁ => ?_
  cases found with
  | some d => exact attempts_pure d w₁
  | none => exact attempts_throw rfl w₁

end Service

theorem Request.run_attempts (r : Request) (s : Service) (w : World) :
    Action.Attempts (r.run s) w (r.uses s w) := by
  have hpure {α : Type} (f : α → Answer) (a : α) := Action.attempts_pure (f a)
  cases r with
  | query spec => exact (s.query_attempts spec w).andThen (hpure .page)
  | report spec => exact (s.report_attempts spec w).andThen (hpure .report)
  | explain spec members => exact (s.explain_attempts spec w members).andThen (hpure .explanation)
  | find project conversation sender =>
    exact (s.find_attempts w project conversation sender).andThen (hpure .conversation)
  | intents project =>
    exact (s.conversations.distinctIntents_attempts project w).andThen (hpure .intents)

/-- A request with its answer, and the world before and after. -/
structure Turn where
  request : Request
  before : World
  answer : Except Failure Answer
  after : World

namespace Service

def turn (s : Service) (w : World) (r : Request) : Turn :=
  ⟨r, w, ((r.run s).run.run w).1, ((r.run s).run.run w).2⟩

/-- Answers requests in turn. -/
def turns (s : Service) (w : World) : List Request → List Turn
  | [] => []
  | r :: rs => s.turn w r :: s.turns (s.turn w r).after rs

def finish (s : Service) (w : World) : List Request → World
  | [] => w
  | r :: rs => s.finish (s.turn w r).after rs

end Service

def Turn.uses (s : Service) (t : Turn) : List Call := t.request.uses s t.before

/-- Over any run, every request makes its calls once, up to the first one that
fails, whose error is the answer; and the calls of the run are those of its
requests, which use up the prepared outcomes one by one. -/
theorem Service.turns_attempt (s : Service) (w : World) (requests : List Request) :
    (∀ t ∈ s.turns w requests, Attempt t.before (t.uses s) t.answer t.after) ∧
      Effect w (s.finish w requests) ((s.turns w requests).flatMap (Turn.uses s)) := by
  induction requests generalizing w with
  | nil => exact ⟨fun _ ht => absurd ht List.not_mem_nil, .refl w⟩
  | cons r rs ih =>
    have hr : Attempt w ((s.turn w r).uses s) (s.turn w r).answer (s.turn w r).after :=
      r.run_attempts s w
    obtain ⟨hturns, heffect⟩ := ih (s.turn w r).after
    rw [turns, finish, List.flatMap_cons]
    refine ⟨fun t ht => ?_, hr.effect.trans heffect⟩
    rcases List.mem_cons.mp ht with rfl | ht
    · exact hr
    · exact hturns t ht

end DialogueQuery
