import DialogueQuery.Http.Route
import DialogueQuery.Http.SpecBody
import DialogueQuery.Service

/-! The operations of the service as responses to requests. -/

namespace DialogueQuery.Http

structure Request where
  method : String
  target : String
  /-- The text of the body, if there is one. -/
  body : String := ""
deriving Repr

namespace Api

def pageDocument (conversations : List Document) (pages : Int) : Document :=
  .obj [("conversations", .arr conversations), ("pages", .int pages)]

def pageResponse (p : ConversationPage) : Response :=
  Response.showing p.conversations fun sent => pageDocument sent p.pages

def conversationResponse : Document → Response
  | .obj members => Response.showing [members] fun sent => sent.headD .null
  | d => Response.ofDocument d

def reportDocument (r : FunnelReport) : Document :=
  .obj [("steps", .arr (r.steps.map fun s => .obj [("step", .str s.1), ("count", .int s.2)])),
    ("total", .int r.total)]

def explanationDocument (e : Explanation) : Document :=
  .obj [("conversation_id", .str e.conversationId),
    ("checks", .obj (e.checks.map fun c => (c.1, .bool c.2))),
    ("funnel_progress", e.progress.elim .null fun n => .int n), ("matches", .bool e.isMatch)]

/-- Intents are texts; any other value among them makes no response. -/
def intentsResponse (intents : List Document) : Response :=
  match Coercion.list Coercion.string (.arr intents) with
  | .ok names => Response.ofDocument (.single "intents" (.ofStrings names))
  | .error _ => Response.internalError

def health : Document :=
  .obj [("status", .str "healthy"), ("service", .str "Conversation Query Engine")]

def uninitialized : Response := Response.detail 500 (.str "Query service not initialized")

def projectMismatch : Response := Response.detail 400 (.str "projectId does not match the path")

def respond (r : Route) (action : Action α) (response : α → Response) : Session Response := do
  match ← action.run with
  | .ok a => return response a
  | .error e => return Response.ofFailure r.expected e

/-- Answers with the specification in the body. A body that cannot be read is
refused first, and any other only after a service is found. -/
def withSpec (service : Option Service) (body : String)
    (answer : Service → FilterSpec → Session Response) : Session Response :=
  match SpecBody.read body with
  | .error e => return e.response
  | .ok d => match service with
    | none => return uninitialized
    | some s => match SpecBody.check d with
      | .error errors => return SpecBody.refusal d errors
      | .ok spec => answer s spec

def withService (service : Option Service) (answer : Service → Session Response) :
    Session Response :=
  match service with
  | none => return uninitialized
  | some s => answer s

def explainConversation (s : Service) (project conversation : String) (spec : FilterSpec) :
    Session Response :=
  if spec.projectId ≠ project then return projectMismatch
  else respond .explain (do s.explain spec (← s.find (.str project) (.str conversation) .null))
    fun e => Response.ofDocument (explanationDocument e)

def handle (service : Option Service) (target : Target) (body : String) :
    Route → List String → Session Response
  | .query, _ => withSpec service body fun s spec =>
    respond .query (s.query spec) pageResponse
  | .report, _ => withSpec service body fun s spec =>
    respond .report (s.report spec) fun r => Response.ofDocument (reportDocument r)
  | .intents, project :: _ => withService service fun s =>
    respond .intents (s.intents (.str project)) intentsResponse
  | .conversation, project :: conversation :: _ => withService service fun s =>
    let sender := (target.parameter? "sender_id").elim Document.null .str
    respond .conversation (s.find (.str project) (.str conversation) sender) conversationResponse
  | .explain, project :: conversation :: _ => withSpec service body fun s spec =>
    explainConversation s project conversation spec
  | .health, _ => return Response.ofDocument health
  | _, _ => return Response.internalError

/-- The response to a request, with the service that runs, if one does. -/
def serve (service : Option Service) (request : Request) : Session Response := do
  let target := Target.ofText request.target
  let response ← match Destination.find request.method target.path with
    | .route r parameters => handle service target request.body r parameters
    | .otherMethod allowed =>
      pure { Response.detail 405 (.str "Method Not Allowed") with allow := some allowed }
    | .redirect path => pure ⟨307, .text "", some (String.ofList (percentEncode path)), none⟩
    | .nowhere => pure (Response.detail 404 (.str "Not Found"))
  return if request.method = "HEAD" then response.bodiless else response

end Api

end DialogueQuery.Http
