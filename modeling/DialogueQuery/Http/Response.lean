import DialogueQuery.Document.Writer
import DialogueQuery.Failure

/-! Responses, and the one that a failure leads to. -/

namespace DialogueQuery.Http

inductive Body where
  | json (d : Document)
  | text (s : String)
deriving Repr

structure Response where
  status : Nat
  body : Body
  /-- The path to go to instead. -/
  location : Option String := none
  /-- The method that the path has a route for. -/
  allow : Option String := none
deriving Repr

namespace Response

def internalError : Response := ⟨500, .text "Internal Server Error", none, none⟩

/-- A document is sent if JSON can express it. -/
def json (status : Nat) (d : Document) : Response :=
  if d.isJson then ⟨status, .json d, none, none⟩ else internalError

def detail (status : Nat) (message : Document) : Response := json status (.single "detail" message)

def ofDocument (d : Document) : Response := json 200 d

/-- How deeply the values of a stored document may be nested to be sent. It was
measured: what writes them counts the levels in eight bits. -/
def deepestStored : Nat := 255

/-- A stored document as it is sent: names that no bytes encode are made legible,
and of two that become equal the later one counts. -/
def legibleNames (members : Members) : Members :=
  members.foldl (fun sent m => Document.setMember (Text.legible m.1) m.2 sent) []

/-- A response that shows stored documents. -/
def showing (stored : List Members) (whole : List Document → Document) : Response :=
  let sent := stored.map fun ms => Document.obj (legibleNames ms)
  if sent.all fun d => d.depth ≤ deepestStored then ofDocument (whole sent) else internalError

def ofStep : PathStep → Document
  | .key name => .str name
  | .index n => .int n

def ofFieldError (e : FieldError) : Document :=
  .obj ([("type", .str e.defect.code), ("loc", .arr (e.path.map ofStep))]
    ++ (e.defect.message?.map fun m => ("msg", Document.str m)).toList)

def refused (errors : List FieldError) : Response :=
  detail 422 (.arr ((errors.map (FieldError.under (.key "body"))).map ofFieldError))

def statusOf : Failure.Kind → Nat
  | .comparison => 400
  | .funnel => 400
  | .notFound => 404
  | .store => 503

/-- The response to a failure, where only these kinds of failures are expected. -/
def ofFailure (expected : List Failure.Kind) (e : Failure) : Response :=
  match e.named? with
  | some (kind, text) =>
    if kind ∈ expected then detail (statusOf kind) (.str text) else internalError
  | none => internalError

def bodiless (r : Response) : Response := { r with body := .text "" }

end Response

end DialogueQuery.Http
