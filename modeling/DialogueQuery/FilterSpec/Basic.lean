import DialogueQuery.Calendar.Text
import DialogueQuery.Document.Basic

/-! The filter specification of a query: which conversations of one project
are wanted, in which order, and which page of them. -/

namespace DialogueQuery

/-- One entry of an event filter, as it was sent. -/
inductive Entry where
  | text (s : String)
  | form (members : Members)
deriving Repr, Inhabited

def Entry.toDocument : Entry → Document
  | text s => .str s
  | form members => .obj members

structure FilterSpec where
  projectId : String
  page : Int := 1
  pageSize : Int := 20
  status : List String := []
  sort : Option String := none
  env : Option String := some "development"
  /-- Bound on the number of user turns after the opening one. -/
  lengthBound : Option Int := none
  lengthComparison : Option String := none
  /-- Bounds on the duration in seconds. -/
  minDuration : Option Binary64 := none
  maxDuration : Option Binary64 := none
  confidenceBound : Option Binary64 := none
  confidenceComparison : Option String := none
  startDate : Option DateTime := none
  endDate : Option DateTime := none
  userId : Option String := none
  eventFilterOperator : String := "or"
  eventFilter : List Entry := []
  userInitiated : Option Bool := none
  triggered : Option Bool := none
deriving Repr

/-- The page size that asks for all conversations on one page. -/
def unboundedPageSize : Int := -1

namespace FilterSpec

def isUnbounded (spec : FilterSpec) : Bool := spec.pageSize == unboundedPageSize

/-- Only this operator makes the event filter a funnel. -/
def isInOrder (spec : FilterSpec) : Bool := spec.eventFilterOperator == "inOrder"

/-- The fields of a specification, in the order in which they are checked. -/
inductive Field where
  | projectId
  | page
  | pageSize
  | status
  | sort
  | env
  | lengthBound
  | lengthComparison
  | minDuration
  | maxDuration
  | confidenceBound
  | confidenceComparison
  | startDate
  | endDate
  | userId
  | eventFilterOperator
  | eventFilter
  | userInitiated
  | triggered
deriving DecidableEq, Repr

namespace Field

def all : List Field :=
  [projectId, page, pageSize, status, sort, env, lengthBound, lengthComparison, minDuration,
    maxDuration, confidenceBound, confidenceComparison, startDate, endDate, userId,
    eventFilterOperator, eventFilter, userInitiated, triggered]

def wireName : Field → String
  | projectId => "projectId"
  | page => "page"
  | pageSize => "pageSize"
  | status => "status"
  | sort => "sort"
  | env => "env"
  | lengthBound => "lengthFilter"
  | lengthComparison => "xThanLength"
  | minDuration => "durationFilterLowerBound"
  | maxDuration => "durationFilterUpperBound"
  | confidenceBound => "confidenceFilter"
  | confidenceComparison => "xThanConfidence"
  | startDate => "startDate"
  | endDate => "endDate"
  | userId => "userId"
  | eventFilterOperator => "eventFilterOperator"
  | eventFilter => "eventFilter"
  | userInitiated => "userInitiatedConversations"
  | triggered => "triggeredConversations"

/-- The other name under which a field may be sent. -/
def name : Field → String
  | projectId => "project_id"
  | page => "page"
  | pageSize => "page_size"
  | status => "status"
  | sort => "sort"
  | env => "env"
  | lengthBound => "length_filter"
  | lengthComparison => "x_than_length"
  | minDuration => "duration_filter_lower_bound"
  | maxDuration => "duration_filter_upper_bound"
  | confidenceBound => "confidence_filter"
  | confidenceComparison => "x_than_confidence"
  | startDate => "start_date"
  | endDate => "end_date"
  | userId => "user_id"
  | eventFilterOperator => "event_filter_operator"
  | eventFilter => "event_filter"
  | userInitiated => "user_initiated_conversations"
  | triggered => "triggered_conversations"

/-- The key under which a field was sent, and its value; the wire name goes first. -/
def find (f : Field) (members : Members) : Option (String × Document) :=
  match members.lookup f.wireName with
  | some d => some (f.wireName, d)
  | none => (members.lookup f.name).map fun d => (f.name, d)

end Field

def ofOption (f : α → Document) : Option α → Document
  | none => .null
  | some a => f a

/-- The value of a field as it may be sent: dates in their written form, null
for what is not given. -/
def value (spec : FilterSpec) : Field → Document
  | .projectId => .str spec.projectId
  | .page => .int spec.page
  | .pageSize => .int spec.pageSize
  | .status => .ofStrings spec.status
  | .sort => ofOption .str spec.sort
  | .env => ofOption .str spec.env
  | .lengthBound => ofOption .int spec.lengthBound
  | .lengthComparison => ofOption .str spec.lengthComparison
  | .minDuration => ofOption .float spec.minDuration
  | .maxDuration => ofOption .float spec.maxDuration
  | .confidenceBound => ofOption .float spec.confidenceBound
  | .confidenceComparison => ofOption .str spec.confidenceComparison
  | .startDate => ofOption (fun t => .str t.isoFormat) spec.startDate
  | .endDate => ofOption (fun t => .str t.isoFormat) spec.endDate
  | .userId => ofOption .str spec.userId
  | .eventFilterOperator => .str spec.eventFilterOperator
  | .eventFilter => .arr (spec.eventFilter.map Entry.toDocument)
  | .userInitiated => ofOption .bool spec.userInitiated
  | .triggered => ofOption .bool spec.triggered

/-- The bound on the confidence takes part in the query: it is positive and
has a comparison. -/
def hasConfidence (spec : FilterSpec) : Bool :=
  spec.confidenceComparison.any (· != "") && spec.confidenceBound.any Binary64.isPositive

def hasLength (spec : FilterSpec) : Bool :=
  spec.lengthComparison.any (· != "") && spec.lengthBound.any (0 < ·)

/-- Exactly one of the two ways in which a conversation starts is wanted. -/
def needsTriggerIntents (spec : FilterSpec) : Bool :=
  spec.userInitiated.getD false != spec.triggered.getD false

end FilterSpec

end DialogueQuery
