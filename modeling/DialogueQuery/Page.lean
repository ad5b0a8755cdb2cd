import DialogueQuery.Aggregation.Stage
import DialogueQuery.Coercion.Checked
import DialogueQuery.Document.Arithmetic
import DialogueQuery.FilterSpec.Basic

/-! One page of the matching conversations: their order, the slice that is
asked for together with the total count, and the shape of the answer. -/

namespace DialogueQuery

inductive SortOrder where
  | updatedAscending
  | updatedDescending
deriving DecidableEq, Repr

namespace SortOrder

def all : List SortOrder := [updatedAscending, updatedDescending]

def name : SortOrder → String
  | updatedAscending => "updatedAt_ASC"
  | updatedDescending => "updatedAt_DESC"

/-- Only the exact name of an order asks for it. -/
def ofDocument? : Document → Option SortOrder
  | .str s => all.find? fun o => o.name == s
  | _ => none

def key : SortOrder → String × Int
  | updatedAscending => ("updatedAt", 1)
  | updatedDescending => ("updatedAt", -1)

end SortOrder

namespace Page

/-- The keys to sort by. The identifier goes last, so that no order leaves two
conversations undecided. -/
def sortKeys (order : Option SortOrder) : List (String × Int) :=
  (order.map SortOrder.key).toList ++ [("_id", 1)]

def sortStage (sort : Document) : Stage := .sort (sortKeys (SortOrder.ofDocument? sort))

def totalName : String := "numberOfDocuments"

/-- The page number, not above the page size; one when the size is unbounded. -/
def boundedNumber (page pageSize : Int) : Int :=
  min (if unboundedPageSize < pageSize then pageSize else 1) page

/-- The slices of one page: what is skipped, and the page size unless it is unbounded. -/
def slices (page pageSize : Int) : List Slice :=
  if pageSize = unboundedPageSize then [.skip (.int 0)]
  else [.skip (.int ((boundedNumber page pageSize - 1) * pageSize)), .limit (.int pageSize)]

/-- A page given by its slices, and the number of all conversations. -/
def facetOf (slices : List Slice) : Stage :=
  .facet [("conversations", slices), ("pages", [.count totalName])]

def facetStage (page pageSize : Int) : Stage := facetOf (slices page pageSize)

def boundedNumberOf (page pageSize : Document) : Except Fault Document := do
  let upper := if ← (Document.int unboundedPageSize).holds .below pageSize then pageSize else .int 1
  upper.minimum page

def facetStageOf (page pageSize : Document) : Except Fault Stage :=
  if pageSize.equal (.int unboundedPageSize) then .ok (facetOf [.skip (.int 0)])
  else do
    let skip ← (← (← boundedNumberOf page pageSize).minus (.int 1)).times pageSize
    return facetOf [.skip skip, .limit pageSize]

end Page

/-- The answer to a query. -/
structure ConversationPage where
  conversations : List Members
  pages : Int
deriving Repr

/-- An answer that is not one: an operation failed, or the parts do not fit. -/
inductive PageError where
  | fault (f : Fault)
  | invalid (errors : List FieldError)
deriving Repr

namespace ConversationPage

def empty : ConversationPage := ⟨[], 0⟩

/-- The parts of a page, both checked. -/
def ofParts (conversations pages : Document) : Except PageError ConversationPage :=
  let checked := ConversationPage.mk
    <$> Checked.ofExcept "conversations" (Coercion.list Coercion.object conversations)
    <*> Checked.ofExcept "pages" (Coercion.integer pages)
  checked.toExcept.mapError .invalid

/-- The first element of a value that counts as true. -/
def firstElement : Document → Except Fault Document
  | .arr (d :: _) => .ok d
  | .str s => .ok (.str (Text.ofCodePoints ((Text.codePoints s).take 1)))
  | .obj _ => .error .missingMember
  | _ => .error .notCollection

/-- The total of the count facet; without one, the number of conversations at hand. -/
def totalOf (facet conversations : Document) : Except Fault Document := do
  let counts := (← facet.get "pages").orEmptyArray
  if counts.isTruthy then (← firstElement counts).getRequired Page.totalName
  else return .int (← conversations.size)

def pageCount (total pageSize : Document) : Except Fault Document := do
  (← (← total.negate).quotient pageSize).negate

/-- Shapes the result of a facet. Without conversations the count is not read,
and an unbounded page is one page. -/
def ofResults (results pageSize : Document) : Except PageError ConversationPage := do
  let lift {α : Type} (a : Except Fault α) : Except PageError α := a.mapError .fault
  let facet ← lift (if results.isTruthy then firstElement results else .ok (.obj []))
  let conversations := (← lift (facet.get "conversations")).orEmptyArray
  if !conversations.isTruthy then return .empty
  else if pageSize.equal (.int unboundedPageSize) then ofParts conversations (.int 1)
  else
    let total ← lift (totalOf facet conversations)
    ofParts conversations (← lift (pageCount total pageSize))

end ConversationPage

end DialogueQuery
