import DialogueQuery.Document.Reader
import DialogueQuery.FilterSpec.Validation
import DialogueQuery.Http.Response
import DialogueQuery.Text.Utf16
import DialogueQuery.Text.Utf8

/-! The body of a request that sends a filter specification. It arrives as
UTF-8, but zero bytes near its start have it read in wider units. -/

namespace DialogueQuery.Http.SpecBody

def byteOrderMark : Char := '\ufeff'

inductive Encoding where
  | utf8
  | utf16 (order : Text.ByteOrder)
  | utf32 (order : Text.ByteOrder)
deriving DecidableEq, Repr

/-- A JSON text begins with ASCII characters, so the zeros among its first
bytes tell its encoding. -/
def Encoding.ofBytes : List Nat → Encoding
  | 0 :: b :: _ :: _ :: _ => if b = 0 then utf32 .bigEndian else utf16 .bigEndian
  | _ :: 0 :: c :: d :: _ =>
    if c = 0 ∧ d = 0 then utf32 .littleEndian else utf16 .littleEndian
  | [0, _] => utf16 .bigEndian
  | [_, 0] => utf16 .littleEndian
  | _ => utf8

def decode (body : String) : Option String :=
  let cs := Text.chars body
  let bytes := cs.flatMap Text.Utf8.encodeChar
  match Encoding.ofBytes bytes with
  | .utf8 => some (Text.ofChars (if cs.head? = some byteOrderMark then cs.drop 1 else cs))
  | .utf16 order => (Text.Utf16.decode order bytes).map Text.ofCodePoints
  | .utf32 order => (Text.Utf32.decode order bytes).map Text.ofCodePoints

inductive ReadError where
  /-- It is no JSON text from this position on. -/
  | malformed (position : Nat)
  /-- It cannot be decoded, or is beyond the bounds of what is read. -/
  | unreadable
deriving DecidableEq, Repr

def ReadError.ofReader : Document.Reader.ReadError → ReadError
  | .malformed position => malformed position
  | .tooDeep => unreadable
  | .tooManyDigits => unreadable

/-- How deeply the arrays and objects of a body may be nested. It was measured: of a
thousand nested calls, these are left for the levels of the body. -/
def deepestNesting : Nat := 968

/-- The document in a body; an empty body has none. -/
def read (body : String) : Except ReadError (Option Document) :=
  if body = "" then .ok none
  else match decode body with
    | none => .error .unreadable
    | some s => ((Document.Reader.read deepestNesting s).map some).mapError ReadError.ofReader

def ReadError.response : ReadError → Response
  | malformed position => Response.refused [⟨[.index position], .malformedBody⟩]
  | unreadable => Response.detail 400 (.str "There was an error parsing the body")

/-- The specification in a document. -/
def check (d : Option Document) : Except (List FieldError) FilterSpec :=
  match d.getD .null with
  | .null => .error [⟨[], .missing⟩]
  | .obj members => FilterSpec.ofDocument (.obj members)
  | _ => .error [⟨[], .noBodyObject⟩]

/-- The value that an error is about: what its path leads to, as far as it leads. -/
def subject (d : Document) : List PathStep → Document
  | [] => d
  | .key name :: rest => match d.member? name with
    | some value => subject value rest
    | none => d
  | .index n :: rest => match d with
    | .arr items => match items[n]? with
      | some value => subject value rest
      | none => d
    | d => d

/-- How deeply a value may be nested to be shown in a response. It was measured like
`deepestNesting`, where the calls are those that write the value. -/
def deepestShown : Nat := 965

/-- A value that a response can show: JSON expresses it, and it is not nested too deeply. -/
def isShown (d : Document) : Bool := d.isJson && d.depth ≤ deepestShown

/-- The response to a refused body. It shows the values at fault, if it can. -/
def refusal (d : Option Document) (errors : List FieldError) : Response :=
  if errors.all fun e => isShown (subject (d.getD .null) e.path) then Response.refused errors
  else Response.internalError

end DialogueQuery.Http.SpecBody
