import DialogueQuery.Coercion.Defect
import DialogueQuery.Document.Basic
import DialogueQuery.Number.Text
import DialogueQuery.Text.CodePoint

/-! How a value that was sent becomes a value of a field: numbers and truth
values may come as text, whole numbers as binary64 numbers, and dates as counts. -/

namespace DialogueQuery

/-- Turns a value that was sent into one of a field, or lists what is wrong with it. -/
abbrev Coercion (α : Type) := Document → Except (List FieldError) α

namespace Coercion

def refuse (d : Defect) : Except (List FieldError) α := .error [⟨[], d⟩]

def ofOption (d : Defect) (a : Option α) : Except (List FieldError) α := a.elim (refuse d) .ok

def string : Coercion String
  | .str s => .ok s
  | _ => refuse .notString

/-- Only a text without lone halves of surrogate pairs is looked into. -/
def ofText (read : String → Except (List FieldError) α) (s : String) :
    Except (List FieldError) α :=
  if Text.isWellFormed s then read s else refuse .notUnicode

def nonEmptyString : Coercion String := fun d => do
  ofText (fun s => if s = "" then refuse .emptyString else .ok s) (← string d)

def fitsWord64 (n : Int) : Bool := -9223372036854775808 ≤ n && n < 9223372036854775808

/-- A number without a fraction as an integer; its magnitude stays below `2 ^ 63`. -/
def integerOfBinary64 (x : Binary64) : Except (List FieldError) Int :=
  match x.toRat? with
  | none => refuse .notFinite
  | some q =>
    if q.den ≠ 1 then refuse .fraction
    else if q.num.natAbs < 9223372036854775808 then .ok q.num else refuse .oversizedInteger

def integerOfText (s : String) : Except (List FieldError) Int :=
  match Text.integer s with
  | .ok n => .ok n
  | .error .malformed => refuse .unreadableInteger
  | .error .tooLong => refuse .oversizedInteger

def integer : Coercion Int
  | .int n => .ok n
  | .bool b => .ok (if b then 1 else 0)
  | .float x => integerOfBinary64 x
  | .str s => ofText integerOfText s
  | _ => refuse .notInteger

def number : Coercion Binary64
  | .float x => .ok x
  | .int n => match Binary64.ofInt n with
    | .finite s m e => .ok (.finite s m e)
    | _ => refuse .notNumber
  | .bool b => .ok (Binary64.ofInt (if b then 1 else 0))
  | .str s => ofText (fun s => ofOption .unreadableNumber (Text.binary64? s)) s
  | _ => refuse .notNumber

def booleanWords : List (String × Bool) :=
  [("1", true), ("0", false), ("true", true), ("false", false), ("t", true), ("f", false),
    ("yes", true), ("no", false), ("y", true), ("n", false), ("on", true), ("off", false)]

/-- One and zero as truth values; of the other integers a machine word is read. -/
def booleanOfInteger (n : Int) : Except (List FieldError) Bool :=
  if n = 0 then .ok false else if n = 1 then .ok true
  else refuse (if fitsWord64 n then .unreadableBoolean else .notBoolean)

def boolean : Coercion Bool
  | .bool b => .ok b
  | .int n => booleanOfInteger n
  | .float x => match integerOfBinary64 x with
    | .ok n => booleanOfInteger n
    | .error _ => refuse .notBoolean
  | .str s =>
    ofText (fun s => ofOption .unreadableBoolean (booleanWords.lookup (s.map Char.toLower))) s
  | _ => refuse .notBoolean

def ofDateTimeResult : Except DateTime.ReadError DateTime → Except (List FieldError) DateTime
  | .ok t => .ok t
  | .error cause => refuse (.noDateTime cause)

def dateTime : Coercion DateTime
  | .str s => ofText (fun s => ofDateTimeResult (DateTime.ofText s)) s
  | .int n => ofDateTimeResult (DateTime.ofInt n)
  | .float x => ofDateTimeResult (DateTime.ofBinary64 x)
  | _ => refuse (.noDateTime .wrongKind)

/-- The items from position `n` on; the errors of all of them are kept. -/
def items (item : Coercion α) (n : Nat) : List Document → Except (List FieldError) (List α)
  | [] => .ok []
  | d :: rest =>
    match item d, items item (n + 1) rest with
    | .ok a, .ok as => .ok (a :: as)
    | .ok _, .error es => .error es
    | .error es, .ok _ => .error (es.map (FieldError.under (.index n)))
    | .error es, .error more => .error (es.map (FieldError.under (.index n)) ++ more)

def list (item : Coercion α) : Coercion (List α)
  | .arr ds => items item 0 ds
  | _ => refuse .notList

def object : Coercion Members
  | .obj members => .ok members
  | _ => refuse .notObject

def nullable (c : Coercion α) : Coercion (Option α)
  | .null => .ok none
  | d => (c d).map some

end Coercion

end DialogueQuery
