import DialogueQuery.Fault
import DialogueQuery.Number.Binary64
import DialogueQuery.Text.CodePoint

/-! Documents: the values that are stored, sent and compiled to. Integers and
binary64 numbers are kept apart and members keep their order. -/

namespace DialogueQuery

inductive Document where
  | null
  | bool (b : Bool)
  | int (n : Int)
  | float (x : Binary64)
  | str (s : String)
  | arr (items : List Document)
  | obj (members : List (String × Document))
  /-- An identifier made by the store, shown as its hexadecimal digits. -/
  | objectId (hex : String)
deriving Repr, Inhabited

abbrev Members := List (String × Document)

namespace Document

/-- Absent, empty and zero values count as false. -/
def isTruthy : Document → Bool
  | null => false
  | bool b => b
  | int n => n != 0
  | float x => !x.isZero
  | str s => s != ""
  | arr items => !items.isEmpty
  | obj members => !members.isEmpty
  | objectId _ => true

def isNull : Document → Bool
  | null => true
  | _ => false

def isObject : Document → Bool
  | obj _ => true
  | _ => false

def text? : Document → Option String
  | str s => some s
  | _ => none

/-- The member of that name, when the value is an object that has it. -/
def member? (name : String) : Document → Option Document
  | obj members => members.lookup name
  | _ => none

/-- The member of that name, null when it is absent. -/
def get (d : Document) (name : String) : Except Fault Document :=
  match d with
  | obj members => .ok ((members.lookup name).getD null)
  | _ => .error .notRecord

/-- A member that has to be there. -/
def getRequired (d : Document) (name : String) : Except Fault Document :=
  match d with
  | obj members => (members.lookup name).elim (.error .missingMember) .ok
  | _ => .error .notCollection

/-- The value, or the other one if it counts as false. -/
def orElse (d other : Document) : Document := if d.isTruthy then d else other

def orEmptyObject (d : Document) : Document := d.orElse (obj [])

def orEmptyArray (d : Document) : Document := d.orElse (arr [])

/-- What enumerating a value yields: the items of an array, the names of an
object, the characters of a text. -/
def elements : Document → Except Fault (List Document)
  | arr items => .ok items
  | obj members => .ok (members.map fun m => str m.1)
  | str s => .ok ((Text.codePoints s).map fun p => str (Text.ofCodePoints [p]))
  | _ => .error .notCollection

def size (d : Document) : Except Fault Nat := d.elements.map List.length

/-- Replaces the member of that name where it stands; a new one goes last. -/
def setMember (name : String) (value : Document) : Members → Members
  | [] => [(name, value)]
  | (k, v) :: rest => if k = name then (k, value) :: rest else (k, v) :: setMember name value rest

def single (name : String) (value : Document) : Document := obj [(name, value)]

def ofStrings (xs : List String) : Document := arr (xs.map str)

/-- The value reached by a path of member names, null when it leads nowhere. -/
def follow (d : Document) (path : List String) : Document :=
  match path with
  | [] => d
  | name :: rest => ((d.member? name).getD null).follow rest

end Document

end DialogueQuery
