import DialogueQuery.Text.Bytes

/-! The environment of the program: variables with texts, which the system keeps
as bytes. -/

namespace DialogueQuery

/-- The variables in the order in which they were first set. -/
abbrev Environment := List (String × String)

namespace Environment

inductive Error where
  /-- Its name or its value cannot be kept as bytes. -/
  | unencodable
  /-- A name holds an equals sign, or a text the character that ends texts. -/
  | malformed
  | unnamed
deriving DecidableEq, Repr

/-- Sets a variable; one that is there keeps its place. -/
def put (name value : String) : Environment → Environment
  | [] => [(name, value)]
  | (n, v) :: rest => if n = name then (n, value) :: rest else (n, v) :: put name value rest

def set (environment : Environment) (name value : String) : Except Error Environment :=
  match Text.kept? name, Text.kept? value with
  | some name, some value =>
    let endsText (s : String) := s.toList.contains '\x00'
    if endsText name || endsText value || name.toList.contains '=' then .error .malformed
    else if name = "" then .error .unnamed
    else .ok (put name value environment)
  | _, _ => .error .unencodable

def ofPairs (pairs : List (String × String)) : Except Error Environment :=
  pairs.foldlM (fun environment v => environment.set v.1 v.2) []

end Environment

end DialogueQuery
