import DialogueQuery.Coercion.Checked
import DialogueQuery.FilterSpec.Basic

/-! Checking a specification that was sent: every field is coerced on its own
and the errors of all fields are reported together, in the order of the fields. -/

namespace DialogueQuery

namespace Coercion

/-- A page number counts from one. -/
def pageNumber : Coercion Int := fun d => do
  let n ← integer d
  if n < 1 then refuse .belowOne else return n

/-- A page size is positive, or the one that asks for everything. -/
def pageSize : Coercion Int := fun d => do
  let n ← integer d
  if n ≠ unboundedPageSize ∧ n < 1 then refuse .pageSize else return n

/-- An entry is a text or an object; any other value fails both readings. -/
def entry : Coercion Entry
  | .str s => .ok (.text s)
  | .obj members => .ok (.form members)
  | _ => .error [⟨[.key "str"], .notString⟩, ⟨[.key "dict[str,any]"], .notObject⟩]

end Coercion

namespace FilterSpec

def required (members : Members) (f : Field) (c : Coercion α) : Checked α :=
  match f.find members with
  | some (key, d) => .ofExcept key (c d)
  | none => .invalid [⟨[.key f.wireName], .missing⟩]

def optional (members : Members) (f : Field) (default : α) (c : Coercion α) : Checked α :=
  match f.find members with
  | some (key, d) => .ofExcept key (c d)
  | none => .valid default

/-- The specification that the members of an object describe. -/
def check (members : Members) : Checked FilterSpec :=
  FilterSpec.mk
    <$> required members .projectId Coercion.nonEmptyString
    <*> optional members .page 1 Coercion.pageNumber
    <*> optional members .pageSize 20 Coercion.pageSize
    <*> optional members .status [] (Coercion.list Coercion.string)
    <*> optional members .sort none (Coercion.nullable Coercion.string)
    <*> optional members .env (some "development") (Coercion.nullable Coercion.string)
    <*> optional members .lengthBound none (Coercion.nullable Coercion.integer)
    <*> optional members .lengthComparison none (Coercion.nullable Coercion.string)
    <*> optional members .minDuration none (Coercion.nullable Coercion.number)
    <*> optional members .maxDuration none (Coercion.nullable Coercion.number)
    <*> optional members .confidenceBound none (Coercion.nullable Coercion.number)
    <*> optional members .confidenceComparison none (Coercion.nullable Coercion.string)
    <*> optional members .startDate none (Coercion.nullable Coercion.dateTime)
    <*> optional members .endDate none (Coercion.nullable Coercion.dateTime)
    <*> optional members .userId none (Coercion.nullable Coercion.string)
    <*> optional members .eventFilterOperator "or" Coercion.string
    <*> optional members .eventFilter [] (Coercion.list Coercion.entry)
    <*> optional members .userInitiated none (Coercion.nullable Coercion.boolean)
    <*> optional members .triggered none (Coercion.nullable Coercion.boolean)

/-- Only an object describes a specification. -/
def ofDocument (d : Document) : Except (List FieldError) FilterSpec :=
  match d with
  | .obj members => (check members).toExcept
  | _ => .error [⟨[], .noSpecification⟩]

end FilterSpec

end DialogueQuery
