import DialogueQuery.Coercion.Basic

/-! Values checked together: the errors of all of them are kept. -/

namespace DialogueQuery

/-- A value, or everything that stands against it. -/
inductive Checked (α : Type) where
  | valid (a : α)
  | invalid (errors : List FieldError)

namespace Checked

def map (f : α → β) : Checked α → Checked β
  | valid a => valid (f a)
  | invalid es => invalid es

/-- Applies a checked function; the errors of both sides are kept, left before right. -/
def seq (f : Checked (α → β)) (a : Unit → Checked α) : Checked β :=
  match f, a () with
  | valid f, valid a => valid (f a)
  | valid _, invalid es => invalid es
  | invalid es, valid _ => invalid es
  | invalid es, invalid more => invalid (es ++ more)

instance : Functor Checked := ⟨fun f => map f, fun a => map fun _ => a⟩

instance : Seq Checked := ⟨seq⟩

def toExcept : Checked α → Except (List FieldError) α
  | valid a => .ok a
  | invalid es => .error es

def ofExcept (key : String) : Except (List FieldError) α → Checked α
  | .ok a => valid a
  | .error es => invalid (es.map (FieldError.under (.key key)))

end Checked

end DialogueQuery
