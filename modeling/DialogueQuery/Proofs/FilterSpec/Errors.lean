import DialogueQuery.FilterSpec.Validation
import DialogueQuery.Proofs.Text.CodePoints

/-! Where the errors of a refused specification stand. Their paths go through fields
and positions, never through names that were sent. -/

namespace DialogueQuery

def PathStep.isPlain : PathStep → Bool
  | key name => Text.isWellFormed name
  | index _ => true

def FieldError.isPlain (e : FieldError) : Bool := e.path.all PathStep.isPlain

theorem FieldError.isPlain_under {step : PathStep} (hs : step.isPlain = true) {e : FieldError}
    (he : e.isPlain = true) : (e.under step).isPlain = true := by
  simp only [isPlain, under, List.all_cons, Bool.and_eq_true]
  exact ⟨hs, he⟩

/-- A value, or errors with paths that can be written. -/
def Plain {α : Type} (r : Except (List FieldError) α) : Prop :=
  ∀ es, r = .error es → es.all FieldError.isPlain = true

namespace Plain

variable {α β : Type}

theorem ok (a : α) : Plain (.ok a) := nofun

theorem error {es : List FieldError} (h : es.all FieldError.isPlain = true) :
    Plain (.error es : Except (List FieldError) α) := by
  intro es' he
  cases he
  exact h

theorem refuse (d : Defect) : Plain (Coercion.refuse d : Except (List FieldError) α) := error rfl

theorem bind {r : Except (List FieldError) α} {f : α → Except (List FieldError) β} (hr : Plain r)
    (hf : ∀ a, Plain (f a)) : Plain (r >>= f) := by
  cases r with
  | ok a => exact hf a
  | error es => exact error (hr es rfl)

theorem map {r : Except (List FieldError) α} (hr : Plain r) (f : α → β) : Plain (r.map f) := by
  cases r with
  | ok a => exact ok (f a)
  | error es => exact error (hr es rfl)

theorem ofOption (d : Defect) (a : Option α) : Plain (Coercion.ofOption d a) := by
  cases a with
  | none => exact refuse d
  | some a => exact ok a

end Plain

namespace Coercion

theorem plain_string (d : Document) : Plain (string d) := by
  cases d with
  | str s => exact .ok s
  | _ => exact .refuse .notString

theorem plain_ofText {α : Type} {read : String → Except (List FieldError) α}
    (h : ∀ s, Plain (read s)) (s : String) : Plain (ofText read s) := by
  unfold ofText
  split
  · exact h s
  · exact .refuse .notUnicode

theorem plain_nonEmptyString (d : Document) : Plain (nonEmptyString d) := by
  refine (plain_string d).bind fun s => plain_ofText (fun s => ?_) s
  split
  · exact .refuse .emptyString
  · exact .ok s

theorem plain_integerOfBinary64 (x : Binary64) : Plain (integerOfBinary64 x) := by
  unfold integerOfBinary64
  cases x.toRat? with
  | none => exact .refuse .notFinite
  | some q =>
    dsimp only
    split
    · exact .refuse .fraction
    · split
      · exact .ok q.num
      · exact .refuse .oversizedInteger

theorem plain_integerOfText (s : String) : Plain (integerOfText s) := by
  unfold integerOfText
  split
  · exact .ok _
  · exact .refuse .unreadableInteger
  · exact .refuse .oversizedInteger

theorem plain_integer (d : Document) : Plain (integer d) := by
  cases d with
  | int n => exact .ok n
  | bool b => exact .ok _
  | float x => exact plain_integerOfBinary64 x
  | str s => exact plain_ofText plain_integerOfText s
  | _ => exact .refuse .notInteger

theorem plain_number (d : Document) : Plain (number d) := by
  cases d with
  | float x => exact .ok x
  | int n =>
    simp only [number]
    split
    · exact .ok _
    · exact .refuse .notNumber
  | bool b => exact .ok _
  | str s => exact plain_ofText (fun s => .ofOption _ _) s
  | _ => exact .refuse .notNumber

theorem plain_booleanOfInteger (n : Int) : Plain (booleanOfInteger n) := by
  unfold booleanOfInteger
  split
  · exact .ok false
  · split
    · exact .ok true
    · exact .refuse _

theorem plain_boolean (d : Document) : Plain (boolean d) := by
  cases d with
  | bool b => exact .ok b
  | int n => exact plain_booleanOfInteger n
  | float x =>
    simp only [boolean]
    split
    · exact plain_booleanOfInteger _
    · exact .refuse .notBoolean
  | str s => exact plain_ofText (fun s => .ofOption _ _) s
  | _ => exact .refuse .notBoolean

theorem plain_dateTime (d : Document) : Plain (dateTime d) := by
  have hresult (r : Except DateTime.ReadError DateTime) : Plain (ofDateTimeResult r) := by
    cases r with
    | ok t => exact .ok t
    | error cause => exact .refuse _
  cases d with
  | str s => exact plain_ofText (fun s => hresult _) s
  | int n => exact hresult _
  | float x => exact hresult _
  | _ => exact .refuse _

theorem plain_items {α : Type} {item : Coercion α} (h : ∀ d, Plain (item d)) (ds : List Document)
    (n : Nat) : Plain (items item n ds) := by
  induction ds generalizing n with
  | nil => exact .ok []
  | cons d rest ih =>
    have hunder {es : List FieldError} (he : item d = .error es) :
        (es.map (FieldError.under (.index n))).all FieldError.isPlain = true := by
      have hes := List.all_eq_true.mp (h d es he)
      simp only [List.all_map, List.all_eq_true]
      exact fun e hm => FieldError.isPlain_under rfl (hes e hm)
    unfold items
    cases hd : item d with
    | ok a =>
      cases hrest : items item (n + 1) rest with
      | ok as => exact .ok (a :: as)
      | error es => exact .error (ih (n + 1) es hrest)
    | error es =>
      cases hrest : items item (n + 1) rest with
      | ok as => exact .error (hunder hd)
      | error more =>
        refine .error ?_
        rw [List.all_append, hunder hd, ih (n + 1) more hrest]
        rfl

theorem plain_list {α : Type} {item : Coercion α} (h : ∀ d, Plain (item d)) (d : Document) :
    Plain (list item d) := by
  cases d with
  | arr ds => exact plain_items h ds 0
  | _ => exact .refuse .notList

theorem plain_nullable {α : Type} {c : Coercion α} (h : ∀ d, Plain (c d)) (d : Document) :
    Plain (nullable c d) := by
  cases d with
  | null => exact .ok none
  | _ => exact (h _).map some

theorem plain_pageNumber (d : Document) : Plain (pageNumber d) := by
  refine (plain_integer d).bind fun n => ?_
  split
  · exact .refuse .belowOne
  · exact .ok n

theorem plain_pageSize (d : Document) : Plain (pageSize d) := by
  refine (plain_integer d).bind fun n => ?_
  split
  · exact .refuse .pageSize
  · exact .ok n

theorem plain_entry (d : Document) : Plain (entry d) := by
  cases d with
  | str s => exact .ok (Entry.text s)
  | obj members => exact .ok (Entry.form members)
  | _ => exact .error (by decide)

end Coercion

namespace Checked

variable {α β : Type}

/-- A value, or errors with paths that can be written. -/
def IsPlain (c : Checked α) : Prop := Plain c.toExcept

theorem IsPlain.map {c : Checked α} (h : c.IsPlain) (f : α → β) : (f <$> c).IsPlain := by
  cases c with
  | valid a => exact .ok (f a)
  | invalid es => exact .error (h es rfl)

theorem IsPlain.seq {f : Checked (α → β)} {c : Checked α} (hf : f.IsPlain) (hc : c.IsPlain) :
    (f <*> c).IsPlain := by
  cases f with
  | valid f =>
    cases c with
    | valid a => exact .ok (f a)
    | invalid es => exact .error (hc es rfl)
  | invalid es =>
    cases c with
    | valid a => exact .error (hf es rfl)
    | invalid more =>
      refine .error ?_
      rw [List.all_append, hf es rfl, hc more rfl]
      rfl

theorem isPlain_ofExcept {key : String} (hk : Text.isWellFormed key = true)
    {r : Except (List FieldError) α} (h : Plain r) : (ofExcept key r).IsPlain := by
  cases r with
  | ok a => exact .ok a
  | error es =>
    refine .error ?_
    have hkey : (PathStep.key key).isPlain = true := hk
    have hes := List.all_eq_true.mp (h es rfl)
    simp only [List.all_map, List.all_eq_true]
    exact fun e hm => FieldError.isPlain_under hkey (hes e hm)

end Checked

namespace FilterSpec

open Coercion

theorem Field.isWellFormed_wireName (f : Field) : Text.isWellFormed f.wireName = true := by
  cases f <;> exact Text.isWellFormed_ofList rfl

theorem Field.isWellFormed_name (f : Field) : Text.isWellFormed f.name = true := by
  cases f <;> exact Text.isWellFormed_ofList rfl

/-- A field is found under one of its own names, which can be shown. -/
theorem Field.isWellFormed_find {f : Field} {members : Members} {key : String} {d : Document}
    (h : f.find members = some (key, d)) : Text.isWellFormed key = true := by
  unfold Field.find at h
  split at h
  · cases h
    exact f.isWellFormed_wireName
  · obtain ⟨v, -, hv⟩ := Option.map_eq_some_iff.mp h
    cases hv
    exact f.isWellFormed_name

section

variable {α : Type} (members : Members) (f : Field) {c : Coercion α} (h : ∀ d, Plain (c d))
include h

theorem isPlain_required : (required members f c).IsPlain := by
  unfold required
  split
  · next key d hf => exact Checked.isPlain_ofExcept (Field.isWellFormed_find hf) (h d)
  · refine .error ?_
    simp [FieldError.isPlain, PathStep.isPlain, f.isWellFormed_wireName]

theorem isPlain_optional (default : α) : (optional members f default c).IsPlain := by
  unfold optional
  split
  · next key d hf => exact Checked.isPlain_ofExcept (Field.isWellFormed_find hf) (h d)
  · exact .ok default

end

theorem isPlain_check (members : Members) : (check members).IsPlain :=
  isPlain_required members .projectId plain_nonEmptyString
    |>.map FilterSpec.mk
    |>.seq (isPlain_optional members .page plain_pageNumber 1)
    |>.seq (isPlain_optional members .pageSize plain_pageSize 20)
    |>.seq (isPlain_optional members .status (plain_list plain_string) [])
    |>.seq (isPlain_optional members .sort (plain_nullable plain_string) none)
    |>.seq (isPlain_optional members .env (plain_nullable plain_string) (some "development"))
    |>.seq (isPlain_optional members .lengthBound (plain_nullable plain_integer) none)
    |>.seq (isPlain_optional members .lengthComparison (plain_nullable plain_string) none)
    |>.seq (isPlain_optional members .minDuration (plain_nullable plain_number) none)
    |>.seq (isPlain_optional members .maxDuration (plain_nullable plain_number) none)
    |>.seq (isPlain_optional members .confidenceBound (plain_nullable plain_number) none)
    |>.seq (isPlain_optional members .confidenceComparison (plain_nullable plain_string) none)
    |>.seq (isPlain_optional members .startDate (plain_nullable plain_dateTime) none)
    |>.seq (isPlain_optional members .endDate (plain_nullable plain_dateTime) none)
    |>.seq (isPlain_optional members .userId (plain_nullable plain_string) none)
    |>.seq (isPlain_optional members .eventFilterOperator plain_string "or")
    |>.seq (isPlain_optional members .eventFilter (plain_list plain_entry) [])
    |>.seq (isPlain_optional members .userInitiated (plain_nullable plain_boolean) none)
    |>.seq (isPlain_optional members .triggered (plain_nullable plain_boolean) none)

/-- Whatever a specification is refused for, the paths to its errors can be written. -/
theorem plain_ofDocument (d : Document) : Plain (ofDocument d) := by
  cases d with
  | obj members => exact isPlain_check members
  | _ => exact .error rfl

end FilterSpec

end DialogueQuery
