import DialogueQuery.Proofs.Aggregation.Paths

/-! One rule for each operator: its value from the values of its operands. A
derivation of the value of an expression applies them from the leaves up. -/

namespace DialogueQuery

namespace Expr

variable {follow : Resolver} {doc : Document} {env : Bindings}

attribute [local simp] eval evalAll evalMembers evalConjunction

theorem eval_const (d : Document) : (const d).eval follow doc env = .ok (some d) := by
  simp

theorem eval_literal (d : Document) : (literal d).eval follow doc env = .ok (some d) := by
  simp

theorem eval_field (path : List String) :
    (field path).eval follow doc env = .ok (follow doc path) := by
  simp

theorem eval_var {name : String} {d : Document} (h : env.lookup name = some (some d))
    (path : List String) : (var name path).eval follow doc env = .ok (follow d path) := by
  simp [h]

theorem eval_var_member (hf : follow.IsMemberwise) {x name : String} {d v : Document}
    (h : env.lookup x = some (some d)) (hm : d.member? name = some v) :
    (var x [name]).eval follow doc env = .ok (some v) := by
  rw [eval_var h, hf.follow_member hm]

theorem eval_field_member (hf : follow.IsMemberwise) {name : String} {v : Document}
    (hm : doc.member? name = some v) : (field [name]).eval follow doc env = .ok (some v) := by
  rw [eval_field, hf.follow_member hm]

theorem eval_var_missing {name : String} (h : env.lookup name = some none)
    (path : List String) : (var name path).eval follow doc env = .ok none := by
  simp [h]

theorem eval_eq {a b : Expr} {x y : Option Document} (ha : a.eval follow doc env = .ok x)
    (hb : b.eval follow doc env = .ok y) :
    (eq a b).eval follow doc env = .ok (some (.bool (sameValue x y))) := by
  simp [ha, hb]

theorem eval_ne {a b : Expr} {x y : Option Document} (ha : a.eval follow doc env = .ok x)
    (hb : b.eval follow doc env = .ok y) :
    (ne a b).eval follow doc env = .ok (some (.bool (!sameValue x y))) := by
  simp [ha, hb]

/-- The second part of a conjunction is evaluated only if the first one holds. -/
theorem eval_and {a b : Expr} {p q : Bool} (ha : a.eval follow doc env = .ok (some (.bool p)))
    (hb : p = true → b.eval follow doc env = .ok (some (.bool q))) :
    (and [a, b]).eval follow doc env = .ok (some (.bool (p && q))) := by
  cases p with
  | false => simp [ha, isHolding]
  | true => cases q <;> simp [ha, hb rfl, isHolding]

theorem eval_ifNull_null {e : Expr} {v : Option Document} (h : e.eval follow doc env = .ok v) :
    (ifNull e (const .null)).eval follow doc env = .ok (some (v.getD .null)) := by
  simp only [eval, h, ok_bind, pure_eq_ok]
  cases v with
  | none => rfl
  | some d => cases d <;> rfl

theorem eval_ifNull {e : Expr} (default : Expr) {d : Document}
    (h : e.eval follow doc env = .ok (some d)) (hd : d.isNull = false) :
    (ifNull e default).eval follow doc env = .ok (some d) := by
  simp [h, isNullish, hd]

theorem eval_ifNull_default {e default : Expr} {v : Option Document}
    (h : e.eval follow doc env = .ok v) (hv : isNullish v = true) :
    (ifNull e default).eval follow doc env = default.eval follow doc env := by
  simp [h, hv]

theorem eval_cond {test yes no : Expr} {p : Bool}
    (h : test.eval follow doc env = .ok (some (.bool p))) :
    (cond test yes no).eval follow doc env =
      if p then yes.eval follow doc env else no.eval follow doc env := by
  cases p <;> simp [h, isHolding]

theorem eval_isIn {e items : Expr} {v : Option Document} {ds : List Document}
    (h : e.eval follow doc env = .ok v) (hi : items.eval follow doc env = .ok (some (.arr ds))) :
    (isIn e items).eval follow doc env =
      .ok (some (.bool (v.any fun d => d.isAmong ds))) := by
  simp [h, hi]

theorem eval_elemAt {items index : Expr} {ds : List Document} {i : Int}
    (h : items.eval follow doc env = .ok (some (.arr ds)))
    (hi : index.eval follow doc env = .ok (some (.int i))) :
    (elemAt items index).eval follow doc env = .ok (elementAt ds i) := by
  simp [h, hi, itemsOf]

theorem eval_elemAt_missing {items index : Expr} {i : Int}
    (h : items.eval follow doc env = .ok none)
    (hi : index.eval follow doc env = .ok (some (.int i))) :
    (elemAt items index).eval follow doc env = .ok none := by
  simp [h, hi, itemsOf, isNullish]

theorem eval_array {e : Expr} {d : Document} (h : e.eval follow doc env = .ok (some d)) :
    (array [e]).eval follow doc env = .ok (some (.arr [d])) := by
  simp [h]

theorem eval_array_nil : (array []).eval follow doc env = .ok (some (.arr [])) := by
  simp

theorem eval_concat {a b : Expr} {xs ys : List Document}
    (ha : a.eval follow doc env = .ok (some (.arr xs)))
    (hb : b.eval follow doc env = .ok (some (.arr ys))) :
    (concat [a, b]).eval follow doc env = .ok (some (.arr (xs ++ ys))) := by
  simp [ha, hb, itemsOf]

theorem eval_filter {input test : Expr} {name : Option String} {ds : List Document}
    {p : Document → Bool} (h : input.eval follow doc env = .ok (some (.arr ds)))
    (ht : ∀ d ∈ ds, test.eval follow doc ((name.getD defaultItem, some d) :: env) =
      .ok (some (.bool (p d)))) :
    (filter input name test).eval follow doc env = .ok (some (.arr (ds.filter p))) := by
  have hk : ds.filterM (fun d => do
      let v ← test.eval follow doc ((name.getD defaultItem, some d) :: env)
      .ok (isHolding v)) = .ok (ds.filter p) :=
    filterM_ok fun d hd => by simp [ht d hd, isHolding]
  simp [h, itemsOf, hk]

/-- There is nothing to select from where the input is missing, and that is no failure. -/
theorem eval_filter_nullish {input test : Expr} {name : Option String} {v : Option Document}
    (h : input.eval follow doc env = .ok v) (hv : isNullish v = true) :
    (filter input name test).eval follow doc env = .ok (some .null) := by
  rcases isNullish_iff.mp hv with rfl | rfl <;>
    simp [h, itemsOf, isNullish, Document.isNull]

/-- A fold binds the item and what has been made of the items before it. -/
theorem eval_reduce {input initial step : Expr} {ds : List Document} {v : Option Document}
    (h : input.eval follow doc env = .ok (some (.arr ds)))
    (hv : initial.eval follow doc env = .ok v) :
    (reduce input initial step).eval follow doc env =
      ds.foldlM (fun value d =>
        step.eval follow doc (("this", some d) :: ("value", value) :: env)) v := by
  simp [h, hv, itemsOf]

theorem eval_letIn {name : String} {value body : Expr} {v : Option Document}
    (h : value.eval follow doc env = .ok v) :
    (letIn name value body).eval follow doc env = body.eval follow doc ((name, v) :: env) := by
  simp [h]

theorem eval_object_one {a : Expr} {x : Document} (m : String)
    (ha : a.eval follow doc env = .ok (some x)) :
    (object [(m, a)]).eval follow doc env = .ok (some (.obj [(m, x)])) := by
  simp [ha]

theorem eval_object {a b : Expr} {x y : Document} (m n : String)
    (ha : a.eval follow doc env = .ok (some x)) (hb : b.eval follow doc env = .ok (some y)) :
    (object [(m, a), (n, b)]).eval follow doc env = .ok (some (.obj [(m, x), (n, y)])) := by
  simp [ha, hb]

theorem eval_size {e : Expr} {ds : List Document}
    (h : e.eval follow doc env = .ok (some (.arr ds))) :
    (size e).eval follow doc env = .ok (some (.int ds.length)) := by
  simp [h]

theorem eval_add {a b : Expr} {m n : Int} (ha : a.eval follow doc env = .ok (some (.int m)))
    (hb : b.eval follow doc env = .ok (some (.int n))) :
    (add [a, b]).eval follow doc env = .ok (some (.int (m + n))) := by
  simp [ha, hb, Document.total, Document.plus, Document.withNumbers,
    Document.numeral?, Numeral.combine, Numeral.toDocument, Except.map]

theorem eval_subtract {a b : Expr} {x y : Option Document}
    (ha : a.eval follow doc env = .ok x) (hb : b.eval follow doc env = .ok y) :
    (subtract a b).eval follow doc env = difference x y := by
  simp [ha, hb]

/-- The events of a conversation, with an empty list for those that it does not have. -/
theorem eval_recorded (hf : follow.IsMemberwise) (h : Conversation.hasEvents doc = true) :
    (ifNull (field ["tracker", "events"]) (array [])).eval follow doc env =
      .ok (some (.arr (Conversation.recorded doc))) := by
  rcases hf.follow_events h with he | ⟨hn, he⟩
  · exact eval_ifNull _ ((eval_field _).trans (by rw [he])) rfl
  · rw [he]
    exact (eval_ifNull_default (eval_field _) hn).trans eval_array_nil

end Expr

end DialogueQuery
