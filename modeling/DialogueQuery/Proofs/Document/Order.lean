import DialogueQuery.Comparator
import DialogueQuery.Proofs.Document.Equality

/-! The order that values are compared by. Not every pair has one; where it decides, it
is a linear order up to equality. -/

namespace DialogueQuery

instance : Std.TransCmp Text.order :=
  inferInstanceAs (Std.TransCmp (compareLex
    (compareOn fun s => (Text.codePoints s).map CodePoint.toNat)
    (compare : String → String → Ordering)))

instance : Std.LawfulEqCmp Text.order where
  eq_of_compare h := by
    rw [Text.order, Ordering.then_eq_eq] at h
    exact Std.LawfulEqOrd.eq_of_compare h.2

/-- What a relation comes to between values that compare like this, if they do. -/
def Relation.between (r : Relation) : Option Ordering → Except Fault Bool
  | none => .error .unordered
  | some o => .ok (r.admits o)

namespace Document

mutual

/-- How two values compare, if they do. -/
def order? : Document → Document → Option Ordering
  | arr xs, b => match b with
    | arr ys => orderItems? xs ys
    | _ => none
  | str s, b => match b with
    | str t => some (Text.order s t)
    | _ => none
  | a, b => match a.point?, b.point? with
    | some p, some q => some (compare p q)
    | _, _ => none

def orderItems? : List Document → List Document → Option Ordering
  | [], ys => some (if ys.isEmpty then .eq else .lt)
  | x :: xs, ys => match ys with
    | [] => some .gt
    | y :: ys => if equal x y then orderItems? xs ys else order? x y

end

theorem order?_of_point {a : Document} {p : Point} (h : a.point? = some p) (b : Document) :
    order? a b = b.point?.map (compare p) := by
  have hab : order? a b = match a.point?, b.point? with
      | some p, some q => some (compare p q)
      | _, _ => none := by
    cases a <;> first | rfl | cases h
  rw [hab, h]
  cases b.point? <;> rfl

theorem numeral?_eq_none {a : Document} (ha : IsProper a) (h : a.point? = none) :
    a.numeral? = none := by
  cases ha with
  | bool _ | int _ => cases h
  | float hx =>
    obtain ⟨q, hq⟩ := Option.isSome_iff_exists.mp hx
    rw [point?_eq_some hq] at h
    cases h
  | _ => rfl

theorem holds_of_point (r : Relation) {a b : Document} {p : Point} (ha : a.point? = some p)
    (hb : IsProper b) :
    holds r a b = r.between (order? a b) := by
  obtain ⟨x, hx, hp⟩ := Option.bind_eq_some_iff.mp ha
  have hholds : holds r a b = b.numeral?.elim (.error .unordered) fun y =>
      .ok ((x.compare? y).any r.admits) := by
    cases hy : b.numeral? <;> cases a <;> simp_all [holds, numeral?]
  rw [hholds, order?_of_point ha]
  cases hq : b.point? with
  | none => rw [numeral?_eq_none hb hq]; rfl
  | some q =>
    obtain ⟨y, hy, hq⟩ := Option.bind_eq_some_iff.mp hq
    simp [hy, Numeral.compare?_eq_some hp hq, Relation.between]

theorem holdsItems_eq_orderItems? (r : Relation) {xs ys : List Document}
    (h : ∀ x ∈ xs, ∀ y ∈ ys, holds r x y = r.between (order? x y)) :
    holdsItems r xs ys = r.between (orderItems? xs ys) := by
  induction xs generalizing ys with
  | nil => rfl
  | cons x xs ih =>
    cases ys with
    | nil => rfl
    | cons y ys =>
      rw [holdsItems, orderItems?]
      by_cases hxy : equal x y = true
      · rw [if_pos hxy, if_pos hxy]
        exact ih fun a ha b hb => h a (by simp [ha]) b (by simp [hb])
      · rw [if_neg hxy, if_neg hxy]
        exact h x (by simp) y (by simp)

/-- The relations hold or not as the order has it. -/
theorem holds_eq_order? (r : Relation) {a b : Document} (ha : IsProper a) (hb : IsProper b) :
    holds r a b = r.between (order? a b) := by
  induction ha using IsProper.byKind generalizing b with
  | null => rfl
  | number a p _ hp => exact holds_of_point r hp hb
  | text s => cases hb <;> rfl
  | array xs _ ih =>
    cases hb with
    | arr hys => exact holdsItems_eq_orderItems? r fun x hx y hy => ih x hx (hys y hy)
    | _ => rfl
  | object members _ _ _ => rfl

theorem orderItems?_eq_iff {xs ys : List Document} {o : Ordering}
    (h : ∀ x ∈ xs, ∀ {y o}, order? x y = some o → (o = .eq ↔ equal x y = true))
    (hxy : orderItems? xs ys = some o) : o = .eq ↔ equalItems xs ys = true := by
  induction xs generalizing ys with
  | nil => cases ys <;> cases hxy <;> simp [equalItems]
  | cons x xs ih =>
    cases ys with
    | nil => cases hxy; simp [equalItems]
    | cons y ys =>
      rw [orderItems?] at hxy
      rw [equalItems]
      by_cases heq : equal x y = true
      · rw [if_pos heq] at hxy
        rw [heq, Bool.true_and]
        exact ih (fun a ha => h a (by simp [ha])) hxy
      · rw [if_neg heq] at hxy
        rw [h x (by simp) hxy]
        simp [heq]

/-- Where two values compare, they compare as equals only if they are. -/
theorem order?_eq_iff {a b : Document} {o : Ordering} (ha : IsProper a) (h : order? a b = some o) :
    o = .eq ↔ equal a b = true := by
  induction ha using IsProper.byKind generalizing b o with
  | null => cases h
  | number a p _ hp =>
    rw [order?_of_point hp, Option.map_eq_some_iff] at h
    obtain ⟨q, hq, rfl⟩ := h
    rw [equal_iff_point hp, hq, compare_eq_iff_eq, Option.some.injEq, eq_comm]
  | text s =>
    cases b with
    | str t =>
      cases h
      rw [Std.LawfulEqCmp.compare_eq_iff_eq, equal_str_str, beq_iff_eq]
    | _ => cases h
  | array xs _ ih =>
    cases b with
    | arr ys => exact orderItems?_eq_iff ih h
    | _ => cases h
  | object _ _ _ _ => cases h

theorem order?_point {a : Document} {p : Point} (h : a.point? = some p) (b : Document) :
    order? b a = b.point?.map fun q => compare q p := by
  cases hb : b.point? with
  | some q => rw [order?_of_point hb, h]; rfl
  | none =>
    cases b with
    | arr _ => cases a <;> first | rfl | cases h
    | str _ => cases a <;> first | rfl | cases h
    | _ => simp [order?, hb]

theorem orderItems?_swap {xs ys : List Document} (hxs : ∀ x ∈ xs, IsProper x)
    (hys : ∀ y ∈ ys, IsProper y)
    (h : ∀ x ∈ xs, ∀ y ∈ ys, order? y x = (order? x y).map Ordering.swap) :
    orderItems? ys xs = (orderItems? xs ys).map Ordering.swap := by
  induction xs generalizing ys with
  | nil => cases ys <;> rfl
  | cons x xs ih =>
    cases ys with
    | nil => rfl
    | cons y ys =>
      obtain ⟨hx, hxs⟩ := List.forall_mem_cons.mp hxs
      obtain ⟨hy, hys⟩ := List.forall_mem_cons.mp hys
      rw [orderItems?, orderItems?, hy.equal_comm hx]
      by_cases heq : equal x y = true
      · rw [if_pos heq, if_pos heq]
        exact ih hxs hys fun a ha b hb => h a (by simp [ha]) b (by simp [hb])
      · rw [if_neg heq, if_neg heq]
        exact h x (by simp) y (by simp)

/-- Turned around, two values compare the other way. -/
theorem order?_swap {a b : Document} (ha : IsProper a) (hb : IsProper b) :
    order? b a = (order? a b).map Ordering.swap := by
  induction ha using IsProper.byKind generalizing b with
  | null =>
    cases hb using IsProper.byKind with
    | number b q _ hq => rw [order?_of_point hq, order?_point hq]; rfl
    | _ => rfl
  | number a p _ hp =>
    rw [order?_of_point hp, order?_point hp]
    cases b.point? with
    | none => rfl
    | some q => exact congrArg some Std.OrientedCmp.eq_swap
  | text s =>
    cases hb using IsProper.byKind with
    | number b q _ hq => rw [order?_of_point hq, order?_point hq]; rfl
    | text t => exact congrArg some Std.OrientedCmp.eq_swap
    | _ => rfl
  | array xs hxs ih =>
    cases hb using IsProper.byKind with
    | number b q _ hq => rw [order?_of_point hq, order?_point hq]; rfl
    | array ys hys _ => exact orderItems?_swap hxs hys fun x hx y hy => ih x hx (hys y hy)
    | _ => rfl
  | object _ _ _ _ =>
    cases hb using IsProper.byKind with
    | number b q _ hq => rw [order?_of_point hq, order?_point hq]; rfl
    | _ => rfl

theorem orderItems?_congr {xs ys zs : List Document} (hxs : ∀ x ∈ xs, IsProper x)
    (hys : ∀ y ∈ ys, IsProper y)
    (h : ∀ x ∈ xs, ∀ y ∈ ys, ∀ z, equal x y = true → order? x z = order? y z)
    (hxy : equalItems xs ys = true) : orderItems? xs zs = orderItems? ys zs := by
  induction xs generalizing ys zs with
  | nil => cases ys <;> simp_all [equalItems]
  | cons x xs ih =>
    cases ys with
    | nil => simp [equalItems] at hxy
    | cons y ys =>
      cases zs with
      | nil => rfl
      | cons z zs =>
        obtain ⟨hx, hxs⟩ := List.forall_mem_cons.mp hxs
        obtain ⟨hy, hys⟩ := List.forall_mem_cons.mp hys
        rw [equalItems, Bool.and_eq_true] at hxy
        rw [orderItems?, orderItems?, hx.equal_congr hy hxy.1,
          h x (by simp) y (by simp) z hxy.1,
          ih hxs hys (fun a ha b hb => h a (by simp [ha]) b (by simp [hb])) hxy.2]

/-- Equal values compare alike. -/
theorem order?_congr {a b c : Document} (ha : IsProper a) (hb : IsProper b)
    (hab : equal a b = true) : order? a c = order? b c := by
  induction ha using IsProper.byKind generalizing b c with
  | null =>
    cases hb with
    | null => rfl
    | _ => cases hab
  | number a p _ hp =>
    rw [order?_of_point hp, order?_of_point ((equal_iff_point hp).mp hab)]
  | text s =>
    cases hb with
    | str t =>
      rw [equal_str_str, beq_iff_eq] at hab
      rw [hab]
    | _ => cases hab
  | array xs hxs ih =>
    cases hb with
    | arr hys =>
      cases c with
      | arr zs => exact orderItems?_congr hxs hys (fun x hx y hy z => ih x hx (hys y hy)) hab
      | _ => rfl
    | _ => cases hab
  | object _ _ _ _ =>
    cases hb with
    | obj _ _ => rfl
    | _ => cases hab

/-- A value that has a place at or before that of the other. -/
def Precedes (a b : Document) : Prop := ∃ o, order? a b = some o ∧ o.isLE = true

theorem Precedes.equal {a b : Document} (ha : IsProper a) (hb : IsProper b) (hab : Precedes a b)
    (hba : Precedes b a) : equal a b = true := by
  obtain ⟨o, ho, hle⟩ := hab
  obtain ⟨o', ho', hle'⟩ := hba
  rw [order?_swap ha hb, ho, Option.map_some, Option.some.injEq] at ho'
  rw [← order?_eq_iff ha ho]
  cases o <;> cases ho' <;> simp_all

theorem precedes_congr_left {a b c : Document} (ha : IsProper a) (hb : IsProper b)
    (hab : equal a b = true) : Precedes a c ↔ Precedes b c := by
  rw [Precedes, Precedes, order?_congr ha hb hab]

theorem precedes_congr_right {a b c : Document} (ha : IsProper a) (hb : IsProper b)
    (hc : IsProper c) (hbc : equal b c = true) : Precedes a b ↔ Precedes a c := by
  rw [Precedes, Precedes, order?_swap hb ha, order?_swap hc ha, order?_congr hb hc hbc]

/-- One list of items compares with the other as at most it. -/
def PrecedesItems (xs ys : List Document) : Prop :=
  ∃ o, orderItems? xs ys = some o ∧ o.isLE = true

theorem precedesItems_nil (ys : List Document) : PrecedesItems [] ys := by
  cases ys <;> exact ⟨_, rfl, rfl⟩

theorem not_precedesItems_nil (x : Document) (xs : List Document) :
    ¬ PrecedesItems (x :: xs) [] := by
  rintro ⟨o, ho, hle⟩
  cases ho
  cases hle

theorem precedesItems_cons (x y : Document) (xs ys : List Document) :
    PrecedesItems (x :: xs) (y :: ys) ↔
      if equal x y then PrecedesItems xs ys else Precedes x y := by
  rw [PrecedesItems, orderItems?]
  split <;> rfl

/-- Arrays are ordered by the first items in which they differ. -/
theorem PrecedesItems.trans {xs ys zs : List Document} (hxs : ∀ x ∈ xs, IsProper x)
    (hys : ∀ y ∈ ys, IsProper y) (hzs : ∀ z ∈ zs, IsProper z)
    (h : ∀ x ∈ xs, ∀ y ∈ ys, ∀ z ∈ zs, Precedes x y → Precedes y z → Precedes x z)
    (hxy : PrecedesItems xs ys) (hyz : PrecedesItems ys zs) : PrecedesItems xs zs := by
  induction xs generalizing ys zs with
  | nil => exact precedesItems_nil zs
  | cons x xs ih =>
    cases ys with
    | nil => exact absurd hxy (not_precedesItems_nil x xs)
    | cons y ys =>
      cases zs with
      | nil => exact absurd hyz (not_precedesItems_nil y ys)
      | cons z zs =>
        obtain ⟨hx, hxs⟩ := List.forall_mem_cons.mp hxs
        obtain ⟨hy, hys⟩ := List.forall_mem_cons.mp hys
        obtain ⟨hz, hzs⟩ := List.forall_mem_cons.mp hzs
        rw [precedesItems_cons] at hxy hyz ⊢
        by_cases h₁ : equal x y = true
        · rw [if_pos h₁] at hxy
          rw [hx.equal_congr hy h₁]
          by_cases h₂ : equal y z = true
          · rw [if_pos h₂] at hyz ⊢
            exact ih hxs hys hzs (fun a ha b hb c hc =>
              h a (by simp [ha]) b (by simp [hb]) c (by simp [hc])) hxy hyz
          · rw [if_neg h₂] at hyz ⊢
            exact (precedes_congr_left hx hy h₁).mpr hyz
        · rw [if_neg h₁] at hxy
          by_cases h₂ : equal y z = true
          · have h₃ : ¬ equal x z = true := fun h₃ =>
              h₁ (hx.equal_trans h₃ (hy.equal_symm hz h₂))
            rw [if_neg h₃]
            exact (precedes_congr_right hx hy hz h₂).mp hxy
          · rw [if_neg h₂] at hyz
            by_cases h₃ : equal x z = true
            -- Equal ends would have the middle on both sides of them.
            · have hyx := (precedes_congr_right hy hz hx (hx.equal_symm hz h₃)).mp hyz
              exact absurd (hxy.equal hx hy hyx) h₁
            · rw [if_neg h₃]
              exact h x (by simp) y (by simp) z (by simp) hxy hyz

theorem precedes_of_point {a b : Document} {p : Point} (h : a.point? = some p) :
    Precedes a b ↔ ∃ q, b.point? = some q ∧ p ≤ q := by
  rw [Precedes, order?_of_point h]
  cases b.point? with
  | none => simp
  | some q => simp [← Ordering.ne_gt_iff_isLE, compare_le_iff_le]

/-- The order of proper values is transitive, within each kind and across the kinds of numbers. -/
theorem Precedes.trans {a b c : Document} (ha : IsProper a) (hb : IsProper b) (hc : IsProper c)
    (hab : Precedes a b) (hbc : Precedes b c) : Precedes a c := by
  induction ha using IsProper.byKind generalizing b c with
  | null => obtain ⟨_, ho, _⟩ := hab; cases ho
  | number a p _ hp =>
    obtain ⟨q, hq, hpq⟩ := (precedes_of_point hp).mp hab
    obtain ⟨r, hr, hqr⟩ := (precedes_of_point hq).mp hbc
    exact (precedes_of_point hp).mpr ⟨r, hr, hpq.trans hqr⟩
  | text s =>
    obtain ⟨o, ho, hst⟩ := hab
    obtain ⟨o', ho', htu⟩ := hbc
    cases b with
    | str t =>
      cases c with
      | str u =>
        cases ho
        cases ho'
        exact ⟨_, rfl, Std.TransCmp.isLE_trans hst htu⟩
      | _ => cases ho'
    | _ => cases ho
  | array xs hxs ih =>
    obtain ⟨o, ho, hle⟩ := hab
    obtain ⟨o', ho', hle'⟩ := hbc
    cases hb with
    | @arr ys hys =>
      cases hc with
      | @arr zs hzs =>
        exact PrecedesItems.trans hxs hys hzs
          (fun x hx y hy z hz => ih x hx (hys y hy) (hzs z hz)) ⟨o, ho, hle⟩ ⟨o', ho', hle'⟩
      | _ => cases ho'
    | _ => cases ho
  | object _ _ _ _ => obtain ⟨_, ho, _⟩ := hab; cases ho

end Document

namespace Comparator

open Document

/-- The comparison for less holds exactly where the order has it. -/
theorem lessThan_iff {a b : Document} (ha : IsProper a) (hb : IsProper b) :
    lessThan.test a b = .ok true ↔ Precedes a b := by
  rw [test, holds_eq_order? _ ha hb, Precedes]
  cases order? a b with
  | none => simp [Relation.between]
  | some o => cases o <;> simp [Relation.between, Relation.admits]

theorem greaterThan_eq {a b : Document} (ha : IsProper a) (hb : IsProper b) :
    greaterThan.test a b = lessThan.test b a := by
  rw [test, test, holds_eq_order? _ ha hb, holds_eq_order? _ hb ha, order?_swap ha hb]
  cases order? a b with
  | none => rfl
  | some o => cases o <;> rfl

/-- The comparisons of three values fit together: they are those of an order, which some
pairs have no place in. -/
structure Coherent (a b c : Document) : Prop where
  equals_decides : ∃ p, equals.test a b = .ok p
  fault_alike : ∀ f, greaterThan.test a b = .error f ↔ lessThan.test a b = .error f
  fault_unordered : ∀ f, lessThan.test a b = .error f → f = .unordered
  turned : greaterThan.test a b = lessThan.test b a
  total : ∀ p q, greaterThan.test a b = .ok p → lessThan.test a b = .ok q →
    (p = true ∨ q = true) ∧ (p = true ∧ q = true ↔ equals.test a b = .ok true)
  trans : lessThan.test a b = .ok true → lessThan.test b c = .ok true →
    lessThan.test a c = .ok true

/-- The comparisons of values that a text can write are coherent. -/
theorem test_coherent {a b c : Document} (ha : IsProper a) (hb : IsProper b) (hc : IsProper c) :
    Coherent a b c := by
  have hequals : equals.test a b = .ok (a.equal b) := rfl
  have hless : lessThan.test a b = Relation.atMost.between (order? a b) :=
    holds_eq_order? .atMost ha hb
  have hgreater : greaterThan.test a b = Relation.atLeast.between (order? a b) :=
    holds_eq_order? .atLeast ha hb
  refine
    { equals_decides := ⟨_, hequals⟩
      fault_alike := fun f => ?_
      fault_unordered := fun f hf => ?_
      turned := greaterThan_eq ha hb
      total := fun p q hp hq => ?_
      trans := fun hab hbc => ?_ }
  · rw [hless, hgreater]
    cases order? a b <;> simp [Relation.between]
  · rw [hless] at hf
    cases ho : order? a b with
    | none => simpa [ho, Relation.between, eq_comm] using hf
    | some o => simp [ho, Relation.between] at hf
  · cases ho : order? a b with
    | none => simp [hless, ho, Relation.between] at hq
    | some o =>
      have heq := order?_eq_iff ha ho
      simp only [hless, hgreater, ho, Relation.between, Except.ok.injEq] at hp hq
      rw [hequals, Except.ok.injEq, ← heq, ← hp, ← hq]
      cases o <;> simp [Relation.admits]
  · rw [lessThan_iff ha hb] at hab
    rw [lessThan_iff hb hc] at hbc
    exact (lessThan_iff ha hc).mpr (hab.trans ha hb hc hbc)

def intPair : Document := arr [.int 1, .str "x"]

def boolPair : Document := arr [.bool true, .str "y"]

def floatTriple : Document := arr [.float (.finite false 1 0), .str "y", .null]

theorem test_coherent_arrays :
    (IsProper intPair ∧ IsProper boolPair ∧ IsProper floatTriple) ∧
      Coherent intPair boolPair floatTriple ∧ lessThan.test intPair boolPair = .ok true ∧
        lessThan.test boolPair floatTriple = .ok true := by
  have ha : IsProper intPair := .arr (by simp [IsProper.int, IsProper.str])
  have hb : IsProper boolPair := .arr (by simp [IsProper.bool, IsProper.str])
  have hc : IsProper floatTriple :=
    .arr (by simp [IsProper.float, IsProper.str, IsProper.null, Binary64.toRat?])
  have hab : lessThan.test intPair boolPair = .ok true := ok_of_toOption (by decide +kernel)
  have hbc : lessThan.test boolPair floatTriple = .ok true := ok_of_toOption (by decide +kernel)
  exact ⟨⟨ha, hb, hc⟩, test_coherent ha hb hc, hab, hbc⟩

/-- The first unequal items of these have no order. -/
example : lessThan.test (arr [.int 1, .null]) (arr [.bool true, .str "y"]) = .error .unordered := by
  cbv

end Comparator

end DialogueQuery
