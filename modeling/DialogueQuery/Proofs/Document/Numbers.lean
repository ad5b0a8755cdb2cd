import Mathlib.Data.Rat.Floor
import DialogueQuery.Aggregation.Matching
import DialogueQuery.Proofs.Document.Members

/-! Comparing and subtracting numbers. Between numbers the tests in process and
the conditions of a query find out the same. -/

namespace DialogueQuery

theorem Numeral.compare?_int (a b : Int) : (int a).compare? (int b) = some (compare a b) := by
  have hp (n : Int) : (int n).position? = some (0, (n : Rat)) := rfl
  simp only [compare?, hp, lt_irrefl, if_false, Int.cast_lt]
  rcases lt_trichotomy a b with h | rfl | h
  · rw [if_pos h, compare_lt_iff_lt.mpr h]
  · simp
  · rw [if_neg h.not_gt, if_pos h, compare_gt_iff_gt.mpr h]

namespace Document

@[simp] theorem equal_int_int (a b : Int) : (int a).equal (int b) = (a == b) := by
  simp only [equal, equalNumbers, numeral?, Numeral.compare?_int]
  by_cases h : a = b
  · simp [h]
  · have : compare a b ≠ .eq := fun hc => h (compare_eq_iff_eq.mp hc)
    simp [h, this]

theorem equal_null (d : Document) : d.equal null = d.isNull := by
  cases d <;> simp [equal, equalNumbers, numeral?, isNull]

theorem isNull_of_isNumber {d : Document} (h : d.isNumber = true) : d.isNull = false := by
  cases d <;> simp_all [isNumber, isNull]

theorem holds_of_isNumber (r : Relation) {a b : Document} (ha : a.isNumber = true)
    (hb : b.isNumber = true) : ∃ p, holds r a b = .ok p := by
  cases a <;> cases b <;> simp_all [isNumber, holds, numeral?]

/-- A number that a store can hold. An integer beyond the range of binary64 is none. -/
def isMeasure : Document → Bool
  | int n => (Numeral.int n).toBinary64.isOk
  | float _ => true
  | _ => false

theorem isNumber_of_isMeasure {d : Document} (h : d.isMeasure = true) : d.isNumber = true := by
  cases d <;> simp_all [isMeasure, isNumber]

theorem toBinary64_of_isMeasure {d : Document} (h : d.isMeasure = true) :
    ∃ x y, d.numeral? = some x ∧ x.toBinary64 = .ok y := by
  cases d with
  | int n =>
    obtain ⟨y, hy⟩ := exists_of_isOk h
    exact ⟨_, y, rfl, hy⟩
  | float x => exact ⟨_, x, rfl, rfl⟩
  | _ => simp [isMeasure] at h

theorem minus_of_isMeasure {a b : Document} (ha : a.isMeasure = true) (hb : b.isMeasure = true) :
    ∃ d, a.minus b = .ok d ∧ d.isNumber = true := by
  obtain ⟨x, x', hx, hx'⟩ := toBinary64_of_isMeasure ha
  obtain ⟨y, y', hy, hy'⟩ := toBinary64_of_isMeasure hb
  have hc : ∃ z, Numeral.combine (· - ·) Binary64.sub x y = .ok z := by
    cases x <;> cases y <;> simp [Numeral.combine, hx', hy']
  obtain ⟨z, hz⟩ := hc
  refine ⟨z.toDocument, ?_, ?_⟩
  · simp [minus, withNumbers, hx, hy, hz, Except.map]
  · cases z <;> rfl

end Document

theorem Comparator.test_of_isNumber (c : Comparator) {a b : Document} (ha : a.isNumber = true)
    (hb : b.isNumber = true) : c.test a b = .ok (Test.passes (some a) (.compare c b)) := by
  cases c with
  | equals => rfl
  | greaterThan =>
    obtain ⟨p, hp⟩ := Document.holds_of_isNumber .atLeast ha hb
    cases p <;> simp [Test.passes, test, ha, hb, hp, Except.toOption]
  | lessThan =>
    obtain ⟨p, hp⟩ := Document.holds_of_isNumber .atMost ha hb
    cases p <;> simp [Test.passes, test, ha, hb, hp, Except.toOption]

end DialogueQuery
