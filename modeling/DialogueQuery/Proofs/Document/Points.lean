import Mathlib.Data.Prod.Lex
import DialogueQuery.Proofs.Document.Numbers

/-! The order of numbers. Every number but the one that is none is a point of the
rational line or infinite on either side of it, and numbers compare as their points. -/

namespace DialogueQuery

/-- The rationals, each as `(0, q)`, between what is infinite on either side. -/
abbrev Point := Int ×ₗ Rat

def Point.ofRat (q : Rat) : Point := toLex (0, q)

namespace Point

theorem ofRat_le_ofRat {q r : Rat} : ofRat q ≤ ofRat r ↔ q ≤ r := by
  simp [ofRat, Prod.Lex.toLex_le_toLex]

/-- What lies between two rationals is one. -/
theorem exists_ofRat {p : Point} {q r : Rat} (hq : ofRat q ≤ p) (hr : p ≤ ofRat r) :
    ∃ t, p = ofRat t := by
  obtain ⟨p, rfl⟩ := toLex.surjective p
  simp only [ofRat, Prod.Lex.toLex_le_toLex] at hq hr
  have hp : p.1 = 0 := by omega
  exact ⟨p.2, congrArg toLex (Prod.ext hp rfl)⟩

end Point

namespace Numeral

def point? (x : Numeral) : Option Point := x.position?.map toLex

/-- Numbers of any two kinds are compared by their points. -/
theorem compare?_eq_some {x y : Numeral} {p q : Point} (hx : x.point? = some p)
    (hy : y.point? = some q) : x.compare? y = some (compare p q) := by
  simp only [point?, Option.map_eq_some_iff] at hx hy
  obtain ⟨p, hp, rfl⟩ := hx
  obtain ⟨q, hq, rfl⟩ := hy
  simp only [compare?, hp, hq, Option.some.injEq]
  symm
  by_cases h₁ : p.1 < q.1
  · rw [if_pos h₁, compare_lt_iff_lt]
    exact Prod.Lex.toLex_lt_toLex.mpr (.inl h₁)
  by_cases h₂ : q.1 < p.1
  · rw [if_neg h₁, if_pos h₂, compare_gt_iff_gt]
    exact Prod.Lex.toLex_lt_toLex.mpr (.inl h₂)
  have h : p.1 = q.1 := by omega
  by_cases h₃ : p.2 < q.2
  · rw [if_neg h₁, if_neg h₂, if_pos h₃, compare_lt_iff_lt]
    exact Prod.Lex.toLex_lt_toLex.mpr (.inr ⟨h, h₃⟩)
  by_cases h₄ : q.2 < p.2
  · rw [if_neg h₁, if_neg h₂, if_neg h₃, if_pos h₄, compare_gt_iff_gt]
    exact Prod.Lex.toLex_lt_toLex.mpr (.inr ⟨h.symm, h₄⟩)
  · rw [if_neg h₁, if_neg h₂, if_neg h₃, if_neg h₄, compare_eq_iff_eq]
    exact congrArg toLex (Prod.ext h (le_antisymm (not_lt.mp h₄) (not_lt.mp h₃)))

theorem compare?_eq_none {x y : Numeral} (h : x.point? = none ∨ y.point? = none) :
    x.compare? y = none := by
  simp only [point?, Option.map_eq_none_iff] at h
  rcases h with h | h
  · simp [compare?, h]
  · cases hx : x.position? <;> simp [compare?, hx, h]

end Numeral

/-- Relations between what compares like two points are the relations between the points. -/
theorem Relation.admits_compare (r : Relation) (p q : Point) :
    r.admits (compare p q) = true ↔ match r with
      | .atLeast => q ≤ p
      | .atMost => p ≤ q
      | .below => p < q := by
  cases r with
  | atLeast => simpa [admits] using compare_ge_iff_ge
  | atMost => simpa [admits] using compare_le_iff_le
  | below => simpa [admits] using compare_lt_iff_lt

namespace Document

def point? (d : Document) : Option Point := d.numeral?.bind Numeral.point?

theorem point?_int (n : Int) : (int n).point? = some (.ofRat n) := rfl

/-- Between numbers a relation holds if they have points between which it holds. -/
theorem holds_iff_points {r : Relation} {a b : Document} (ha : a.isNumber = true)
    (hb : b.isNumber = true) :
    holds r a b = .ok true ↔
      ∃ p q, a.point? = some p ∧ b.point? = some q ∧ r.admits (compare p q) = true := by
  obtain ⟨x, hx⟩ : ∃ x, a.numeral? = some x := by cases a <;> simp_all [isNumber, numeral?]
  obtain ⟨y, hy⟩ : ∃ y, b.numeral? = some y := by cases b <;> simp_all [isNumber, numeral?]
  have hholds : holds r a b = .ok ((x.compare? y).any r.admits) := by
    cases a <;> cases b <;> simp_all [isNumber, holds, numeral?]
  simp only [hholds, point?, hx, hy, Option.bind_some, Except.ok.injEq]
  cases hp : x.point? with
  | none => simp [Numeral.compare?_eq_none (.inl hp)]
  | some p =>
    cases hq : y.point? with
    | none => simp [Numeral.compare?_eq_none (.inr hq)]
    | some q => simp [Numeral.compare?_eq_some hp hq]

theorem holds_atMost_iff {a b : Document} (ha : a.isNumber = true) (hb : b.isNumber = true) :
    holds .atMost a b = .ok true ↔ ∃ p q, a.point? = some p ∧ b.point? = some q ∧ p ≤ q := by
  simp only [holds_iff_points ha hb, Relation.admits_compare]

end Document

end DialogueQuery
