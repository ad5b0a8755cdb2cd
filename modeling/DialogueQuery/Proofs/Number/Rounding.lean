import Mathlib.Algebra.Order.Field.Power
import Mathlib.Algebra.Order.Floor.Ring
import Mathlib.Data.Rat.Floor
import Mathlib.Tactic.FieldSimp
import Mathlib.Tactic.Linarith
import Mathlib.Tactic.Positivity
import Mathlib.Tactic.Ring
import DialogueQuery.Number.Binary64

/-! Rounding to binary64. A fraction in range is rounded to a number than which none is
nearer, of two equally near ones to the one with the even mantissa. Whatever is rounded
like this keeps its order, and stays on its side of every number of binary64. -/

namespace DialogueQuery

theorem twoPow_eq (e : Int) : twoPow e = (2 : Rat) ^ e := by
  unfold twoPow
  by_cases h : 0 ≤ e
  · rw [if_pos h, Nat.pow_eq, ← Int.toNat_of_nonneg h, zpow_natCast, Int.toNat_natCast]
    push_cast
    rfl
  · have hneg : e = -((-e).toNat : Int) := by omega
    rw [if_neg h, Nat.pow_eq, Rat.mkRat_eq_div]
    nth_rewrite 2 [hneg]
    rw [zpow_neg, zpow_natCast]
    push_cast
    rw [one_div]

/-- Rounding is off by a half at most, and then to the even side. -/
theorem roundHalfEven_spec (num : Nat) {den : Nat} (hd : 0 < den) :
    2 * (roundHalfEven num den * den) ≤ 2 * num + den ∧
      2 * num ≤ 2 * (roundHalfEven num den * den) + den ∧
      (2 * (roundHalfEven num den * den) = 2 * num + den ∨
        2 * num = 2 * (roundHalfEven num den * den) + den → roundHalfEven num den % 2 = 0) := by
  have hsplit : den * (num / den) + num % den = num := Nat.div_add_mod num den
  have hrest : num % den < den := Nat.mod_lt num hd
  have hq : num / den * den = den * (num / den) := Nat.mul_comm _ _
  have hq' : (num / den + 1) * den = den * (num / den) + den := by ring
  simp only [roundHalfEven]
  by_cases hlow : 2 * (num % den) < den
  · rw [if_pos hlow, hq]
    omega
  by_cases hhigh : den < 2 * (num % den)
  · rw [if_neg hlow, if_pos hhigh, hq']
    omega
  by_cases heven : num / den % 2 = 0
  · rw [if_neg hlow, if_neg hhigh, if_pos heven, hq]
    omega
  · rw [if_neg hlow, if_neg hhigh, if_neg heven, hq']
    omega

theorem abs_roundHalfEven_sub_le (num : Nat) {den : Nat} (hd : 0 < den) :
    |(roundHalfEven num den : Rat) - num / den| ≤ 1 / 2 ∧
      (|(roundHalfEven num den : Rat) - num / den| = 1 / 2 → roundHalfEven num den % 2 = 0) := by
  obtain ⟨hhigh, hlow, heven⟩ := roundHalfEven_spec num hd
  generalize roundHalfEven num den = m at hhigh hlow heven
  have hden : (0 : Rat) < den := by exact_mod_cast hd
  have hhigh : 2 * ((m : Rat) * den) ≤ 2 * num + den := by exact_mod_cast hhigh
  have hlow : 2 * (num : Rat) ≤ 2 * (m * den) + den := by exact_mod_cast hlow
  have hnum : (num : Rat) / den * den = num := by field_simp
  constructor
  · rw [abs_le]
    constructor <;> nlinarith
  · intro hhalf
    apply heven
    rcases (abs_eq (by norm_num : (0 : Rat) ≤ 1 / 2)).mp hhalf with h | h
    · left
      have heq : 2 * ((m : Rat) * den) = 2 * num + den := by
        rw [← hnum, eq_add_of_sub_eq h]
        ring
      exact_mod_cast heq
    · right
      have heq : 2 * (num : Rat) = 2 * (m * den) + den := by
        rw [← hnum, eq_add_of_sub_eq h]
        ring
      exact_mod_cast heq

/-- The comparison by which the logarithm is settled. -/
theorem zpow_le_div_iff (num : Nat) {den : Nat} (hd : 0 < den) (k : Int) :
    (if 0 ≤ k then den * Nat.pow 2 k.toNat ≤ num else den ≤ num * Nat.pow 2 (-k).toNat) ↔
      (2 : Rat) ^ k ≤ num / den := by
  have hden : (0 : Rat) < den := by exact_mod_cast hd
  rw [le_div_iff₀ hden]
  by_cases h : 0 ≤ k
  · obtain ⟨n, rfl⟩ := Int.eq_ofNat_of_zero_le h
    rw [if_pos h, Int.toNat_natCast, Nat.pow_eq, zpow_natCast, mul_comm]
    exact_mod_cast Iff.rfl
  · obtain ⟨n, rfl⟩ : ∃ n : Nat, k = -n := ⟨(-k).toNat, by omega⟩
    have hpos : (0 : Rat) < 2 ^ n := by positivity
    rw [if_neg h, neg_neg, Int.toNat_natCast, Nat.pow_eq, zpow_neg, zpow_natCast,
      inv_mul_le_iff₀ hpos, mul_comm num]
    exact_mod_cast Iff.rfl

/-- The power of two at the logarithm is not above the quotient, and the next one is. -/
theorem floorLog2_spec {num den : Nat} (hn : 0 < num) (hd : 0 < den) :
    (2 : Rat) ^ floorLog2 num den ≤ num / den ∧
      (num : Rat) / den < 2 ^ (floorLog2 num den + 1) := by
  have hden : (0 : Rat) < den := by exact_mod_cast hd
  have hnum_ge : (2 : Rat) ^ (num.log2 : Int) ≤ num := by
    exact_mod_cast Nat.log2_self_le hn.ne'
  have hnum_lt : (num : Rat) < 2 ^ ((num.log2 : Int) + 1) := by
    exact_mod_cast Nat.lt_log2_self (n := num)
  have hden_ge : (2 : Rat) ^ (den.log2 : Int) ≤ den := by
    exact_mod_cast Nat.log2_self_le hd.ne'
  have hden_lt : (den : Rat) < 2 ^ ((den.log2 : Int) + 1) := by
    exact_mod_cast Nat.lt_log2_self (n := den)
  have hpow (k : Int) : (0 : Rat) ≤ 2 ^ k := by positivity
  have hlow : (2 : Rat) ^ ((num.log2 : Int) - den.log2 - 1) ≤ num / den := by
    rw [le_div_iff₀ hden]
    calc (2 : Rat) ^ ((num.log2 : Int) - den.log2 - 1) * den
        ≤ 2 ^ ((num.log2 : Int) - den.log2 - 1) * 2 ^ ((den.log2 : Int) + 1) :=
          mul_le_mul_of_nonneg_left hden_lt.le (hpow _)
      _ = 2 ^ (num.log2 : Int) := by
        rw [← zpow_add₀ two_ne_zero]
        congr 1
        ring
      _ ≤ num := hnum_ge
  have hhigh : (num : Rat) / den < 2 ^ ((num.log2 : Int) - den.log2 + 1) := by
    rw [div_lt_iff₀ hden]
    calc (num : Rat) < 2 ^ ((num.log2 : Int) + 1) := hnum_lt
      _ = 2 ^ ((num.log2 : Int) - den.log2 + 1) * 2 ^ (den.log2 : Int) := by
        rw [← zpow_add₀ two_ne_zero]
        congr 1
        ring
      _ ≤ 2 ^ ((num.log2 : Int) - den.log2 + 1) * den :=
          mul_le_mul_of_nonneg_left hden_ge (hpow _)
  simp only [floorLog2]
  by_cases hfits : (2 : Rat) ^ ((num.log2 : Int) - den.log2) ≤ num / den
  · rw [if_pos ((zpow_le_div_iff num hd _).mpr hfits)]
    exact ⟨hfits, hhigh⟩
  · rw [if_neg fun h => hfits ((zpow_le_div_iff num hd _).mp h), sub_add_cancel]
    exact ⟨hlow, not_le.mp hfits⟩

namespace Binary64

/-- The values of the finite numbers. -/
def IsValue (r : Rat) : Prop :=
  ∃ (m e : Int), m.natAbs < 2 ^ 53 ∧ minExponent ≤ e ∧ e ≤ maxExponent ∧ r = m * 2 ^ e

/-- A value than which none is nearer. -/
structure IsNearest (q r : Rat) : Prop where
  isValue : IsValue r
  le (y : Rat) : IsValue y → |r - q| ≤ |y - q|

theorem IsValue.neg {r : Rat} (h : IsValue r) : IsValue (-r) := by
  obtain ⟨m, e, hm, hmin, hmax, rfl⟩ := h
  exact ⟨-m, e, by rwa [Int.natAbs_neg], hmin, hmax, by push_cast; ring⟩

theorem isValue_int {n : Int} (h : n.natAbs ≤ 2 ^ 53) : IsValue n := by
  by_cases hlt : n.natAbs < 2 ^ 53
  · exact ⟨n, 0, hlt, by decide, by decide, by simp⟩
  · have hn : n = 2 ^ 53 ∨ n = -2 ^ 53 := by omega
    rcases hn with rfl | rfl
    · exact ⟨2 ^ 52, 1, by decide, by decide, by decide, by norm_num⟩
    · exact ⟨-2 ^ 52, 1, by decide, by decide, by decide, by norm_num⟩

namespace IsNearest

variable {q q' r r' : Rat}

theorem neg (h : IsNearest q r) : IsNearest (-q) (-r) := by
  refine ⟨h.isValue.neg, fun y hy => ?_⟩
  have hle := h.le (-y) hy.neg
  have hr : |-r - -q| = |r - q| := by rw [← abs_neg]; congr 1; ring
  have hy : |y - -q| = |-y - q| := by rw [← abs_neg]; congr 1; ring
  rwa [hr, hy]

/-- The middle of two values is not beyond what is rounded to the upper one, nor short of
what is rounded to the lower one. -/
theorem le_of_lt (h : IsNearest q r) (h' : IsNearest q' r') (hq : q < q') : r ≤ r' := by
  by_contra hr
  have hr : 0 < r - r' := by linarith
  have hupper := sq_le_sq.mpr (h.le r' h'.isValue)
  have hlower := sq_le_sq.mpr (h'.le r h.isValue)
  have hmiddle : r + r' ≤ 2 * q := by
    by_contra hlt
    have hpos : 0 < (r - r') * (r + r' - 2 * q) := mul_pos hr (by linarith)
    linarith
  have hmiddle' : 2 * q' ≤ r + r' := by
    by_contra hlt
    have hpos : 0 < (r - r') * (2 * q' - (r + r')) := mul_pos hr (by linarith)
    linarith
  linarith

theorem ge_of_ge (h : IsNearest q r) {y : Rat} (hy : IsValue y) (hle : y ≤ q) : y ≤ r := by
  by_contra hlt
  have hnear := h.le y hy
  rw [abs_of_nonpos (by linarith), abs_of_nonpos (by linarith)] at hnear
  linarith

theorem le_of_le (h : IsNearest q r) {y : Rat} (hy : IsValue y) (hle : q ≤ y) : r ≤ y := by
  have hneg := h.neg.ge_of_ge hy.neg (neg_le_neg hle)
  linarith

end IsNearest

/-- The integer that is off by no more than a half is nearest, and even if another one is
as near. -/
theorem integer_nearest {t : Rat} {m : Nat} (hm : |(m : Rat) - t| ≤ 1 / 2)
    (heven : |(m : Rat) - t| = 1 / 2 → m % 2 = 0) (k : Int) :
    |(m : Rat) - t| ≤ |k - t| ∧ (k ≠ m → |k - t| = |(m : Rat) - t| → m % 2 = 0) := by
  by_cases hk : k = m
  · subst hk
    exact ⟨le_refl _, fun hne => absurd rfl hne⟩
  · have hapart : (1 : Rat) ≤ |(k : Rat) - m| := by
      have h : 1 ≤ |k - (m : Int)| := Int.one_le_abs (sub_ne_zero.mpr hk)
      exact_mod_cast h
    have hsum : |(k : Rat) - m| ≤ |k - t| + |(m : Rat) - t| := by
      have h := abs_sub_le (k : Rat) t m
      rwa [abs_sub_comm t] at h
    exact ⟨by linarith, fun _ htie => heven (by linarith)⟩

theorem abs_mul_zpow_sub (x q : Rat) (e : Int) :
    |x * 2 ^ e - q| = |x - q / 2 ^ e| * 2 ^ e := by
  have hpos : (0 : Rat) < 2 ^ e := by positivity
  have hfactor : x * 2 ^ e - q = (x - q / 2 ^ e) * 2 ^ e := by field_simp
  rw [hfactor, abs_mul, abs_of_pos hpos]

/-- A mantissa that is nearest among the integers gives what is nearest among the values.
Those that are between the multiples of the power are all below the rounded number. -/
theorem value_nearest {q : Rat} {m : Nat} {e : Int} (hm : |(m : Rat) - q / 2 ^ e| ≤ 1 / 2)
    (heven : |(m : Rat) - q / 2 ^ e| = 1 / 2 → m % 2 = 0)
    (hfull : minExponent < e → (2 : Rat) ^ (e + 52) ≤ q) {y : Rat} (hy : IsValue y) :
    |(m : Rat) * 2 ^ e - q| ≤ |y - q| ∧
      (y ≠ m * 2 ^ e → |y - q| = |(m : Rat) * 2 ^ e - q| → m % 2 = 0) := by
  obtain ⟨k, f, hk, hmin, -, rfl⟩ := hy
  have hpos : (0 : Rat) < 2 ^ e := by positivity
  by_cases hef : e ≤ f
  · obtain ⟨n, rfl⟩ : ∃ n : Nat, f = e + n := ⟨(f - e).toNat, by omega⟩
    have hmultiple : (k : Rat) * 2 ^ (e + (n : Int)) = ((k * 2 ^ n : Int) : Rat) * 2 ^ e := by
      rw [zpow_add₀ two_ne_zero, zpow_natCast]
      push_cast
      ring
    obtain ⟨hle, htie⟩ := integer_nearest hm heven (k * 2 ^ n)
    rw [hmultiple, abs_mul_zpow_sub, abs_mul_zpow_sub]
    refine ⟨mul_le_mul_of_nonneg_right hle hpos.le, fun hne heq => htie ?_ ?_⟩
    · rintro hint
      rw [hint, Int.cast_natCast] at hne
      exact hne rfl
    · exact mul_right_cancel₀ hpos.ne' heq
  · have hq := hfull (by omega)
    have hbelow : (k : Rat) * 2 ^ f < 2 ^ (e + 52) := by
      have hk : (k : Rat) < 2 ^ (53 : Int) := by
        have h : k < 2 ^ 53 := by omega
        exact_mod_cast h
      calc (k : Rat) * 2 ^ f < 2 ^ (53 : Int) * 2 ^ f := by gcongr
        _ = 2 ^ (f + 53) := by rw [← zpow_add₀ two_ne_zero, add_comm]
        _ ≤ 2 ^ (e + 52) := zpow_le_zpow_right₀ (by norm_num) (by omega)
    have hedge : |(m : Rat) * 2 ^ e - q| ≤ |(2 : Rat) ^ (e + 52) - q| := by
      have hpower : (2 : Rat) ^ (e + 52) = ((2 ^ 52 : Int) : Rat) * 2 ^ e := by
        rw [zpow_add₀ two_ne_zero]
        push_cast
        rw [mul_comm]
      rw [hpower, abs_mul_zpow_sub, abs_mul_zpow_sub]
      exact mul_le_mul_of_nonneg_right (integer_nearest hm heven (2 ^ 52)).1 hpos.le
    have hstrict : |(2 : Rat) ^ (e + 52) - q| < |(k : Rat) * 2 ^ f - q| := by
      rw [abs_of_nonpos (by linarith), abs_of_nonpos (by linarith)]
      linarith
    exact ⟨by linarith, fun _ htie => by linarith⟩

/-- The mantissa to an exponent, before it is looked at how many bits it has. -/
theorem abs_mantissa_sub_le (num : Nat) {den : Nat} (hd : 0 < den) (e : Int) {m : Nat}
    (hm : (if 0 ≤ e then roundHalfEven num (den * Nat.pow 2 e.toNat)
      else roundHalfEven (num * Nat.pow 2 (-e).toNat) den) = m) :
    |(m : Rat) - num / den / 2 ^ e| ≤ 1 / 2 ∧
      (|(m : Rat) - num / den / 2 ^ e| = 1 / 2 → m % 2 = 0) := by
  have hden : (0 : Rat) < den := by exact_mod_cast hd
  by_cases he : 0 ≤ e
  · obtain ⟨n, rfl⟩ := Int.eq_ofNat_of_zero_le he
    rw [if_pos he, Int.toNat_natCast, Nat.pow_eq] at hm
    have hscaled : (num : Rat) / den / 2 ^ (n : Int) = num / (den * 2 ^ n : Nat) := by
      push_cast
      rw [zpow_natCast, div_div]
    rw [hscaled, ← hm]
    exact abs_roundHalfEven_sub_le num (by positivity)
  · obtain ⟨n, rfl⟩ : ∃ n : Nat, e = -n := ⟨(-e).toNat, by omega⟩
    rw [if_neg he, neg_neg, Int.toNat_natCast, Nat.pow_eq] at hm
    have hscaled : (num : Rat) / den / 2 ^ (-(n : Int)) = (num * 2 ^ n : Nat) / den := by
      push_cast
      rw [zpow_neg, zpow_natCast, div_inv_eq_mul, div_mul_eq_mul_div]
    rw [hscaled, ← hm]
    exact abs_roundHalfEven_sub_le _ hd

/-- What is off by a half at most does not pass an integer. -/
theorem mantissa_bounds {t : Rat} {m : Nat} (hm : |(m : Rat) - t| ≤ 1 / 2) (n : Nat) :
    (t < n → m ≤ n) ∧ (n ≤ t → n ≤ m) := by
  obtain ⟨hbelow, habove⟩ := abs_le.mp hm
  constructor
  · intro ht
    have hlt : (m : Rat) < (n + 1 : Nat) := by
      push_cast
      linarith
    exact Nat.lt_succ_iff.mp (by exact_mod_cast hlt)
  · intro ht
    have hlt : (n : Rat) < (m + 1 : Nat) := by
      push_cast
      linarith
    exact Nat.lt_succ_iff.mp (by exact_mod_cast hlt)

def mantissa : Binary64 → Nat
  | finite _ m _ => m
  | _ => 0

def exponent : Binary64 → Int
  | finite _ _ e => e
  | _ => 0

/-- The number `x` has the value `r` that is nearest to `q`, of two equally near ones that
with the even mantissa. The mantissa has all its bits unless the exponent is the least. -/
structure Rounds (q r : Rat) (x : Binary64) : Prop where
  value : x.toRat? = some r
  nearest : IsNearest q r
  even (y : Rat) : IsValue y → y ≠ r → |y - q| = |r - q| → x.mantissa % 2 = 0
  full : x.mantissa = 0 ∨ 2 ^ 52 ≤ x.mantissa ∨ x.exponent = minExponent

theorem toRat?_finite (m : Nat) (e : Int) :
    (finite false m e).toRat? = some ((m : Rat) * 2 ^ e) := by
  rw [toRat?, twoPow_eq]
  rfl

/-- A positive number is what rounding gives if its value is nearest in this way. -/
theorem rounds_finite {q : Rat} {m : Nat} {e : Int} (hm : m < 2 ^ 53) (hmin : minExponent ≤ e)
    (hmax : e ≤ maxExponent)
    (hnear : ∀ y, IsValue y → |(m : Rat) * 2 ^ e - q| ≤ |y - q| ∧
      (y ≠ m * 2 ^ e → |y - q| = |(m : Rat) * 2 ^ e - q| → m % 2 = 0))
    (hfull : m = 0 ∨ 2 ^ 52 ≤ m ∨ e = minExponent) :
    Rounds q (m * 2 ^ e) (finite false m e) := by
  refine ⟨toRat?_finite m e, ⟨?_, fun y hy => (hnear y hy).1⟩, fun y hy => (hnear y hy).2, hfull⟩
  exact ⟨m, e, by omega, hmin, hmax, by push_cast; rfl⟩

theorem toRat?_neg {x : Binary64} {r : Rat} (h : x.toRat? = some r) : x.neg.toRat? = some (-r) := by
  cases x with
  | finite negative m e =>
    obtain rfl := Option.some.inj h
    cases negative <;> simp [neg, toRat?]
  | _ => cases h

/-- A number is above zero by its value, or beyond all values. -/
def exceedsZero : Binary64 → Bool
  | infinite negative => !negative
  | x => x.toRat?.any (0 < ·)

theorem isPositive_eq : isPositive = exceedsZero := by
  funext x
  cases x with
  | finite negative m e =>
    have hpow : (0 : Rat) < 2 ^ e := by positivity
    have hvalue : (0 : Rat) < m * 2 ^ e ↔ m ≠ 0 := by
      rw [mul_pos_iff_of_pos_right hpow, Nat.cast_pos, Nat.pos_iff_ne_zero]
    cases negative with
    | false =>
      rw [Bool.eq_iff_iff]
      simp [isPositive, exceedsZero, toRat?_finite, hvalue]
    | true =>
      have hneg : (finite true m e).toRat? = some (-((m : Rat) * 2 ^ e)) :=
        toRat?_neg (toRat?_finite m e)
      have hnot : ¬ 0 < -((m : Rat) * 2 ^ e) := by
        have : 0 ≤ (m : Rat) * 2 ^ e := by positivity
        linarith
      simp only [isPositive, exceedsZero, hneg, Option.any_some, hnot]
      rfl
  | _ => rfl

theorem Rounds.neg {q r : Rat} {x : Binary64} (h : Rounds q r x) : Rounds (-q) (-r) x.neg := by
  have hmantissa : x.neg.mantissa = x.mantissa := by cases x <;> rfl
  have hexponent : x.neg.exponent = x.exponent := by cases x <;> rfl
  refine ⟨toRat?_neg h.value, h.nearest.neg, fun y hy hne htie => ?_, ?_⟩
  · rw [hmantissa]
    refine h.even (-y) hy.neg (fun heq => hne (by rw [← heq, neg_neg])) ?_
    rw [← abs_neg, ← abs_neg (r - q), neg_sub', neg_sub', neg_neg]
    exact htie
  · rw [hmantissa, hexponent]
    exact h.full

theorem ofFraction_neg (num den : Nat) :
    ofFraction true num den = (ofFraction false num den).neg := by
  simp only [ofFraction]
  split_ifs <;> rfl

/-- In the range of the format, a fraction is rounded to a nearest value. -/
theorem rounds_ofFraction (num : Nat) {den : Nat} (hd : 0 < den)
    (hrange : (num : Rat) / den < 2 ^ (1023 : Int)) :
    ∃ r, Rounds (num / den) r (ofFraction false num den) := by
  by_cases hzero : num = 0
  · subst hzero
    refine ⟨0, by simp [ofFraction, toRat?], ⟨?_, fun y _ => by simp⟩, fun _ _ _ _ => rfl, .inl rfl⟩
    exact ⟨0, 0, by decide, by decide, by decide, by simp⟩
  obtain ⟨hlow, hhigh⟩ := floorLog2_spec (Nat.pos_of_ne_zero hzero) hd
  rw [ofFraction, if_neg hzero]
  generalize floorLog2 num den = k at hlow hhigh
  obtain ⟨e, he⟩ : ∃ e, max (k - 52) minExponent = e := ⟨_, rfl⟩
  obtain ⟨m, hm⟩ : ∃ m, (if 0 ≤ e then roundHalfEven num (den * Nat.pow 2 e.toNat)
      else roundHalfEven (num * Nat.pow 2 (-e).toNat) den) = m := ⟨_, rfl⟩
  obtain ⟨hhalf, heven⟩ := abs_mantissa_sub_le num hd e hm
  simp only [he, hm]
  have hmin : minExponent ≤ e := he ▸ le_max_right _ _
  have hmax : e < maxExponent := by
    have hk : k < 1023 := (zpow_lt_zpow_iff_right₀ (by norm_num)).mp (hlow.trans_lt hrange)
    rw [← he]
    simp only [minExponent, maxExponent]
    omega
  have hfull (hleast : minExponent < e) : e + 52 = k := by omega
  have hnear (y : Rat) (hy : IsValue y) := value_nearest hhalf heven
    (fun hleast => by rwa [hfull hleast]) hy
  have hpos : (0 : Rat) < 2 ^ e := by positivity
  have hle : m ≤ 2 ^ 53 := by
    refine (mantissa_bounds hhalf (2 ^ 53)).1 ?_
    rw [div_lt_iff₀ hpos, Nat.cast_pow, Nat.cast_ofNat, ← zpow_natCast,
      ← zpow_add₀ two_ne_zero]
    exact hhigh.trans_le (zpow_le_zpow_right₀ (by norm_num) (by omega))
  by_cases hcarry : m = 2 ^ 53
  · -- the mantissa has one bit too many, and is halved
    have hvalue : ((2 ^ 52 : Nat) : Rat) * 2 ^ (e + 1) = m * 2 ^ e := by
      rw [hcarry, zpow_add_one₀ two_ne_zero]
      push_cast
      ring
    have heven : (2 ^ 52 : Nat) % 2 = 0 := by decide
    simp only [Nat.pow_eq, if_pos hcarry, if_neg (show ¬maxExponent < e + 1 by omega)]
    refine ⟨_, rounds_finite (by decide) (by omega) (by omega) (fun y hy => ?_)
      (.inr (.inl le_rfl))⟩
    rw [hvalue]
    exact ⟨(hnear y hy).1, fun _ _ => heven⟩
  · simp only [Nat.pow_eq, if_neg hcarry, if_neg (show ¬maxExponent < e by omega)]
    refine ⟨_, rounds_finite (by omega) hmin hmax.le hnear ?_⟩
    by_cases hleast : e = minExponent
    · exact .inr (.inr hleast)
    · refine .inr (.inl ((mantissa_bounds hhalf (2 ^ 52)).2 ?_))
      rw [le_div_iff₀ hpos, Nat.cast_pow, Nat.cast_ofNat, ← zpow_natCast,
        ← zpow_add₀ two_ne_zero]
      exact (zpow_le_zpow_right₀ (by norm_num) (by omega)).trans hlow

/-- The same for fractions on both sides of zero. -/
theorem rounds_ofFraction_natAbs (n : Int) {den : Nat} (hd : 0 < den)
    (hrange : (n.natAbs : Rat) / den < 2 ^ (1023 : Int)) :
    ∃ r, Rounds (n / den) r (ofFraction (n < 0) n.natAbs den) := by
  obtain ⟨r, hr⟩ := rounds_ofFraction n.natAbs hd hrange
  by_cases hneg : n < 0
  · obtain ⟨k, rfl⟩ : ∃ k : Nat, n = -k := ⟨n.natAbs, by omega⟩
    rw [Int.natAbs_neg, Int.natAbs_natCast] at hr ⊢
    refine ⟨-r, ?_⟩
    rw [decide_eq_true hneg, ofFraction_neg, Int.cast_neg, Int.cast_natCast, neg_div]
    exact hr.neg
  · obtain ⟨k, rfl⟩ : ∃ k : Nat, n = k := ⟨n.natAbs, by omega⟩
    rw [Int.natAbs_natCast] at hr ⊢
    refine ⟨r, ?_⟩
    rw [decide_eq_false hneg, Int.cast_natCast]
    exact hr

end Binary64

end DialogueQuery
