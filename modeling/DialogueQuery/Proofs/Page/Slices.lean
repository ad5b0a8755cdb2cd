import Mathlib.Data.Rat.Floor
import Mathlib.Data.List.Nodup
import Mathlib.Data.List.Pairwise

/-! The slices that pages cut out of a list. The page size also bounds the page
number, so a page as long as wide lists is all that can be reached. -/

namespace DialogueQuery.Page

variable {α : Type} {S : List α} {size : Nat}

/-- What a page shows. A page with a number above the page size shows what the
page numbered by the page size shows. -/
def shown (S : List α) (size page : Nat) : List α :=
  (S.drop ((min page size - 1) * size)).take size

theorem shown_of_le {page : Nat} (h : size ≤ page) : shown S size page = shown S size size := by
  simp [shown, h]

/-- The first pages together are the beginning of the list, as far as the page size lets them
reach. -/
theorem flatMap_shown (S : List α) {size k : Nat} (h : k ≤ size) :
    (List.range' 1 k).flatMap (shown S size) = S.take (k * size) := by
  induction k with
  | zero => simp
  | succ k ih =>
    have hlast : shown S size (1 + k) = (S.drop (k * size)).take size := by
      simp only [shown, Nat.min_eq_left (show 1 + k ≤ size by omega), Nat.add_sub_cancel_left]
    rw [List.range'_1_concat, List.flatMap_append, ih (by omega), List.flatMap_singleton, hlast,
      ← List.take_add, Nat.succ_mul]

theorem shown_ne_nil (hs : 1 ≤ size) (hl : size * size < S.length) : shown S size size ≠ [] := by
  have hlt : (size - 1) * size < S.length :=
    (Nat.mul_le_mul_right size (Nat.sub_le size 1)).trans_lt hl
  intro h
  simp only [shown, min_self, List.take_eq_nil_iff, List.drop_eq_nil_iff] at h
  omega

/-- All pages together give back the list unless some of it is out of reach. Then
two pages show the same, but no element comes twice in the list. -/
theorem flatMap_shown_eq_iff (hd : S.Nodup) (hs : 1 ≤ size) {pages : Nat}
    (hp : ∀ k, pages ≤ k ↔ S.length ≤ k * size) :
    (List.range' 1 pages).flatMap (shown S size) = S ↔ pages ≤ size := by
  constructor
  · intro h
    by_contra hlt
    have hl : size * size < S.length := by
      rw [hp] at hlt
      omega
    rw [← h, List.nodup_flatMap] at hd
    -- The pages `size` and `size + 1` are the same and not empty.
    have : Std.Symm (Function.onFun List.Disjoint (shown S size)) :=
      ⟨fun _ _ => List.disjoint_symm⟩
    have hdisj : List.Disjoint (shown S size size) (shown S size (size + 1)) :=
      hd.2.forall (by simp; omega) (by simp; omega) (by omega)
    rw [shown_of_le (Nat.le_succ size)] at hdisj
    exact shown_ne_nil hs hl (List.eq_nil_iff_forall_not_mem.mpr fun a ha => hdisj ha ha)
  · intro h
    rw [flatMap_shown S h, List.take_of_length_le ((hp pages).mp le_rfl)]

theorem ceil_le_iff (hs : 1 ≤ size) (total k : Nat) :
    ⌈(total : ℚ) / size⌉.toNat ≤ k ↔ total ≤ k * size := by
  have hpos : (0 : ℚ) < size := by exact_mod_cast hs
  rw [Int.toNat_le, Int.ceil_le, div_le_iff₀ hpos]
  exact_mod_cast Iff.rfl

end DialogueQuery.Page
