import DialogueQuery.Proofs.Page.Requests

/-! The number of pages that a page tells. It is the number of all pages on every
page that shows something, and zero on one that shows nothing. -/

namespace DialogueQuery.Page

theorem shown_ne_nil_iff {α : Type} (docs : List α) {size : Nat} (hs : 1 ≤ size) (page : Nat) :
    shown docs size page ≠ [] ↔ (min page size - 1) * size < docs.length := by
  simp only [shown, ne_eq, List.take_eq_nil_iff, List.drop_eq_nil_iff]
  omega

theorem one_le_ceil {size total : Nat} (hs : 1 ≤ size) (ht : 0 < total) :
    1 ≤ ⌈(total : ℚ) / size⌉ := by
  have hle := ceil_le_iff hs total 0
  omega

/-- Pages up to their number begin before the end, also where the page size cuts
the page number down. -/
theorem begins_of_le_ceil {size page total : Nat} (hs : 1 ≤ size) (hp : 1 ≤ page)
    (hle : (page : Int) ≤ ⌈(total : ℚ) / size⌉) : (min page size - 1) * size < total := by
  by_contra hge
  have hceil := (ceil_le_iff hs total (min page size - 1)).mpr (by omega)
  omega

section

variable (m : StoreModel) (docs : List Members) {size page : Nat}

/-- A page tells how many pages there are if it shows something, and zero if not;
every page that there is shows something. -/
theorem paged_count (hs : 1 ≤ size) (hp : 1 ≤ page) :
    ∃ p, paged m page size docs = .ok p ∧
      p.pages = (if (min page size - 1) * size < docs.length
        then ⌈(docs.length : ℚ) / size⌉ else 0) ∧
      (p.pages = 0 ↔ p.conversations = []) ∧
      (docs = [] → p.pages = 0) ∧
      ((page : Int) ≤ ⌈(docs.length : ℚ) / size⌉ → p.pages = ⌈(docs.length : ℚ) / size⌉) := by
  have hshown := shown_ne_nil_iff docs hs page
  refine ⟨_, paged_bounded m docs hs hp, ?_⟩
  by_cases hb : (min page size - 1) * size < docs.length
  · have hne := hshown.mpr hb
    have hpages : (answer docs size page).pages = ⌈(docs.length : ℚ) / size⌉ := by
      simp [answer, hne]
    have hone := one_le_ceil hs (show 0 < docs.length by omega)
    rw [hpages, if_pos hb]
    refine ⟨rfl, ⟨fun hz => ?_, fun hnil => absurd hnil hne⟩, fun hnil => ?_, fun _ => rfl⟩
    · omega
    · simp [hnil] at hb
  · have hnil : shown docs size page = [] := by
      by_contra hne
      exact hb (hshown.mp hne)
    have hpages : (answer docs size page).pages = 0 := by simp [answer, hnil]
    rw [hpages, if_neg hb]
    refine ⟨rfl, ⟨fun _ => hnil, fun _ => rfl⟩, fun _ => rfl, fun hle => ?_⟩
    exact absurd (begins_of_le_ceil hs hp hle) hb

end

def threeDocuments : List Members := [[("_id", .int 1)], [("_id", .int 2)], [("_id", .int 3)]]

theorem paged_count_last : 1 ≤ 2 ∧ ∃ p,
    paged byIntegers (2 : Nat) (2 : Nat) threeDocuments = .ok p ∧ p.pages = 2 := by
  obtain ⟨p, hp, -, -, -, hlast⟩ := paged_count byIntegers threeDocuments
    (show 1 ≤ 2 by decide) (show 1 ≤ 2 by decide)
  have hceil : ⌈(threeDocuments.length : ℚ) / (2 : Nat)⌉ = 2 := by
    norm_num [threeDocuments, Int.ceil_eq_iff]
  rw [hceil] at hlast
  exact ⟨by decide, p, hp, hlast le_rfl⟩

/-- The page after the last one tells of no pages, although there is one. -/
theorem paged_beyond_end :
    paged byIntegers (2 : Nat) (2 : Nat) (threeDocuments.take 1) = .ok ⟨[], 0⟩ ∧
      threeDocuments.take 1 ≠ [] ∧ ⌈((threeDocuments.take 1).length : ℚ) / (2 : Nat)⌉ = 1 := by
  refine ⟨rfl, by simp [threeDocuments], ?_⟩
  norm_num [threeDocuments, Int.ceil_eq_iff]

end DialogueQuery.Page
