import Mathlib.Data.List.DropRight
import DialogueQuery.Funnel.Depth
import DialogueQuery.Proofs.Results

/-! Trees of names. The names of a tree are collected if and only if it is one, and
they are then its leaves from left to right. -/

namespace DialogueQuery

namespace Text

theorem trimList_eq (p : Char → Bool) (cs : List Char) :
    trimList p cs = (cs.dropWhile p).rdropWhile p := rfl

theorem dropWhile_trimList (p : Char → Bool) (cs : List Char) :
    (trimList p cs).dropWhile p = trimList p cs := by
  rw [trimList_eq]
  obtain ⟨dropped, hdropped⟩ := List.rdropWhile_prefix p (cs.dropWhile p)
  cases hkept : (cs.dropWhile p).rdropWhile p with
  | nil => rfl
  | cons c rest =>
    -- What begins the trimmed text also begins what is left of it in front.
    have hfirst : p c = false := by
      have hhead := List.head?_dropWhile_not p cs
      rw [← hdropped, hkept] at hhead
      simpa using hhead
    rw [List.dropWhile_cons_of_neg (by simp [hfirst])]

theorem trimList_trimList (p : Char → Bool) (cs : List Char) :
    trimList p (trimList p cs) = trimList p cs := by
  rw [trimList_eq p (trimList p cs), dropWhile_trimList, trimList_eq, List.rdropWhile_idempotent]

@[simp] theorem strip_strip (s : String) : strip (strip s) = strip s := by
  simp only [strip, trim, String.toList_ofList, trimList_trimList]

theorem strip_blank_append {c : Char} (hc : isBlank c = true) (s : String) :
    strip (String.singleton c ++ s) = strip s := by
  simp [strip, trim, trimList, hc]

end Text

namespace Funnel

/-- A text that is not blank, an object whose only member is named for the type and
holds a tree, or an array of trees that is not empty. -/
inductive IsNameTree (type : StepType) : Document → Prop
  | text {s : String} (h : Text.strip s ≠ "") : IsNameTree type (.str s)
  | member {d : Document} (h : IsNameTree type d) : IsNameTree type (.obj [(type.name, d)])
  | array {ds : List Document} (hne : ds ≠ []) (h : ∀ d ∈ ds, IsNameTree type d) :
      IsNameTree type (.arr ds)

mutual

/-- The texts in a tree from left to right, without the blanks around them. -/
def leaves : Document → List String
  | .str s => [Text.strip s]
  | .obj members => leavesOfMembers members
  | .arr items => leavesOfItems items
  | _ => []

def leavesOfMembers : List (String × Document) → List String
  | [] => []
  | (_, d) :: ms => leaves d ++ leavesOfMembers ms

def leavesOfItems : List Document → List String
  | [] => []
  | d :: ds => leaves d ++ leavesOfItems ds

end

theorem leavesOfItems_eq (ds : List Document) : leavesOfItems ds = ds.flatMap leaves := by
  induction ds with
  | nil => rfl
  | cons d ds ih => rw [leavesOfItems, ih, List.flatMap_cons]

theorem leaves_ofStrings {names : List String} (h : ∀ n ∈ names, Text.strip n = n) :
    leaves (.ofStrings names) = names := by
  induction names with
  | nil => rfl
  | cons n ns ih =>
    obtain ⟨hn, hns⟩ := List.forall_mem_cons.mp h
    have ih := ih hns
    simp only [Document.ofStrings, leaves, List.map_cons, leavesOfItems, hn] at ih ⊢
    rw [ih]
    rfl

variable {type : StepType} {entry : Document}

theorem nonEmptyNames_eq_ok {names names' : List String} :
    nonEmptyNames entry names = .ok names' ↔
      names ≠ [] ∧ (∀ n ∈ names, n ≠ "") ∧ names = names' := by
  unfold nonEmptyNames
  split
  · next h =>
    refine iff_of_false (by simp) ?_
    rintro ⟨hne, hall, -⟩
    rcases Bool.or_eq_true_iff.mp h with h | h
    · exact hne (List.isEmpty_iff.mp h)
    · obtain ⟨n, hn, hempty⟩ := List.any_eq_true.mp h
      exact hall n hn (by simpa using hempty)
  · next h =>
    simp only [Bool.or_eq_true, List.isEmpty_iff, List.any_eq_true, beq_iff_eq, not_or,
      not_exists, not_and] at h
    exact ⟨fun hn => ⟨h.1, h.2, Except.ok.inj hn⟩, fun hn => congrArg _ hn.2.2⟩

mutual

/-- What names are collected from is a tree of names, and these are its leaves from left to right.
-/
theorem isNameTree_of_collectNames {names : List String} : (d : Document) →
    collectNames type entry d = .ok names → IsNameTree type d ∧ names = leaves d
  | .str s, h => by
    obtain ⟨-, hne, rfl⟩ := nonEmptyNames_eq_ok.mp h
    exact ⟨.text (hne _ List.mem_cons_self), rfl⟩
  | .obj members, h => isNameTree_of_namesOfMember members h
  | .arr items, h => by
    rw [collectNames] at h
    obtain ⟨collected, hitems, h⟩ := bind_eq_ok.mp h
    obtain ⟨hne, -, rfl⟩ := nonEmptyNames_eq_ok.mp h
    obtain ⟨htrees, rfl⟩ := areNameTrees_of_collectItems items hitems
    refine ⟨.array ?_ htrees, rfl⟩
    rintro rfl
    exact hne rfl
  | .null, h | .bool _, h | .int _, h | .float _, h | .objectId _, h => nomatch h

theorem isNameTree_of_namesOfMember {names : List String} : (ms : List (String × Document)) →
    namesOfMember type entry ms = .ok names →
      IsNameTree type (.obj ms) ∧ names = leavesOfMembers ms
  | [(key, d)], h => by
    rw [namesOfMember] at h
    split at h
    · next hkey =>
      obtain ⟨htree, rfl⟩ := isNameTree_of_collectNames d h
      subst hkey
      exact ⟨.member htree, by simp [leavesOfMembers]⟩
    · cases h
  | [], h | _ :: _ :: _, h => nomatch h

theorem areNameTrees_of_collectItems {names : List String} : (ds : List Document) →
    collectItems type entry ds = .ok names →
      (∀ d ∈ ds, IsNameTree type d) ∧ names = leavesOfItems ds
  | [], h => by
    cases h
    exact ⟨by simp, rfl⟩
  | d :: ds, h => by
    rw [collectItems] at h
    obtain ⟨first, hfirst, h⟩ := bind_eq_ok.mp h
    obtain ⟨rest, hrest, h⟩ := bind_eq_ok.mp h
    cases h
    obtain ⟨htree, rfl⟩ := isNameTree_of_collectNames d hfirst
    obtain ⟨htrees, rfl⟩ := areNameTrees_of_collectItems ds hrest
    exact ⟨List.forall_mem_cons.mpr ⟨htree, htrees⟩, rfl⟩

end

theorem collectItems_of_names {ds : List Document}
    (h : ∀ d ∈ ds, collectNames type entry d = .ok (leaves d)) :
    collectItems type entry ds = .ok (leavesOfItems ds) := by
  induction ds with
  | nil => rfl
  | cons d ds ih =>
    obtain ⟨hd, hds⟩ := List.forall_mem_cons.mp h
    rw [collectItems, hd, ih hds, leavesOfItems]
    rfl

namespace IsNameTree

variable {d : Document}

theorem leaves_ne_nil (h : IsNameTree type d) : leaves d ≠ [] := by
  induction h with
  | text h => exact List.cons_ne_nil _ _
  | member h ih => simpa [leaves, leavesOfMembers] using ih
  | @array ds hne h ih =>
    obtain ⟨d, ds, rfl⟩ := List.exists_cons_of_ne_nil hne
    rw [leaves, leavesOfItems]
    exact List.append_ne_nil_of_left_ne_nil (ih d List.mem_cons_self) _

theorem of_mem_leaves (h : IsNameTree type d) :
    ∀ n ∈ leaves d, n ≠ "" ∧ Text.strip n = n := by
  induction h with
  | text h => simpa [leaves] using h
  | member h ih => simpa [leaves, leavesOfMembers] using ih
  | array hne h ih =>
    intro n hn
    rw [leaves, leavesOfItems_eq] at hn
    obtain ⟨d, hd, hn⟩ := List.mem_flatMap.mp hn
    exact ih d hd n hn

/-- From every tree of names its leaves are collected. -/
theorem collectNames_eq (h : IsNameTree type d) : collectNames type entry d = .ok (leaves d) := by
  induction h with
  | @text s h => exact nonEmptyNames_eq_ok.mpr ⟨List.cons_ne_nil _ _, by simpa using h, rfl⟩
  | member h ih => simpa [collectNames, namesOfMember, leaves, leavesOfMembers] using ih
  | @array ds hne h ih =>
    rw [collectNames, collectItems_of_names ih]
    have harray := IsNameTree.array hne h
    exact nonEmptyNames_eq_ok.mpr
      ⟨harray.leaves_ne_nil, fun n hn => (harray.of_mem_leaves n hn).1, rfl⟩

end IsNameTree

/-- Names are collected from trees of names and from nothing else. -/
theorem collectNames_eq_ok {d : Document} {names : List String} :
    collectNames type entry d = .ok names ↔ IsNameTree type d ∧ names = leaves d := by
  constructor
  · exact isNameTree_of_collectNames d
  · rintro ⟨h, rfl⟩
    exact h.collectNames_eq

end Funnel

end DialogueQuery
