import Mathlib.Data.List.Nodup
import Mathlib.Data.List.Perm.Subperm
import DialogueQuery.Proofs.Document.Points

/-! Equality of the values that a text can write. It goes by points between numbers
and by items and members below arrays and objects. There it is symmetric and
transitive. -/

namespace DialogueQuery.Document

/-- A value with finite numbers, whose objects name each member once. -/
inductive IsProper : Document → Prop
  | null : IsProper null
  | bool (b : Bool) : IsProper (bool b)
  | int (n : Int) : IsProper (int n)
  | float {x : Binary64} (h : x.toRat?.isSome = true) : IsProper (float x)
  | str (s : String) : IsProper (str s)
  | arr {items : List Document} (h : ∀ d ∈ items, IsProper d) : IsProper (arr items)
  | obj {members : Members} (hnames : (members.map Prod.fst).Nodup)
      (h : ∀ m ∈ members, IsProper m.2) : IsProper (obj members)

theorem point?_eq_some {x : Binary64} {q : Rat} (h : x.toRat? = some q) :
    (float x).point? = some (.ofRat q) := by
  cases x with
  | finite s m e =>
    simp only [point?, numeral?, Option.bind_some, Numeral.point?, Numeral.position?, h]
    rfl
  | _ => cases h

/-- A number equals what has the same point. -/
theorem equal_iff_point {a b : Document} {p : Point} (h : a.point? = some p) :
    equal a b = true ↔ b.point? = some p := by
  obtain ⟨x, hx, hp⟩ := Option.bind_eq_some_iff.mp h
  have hab : equal a b = equalNumbers a b := by
    cases a <;> simp_all [equal, numeral?]
  rw [hab, equalNumbers, hx]
  cases hy : b.numeral? with
  | none => simp [point?, hy]
  | some y =>
    cases hq : y.point? with
    | none => simp [point?, hy, hq, Numeral.compare?_eq_none (.inr hq)]
    | some q =>
      simp only [point?, hy, hq, Numeral.compare?_eq_some hp hq, Option.bind_some, beq_iff_eq,
        Option.some.injEq, compare_eq_iff_eq]
      exact eq_comm

theorem equalItems_symm {xs ys : List Document}
    (h : ∀ x ∈ xs, ∀ y ∈ ys, equal x y = true → equal y x = true)
    (hxy : equalItems xs ys = true) : equalItems ys xs = true := by
  induction xs generalizing ys with
  | nil => cases ys <;> simp_all [equalItems]
  | cons x xs ih =>
    cases ys with
    | nil => simp [equalItems] at hxy
    | cons y ys =>
      rw [equalItems, Bool.and_eq_true] at hxy ⊢
      exact ⟨h x (by simp) y (by simp) hxy.1,
        ih (fun a ha b hb => h a (by simp [ha]) b (by simp [hb])) hxy.2⟩

theorem equalItems_trans {xs ys zs : List Document}
    (h : ∀ x ∈ xs, ∀ {y z}, equal x y = true → equal y z = true → equal x z = true)
    (hxy : equalItems xs ys = true) (hyz : equalItems ys zs = true) :
    equalItems xs zs = true := by
  induction xs generalizing ys zs with
  | nil => cases ys <;> simp_all [equalItems]
  | cons x xs ih =>
    cases ys with
    | nil => simp [equalItems] at hxy
    | cons y ys =>
      cases zs with
      | nil => simp [equalItems] at hyz
      | cons z zs =>
        rw [equalItems, Bool.and_eq_true] at hxy hyz ⊢
        exact ⟨h x (by simp) hxy.1 hyz.1, ih (fun a ha => h a (by simp [ha])) hxy.2 hyz.2⟩

theorem includedMembers_iff {xs ys : Members} :
    includedMembers xs ys = true ↔
      ∀ m ∈ xs, ∃ w, ys.lookup m.1 = some w ∧ equal m.2 w = true := by
  induction xs with
  | nil => simp [includedMembers]
  | cons m xs ih =>
    rw [includedMembers, Bool.and_eq_true, ih, List.forall_mem_cons]
    cases ys.lookup m.1 <;> simp

/-- Objects are equal whatever the order of their members. -/
theorem equal_obj_iff {xs ys : Members} :
    equal (obj xs) (obj ys) = true ↔ xs.length = ys.length ∧
      ∀ m ∈ xs, ∃ w, ys.lookup m.1 = some w ∧ equal m.2 w = true := by
  rw [equal, Bool.and_eq_true, beq_iff_eq, includedMembers_iff]

theorem lookup_of_nodup {members : Members} (hnames : (members.map Prod.fst).Nodup)
    {m : String × Document} (hm : m ∈ members) : members.lookup m.1 = some m.2 :=
  lookup_of_unique hm fun _ hx hname =>
    congrArg Prod.snd (List.inj_on_of_nodup_map hnames hx hm hname)

theorem mem_of_lookup {members : Members} {n : String} {v : Document}
    (h : members.lookup n = some v) : (n, v) ∈ members := by
  obtain ⟨_, _, rfl, -⟩ := List.lookup_eq_some_iff.mp h
  simp

/-- Of as many names on either side, all of the second are among the first if all of the
first are among the second. -/
theorem names_subset {xs ys : Members} (hnames : (xs.map Prod.fst).Nodup)
    (hlength : xs.length = ys.length) (hsub : ∀ m ∈ xs, ∃ w, ys.lookup m.1 = some w) :
    ys.map Prod.fst ⊆ xs.map Prod.fst := by
  have hsub' : xs.map Prod.fst ⊆ ys.map Prod.fst := by
    intro n hn
    obtain ⟨m, hm, rfl⟩ := List.mem_map.mp hn
    obtain ⟨w, hw⟩ := hsub m hm
    exact List.mem_map.mpr ⟨(m.1, w), mem_of_lookup hw, rfl⟩
  have hperm := (List.subperm_of_subset hnames hsub').perm_of_length_le (by simp [hlength])
  exact hperm.symm.subset

namespace IsProper

/-- Induction over the kinds of values, in which every number is a point. -/
@[elab_as_elim]
theorem byKind {motive : (a : Document) → IsProper a → Prop} (null : motive .null .null)
    (number : ∀ (a : Document) (p : Point) (ha : IsProper a), a.point? = some p → motive a ha)
    (text : ∀ s : String, motive (.str s) (.str s))
    (array : ∀ (items : List Document) (h : ∀ d ∈ items, IsProper d),
      (∀ d hd, motive d (h d hd)) → motive (.arr items) (.arr h))
    (object : ∀ (members : Members) (hnames : (members.map Prod.fst).Nodup)
      (h : ∀ m ∈ members, IsProper m.2), (∀ m hm, motive m.2 (h m hm)) →
      motive (.obj members) (.obj hnames h))
    {a : Document} (ha : IsProper a) : motive a ha := by
  induction ha with
  | null => exact null
  | bool _ => exact number _ _ _ rfl
  | int _ => exact number _ _ _ rfl
  | float h =>
    obtain ⟨q, hq⟩ := Option.isSome_iff_exists.mp h
    exact number _ _ _ (point?_eq_some hq)
  | str s => exact text s
  | arr h ih => exact array _ h ih
  | obj hnames h ih => exact object _ hnames h ih

/-- Equality is symmetric on proper values. For objects this takes that no name occurs twice. -/
theorem equal_symm {a b : Document} (ha : IsProper a) (hb : IsProper b) (h : equal a b = true) :
    equal b a = true := by
  induction ha using byKind generalizing b with
  | null => rwa [equal_null]
  | number a p _ hp => exact (equal_iff_point ((equal_iff_point hp).mp h)).mpr hp
  | text s => cases b <;> simp_all [equal]
  | array xs _ ih =>
    cases hb with
    | arr hys => exact equalItems_symm (fun x hx y hy => ih x hx (hys y hy)) h
    | _ => simp [equal] at h
  | object xs hnames _ ih =>
    cases hb with
    | obj hnames' hys =>
      rw [equal_obj_iff] at h ⊢
      obtain ⟨hlength, hsub⟩ := h
      refine ⟨hlength.symm, fun m hm => ?_⟩
      have hsub' := names_subset hnames hlength fun m hm => (hsub m hm).imp fun _ h => h.1
      obtain ⟨m', hm', hname⟩ := List.mem_map.mp (hsub' (List.mem_map_of_mem hm))
      obtain ⟨w, hw, hequal⟩ := hsub m' hm'
      rw [hname, lookup_of_nodup hnames' hm] at hw
      cases hw
      exact ⟨m'.2, hname ▸ lookup_of_nodup hnames hm', ih m' hm' (hys m hm) hequal⟩
    | _ => simp [equal] at h

/-- Equality is transitive, also where it passes between integers, floats and booleans. -/
theorem equal_trans {a b c : Document} (ha : IsProper a) (hab : equal a b = true)
    (hbc : equal b c = true) : equal a c = true := by
  induction ha using byKind generalizing b c with
  | null => cases b <;> simp_all [equal, isNull]
  | number a p _ hp =>
    have hb := (equal_iff_point hp).mp hab
    exact (equal_iff_point hp).mpr ((equal_iff_point hb).mp hbc)
  | text s => cases b <;> simp_all [equal]
  | array xs _ ih =>
    cases b with
    | arr ys =>
      cases c with
      | arr zs => exact equalItems_trans ih hab hbc
      | _ => simp [equal] at hbc
    | _ => simp [equal] at hab
  | object xs _ _ ih =>
    cases b with
    | obj ys =>
      cases c with
      | obj zs =>
        rw [equal_obj_iff] at hab hbc ⊢
        refine ⟨hab.1.trans hbc.1, fun m hm => ?_⟩
        obtain ⟨v, hv, hmv⟩ := hab.2 m hm
        obtain ⟨w, hw, hvw⟩ := hbc.2 _ (mem_of_lookup hv)
        exact ⟨w, hw, ih m hm hmv hvw⟩
      | _ => simp [equal] at hbc
    | _ => simp [equal] at hab

/-- Equal values are equal to the same values. -/
theorem equal_congr {a b c : Document} (ha : IsProper a) (hb : IsProper b)
    (hab : equal a b = true) : equal a c = equal b c :=
  Bool.eq_iff_iff.mpr ⟨hb.equal_trans (ha.equal_symm hb hab), ha.equal_trans hab⟩

theorem equal_comm {a b : Document} (ha : IsProper a) (hb : IsProper b) : equal a b = equal b a :=
  Bool.eq_iff_iff.mpr ⟨ha.equal_symm hb, hb.equal_symm ha⟩

end IsProper

end DialogueQuery.Document
