import DialogueQuery.Proofs.Filter.Window

/-! The window that the store derives and the one that is read in process. The store
takes the first and the last timestamp even if they are null; in process the ends are
looked for among the timestamps that are set. -/

namespace DialogueQuery

theorem Expr.difference_of_null {x y : Option Document}
    (h : x.getD .null = .null ∨ y.getD .null = .null) : difference x y = .ok (some .null) := by
  rcases h with h | h <;> cases x <;> cases y <;> simp_all [difference, Document.isNull]

namespace Conversation

def areSet (times : List Document) : List Document := times.filter (!·.isNull)

/-- No null is first or last, unless there is nothing else. -/
def EndsSet (times : List Document) : Prop :=
  (∃ t ∈ times, t.isNull = false) →
    times.head?.all (!·.isNull) = true ∧ times.getLast?.all (!·.isNull) = true

theorem areSet_eq_nil {times : List Document} :
    areSet times = [] ↔ ¬∃ t ∈ times, t.isNull = false := by
  simp [areSet]

theorem head_areSet_iff (times : List Document) :
    times.head?.getD .null = (areSet times).head?.getD .null ↔
      ((∃ t ∈ times, t.isNull = false) → times.head?.all (!·.isNull) = true) := by
  cases times with
  | nil => simp [areSet]
  | cons x rest =>
    cases hx : x.isNull with
    | false => simp [areSet, hx]
    | true =>
      obtain rfl : x = .null := by cases x <;> simp_all [Document.isNull]
      have hhead : Option.all (!·.isNull) (Document.null :: rest).head? = false := rfl
      cases hset : areSet (.null :: rest) with
      | nil =>
        have hnone := areSet_eq_nil.mp hset
        exact iff_of_true rfl fun h => absurd h hnone
      | cons y ys =>
        obtain ⟨hmem, hn⟩ := List.mem_filter.mp (hset ▸ List.mem_cons_self : y ∈ areSet _)
        have hn : y.isNull = false := by simpa using hn
        refine iff_of_false ?_ fun h => ?_
        · intro h
          rw [← show Document.null = y from h] at hn
          cases hn
        · rw [h ⟨y, hmem, hn⟩] at hhead
          cases hhead

theorem getLast_areSet_iff (times : List Document) :
    times.getLast?.getD .null = (areSet times).getLast?.getD .null ↔
      ((∃ t ∈ times, t.isNull = false) → times.getLast?.all (!·.isNull) = true) := by
  have h := head_areSet_iff times.reverse
  simpa [areSet, ← List.filter_reverse] using h

theorem map_window? (c : Document) :
    (window? c).map Prod.fst = (areSet (stamps c)).head? ∧
      (window? c).map Prod.snd = (areSet (stamps c)).getLast? := by
  unfold window?
  rw [← areSet]
  cases areSet (stamps c) with
  | nil => exact ⟨rfl, rfl⟩
  | cons x rest => simp [List.getLast?_cons]

/-- The two ends agree with the window if and only if no end is unset while another event has a
time. -/
theorem ends_agree_iff (c : Document) :
    ((stamps c).head?.getD .null = ((window? c).map Prod.fst).getD .null ∧
      (stamps c).getLast?.getD .null = ((window? c).map Prod.snd).getD .null) ↔
      EndsSet (stamps c) := by
  rw [(map_window? c).1, (map_window? c).2, head_areSet_iff, getLast_areSet_iff, EndsSet,
    imp_and]

theorem difference_of_endsSet {c : Document} (h : hasEvents c = true)
    (hset : EndsSet (stamps c)) :
    Expr.difference (stamps c).getLast? (stamps c).head? =
      (duration c).map fun v => some (v.getD .null) := by
  obtain ⟨hfirst, hlast⟩ := (ends_agree_iff c).mpr hset
  simp only [duration, window_of_hasEvents h, ok_bind]
  cases hw : window? c with
  | none =>
    rw [hw] at hfirst
    exact Expr.difference_of_null (.inr hfirst)
  | some ends =>
    obtain ⟨first, last⟩ := ends
    simp only [hw, Option.map_some, Option.getD_some] at hfirst hlast
    have hends : first ∈ areSet (stamps c) ∧ last ∈ areSet (stamps c) := by
      obtain ⟨hf, hl⟩ := map_window? c
      rw [hw] at hf hl
      exact ⟨List.mem_of_head? hf.symm, List.mem_of_getLast? hl.symm⟩
    have hread {x : Option Document} {d : Document} (hx : x.getD .null = d)
        (hd : d ∈ areSet (stamps c)) : x = some d ∧ d.isNull = false := by
      have hd : d.isNull = false := by simpa using (List.mem_filter.mp hd).2
      cases x with
      | some x => exact ⟨congrArg some hx, hd⟩
      | none =>
        rw [← show Document.null = d from hx] at hd
        cases hd
    obtain ⟨hx, hn⟩ := hread hfirst hends.1
    obtain ⟨hy, hn'⟩ := hread hlast hends.2
    simp only [hx, hy, Expr.difference, hn, hn', Bool.or_self, Bool.false_eq_true, if_false]
    cases last.minus first <;> rfl

theorem difference_of_not_endsSet {c : Document} (hset : ¬EndsSet (stamps c)) :
    Expr.difference (stamps c).getLast? (stamps c).head? = .ok (some .null) := by
  have hnull {x : Option Document} (hx : ¬x.all (!·.isNull) = true) : x.getD .null = .null := by
    cases x with
    | none => rfl
    | some d => cases d <;> simp_all [Document.isNull]
  rw [EndsSet, Classical.not_imp, Classical.not_and_iff_not_or_not] at hset
  exact Expr.difference_of_null (hset.2.symm.imp hnull hnull)

end Conversation

namespace Filter

open Conversation

/-- The window derived on `d` against the ends read in process. They are the same unless a
null is first or last among timestamps that are not all null, and then the derived
difference is the duration; otherwise it is null. -/
structure ComparesWindows (m : StoreModel) (c d : Document) (ends : Option (Document × Document)) :
    Prop where
  derived : m.Passes [windowStage] c true d
  read : window c = .ok ends
  agree : ((d.member? "startTime").getD .null = (ends.map Prod.fst).getD .null ∧
    (d.member? "endTime").getD .null = (ends.map Prod.snd).getD .null) ↔ EndsSet (stamps c)
  set (spec : FilterSpec) : durationStages spec ≠ [] → EndsSet (stamps c) →
    m.run (windowStage :: (durationStages spec).take 1) [c] =
      (duration c).map fun v => [d.derive "difference" (some (v.getD .null))]
  unset (spec : FilterSpec) : durationStages spec ≠ [] → ¬EndsSet (stamps c) →
    m.run (windowStage :: (durationStages spec).take 1) [c] =
      .ok [d.derive "difference" (some .null)]

/-- The store derives the window that is read in process if and only if the ends of the timestamps
are set or no timestamp is. Otherwise the difference that it derives is null. -/
theorem windows_compare {m : StoreModel} (hm : m.follow = .collecting) {c : Document}
    (h : hasEvents c = true) : ∃ d ends, ComparesWindows m c d ends := by
  obtain ⟨d, hpass, hd⟩ := windowStage_passes h hm
  have hf : m.follow.IsMemberwise := hm ▸ Resolver.collecting_isMemberwise
  have hrun (spec : FilterSpec) (hspec : durationStages spec ≠ []) :
      m.run (windowStage :: (durationStages spec).take 1) [c] =
        (Expr.difference (stamps c).getLast? (stamps c).head?).map
          fun v => [d.derive "difference" v] := by
    have htake : (durationStages spec).take 1 = [.addFields [("difference",
        .subtract (.field ["endTime"]) (.field ["startTime"]))]] := by
      unfold durationStages at hspec ⊢
      split
      · next hlow hhigh => simp [hlow, hhigh] at hspec
      · rfl
    have happend := StoreModel.run_append m [windowStage] ((durationStages spec).take 1) [c]
    rw [List.singleton_append, hpass.1, ok_bind, if_pos rfl, htake,
      StoreModel.run_addFields_one hd.isObject, Expr.eval_subtract (Expr.eval_field _)
        (Expr.eval_field _), hf.follow_one hd.isObject, hf.follow_one hd.isObject, hd.start,
      hd.finish] at happend
    rw [htake, happend]
  refine ⟨d, window? c, ?_⟩
  constructor
  case derived => exact hpass
  case read => exact window_of_hasEvents h
  case agree =>
    rw [hd.start, hd.finish]
    exact ends_agree_iff c
  case set =>
    intro spec hspec hset
    rw [hrun spec hspec, difference_of_endsSet h hset]
    cases duration c <;> rfl
  case unset =>
    intro spec hspec hset
    rw [hrun spec hspec, difference_of_not_endsSet hset]
    rfl

def timedRecord (events : List Document) : Document :=
  .obj [("_id", .str "c1"), ("tracker", .obj [("events", .arr events)])]

/-- Events without a timestamp at the ends, and a null among the timestamps. -/
def gappedRecord : Document :=
  timedRecord [.obj [], .obj [("timestamp", .int 3)], .obj [("timestamp", .null)], .str "restart",
    .obj [("timestamp", .int 5)], .null]

theorem windows_compare_gapped :
    EndsSet (stamps gappedRecord) ∧ ∃ d ends,
      ComparesWindows ⟨.collecting, fun _ _ => true⟩ gappedRecord d ends :=
  ⟨fun _ => ⟨rfl, rfl⟩, windows_compare rfl rfl⟩

/-- The first timestamp is null and the second one is not. -/
def unsetFirst : Document :=
  timedRecord [.obj [("timestamp", .null)], .obj [("timestamp", .int 5)]]

theorem windows_differ_unsetFirst :
    hasEvents unsetFirst = true ∧ window unsetFirst = .ok (some (.int 5, .int 5)) ∧
      duration unsetFirst = .ok (some (.int 0)) ∧
      ∃ d, StoreModel.Passes ⟨.collecting, fun _ _ => true⟩ [windowStage] unsetFirst true d ∧
        d.member? "startTime" = some .null ∧ d.member? "endTime" = some (.int 5) ∧
        (Expr.subtract (.field ["endTime"]) (.field ["startTime"])).eval .collecting d [] =
          .ok (some .null) := by
  obtain ⟨d, hpass, hd⟩ := windowStage_passes (c := unsetFirst) rfl
    (m := ⟨.collecting, fun _ _ => true⟩) rfl
  refine ⟨rfl, rfl, rfl, d, hpass, hd.start, hd.finish, ?_⟩
  rw [Expr.eval_subtract (Expr.eval_field _) (Expr.eval_field _),
    Resolver.collecting_isMemberwise.follow_one hd.isObject,
    Resolver.collecting_isMemberwise.follow_one hd.isObject, hd.start, hd.finish]
  rfl

end Filter

end DialogueQuery
