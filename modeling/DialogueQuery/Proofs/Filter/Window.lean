import DialogueQuery.Filter.Window
import DialogueQuery.Proofs.Aggregation.Conditions
import DialogueQuery.Proofs.Aggregation.Stages
import DialogueQuery.Proofs.Conversation.Derived

/-! The window of a conversation, derived in the store and in process. Dates and
bounds on the duration find out the same from both. -/

namespace DialogueQuery

theorem Expr.elementAt_zero (xs : List Document) : elementAt xs 0 = xs.head? := by
  simp [elementAt, List.head?_eq_getElem?]

theorem Expr.elementAt_neg_one (xs : List Document) : elementAt xs (-1) = xs.getLast? := by
  rw [elementAt, if_neg (by omega), List.getLast?_eq_getElem?]
  split
  · congr 1
    omega
  · have : xs = [] := List.eq_nil_of_length_eq_zero (by omega)
    simp [this]

namespace Filter

open Conversation

theorem eval_stampAt {d : Document} (h : hasEvents d = true) (i : Int) :
    (Expr.elemAt (.field ["tracker", "events", "timestamp"]) (.const (.int i))).eval
      .collecting d [] = .ok (Expr.elementAt (stamps d) i) := by
  have hpath : Resolver.collecting d ["tracker", "events", "timestamp"] =
      (Resolver.collecting d ["tracker", "events"]).bind
        fun v => Resolver.collecting v ["timestamp"] :=
    Resolver.collecting_isMemberwise.follow_append (leadsThroughRecords_events h) ["timestamp"]
  have hfield : (Expr.field ["tracker", "events", "timestamp"]).eval .collecting d [] =
      .ok (Resolver.collecting d ["tracker", "events", "timestamp"]) := Expr.eval_field _
  rw [hpath] at hfield
  rcases Resolver.collecting_isMemberwise.follow_events h with he | ⟨hn, he⟩
  · rw [he, Option.bind_some, Resolver.collecting_items] at hfield
    exact Expr.eval_elemAt hfield (Expr.eval_const _)
  · have hs : stamps d = [] := by simp [stamps, he]
    have hnone : (Expr.field ["tracker", "events", "timestamp"]).eval .collecting d [] =
        .ok none := by
      rw [hfield]
      rcases Expr.isNullish_iff.mp hn with hv | hv <;> rw [hv] <;> rfl
    rw [Expr.eval_elemAt_missing hnone (Expr.eval_const _), hs]
    simp [Expr.elementAt]

def laterFields : List String := ["firstIntent", "convLen", "difference"]

/-- A conversation with its window, and perhaps with some of the later fields. -/
structure Windowed (c d : Document) : Prop where
  isObject : d.isObject = true
  start : d.member? "startTime" = (stamps c).head?
  finish : d.member? "endTime" = (stamps c).getLast?
  frame (name : String) : name ∉ "startTime" :: "endTime" :: laterFields →
    d.member? name = c.member? name

namespace Windowed

variable {c d : Document}

theorem derive (hd : Windowed c d) {name : String} (hn : name ∈ laterFields)
    (v : Option Document) : Windowed c (d.derive name v) := by
  have hne {n : String} (h : n ∉ laterFields) : n ≠ name := fun he => h (he ▸ hn)
  have hm {n : String} (h : n ∉ laterFields) : (d.derive name v).member? n = d.member? n := by
    rw [Document.member?_derive hd.isObject, if_neg (hne h)]
  constructor
  · rw [Document.isObject_derive, hd.isObject]
  · rw [hm (by decide), hd.start]
  · rw [hm (by decide), hd.finish]
  · intro n h
    rw [hm fun hl => h (by simp [hl]), hd.frame n h]

theorem tracker (hd : Windowed c d) : d.member? "tracker" = c.member? "tracker" :=
  hd.frame "tracker" (by decide)

theorem recorded_eq (hd : Windowed c d) : recorded d = recorded c := recorded_congr hd.tracker

theorem hasEvents (hd : Windowed c d) (h : hasEvents c = true) : Conversation.hasEvents d = true :=
  (hasEvents_congr (hd.isObject.trans (isObject_of_hasEvents h).symm) hd.tracker).trans h

end Windowed

/-- The first stage derives the times of a conversation and leaves the rest of it alone. -/
theorem windowStage_passes {c : Document} (h : hasEvents c = true) {m : StoreModel}
    (hm : m.follow = .collecting) :
    ∃ d, m.Passes [windowStage] c true d ∧ Windowed c d := by
  have ho := isObject_of_hasEvents h
  refine ⟨_, .addFields (StoreModel.addFields_two ho _ _ (hm ▸ eval_stampAt h 0)
    (hm ▸ eval_stampAt h (-1))), ?_⟩
  rw [Expr.elementAt_zero, Expr.elementAt_neg_one]
  constructor
  · rw [Document.isObject_derive, Document.isObject_derive, ho]
  · simp [Document.member?_derive, ho]
  · simp [Document.member?_derive, ho]
  · intro name hn
    simp only [List.mem_cons, not_or] at hn
    simp [Document.member?_derive, ho, hn]

def withinBound (comparator : Comparator) (bound : Option Binary64) (v : Option Document) : Bool :=
  bound.all fun b => (Test.compare comparator (.float b)).passes v

theorem durationMatch_passes (m : StoreModel) (comparator : Comparator) (bound : Option Binary64)
    (d : Document) :
    m.Passes (bound.map (durationMatch comparator)).toList d
      (withinBound comparator bound (d.member? "difference")) d := by
  cases bound with
  | none => exact .nil m d
  | some b =>
    have hq := StoreModel.Passes.filterBy m
      (.all [.passes ["difference"] [.compare comparator (.float b)]]) d
    simpa [withinBound, durationMatch] using hq

/-- The stages for the duration keep a conversation if its duration is within both bounds. -/
theorem durationStages_pass {m : StoreModel} (hf : m.follow.IsMemberwise) {c d : Document}
    (hd : Windowed c d) (spec : FilterSpec) {v : Option Document}
    (hv : Expr.difference (stamps c).getLast? (stamps c).head? = .ok (some (v.getD .null))) :
    ∃ d', Windowed c d' ∧ m.Passes (durationStages spec) d
      (withinBound .greaterThan (activeBound spec.minDuration) v &&
        withinBound .lessThan (activeBound spec.maxDuration) v) d' := by
  have hexpr : (Expr.subtract (.field ["endTime"]) (.field ["startTime"])).eval m.follow d [] =
      .ok (some (v.getD .null)) := by
    rw [Expr.eval_subtract (Expr.eval_field _) (Expr.eval_field _), hf.follow_one hd.isObject,
      hf.follow_one hd.isObject, hd.start, hd.finish, hv]
  let d' := d.derive "difference" (some (v.getD .null))
  have hm : d'.member? "difference" = some (v.getD .null) := by
    simp [d', Document.member?_derive, hd.isObject]
  have hbound (comparator : Comparator) (bound : Option Binary64) :
      withinBound comparator bound (some (v.getD .null)) = withinBound comparator bound v := by
    simp only [withinBound, Test.passes_compare_getD]
  have hp := ((StoreModel.Passes.addFields (StoreModel.addFields_one hd.isObject _ hexpr)).append
    (durationMatch_passes m .greaterThan (activeBound spec.minDuration) d')).append
    (durationMatch_passes m .lessThan (activeBound spec.maxDuration) d')
  rw [hm, hbound, hbound, Bool.true_and] at hp
  unfold durationStages
  split
  · next hlow hhigh =>
    rw [hlow, hhigh]
    exact ⟨d, hd, .nil m d⟩
  · exact ⟨d', hd.derive (by decide) _, hp⟩

theorem durationCheck_eq (comparator : Comparator) {v : Option Document}
    (hv : v.all Document.isNumber = true) (bound : Binary64) :
    durationCheck comparator v bound =
      .ok ((Test.compare comparator (.float bound)).passes v) := by
  cases v with
  | none => cases comparator <;> rfl
  | some d => exact Comparator.test_of_isNumber comparator (by simpa using hv) rfl

theorem isMetBy_dateRangeQueries {c d : Document} (hd : Windowed c d) (first last : Int) :
    (Condition.allOf (dateRangeQueries first last)).isMetBy d =
      ((Test.compare .lessThan (.int last)).passes (stamps c).head? &&
        (Test.compare .greaterThan (.int first)).passes (stamps c).getLast?) := by
  simp [dateRangeQueries, hd.start, hd.finish]

theorem dateRangeCheck_of_window {c : Document} {ends : Option (Document × Document)}
    (hw : Conversation.window c = .ok ends)
    (hn : ends.all (fun e => e.1.isNumber && e.2.isNumber) = true) (first last : Int) :
    dateRangeCheck first last c =
      .ok ((Test.compare .lessThan (.int last)).passes (ends.map Prod.fst) &&
        (Test.compare .greaterThan (.int first)).passes (ends.map Prod.snd)) := by
  simp only [dateRangeCheck, hw, ok_bind]
  cases ends with
  | none => rfl
  | some e =>
    obtain ⟨start, finish⟩ := e
    obtain ⟨hfirst, hlast⟩ : start.isNumber = true ∧ finish.isNumber = true := by simpa using hn
    have hstart : start.holds .atMost (.int last) =
        .ok ((Test.compare .lessThan (.int last)).passes (some start)) :=
      Comparator.test_of_isNumber .lessThan hfirst rfl
    have hfinish : finish.holds .atLeast (.int first) =
        .ok ((Test.compare .greaterThan (.int first)).passes (some finish)) :=
      Comparator.test_of_isNumber .greaterThan hlast rfl
    simp only [Option.map_some, hstart, ok_bind, hfinish, pure_eq_ok]
    cases (Test.compare .lessThan (.int last)).passes (some start) <;> rfl

theorem dateRangeCheck_eq {c : Document} (h : isWellTyped c = true) (first last : Int) :
    dateRangeCheck first last c =
      .ok ((Test.compare .lessThan (.int last)).passes (stamps c).head? &&
        (Test.compare .greaterThan (.int first)).passes (stamps c).getLast?) := by
  rcases stamps_cases h with hs | ⟨start, finish, hs, hl, hfirst, hlast⟩
  · rw [dateRangeCheck_of_window (window_eq h) (by simp [hs]), hs]
    rfl
  · rw [dateRangeCheck_of_window (window_eq h) (by
      simp [hs, hl, Document.isNumber_of_isMeasure hfirst, Document.isNumber_of_isMeasure hlast]),
      hs, hl]
    rfl

end Filter

end DialogueQuery
