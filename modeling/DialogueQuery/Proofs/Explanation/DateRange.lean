import Mathlib.Data.List.Nodup
import DialogueQuery.Proofs.Document.Points
import DialogueQuery.Proofs.Explanation.Clauses
import DialogueQuery.Proofs.Filter.Window

/-! The dates of a specification against the window of a conversation. The check
compares each date with one end of the window. Dates in order have an instant in
common with the window exactly if this holds; for dates in reverse it means
that the window covers all that is between them. -/

namespace DialogueQuery

namespace Point

variable {p q : Point} {start finish : Rat}

/-- With dates in order, the two inequalities say that the window and the dates have an instant in
common. -/
theorem meets_iff (hpq : p ≤ q) (hdates : start ≤ finish) :
    (p ≤ ofRat finish ∧ ofRat start ≤ q) ↔
      ∃ t, (p ≤ ofRat t ∧ ofRat t ≤ q) ∧ start ≤ t ∧ t ≤ finish := by
  constructor
  · rintro ⟨hp, hq⟩
    -- the later of the two beginnings is in both
    rcases le_total p (ofRat start) with hstart | hstart
    · exact ⟨start, ⟨hstart, hq⟩, le_refl start, hdates⟩
    · obtain ⟨t, rfl⟩ := exists_ofRat hstart hp
      exact ⟨t, ⟨le_refl _, hpq⟩, ofRat_le_ofRat.mp hstart, ofRat_le_ofRat.mp hp⟩
  · rintro ⟨t, ⟨hp, hq⟩, hstart, hfinish⟩
    exact ⟨hp.trans (ofRat_le_ofRat.mpr hfinish), (ofRat_le_ofRat.mpr hstart).trans hq⟩

/-- With dates in reverse, they say that the window reaches over everything between the dates. -/
theorem covers_iff (hdates : finish ≤ start) :
    (p ≤ ofRat finish ∧ ofRat start ≤ q) ↔
      ∀ t, finish ≤ t → t ≤ start → p ≤ ofRat t ∧ ofRat t ≤ q := by
  constructor
  · rintro ⟨hp, hq⟩ t hfinish hstart
    exact ⟨hp.trans (ofRat_le_ofRat.mpr hfinish), (ofRat_le_ofRat.mpr hstart).trans hq⟩
  · intro h
    exact ⟨(h finish (le_refl finish) hdates).1, (h start hdates (le_refl start)).2⟩

end Point

/-- An instant lies between two numbers; both belong to it. -/
def Document.Spans (first last : Document) (t : Rat) : Prop :=
  ∃ p q, first.point? = some p ∧ last.point? = some q ∧ p ≤ .ofRat t ∧ .ofRat t ≤ q

theorem Test.passes_compare_iff {c : Comparator} {r : Relation} (hc : c.test = Document.holds r)
    {d : Document} (h : d.isNumber = true) (n : Int) :
    (compare c (.int n)).passes (some d) = true ↔
      ∃ p, d.point? = some p ∧ r.admits (Ord.compare p (Point.ofRat n)) = true := by
  have htest := Comparator.test_of_isNumber c h (b := .int n) rfl
  rw [← Except.ok.injEq (ε := Fault), ← htest, hc, Document.holds_iff_points h rfl]
  simp [Document.point?_int]

namespace Conversation

/-- There are timestamps, each is a number, and none is below the one before it. -/
structure IsChronicle (c : Document) : Prop where
  timed : stamps c ≠ []
  numbers : ∀ d ∈ stamps c, d.isNumber = true
  ordered : (stamps c).IsChain fun a b => a.holds .atMost b = .ok true

theorem point_head_le_last {times : List Document} (hn : ∀ d ∈ times, d.isNumber = true)
    (ho : times.IsChain fun a b => a.holds .atMost b = .ok true) {first last : Document}
    (hfirst : times.head? = some first) (hlast : times.getLast? = some last) {p q : Point}
    (hp : first.point? = some p) (hq : last.point? = some q) : p ≤ q := by
  induction times generalizing first p with
  | nil => cases hfirst
  | cons a rest ih =>
    obtain rfl : a = first := Option.some.inj hfirst
    cases rest with
    | nil =>
      obtain rfl : a = last := Option.some.inj hlast
      exact (Option.some.inj (hp.symm.trans hq)).le
    | cons b rest =>
      obtain ⟨hab, ho⟩ := List.isChain_cons_cons.mp ho
      obtain ⟨p', r, hp', hr, hle⟩ := (Document.holds_atMost_iff (hn a (by simp))
        (hn b (by simp))).mp hab
      obtain rfl : p = p' := Option.some.inj (hp.symm.trans hp')
      have hlast : (b :: rest).getLast? = some last := by simpa using hlast
      exact hle.trans (ih (fun d hd => hn d (List.mem_cons_of_mem a hd)) ho rfl hlast hr)

namespace IsChronicle

variable {c : Document} (h : IsChronicle c)
include h

theorem hasEvents : hasEvents c = true :=
  hasEvents_of_recorded fun he => h.timed (by simp [stamps, he])

theorem ends : ∃ first last, (stamps c).head? = some first ∧ (stamps c).getLast? = some last ∧
    first.isNumber = true ∧ last.isNumber = true ∧
    ∀ p q, first.point? = some p → last.point? = some q → p ≤ q := by
  have hfirst := List.head?_eq_some_head h.timed
  have hlast := List.getLast?_eq_some_getLast h.timed
  refine ⟨_, _, hfirst, hlast, h.numbers _ (List.head_mem h.timed),
    h.numbers _ (List.getLast_mem h.timed), ?_⟩
  intro p q hp hq
  exact point_head_le_last h.numbers h.ordered hfirst hlast hp hq

theorem window_eq {first last : Document} (hfirst : (stamps c).head? = some first)
    (hlast : (stamps c).getLast? = some last) : window c = .ok (some (first, last)) := by
  have hset : ((stamps c).filter fun d => !d.isNull) = stamps c := by
    apply List.filter_eq_self.mpr
    intro d hd
    simp [Document.isNull_of_isNumber (h.numbers d hd)]
  rw [window_of_hasEvents h.hasEvents, window?, hset, hfirst, hlast]
  rfl

end IsChronicle

end Conversation

namespace Explanation

open Conversation

/-- What a check of the dates finds out about a window. -/
structure DecidesDates (first last : Document) (start finish : Int) (met : Bool) : Prop where
  inOrder : start ≤ finish → (met = true ↔ ∃ t, first.Spans last t ∧ start ≤ t ∧ t ≤ finish)
  reversed : finish ≤ start → (met = true ↔ ∀ t : Rat, finish ≤ t → t ≤ start → first.Spans last t)

theorem decidesDates {first last : Document} (hfirst : first.isNumber = true)
    (hlast : last.isNumber = true)
    (hle : ∀ p q, first.point? = some p → last.point? = some q → p ≤ q) (start finish : Int) :
    DecidesDates first last start finish
      ((Test.compare .lessThan (.int finish)).passes (some first) &&
        (Test.compare .greaterThan (.int start)).passes (some last)) := by
  have hmet : ((Test.compare .lessThan (.int finish)).passes (some first) &&
      (Test.compare .greaterThan (.int start)).passes (some last)) = true ↔
      ∃ p q, first.point? = some p ∧ last.point? = some q ∧
        p ≤ .ofRat finish ∧ .ofRat start ≤ q := by
    rw [Bool.and_eq_true, Test.passes_compare_iff (r := .atMost) rfl hfirst,
      Test.passes_compare_iff (r := .atLeast) rfl hlast]
    simp only [Relation.admits_compare]
    constructor
    · rintro ⟨⟨p, hp, hpf⟩, q, hq, hqs⟩
      exact ⟨p, q, hp, hq, hpf, hqs⟩
    · rintro ⟨p, q, hp, hq, hpf, hqs⟩
      exact ⟨⟨p, hp, hpf⟩, q, hq, hqs⟩
  constructor
  case inOrder =>
    intro hdates
    have hdates : (start : Rat) ≤ finish := by exact_mod_cast hdates
    rw [hmet]
    constructor
    · rintro ⟨p, q, hp, hq, h⟩
      obtain ⟨t, ht, hdates⟩ := (Point.meets_iff (hle p q hp hq) hdates).mp h
      exact ⟨t, ⟨p, q, hp, hq, ht⟩, hdates⟩
    · rintro ⟨t, ⟨p, q, hp, hq, ht⟩, hdates'⟩
      exact ⟨p, q, hp, hq, (Point.meets_iff (hle p q hp hq) hdates).mpr ⟨t, ht, hdates'⟩⟩
  case reversed =>
    intro hdates
    have hdates : (finish : Rat) ≤ start := by exact_mod_cast hdates
    rw [hmet]
    constructor
    · rintro ⟨p, q, hp, hq, h⟩ t hfinish hstart
      exact ⟨p, q, hp, hq, (Point.covers_iff hdates).mp h t hfinish hstart⟩
    · intro h
      obtain ⟨p, q, hp, hq, -⟩ := h finish (le_refl _) hdates
      refine ⟨p, q, hp, hq, (Point.covers_iff hdates).mpr fun t hfinish hstart => ?_⟩
      obtain ⟨p', q', hp', hq', ht⟩ := h t hfinish hstart
      obtain rfl : p = p' := Option.some.inj (hp.symm.trans hp')
      obtain rfl : q = q' := Option.some.inj (hq.symm.trans hq')
      exact ht

theorem lookup_checks {stored : Filter.Checks} {spec : FilterSpec} {defaultEnv : Option String}
    {triggers : Option (List Document)} {c : Document} {e : Explanation}
    (hstored : Filter.storedChecks spec defaultEnv c = .ok stored)
    (ht : triggers.isSome = spec.needsTriggerIntents)
    (h : ofStored stored spec triggers c = .ok e) {name : String} {met : Bool}
    (hmem : (name, met) ∈ e.checks) : e.checks.lookup name = some met := by
  obtain ⟨-, -, steps, -, -, -, hclauses, -⟩ := clauses_ofStored hstored ht h
  have hsub : e.clauses.Sublist clauseNames := hclauses ▸ sublist_activeNames (activity spec steps)
  have honce : e.clauses.Nodup := hsub.nodup (by decide)
  refine lookup_of_unique hmem fun check hcheck hname => ?_
  exact congrArg Prod.snd (List.inj_on_of_nodup_map honce hcheck hmem hname)

theorem mem_checks_of_dateChecks {stored dates : Filter.Checks} {spec : FilterSpec}
    {triggers : Option (List Document)} {c : Document} {e : Explanation}
    (hdates : dateChecks spec c = .ok dates) (h : ofStored stored spec triggers c = .ok e)
    {check : String × Bool} (hcheck : check ∈ dates) : check ∈ e.checks := by
  obtain ⟨first, -, h⟩ := bind_eq_ok.mp h
  obtain ⟨turns, -, h⟩ := bind_eq_ok.mp h
  obtain ⟨durations, -, h⟩ := bind_eq_ok.mp h
  obtain ⟨confidences, -, h⟩ := bind_eq_ok.mp h
  obtain ⟨dates', hdates', h⟩ := bind_eq_ok.mp h
  obtain ⟨outcome, -, h⟩ := bind_eq_ok.mp h
  obtain ⟨id, -, h⟩ := bind_eq_ok.mp h
  cases h
  obtain rfl : dates = dates' := Except.ok.inj (hdates.symm.trans hdates')
  exact List.mem_append_left _ (List.mem_append_right _ hcheck)

end Explanation

theorem Service.ofStored_of_explain {s : Service} {spec : FilterSpec} {c : Document}
    {w w' : World} {e : Explanation} (h : (s.explain spec c).run.run w = (.ok e, w')) :
    ∃ stored triggers, Filter.storedChecks spec s.defaultEnv c = .ok stored ∧
      triggers.isSome = spec.needsTriggerIntents ∧
      Explanation.ofStored stored spec triggers c = .ok e := by
  obtain ⟨stored, w₁, hstored, h⟩ := Action.run_bind_eq_ok.mp h
  obtain ⟨triggers, w₂, ht, h⟩ := Action.run_bind_eq_ok.mp h
  have hstored : Filter.storedChecks spec s.defaultEnv c = .ok stored :=
    mapError_eq_ok.mp (congrArg Prod.fst hstored)
  obtain ⟨-, he⟩ := Funnel.decideWithin_eq_ok.mp (mapError_eq_ok.mp (congrArg Prod.fst h))
  exact ⟨stored, triggers, hstored, isSome_of_wantedTriggerIntents ht, he⟩

namespace Explanation

open Conversation

/-- The query on the window that the store derives on `d` and the explanation of the
conversation come to the same about the dates. -/
structure SettlesDates (m : StoreModel) (spec : FilterSpec) (c : Document) (start finish : Int)
    (first last d : Document) (met : Bool) : Prop
    extends DecidesDates first last start finish met where
  first : (stamps c).head? = some first
  last : (stamps c).getLast? = some last
  derived : m.Passes [Filter.windowStage] c true d
  compiled : (Condition.allOf (Filter.dateRangeQueries start finish)).isMetBy d = met
  reported : dateChecks spec c = .ok [("dateRange", met)]
  explained (s : Service) (e : Explanation) (w w' : World) :
    (s.explain spec c).run.run w = (.ok e, w') → e.checks.lookup "dateRange" = some met

/-- The store and the explanation settle the dates alike, by the two ends of the window. -/
theorem dates_settled {m : StoreModel} (hm : m.follow = .collecting) {c : Document}
    (h : IsChronicle c) {spec : FilterSpec} {start finish : DateTime}
    (hstart : spec.startDate = some start) (hfinish : spec.endDate = some finish) :
    ∃ first last d met,
      SettlesDates m spec c start.toUnix finish.toUnix first last d met := by
  obtain ⟨first, last, hfirst, hlast, hnumber, hnumber', hle⟩ := h.ends
  obtain ⟨d, hpass, hd⟩ := Filter.windowStage_passes h.hasEvents hm
  have hrange : Filter.dateRange? spec = some (start.toUnix, finish.toUnix) := by
    simp only [Filter.dateRange?, hstart, hfinish]
  have hquery := Filter.isMetBy_dateRangeQueries hd start.toUnix finish.toUnix
  have hcheck := Filter.dateRangeCheck_of_window (h.window_eq hfirst hlast)
    (by simp [hnumber, hnumber']) start.toUnix finish.toUnix
  have hdecides := decidesDates hnumber hnumber' hle start.toUnix finish.toUnix
  rw [hfirst, hlast] at hquery
  simp only [Option.map_some] at hcheck
  generalize ((Test.compare .lessThan (.int finish.toUnix)).passes (some first) &&
    (Test.compare .greaterThan (.int start.toUnix)).passes (some last)) = met
    at hquery hcheck hdecides
  have hdates : dateChecks spec c = .ok [("dateRange", met)] := by
    simp [dateChecks, clause, hrange, hcheck, faulty]
  refine ⟨first, last, d, met, hdecides, hfirst, hlast, hpass, hquery, hdates, ?_⟩
  intro s e w w' hrun
  obtain ⟨stored, triggers, hstored, ht, he⟩ := Service.ofStored_of_explain hrun
  exact lookup_checks hstored ht he (mem_checks_of_dateChecks hdates he List.mem_cons_self)

/-- A conversation from the first instant of 1970 to a hundred seconds later. -/
def earlyRecord : Document :=
  .obj [("_id", .str "c1"), ("projectId", .str "bf"),
    ("tracker", .obj [("events", .arr [.obj [("timestamp", .int 0)], .str "restart",
      .obj [("timestamp", .float (.finite false 101 (-1)))], .obj [("timestamp", .int 100)]])])]

theorem stamps_earlyRecord :
    stamps earlyRecord = [.int 0, .float (.finite false 101 (-1)), .int 100] := rfl

theorem isChronicle_earlyRecord : IsChronicle earlyRecord where
  timed := by simp [stamps_earlyRecord]
  numbers := by simp [stamps_earlyRecord, Document.isNumber]
  ordered := by
    rw [stamps_earlyRecord, List.isChain_cons_cons, List.isChain_cons_cons]
    exact ⟨by decide +kernel, by decide +kernel, .singleton _⟩

def secondsOf1970 (minute second : Fin 60) : DateTime :=
  ⟨⟨1970, 1, 1, by decide⟩, ⟨0, minute, second, 0, by omega⟩, none⟩

def boundedByDates (start finish : DateTime) : FilterSpec :=
  { projectId := "bf", startDate := some start, endDate := some finish }

/-- The dates begin where the window ends. -/
theorem dates_settled_touching :
    ∃ first last d met, SettlesDates ⟨.collecting, fun _ _ => true⟩
      (boundedByDates (secondsOf1970 1 40) (secondsOf1970 2 0)) earlyRecord
      (secondsOf1970 1 40).toUnix (secondsOf1970 2 0).toUnix first last d met :=
  dates_settled rfl isChronicle_earlyRecord rfl rfl

/-- Dates in reverse inside the window: the store and the explanation find them met,
though no instant is on the right side of both. -/
theorem datesMet_reversed :
    (secondsOf1970 1 20).toUnix = 80 ∧ (secondsOf1970 0 20).toUnix = 20 ∧
      (stamps earlyRecord).head? = some (.int 0) ∧
      (stamps earlyRecord).getLast? = some (.int 100) ∧
      dateChecks (boundedByDates (secondsOf1970 1 20) (secondsOf1970 0 20)) earlyRecord =
        .ok [("dateRange", true)] ∧
      (∃ d, StoreModel.Passes ⟨.collecting, fun _ _ => true⟩ [Filter.windowStage] earlyRecord
          true d ∧
        (Condition.allOf (Filter.dateRangeQueries (secondsOf1970 1 20).toUnix
          (secondsOf1970 0 20).toUnix)).isMetBy d = true) ∧
      ¬∃ t : Rat, Document.Spans (.int 0) (.int 100) t ∧
        ((secondsOf1970 1 20).toUnix : Rat) ≤ t ∧ t ≤ (secondsOf1970 0 20).toUnix := by
  have hstart : (secondsOf1970 1 20).toUnix = 80 := by decide +kernel
  have hfinish : (secondsOf1970 0 20).toUnix = 20 := by decide +kernel
  have hcheck : Filter.dateRangeCheck 80 20 earlyRecord = .ok true := by decide +kernel
  rw [hstart, hfinish]
  refine ⟨rfl, rfl, rfl, rfl, ?_, ?_, ?_⟩
  · simp [dateChecks, clause, Filter.dateRange?, boundedByDates, hstart, hfinish, hcheck, faulty]
  · obtain ⟨d, hpass, hd⟩ := Filter.windowStage_passes isChronicle_earlyRecord.hasEvents
      (m := ⟨.collecting, fun _ _ => true⟩) rfl
    refine ⟨d, hpass, ?_⟩
    rw [Filter.isMetBy_dateRangeQueries hd, stamps_earlyRecord]
    decide +kernel
  · rintro ⟨t, -, h, h'⟩
    have hreversed : (80 : Rat) ≤ 20 := by exact_mod_cast h.trans h'
    norm_num at hreversed

end Explanation

end DialogueQuery
