import DialogueQuery.Proofs.Aggregation.Reads
import DialogueQuery.Proofs.Filter.Length
import DialogueQuery.Proofs.FilterSpec.Written
import DialogueQuery.Proofs.Number.Rounding
import DialogueQuery.Proofs.Service.SharedStages

/-! The order of the stages of a pipeline, for every choice of clauses. What a stage
reads of the fields that are derived has been set by a stage before it. -/

namespace DialogueQuery

namespace Coercion

theorem one_le_of_pageNumber {d : Document} {n : Int} (h : pageNumber d = .ok n) : 1 ≤ n := by
  obtain ⟨m, -, h⟩ := bind_eq_ok.mp h
  by_cases hm : m < 1
  · rw [if_pos hm] at h
    cases h
  · rw [if_neg hm] at h
    cases h
    omega

theorem pageSize_cases {d : Document} {n : Int} (h : pageSize d = .ok n) :
    n = unboundedPageSize ∨ 1 ≤ n := by
  obtain ⟨m, -, h⟩ := bind_eq_ok.mp h
  by_cases hm : m ≠ unboundedPageSize ∧ m < 1
  · rw [if_pos hm] at h
    cases h
  · rw [if_neg hm] at h
    cases h
    omega

end Coercion

namespace FilterSpec

theorem holds_of_optional {α : Type} {p : α → Prop} {members : Members} {f : Field}
    {default a : α} {c : Coercion α} (hdefault : p default) (hc : ∀ d b, c d = .ok b → p b)
    (h : optional members f default c = .valid a) : p a := by
  unfold optional at h
  split at h
  · next key d _ =>
    cases hd : c d with
    | ok b =>
      rw [hd] at h
      cases h
      exact hc d _ hd
    | error es =>
      rw [hd] at h
      cases h
  · cases h
    exact hdefault

variable {d : Document} {spec : FilterSpec} (h : ofDocument d = .ok spec)
include h

theorem exists_reads : ∃ members, d = .obj members ∧ Reads members spec := by
  cases d with
  | obj members => exact ⟨members, rfl, check_eq_valid.mp (Checked.toExcept_eq_ok.mp h)⟩
  | _ => cases h

theorem one_le_page : 1 ≤ spec.page := by
  obtain ⟨members, -, hr⟩ := exists_reads h
  exact holds_of_optional (le_refl 1) (fun _ _ => Coercion.one_le_of_pageNumber) hr.page

theorem pageSize_eq_or_one_le : spec.pageSize = unboundedPageSize ∨ 1 ≤ spec.pageSize := by
  obtain ⟨members, -, hr⟩ := exists_reads h
  exact holds_of_optional (p := fun n => n = unboundedPageSize ∨ 1 ≤ n) (.inr (by decide))
    (fun _ _ => Coercion.pageSize_cases) hr.pageSize

end FilterSpec

theorem Funnel.isEmpty_of_stepsOf {spec : FilterSpec} {steps : List Step}
    (h : stepsOf spec = .ok steps) :
    (spec.eventFilterOperator == "inOrder" && !spec.eventFilter.isEmpty) = !steps.isEmpty := by
  rw [← FilterSpec.isInOrder]
  cases hin : spec.isInOrder with
  | false =>
    rw [stepsOf, hin] at h
    cases h
    rfl
  | true =>
    cases he : spec.eventFilter with
    | nil =>
      rw [stepsOf, hin, he] at h
      cases h
      rfl
    | cons e es =>
      have hne := stepsOf_ne_nil hin (by simp [he]) h
      simpa using hne

/-- The operator of a stage and the names in what it is applied to. -/
def Stage.heading (s : Stage) : String × List String := (s.operator, s.body.names)

theorem Stage.heading_of_toDocument {s : Stage} {operator : String} {d : Document}
    (h : s.toDocument = .single operator d) : s.heading = (operator, d.names) := by
  simp only [toDocument, Document.single, Document.obj.injEq, List.cons.injEq, Prod.mk.injEq,
    and_true] at h
  rw [heading, h.1, h.2]

namespace Pipeline

def lengthHeadings (spec : FilterSpec) : List (String × List String) :=
  if spec.lengthComparison.any (· != "") && spec.lengthBound.any (0 < ·) then
    [("$addFields", ["convLen"]), ("$match", ["convLen"])]
  else []

/-- The lower bound goes first. -/
def durationHeadings (spec : FilterSpec) : List (String × List String) :=
  let low := spec.minDuration.any Binary64.exceedsZero
  let high := spec.maxDuration.any Binary64.exceedsZero
  (if low || high then [("$addFields", ["difference"])] else [])
    ++ (if low then [("$match", ["difference"])] else [])
    ++ (if high then [("$match", ["difference"])] else [])

def funnelHeadings (spec : FilterSpec) : List (String × List String) :=
  if spec.eventFilterOperator == "inOrder" && !spec.eventFilter.isEmpty then
    [("$addFields", ["sequence", "eventTypes"]), ("$addFields", ["matching"]),
      ("$set", ["matching"]), ("$addFields", ["funnelProgress"]), ("$match", ["matching"])]
  else []

def pageHeadings (spec : FilterSpec) : List (String × List String) :=
  [("$sort", (Service.writtenOrder spec.sort).map Prod.fst), ("$facet", ["conversations", "pages"])]

/-- The headings of the stages that a specification asks for, in their order. -/
def layout (spec : FilterSpec) : List (String × List String) :=
  [("$addFields", ["startTime", "endTime"]), ("$addFields", ["firstIntent"]), ("$match", ["$and"])]
    ++ lengthHeadings spec ++ durationHeadings spec ++ funnelHeadings spec ++ pageHeadings spec

/-- Where the parts of a pipeline stand and what they are, for one specification. -/
structure IsLaidOut (spec : FilterSpec) (firstIntent : Query) (p : Pipeline) : Prop where
  headings : p.map Stage.heading = layout spec
  selection : ∃ conditions, (p.map Stage.toDocument)[2]? =
    some (.single "$match" (.single "$and" (.arr
      [.obj (("projectId", .str spec.projectId) :: conditions), firstIntent.toDocument])))
  bounds : (p.filter fun s => s.heading = ("$match", ["difference"])).map Stage.toDocument =
    (spec.minDuration.filter Binary64.exceedsZero).toList.map (fun bound =>
        .single "$match" (.single "difference" (.single "$gte" (.float bound))))
      ++ (spec.maxDuration.filter Binary64.exceedsZero).toList.map (fun bound =>
        .single "$match" (.single "difference" (.single "$lte" (.float bound))))
  defined (before : Pipeline) (s : Stage) (after : Pipeline) : p = before ++ s :: after →
    ∀ f ∈ s.reads, f ∈ derivedFields → ∃ s' ∈ before, f ∈ s'.sets
  page : ∃ skip limit, (p.map Stage.toDocument).getLast? = some (.single "$facet" (.obj
      [("conversations", .arr (.single "$skip" (.int skip) :: limit)),
        ("pages", .arr [.single "$count" (.str "numberOfDocuments")])])) ∧
    0 ≤ skip ∧ (limit = [] ∨ ∃ n, limit = [.single "$limit" (.int n)] ∧ 1 ≤ n)

/-- A pipeline is compiled if its bounds and its steps can be, and then its parts follow one
another. -/
theorem ofSpec_eq_ok {spec : FilterSpec} {defaultEnv : Option String} {firstIntent : Query}
    {p : Pipeline} : ofSpec spec defaultEnv firstIntent = .ok p ↔
      ∃ stored length steps, Filter.storedQuery spec defaultEnv = .ok stored ∧
        Filter.lengthStages spec = .ok length ∧ Funnel.stepsOf spec = .ok steps ∧
        p = [Filter.windowStage, Filter.firstIntentStage,
            .filterBy (.all [.allOf [stored, firstIntent]])] ++ length ++
          Filter.durationStages spec ++ Funnel.matchingStages steps ++ pageStages spec := by
  simp only [ofSpec, filterStages, bind_eq_ok, mapError_eq_ok, pure_eq_ok, Except.ok.injEq]
  constructor
  · rintro ⟨_, ⟨stored, hstored, length, hlength, rfl⟩, steps, hsteps, rfl⟩
    exact ⟨stored, length, steps, hstored, hlength, hsteps, rfl⟩
  · rintro ⟨stored, length, steps, hstored, hlength, hsteps, rfl⟩
    exact ⟨_, ⟨stored, hstored, length, hlength, rfl⟩, steps, hsteps, rfl⟩

end Pipeline

namespace Filter

open Pipeline

variable {spec : FilterSpec}

theorem fields_confidenceQueries (c : Comparator) (bound : Binary64) :
    (Condition.anyOf (confidenceQueries c bound)).fields =
      ["tracker", "parse_data", "tracker", "confidence"] := by
  cases c <;> rfl

theorem areKnown_of_storedQuery {defaultEnv : Option String} {stored : Query}
    (h : storedQuery spec defaultEnv = .ok stored) :
    AreKnown ["startTime", "endTime"] stored.toDocument.queryFields := by
  obtain ⟨confidence, -, h⟩ := bind_eq_ok.mp h
  cases h
  rw [Query.fields_all]
  intro f hf
  obtain ⟨c, hc, hf⟩ := List.mem_flatMap.mp hf
  refine (?_ : AreKnown ["startTime", "endTime"] c.fields) f hf
  simp only [List.cons_append, List.mem_cons, List.mem_append, Option.mem_toList,
    Option.map_eq_some_iff, or_assoc] at hc
  rcases hc with rfl | hstatus | ⟨env, -, rfl⟩ | ⟨bound, -, rfl⟩ | ⟨range, -, rfl⟩ | ⟨id, -, rfl⟩
  · show AreKnown _ ["projectId"]
    decide
  · split at hstatus
    · cases hstatus
    · cases List.mem_singleton.mp hstatus
      show AreKnown _ ["status"]
      decide
  · have henv : (envCondition defaultEnv env).fields = ["env"] := by
      unfold envCondition
      split <;> rfl
    rw [henv]
    decide
  · rw [fields_confidenceQueries]
    decide
  · show AreKnown _ ["startTime", "endTime"]
    decide
  · show AreKnown _ ["userId"]
    decide

theorem fields_firstIntentQuery (triggers : List Document) (userInitiated triggered : Bool) :
    (firstIntentQuery triggers userInitiated triggered).toDocument.queryFields =
      if userInitiated == triggered then [] else ["firstIntent"] := by
  cases userInitiated <;> cases triggered <;> rfl

end Filter

namespace Pipeline

/-- A part of a pipeline with these headings, that reads of the derived fields only
the window and what it sets itself. -/
structure IsSection (headings : List (String × List String)) (p : Pipeline) : Prop where
  headings_eq : p.map Stage.heading = headings
  defined : IsDefined ["startTime", "endTime"] p

theorem IsSection.append {headings headings' : List (String × List String)} {p q : Pipeline}
    (hp : IsSection headings p) (hq : IsSection headings' q) :
    IsSection (headings ++ headings') (p ++ q) where
  headings_eq := by rw [List.map_append, hp.headings_eq, hq.headings_eq]
  defined := isDefined_append.mpr ⟨hp.defined, hq.defined.mono (List.subset_append_left _ _)⟩

theorem IsSection.filter_eq_nil {headings : List (String × List String)} {p : Pipeline}
    (hp : IsSection headings p) {heading : String × List String} (hnone : heading ∉ headings) :
    p.filter (fun s => s.heading = heading) = [] := by
  refine List.filter_eq_nil_iff.mpr fun s hs => ?_
  have hmem : s.heading ∈ headings := hp.headings_eq ▸ List.mem_map_of_mem hs
  have hne : s.heading ≠ heading := fun he => hnone (he ▸ hmem)
  simpa using hne

variable {spec : FilterSpec}

theorem isSection_lengthStages {stages : Pipeline} (h : Filter.lengthStages spec = .ok stages) :
    IsSection (lengthHeadings spec) stages := by
  obtain ⟨bound, hbound, h⟩ := bind_eq_ok.mp h
  have hactive := Filter.isSome_of_lengthBound? hbound
  rw [FilterSpec.hasLength] at hactive
  unfold lengthHeadings
  rw [← hactive]
  cases bound with
  | none =>
    cases h
    exact ⟨rfl, trivial⟩
  | some b =>
    cases h
    refine ⟨rfl, ?_, ?_, trivial⟩
    · show AreKnown _ ["tracker"]
      decide
    · have hfields : (Stage.filterBy (.all [.passes ["convLen"]
          [.compare b.1 (.int b.2)]])).reads = ["convLen"] := by
        cases b.1 <;> rfl
      rw [hfields]
      show AreKnown ["startTime", "endTime", "convLen"] _
      decide

theorem isSection_durationStages (spec : FilterSpec) :
    IsSection (durationHeadings spec) (Filter.durationStages spec) := by
  have hactive (bound : Option Binary64) :
      bound.any Binary64.exceedsZero = (Filter.activeBound bound).isSome := by
    rw [← Binary64.isPositive_eq]
    cases bound with
    | none => rfl
    | some b => cases h : b.isPositive <;> simp [Filter.activeBound, h]
  have hmatch (c : Comparator) (bound : Binary64) :
      AreKnown ["startTime", "endTime", "difference"] (Filter.durationMatch c bound).reads := by
    have hfields : (Filter.durationMatch c bound).reads = ["difference"] := by cases c <;> rfl
    rw [hfields]
    decide
  have hwindow : AreKnown ["startTime", "endTime"] ["endTime", "startTime"] := by decide
  unfold Filter.durationStages durationHeadings
  rw [hactive, hactive]
  cases Filter.activeBound spec.minDuration with
  | none =>
    cases Filter.activeBound spec.maxDuration with
    | none => exact ⟨rfl, trivial⟩
    | some high => exact ⟨rfl, hwindow, hmatch _ _, trivial⟩
  | some low =>
    cases Filter.activeBound spec.maxDuration with
    | none => exact ⟨rfl, hwindow, hmatch _ _, trivial⟩
    | some high => exact ⟨rfl, hwindow, hmatch _ _, hmatch _ _, trivial⟩

theorem isSection_matchingStages {steps : List Funnel.Step} (h : Funnel.stepsOf spec = .ok steps) :
    IsSection (funnelHeadings spec) (Funnel.matchingStages steps) := by
  unfold funnelHeadings
  rw [Funnel.isEmpty_of_stepsOf h]
  cases steps with
  | nil => exact ⟨rfl, trivial⟩
  | cons s rest =>
    refine ⟨rfl, ?_, ?_, ?_, ?_, ?_, trivial⟩
    · show AreKnown _ []
      decide
    · show AreKnown ["startTime", "endTime", "sequence", "eventTypes"] ["tracker", "sequence"]
      decide
    · show AreKnown ["startTime", "endTime", "sequence", "eventTypes", "matching"] ["matching"]
      decide
    · show AreKnown ["startTime", "endTime", "sequence", "eventTypes", "matching", "matching"]
        ["matching"]
      decide
    · show AreKnown ["startTime", "endTime", "sequence", "eventTypes", "matching", "matching",
        "funnelProgress"] ["matching"]
      decide

theorem isSection_pageStages (spec : FilterSpec) :
    IsSection (pageHeadings spec) (pageStages spec) := by
  rw [pageStages_eq]
  have hslices : AreKnown [] (Page.facetStage spec.page spec.pageSize).reads := by
    unfold Page.facetStage Page.slices
    split <;> exact (show AreKnown [] [] by decide)
  have hkeys : AreKnown [] (Page.sortStage (FilterSpec.ofOption .str spec.sort)).reads := by
    unfold Page.sortStage
    rcases SortOrder.ofDocument? (FilterSpec.ofOption .str spec.sort) with _ | _ | _ <;> decide
  refine ⟨?_, hkeys.mono (List.nil_subset _), hslices.mono (List.nil_subset _), trivial⟩
  have hsort := Stage.heading_of_toDocument (Service.toDocument_sortStage spec.sort)
  rw [List.map_cons, hsort]
  rfl

/-- The selection reads the stored fields, the times that the first stage derives, and the first
intent. -/
theorem isDefined_selection {defaultEnv : Option String} {stored : Query}
    (h : Filter.storedQuery spec defaultEnv = .ok stored) (triggers : List Document)
    (userInitiated triggered : Bool) :
    IsDefined [] [Filter.windowStage, Filter.firstIntentStage, .filterBy (.all [.allOf
      [stored, Filter.firstIntentQuery triggers userInitiated triggered]])] := by
  have hreads : (Stage.filterBy (.all [.allOf
      [stored, Filter.firstIntentQuery triggers userInitiated triggered]])).reads =
      stored.toDocument.queryFields ++
        if userInitiated == triggered then [] else ["firstIntent"] := by
    rw [← Filter.fields_firstIntentQuery triggers]
    simp [Stage.reads, Query.toDocument, Condition.toMembers, Condition.toMember,
      Query.toDocuments, Document.queryFields, Document.queryFieldsOfMembers,
      Document.queryFieldsOfItems]
  refine ⟨?_, ?_, ?_, trivial⟩
  · show AreKnown [] ["tracker", "tracker"]
    decide
  · show AreKnown ["startTime", "endTime"] ["tracker"]
    decide
  · show AreKnown ["startTime", "endTime", "firstIntent"] _
    rw [hreads]
    refine areKnown_append.mpr ⟨(Filter.areKnown_of_storedQuery h).mono (by decide), ?_⟩
    split <;> decide

theorem facetStage_toDocument {page pageSize : Int} (hpage : 1 ≤ page)
    (hsize : pageSize = unboundedPageSize ∨ 1 ≤ pageSize) : ∃ skip limit,
    (Page.facetStage page pageSize).toDocument = .single "$facet" (.obj
      [("conversations", .arr (.single "$skip" (.int skip) :: limit)),
        ("pages", .arr [.single "$count" (.str "numberOfDocuments")])]) ∧
    0 ≤ skip ∧ (limit = [] ∨ ∃ n, limit = [.single "$limit" (.int n)] ∧ 1 ≤ n) := by
  unfold Page.facetStage Page.slices
  split
  · exact ⟨0, [], rfl, le_refl 0, .inl rfl⟩
  · next hbounded =>
    have hsize := hsize.resolve_left hbounded
    have hnumber : 1 ≤ Page.boundedNumber page pageSize := by
      unfold Page.boundedNumber
      split <;> omega
    refine ⟨_, [.single "$limit" (.int pageSize)], rfl, ?_, .inr ⟨pageSize, rfl, hsize⟩⟩
    exact mul_nonneg (by omega) (by omega)

theorem bounds_of_durationStages (spec : FilterSpec) :
    ((Filter.durationStages spec).filter
        fun s => s.heading = ("$match", ["difference"])).map Stage.toDocument =
      (spec.minDuration.filter Binary64.exceedsZero).toList.map (fun bound =>
          .single "$match" (.single "difference" (.single "$gte" (.float bound))))
        ++ (spec.maxDuration.filter Binary64.exceedsZero).toList.map (fun bound =>
          .single "$match" (.single "difference" (.single "$lte" (.float bound)))) := by
  rw [← Binary64.isPositive_eq]
  unfold Filter.durationStages Filter.activeBound
  cases spec.minDuration.filter Binary64.isPositive <;>
    cases spec.maxDuration.filter Binary64.isPositive <;> rfl

/-- The stages of a query are laid out as its specification says. -/
theorem ofSpec_laidOut {d : Document} {defaultEnv : Option String} {triggers : List Document}
    {userInitiated triggered : Bool} {p : Pipeline} (hspec : FilterSpec.ofDocument d = .ok spec)
    (hp : ofSpec spec defaultEnv (Filter.firstIntentQuery triggers userInitiated triggered) =
      .ok p) : IsLaidOut spec (Filter.firstIntentQuery triggers userInitiated triggered) p := by
  obtain ⟨stored, length, steps, hstored, hlength, hsteps, rfl⟩ := ofSpec_eq_ok.mp hp
  have hselection := isDefined_selection hstored triggers userInitiated triggered
  have hlengths := isSection_lengthStages hlength
  have hdurations := isSection_durationStages spec
  have hmatching := isSection_matchingStages hsteps
  have hpage := isSection_pageStages spec
  have hrest := ((hlengths.append hdurations).append hmatching).append hpage
  constructor
  case headings =>
    simp only [List.map_append, hlengths.headings_eq, hdurations.headings_eq,
      hmatching.headings_eq, hpage.headings_eq]
    rfl
  case selection =>
    obtain ⟨confidence, -, hstored⟩ := bind_eq_ok.mp hstored
    cases hstored
    exact ⟨_, rfl⟩
  case bounds =>
    have hlength : ("$match", ["difference"]) ∉ lengthHeadings spec := by
      unfold lengthHeadings
      split <;> decide
    have hfunnel : ("$match", ["difference"]) ∉ funnelHeadings spec := by
      unfold funnelHeadings
      split <;> decide
    have hends : ("$match", ["difference"]) ∉ pageHeadings spec := by simp [pageHeadings]
    rw [← bounds_of_durationStages]
    simp only [List.filter_append, hlengths.filter_eq_nil hlength, hmatching.filter_eq_nil hfunnel,
      hpage.filter_eq_nil hends, List.append_nil]
    rfl
  case defined =>
    intro before s after hsplit f hf hd
    refine IsDefined.exists_before ?_ hsplit hf hd
    simp only [List.append_assoc] at hrest ⊢
    refine isDefined_append.mpr ⟨hselection, hrest.defined.mono ?_⟩
    show ["startTime", "endTime"] ⊆ ["startTime", "endTime", "firstIntent"]
    decide
  case page =>
    obtain ⟨skip, limit, hfacet, hskip, hlimit⟩ :=
      facetStage_toDocument (FilterSpec.one_le_page hspec) (FilterSpec.pageSize_eq_or_one_le hspec)
    refine ⟨skip, limit, ?_, hskip, hlimit⟩
    rw [pageStages_eq, ← hfacet, List.map_append, List.getLast?_append]
    rfl

/-- A specification that every section takes part in, as it is sent. -/
def sentMembers : Members :=
  [("projectId", .str "bf"), ("page", .int 3), ("page_size", .int 5),
    ("sort", .str "updatedAt_DESC"), ("status", .arr [.str "$new"]), ("lengthFilter", .int 2),
    ("xThanLength", .str "lessThan"), ("durationFilterLowerBound", .int 10),
    ("durationFilterUpperBound", .str "inf"), ("confidenceFilter", .str "0.5"),
    ("xThanConfidence", .str "greaterThan"), ("startDate", .str "2024-03-01"),
    ("endDate", .str "2024-04-01"), ("eventFilterOperator", .str "inOrder"),
    ("eventFilter", .arr [.str "intent: $greet"])]

theorem ofSpec_laidOut_sent : ∃ spec p, FilterSpec.ofDocument (.obj sentMembers) = .ok spec ∧
    ofSpec spec (some "development") (Filter.firstIntentQuery [.str "hi"] false true) = .ok p ∧
    (layout spec).length = 15 ∧
    IsLaidOut spec (Filter.firstIntentQuery [.str "hi"] false true) p := by
  obtain ⟨spec, hspec, hvalues⟩ := ok_of_any_toOption
    (x := FilterSpec.ofDocument (.obj sentMembers))
    (p := fun spec => (layout spec).length == 15 && (ofSpec spec (some "development")
      (Filter.firstIntentQuery [.str "hi"] false true)).isOk) (by decide +kernel)
  obtain ⟨hlength, hok⟩ := Bool.and_eq_true_iff.mp hvalues
  obtain ⟨p, hp⟩ := exists_of_isOk hok
  exact ⟨spec, p, hspec, hp, beq_iff_eq.mp hlength, ofSpec_laidOut hspec hp⟩

end Pipeline

end DialogueQuery
