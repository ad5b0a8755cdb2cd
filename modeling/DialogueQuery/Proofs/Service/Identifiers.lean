import DialogueQuery.Proofs.Service.Turns
import DialogueQuery.Proofs.Store.Lookups

/-! A query lists conversations under identifiers that are text. Fetching by such a
text finds the conversation exactly if its identifier is stored as text. -/

namespace DialogueQuery

namespace Coercion

theorem eq_map_of_items_object {items : List Document} {cs : List Members} {n : Nat}
    (h : Coercion.items object n items = .ok cs) : items = cs.map .obj := by
  induction items generalizing n cs with
  | nil =>
    cases h
    rfl
  | cons d rest ih =>
    unfold Coercion.items at h
    cases hrest : Coercion.items object (n + 1) rest with
    | error es => cases d <;> simp [hrest, object, refuse] at h
    | ok more =>
      cases d with
      | obj members =>
        simp only [hrest, object, Except.ok.injEq] at h
        rw [← h, ih hrest, List.map_cons]
      | _ => simp [hrest, object, refuse] at h

end Coercion

namespace ConversationPage

theorem eq_map_of_ofParts {items : List Document} {pages : Document} {page : ConversationPage}
    (h : ofParts (.arr items) pages = .ok page) : items = page.conversations.map .obj := by
  cases hc : Coercion.items Coercion.object 0 items with
  | error es =>
    unfold ofParts at h
    rw [Coercion.list, hc] at h
    cases hn : Coercion.integer pages <;> rw [hn] at h <;> cases h
  | ok cs =>
    unfold ofParts at h
    rw [Coercion.list, hc] at h
    cases hn : Coercion.integer pages with
    | error es =>
      rw [hn] at h
      cases h
    | ok n =>
      rw [hn] at h
      cases h
      exact Coercion.eq_map_of_items_object hc

theorem eq_map_of_ofResults {facet : Members} {rest items : List Document} {size : Document}
    {page : ConversationPage} (hc : facet.lookup "conversations" = some (.arr items))
    (h : ofResults (.arr (.obj facet :: rest)) size = .ok page) :
    items = page.conversations.map .obj := by
  have hget : (Document.obj facet).get "conversations" = .ok (.arr items) := by
    simp [Document.get, hc]
  cases items with
  | nil =>
    have hempty : ofResults (.arr (.obj facet :: rest)) size = .ok .empty := by
      simp [ofResults, Document.isTruthy, firstElement, hget, Document.orEmptyArray,
        Document.orElse]
    cases hempty.symm.trans h
    rfl
  | cons d items =>
    simp only [ofResults, Document.isTruthy, List.isEmpty_cons, Bool.not_false, if_true,
      firstElement, mapError_ok, hget, Document.orEmptyArray, Document.orElse, ok_bind,
      Bool.not_true, Bool.false_eq_true, if_false] at h
    split at h
    · exact eq_map_of_ofParts h
    · obtain ⟨total, -, h⟩ := bind_eq_ok.mp h
      obtain ⟨count, -, h⟩ := bind_eq_ok.mp h
      exact eq_map_of_ofParts h

end ConversationPage

namespace ConversationStore

open Conversation

/-- Whether it is a conversation of the project with that text for its identifier. -/
def isIdentified (project t : String) (d : Document) : Bool :=
  (d.member? "projectId").any (·.equal (.str project)) && idText? d == some t

theorem idText?_obj {members : Members} {t : String} : idText? (.obj members) = some t ↔
    members.lookup "_id" = some (.str t) ∨ members.lookup "_id" = some (.objectId t) := by
  rw [idText?, Document.member?_obj]
  cases members.lookup "_id" with
  | none => simp
  | some id => cases id <;> simp

theorem isIdentified_obj {project t : String} {members : Members} :
    isIdentified project t (.obj members) = true ↔
      members.lookup "projectId" = some (.str project) ∧
        (members.lookup "_id" = some (.str t) ∨ members.lookup "_id" = some (.objectId t)) := by
  simp only [isIdentified, Document.member?_obj, Bool.and_eq_true, Option.any_eq_true,
    Document.equal_str, exists_eq_right, beq_iff_eq, idText?_obj]

theorem meets_lookupQuery (project : String) {id d : Document} {t : String}
    (hid : id = .str t ∨ id = .objectId t) :
    Session.meets (lookupQuery (.str project) id .null) d = true ↔
      d.follow ["projectId"] = .str project ∧ d.follow ["_id"] = id := by
  have hequal {d : Document} : d.equal id = true ↔ d = id := by
    rcases hid with rfl | rfl
    · exact Document.equal_str
    · exact Document.equal_objectId
  simp only [Session.meets, lookupQuery, Document.isTruthy, Bool.false_eq_true, if_false,
    List.all_cons, List.all_nil, Bool.and_true, Bool.and_eq_true, Document.equal_str, hequal]

/-- What a lookup finds has the identifier that was looked up, as a text or as one of the store.
-/
theorem isIdentified_of_meets {project t : String} {id d : Document}
    (hid : id = .str t ∨ id = .objectId t)
    (h : Session.meets (lookupQuery (.str project) id .null) d = true) :
    isIdentified project t d = true := by
  obtain ⟨hp, hi⟩ := (meets_lookupQuery project hid).mp h
  obtain ⟨members, rfl, hproject⟩ := Document.exists_members_of_follow hp rfl
  have hnull : id.isNull = false := by rcases hid with rfl | rfl <;> rfl
  obtain ⟨_, ho, hmember⟩ := Document.exists_members_of_follow hi hnull
  cases ho
  refine isIdentified_obj.mpr ⟨hproject, ?_⟩
  rw [hmember]
  exact hid.imp (congrArg some) (congrArg some)

theorem find?_of_filter {α : Type} {p q : α → Bool} {xs : List α} {a : α}
    (h : ∀ x, p x = true → q x = true) (hf : xs.filter q = [a]) :
    xs.find? p = if p a then some a else none := by
  have hfind : (xs.filter q).find? p = xs.find? p := by
    rw [List.find?_filter]
    congr 1
    funext x
    cases hp : p x with
    | false => simp
    | true => simp [h x hp]
  rw [← hfind, hf]
  cases hp : p a <;> simp [hp]

theorem aggregate_result (store : ConversationStore) {w : World} {documents : List Document}
    {more : List AggregateOutcome}
    (h : (w.collection store.collection).aggregates = ⟨documents, none⟩ :: more) (p : Pipeline) :
    ((store.aggregate p).run.run w).1 = (documents.mapM withTextIds).mapError .fault := by
  obtain ⟨logs, hrun⟩ := Action.run_guarded .repository "Conversation aggregation failed"
    "Conversation aggregation failed" (Session.aggregate store.collection p store.allowDiskUse) w
  rw [Session.run_aggregate_cons w store.collection p store.allowDiskUse h] at hrun
  rw [aggregate, Action.run_bind, hrun]
  rfl

theorem lookup_of_withTextIds {facet : Members} {listed : List Document} {d : Document}
    (hc : facet.lookup "conversations" = some (.arr listed))
    (h : withTextIds (.obj facet) = .ok d) :
    ∃ items, listed.mapM withTextId = .ok items ∧
      d = .obj (Document.setMember "conversations" (.arr items) facet) := by
  simp only [withTextIds, Document.get, hc, Option.getD_some, ok_bind] at h
  obtain ⟨items, hitems, h⟩ := bind_eq_ok.mp h
  exact ⟨items, hitems, (Except.ok.inj h).symm⟩

end ConversationStore

namespace Service

open ConversationStore Conversation

variable (s : Service) (spec : FilterSpec) {w w₁ : World} {page : ConversationPage}

/-- Among the conversations of the project, this one alone has that text for its
identifier, and looking them up does not fail. -/
structure Identifies (w : World) (project t : String) (members : Members) : Prop where
  unique : (w.collection s.conversations.collection).documents.filter (isIdentified project t) =
    [.obj members]
  answers : (w.collection s.conversations.collection).lookupError = none

section

variable {s} {project t : String} {members : Members} (h : s.Identifies w project t members)
include h

theorem Identifies.isIdentified : isIdentified project t (.obj members) = true := by
  have hmem : Document.obj members ∈ (w.collection s.conversations.collection).documents.filter
      (ConversationStore.isIdentified project t) := by simp [h.unique]
  exact (List.mem_filter.mp hmem).2

theorem find_identified {id : Document} (hid : id = .str t ∨ id = .objectId t) :
    ((s.find (.str project) id .null).run.run w).1 =
      if Session.meets (lookupQuery (.str project) id .null) (.obj members) then
        .ok (.obj (Document.setMember "_id" (.str t) members))
      else .error (.notFound id) := by
  have hfound : s.conversations.found w (.str project) id .null =
      if Session.meets (lookupQuery (.str project) id .null) (.obj members) then
        some (.obj members) else none :=
    find?_of_filter (fun d => isIdentified_of_meets hid) h.unique
  rw [find_result, h.answers, hfound,
    ← withId_eq (idText?_obj.mpr (isIdentified_obj.mp h.isIdentified).2)]
  cases Session.meets (lookupQuery (.str project) id .null) (.obj members) <;> rfl

theorem find_of_identifier {id : Document} (hmember : members.lookup "_id" = some id) :
    ((s.find (.str project) id .null).run.run w).1 =
      .ok (.obj (Document.setMember "_id" (.str t) members)) := by
  obtain ⟨hproject, hkind⟩ := isIdentified_obj.mp h.isIdentified
  have hid : id = .str t ∨ id = .objectId t := by simpa [hmember] using hkind
  have hmeets : Session.meets (lookupQuery (.str project) id .null) (.obj members) = true :=
    (meets_lookupQuery project hid).mpr (by simp [hproject, hmember])
  rw [find_identified h hid, if_pos hmeets]

/-- The text of an identifier made by the store does not lead to it. -/
theorem find_of_text (hmember : members.lookup "_id" = some (.objectId t)) :
    ((s.find (.str project) (.str t) .null).run.run w).1 = .error (.notFound (.str t)) := by
  have hmeets : ¬ Session.meets (lookupQuery (.str project) (.str t) .null) (.obj members) = true := by
    rw [meets_lookupQuery project (.inl rfl)]
    simp [hmember]
  rw [find_identified h (.inl rfl), if_neg hmeets]

end

theorem queryPipeline_attempts : Action.Attempts (s.queryPipeline spec) w (s.lookups spec) :=
  (s.wantedTriggerIntents_attempts spec w).andThen fun triggers =>
    Action.attempts_of_blameless (s.failsBy_compile spec triggers).ofSpec_blameless

/-- The next answer to an aggregation lists these conversations. -/
def Lists (w : World) (listed : List Document) : Prop :=
  ∃ facet rest more, facet.lookup "conversations" = some (.arr listed) ∧
    (w.collection s.conversations.collection).aggregates = ⟨.obj facet :: rest, none⟩ :: more

theorem listed_of_aggregate {listed results : List Document} (h : s.Lists w listed) {p : Pipeline}
    (hr : ((s.conversations.aggregate p).run.run w).1 = .ok results)
    (hp : pageOf spec results = .ok page) :
    listed.mapM withTextId = .ok (page.conversations.map .obj) := by
  obtain ⟨facet, rest, more, hfacet, hnext⟩ := h
  rw [aggregate_result s.conversations hnext, mapError_eq_ok, List.mapM_cons] at hr
  obtain ⟨first, hfirst, hr⟩ := bind_eq_ok.mp hr
  obtain ⟨others, -, hr⟩ := bind_eq_ok.mp hr
  cases hr
  obtain ⟨items, hitems, rfl⟩ := lookup_of_withTextIds hfacet hfirst
  have hlisted : (Document.setMember "conversations" (.arr items) facet).lookup "conversations" =
      some (.arr items) := by simp [Document.lookup_setMember]
  rw [hitems, ConversationPage.eq_map_of_ofResults hlisted (mapError_eq_ok.mp hp)]

/-- A query shows what its aggregation lists, and what is stored stays as it is. -/
theorem listed_of_query {listed : List Document} (h : s.Lists w listed)
    (hq : (s.query spec).run.run w = (.ok page, w₁)) :
    listed.mapM withTextId = .ok (page.conversations.map .obj) := by
  rw [query_eq] at hq
  obtain ⟨p, w₂, hp, hq⟩ := Action.run_bind_eq_ok.mp hq
  obtain ⟨_, w₃, hlog, hq⟩ := Action.run_bind_eq_ok.mp hq
  obtain ⟨results, w₄, hresults, hpage⟩ := Action.run_bind_eq_ok.mp hq
  -- Up to the aggregation nothing that is prepared is used up.
  have hcompiled := (s.queryPipeline_attempts spec).effect_of_run hp
  have hlogged := (Action.attempts_log _ _ _ w₂).effect_of_run hlog
  have hsame : w₃.collection s.conversations.collection =
      w.collection s.conversations.collection := by
    rw [hlogged.collection_undrawn nofun,
      hcompiled.collection_undrawn fun _ hc => s.drawsFrom_lookups spec hc]
  have h : s.Lists w₃ listed := by
    unfold Lists
    rwa [hsame]
  have hpage : pageOf spec results = .ok page :=
    mapError_eq_ok.mp (congrArg Prod.fst hpage)
  exact s.listed_of_aggregate spec h (congrArg Prod.fst hresults) hpage

/-- What fetching a conversation comes to. By the identifier that is stored it is
found, with that identifier as text; by this text it is found if the identifier
itself is one, and it is not found if the store made it. -/
structure Fetches (w : World) (project t : String) (members : Members) : Prop where
  identifier : members.lookup "_id" = some (.str t) ∨ members.lookup "_id" = some (.objectId t)
  byIdentifier {id : Document} : members.lookup "_id" = some id →
    ((s.find (.str project) id .null).run.run w).1 =
      .ok (.obj (Document.setMember "_id" (.str t) members))
  byText : members.lookup "_id" = some (.str t) →
    ((s.find (.str project) (.str t) .null).run.run w).1 = .ok (.obj members)
  notByText : members.lookup "_id" = some (.objectId t) →
    ((s.find (.str project) (.str t) .null).run.run w).1 = .error (.notFound (.str t))

/-- A conversation is fetched under its identifier if that is a text, and under its text not if
that is one of the store. -/
theorem fetches_identified {project t : String} {members : Members}
    (h : s.Identifies w project t members) : s.Fetches w project t members where
  identifier := (isIdentified_obj.mp h.isIdentified).2
  byIdentifier := find_of_identifier h
  byText hmember := by
    rw [find_of_identifier h hmember, Document.setMember_of_lookup hmember]
  notByText := find_of_text h

/-- A conversation that a query lists stands on the page under the text of its
identifier, and can be fetched afterwards as its identifier allows. -/
theorem fetches_listed {listed : List Document} (hl : s.Lists w listed)
    (hq : (s.query spec).run.run w = (.ok page, w₁)) {t : String} {members shown : Members}
    (hi : s.Identifies w spec.projectId t members) (hs : .obj shown ∈ listed)
    (hsame : shown.lookup "_id" = members.lookup "_id") :
    Document.setMember "_id" (.str t) shown ∈ page.conversations ∧
      s.Fetches w₁ spec.projectId t members := by
  constructor
  · have htext : idText? (.obj shown) = some t := by
      rw [idText?_obj, hsame]
      exact (isIdentified_obj.mp hi.isIdentified).2
    obtain ⟨d, hd, hshown⟩ := mem_of_mapM_ok (s.listed_of_query spec hl hq) hs
    rw [withTextId_obj, withId_eq htext] at hshown
    cases hshown
    simpa using hd
  · have heffect := (s.query_attempts spec w).effect_of_run hq
    refine s.fetches_identified ⟨?_, ?_⟩
    · rw [heffect.collection_eq]
      exact hi.unique
    · rw [heffect.collection_eq]
      exact hi.answers

end Service

def mixedConversations : List Document :=
  [.obj [("_id", .str "507f1f77bcf86cd799439011"), ("projectId", .str "other")],
    .obj [("_id", .objectId "507f1f77bcf86cd799439011"), ("projectId", .str "bf")],
    .obj [("_id", .str "c1"), ("projectId", .str "bf")]]

def mixedWorld : World where
  script := {}
  collections := [("conversations",
    { documents := mixedConversations
      aggregates := [{ documents := [.obj [("conversations", .arr (mixedConversations.drop 1)),
        ("pages", .arr [.single Page.totalName (.int 2)])]] }] })]

theorem Service.fetches_listed_mixed : ∃ page w₁,
    Lists ⟨{}, {}, none⟩ mixedWorld (mixedConversations.drop 1) ∧
      (query ⟨{}, {}, none⟩ { projectId := "bf" }).run.run mixedWorld = (.ok page, w₁) ∧
      Identifies ⟨{}, {}, none⟩ mixedWorld "bf" "c1"
        [("_id", .str "c1"), ("projectId", .str "bf")] ∧
      [("_id", .str "c1"), ("projectId", .str "bf")] ∈ page.conversations ∧
      Fetches ⟨{}, {}, none⟩ w₁ "bf" "c1" [("_id", .str "c1"), ("projectId", .str "bf")] := by
  have hl : Lists ⟨{}, {}, none⟩ mixedWorld (mixedConversations.drop 1) := ⟨_, [], [], rfl, rfl⟩
  have hi : Identifies ⟨{}, {}, none⟩ mixedWorld "bf" "c1"
      [("_id", .str "c1"), ("projectId", .str "bf")] := ⟨rfl, rfl⟩
  obtain ⟨page, w₁, hq⟩ : ∃ page w₁,
      (query ⟨{}, {}, none⟩ { projectId := "bf" }).run.run mixedWorld = (.ok page, w₁) :=
    ⟨_, _, rfl⟩
  exact ⟨page, w₁, hl, hq, hi,
    fetches_listed ⟨{}, {}, none⟩ { projectId := "bf" } hl hq hi (by simp [mixedConversations]) rfl⟩

/-- The text under which a query lists a conversation need not lead back to it. -/
theorem Service.find_mixed : ∃ page w₁,
    Identifies ⟨{}, {}, none⟩ mixedWorld "bf" "507f1f77bcf86cd799439011"
      [("_id", .objectId "507f1f77bcf86cd799439011"), ("projectId", .str "bf")] ∧
    (query ⟨{}, {}, none⟩ { projectId := "bf" }).run.run mixedWorld = (.ok page, w₁) ∧
      [("_id", .str "507f1f77bcf86cd799439011"), ("projectId", .str "bf")] ∈ page.conversations ∧
      ((find ⟨{}, {}, none⟩ (.str "bf") (.str "507f1f77bcf86cd799439011") .null).run.run w₁).1 =
        .error (.notFound (.str "507f1f77bcf86cd799439011")) :=
  ⟨_, _, ⟨rfl, rfl⟩, rfl, List.mem_cons_self, rfl⟩

end DialogueQuery
