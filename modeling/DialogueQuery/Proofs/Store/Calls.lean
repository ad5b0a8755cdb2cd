import DialogueQuery.Proofs.Actions
import DialogueQuery.Proofs.Document.Members
import DialogueQuery.Store.Conversations
import DialogueQuery.Store.Projects

/-! The calls of an operation, what they use up of the prepared answers, and what
a call that fails makes of the operation. -/

namespace DialogueQuery

/-- What a collection has prepared. -/
def World.collection (w : World) (name : String) : Collection := (w.collections.lookup name).getD {}

/-- Whether the call takes an outcome from those of a collection. -/
def Call.drawsFrom (name : String) : Call → Bool
  | aggregate collection _ _ => collection == name
  | _ => false

/-- The error that a call meets. One that follows documents counts like any other. -/
def World.failureOf (w : World) : Call → Option Breakdown
  | .aggregate name _ _ => (w.collection name).aggregates.head?.bind AggregateOutcome.error
  | .findOne name _ _ => (w.collection name).lookupError
  | .distinct name _ _ => match (w.collection name).distinct with
    | .error e => some e
    | .ok _ => none
  | _ => none

namespace Failure

def ofBreakdown (attempt : String) (e : Breakdown) : Failure :=
  if e.ofDatabase then store attempt e else breakdown e

def cause? : Failure → Option Breakdown
  | store _ e => some e
  | breakdown e => some e
  | _ => none

@[simp] theorem cause?_ofBreakdown (attempt : String) (e : Breakdown) :
    (ofBreakdown attempt e).cause? = some e := by
  unfold ofBreakdown
  split <;> rfl

end Failure

/-- The calls are recorded, and each aggregation among them uses up one outcome of
its collection. Nothing else that is prepared changes. -/
structure Effect (w w' : World) (calls : List Call) : Prop where
  calls_eq : w'.calls = w.calls ++ calls
  collection_eq (name : String) : w'.collection name =
    { w.collection name with
      aggregates := (w.collection name).aggregates.drop (calls.countP (Call.drawsFrom name)) }

namespace Effect

variable {w w₁ w₂ : World} {calls more : List Call}

theorem refl (w : World) : Effect w w [] := ⟨by simp, fun _ => rfl⟩

theorem trans (h : Effect w w₁ calls) (h' : Effect w₁ w₂ more) : Effect w w₂ (calls ++ more) := by
  refine ⟨by rw [h'.calls_eq, h.calls_eq, List.append_assoc], fun name => ?_⟩
  rw [h'.collection_eq, h.collection_eq, List.countP_append, List.drop_drop]

theorem draw {name : String} {p : Pipeline} {allowDiskUse : Document}
    (hc : w₁.calls = w.calls ++ [.aggregate name p allowDiskUse])
    (hs : ∀ n, w₁.collection n = if n = name then
      { w.collection n with aggregates := (w.collection n).aggregates.tail } else w.collection n) :
    Effect w w₁ [.aggregate name p allowDiskUse] := by
  refine ⟨hc, fun n => ?_⟩
  rw [hs]
  by_cases hn : n = name
  · simp [hn, Call.drawsFrom]
  · simp [hn, Call.drawsFrom, Ne.symm hn]

theorem of_eq (h : Effect w w₁ calls) (hc : w₂.calls = w₁.calls)
    (hs : w₂.collections = w₁.collections) : Effect w w₂ calls :=
  ⟨hc.trans h.calls_eq, fun name => by rw [← h.collection_eq, World.collection, hs]; rfl⟩

theorem collection_undrawn (h : Effect w w₁ calls)
    (hd : ∀ c ∈ calls, ∀ name, c.drawsFrom name = false) (name : String) :
    w₁.collection name = w.collection name := by
  have hn : calls.countP (Call.drawsFrom name) = 0 :=
    List.countP_eq_zero.mpr fun c hc => by simp [hd c hc name]
  rw [h.collection_eq, hn]
  rfl

/-- What draws nothing leaves the failures that are prepared. -/
theorem failureOf_eq (h : Effect w w₁ calls) (hd : ∀ c ∈ calls, ∀ name, c.drawsFrom name = false) :
    w₁.failureOf = w.failureOf := by
  funext c
  cases c <;> simp [World.failureOf, h.collection_undrawn hd]

end Effect

theorem lookup_map_replace (collections : List (String × Collection)) (name : String)
    (c : Collection) (n : String) :
    (collections.map fun e => if e.1 = name then (name, c) else e).lookup n =
      if n = name then (collections.lookup n).map fun _ => c else collections.lookup n := by
  induction collections with
  | nil => simp
  | cons e rest ih =>
    obtain ⟨k, v⟩ := e
    rw [List.map_cons, lookup_cons_ite]
    by_cases hk : k = name
    · subst hk
      by_cases h : n = k <;> simp [lookup_cons_ite, h, ih]
    · by_cases h : n = k
      · simp [h, hk]
      · simp only [hk, if_false, lookup_cons_ite, h, ih]

namespace Session

variable (w : World) (name : String)

/-- A call of the database as it is seen from outside: it fails for the reason that
is prepared for it. -/
def Makes {α : Type} (use : Session (Except Breakdown α)) (w : World) (call : Call) : Prop :=
  Effect w (use.run w).2 [call] ∧ ∀ e, (use.run w).1 = .error e ↔ w.failureOf call = some e

theorem findOne_result (query : List (List String × Document)) (projection : Option Members) :
    ((findOne name query projection).run w).1 = (w.collection name).lookupError.elim
      (.ok ((w.collection name).documents.find? (meets query))) .error := by
  simp only [findOne, record, collection, bind_pure_comp, Functor.map_map, StateT.run_bind,
    StateT.run_modify, StateT.run_map, StateT.run_get, map_pure]
  unfold World.collection
  cases ((w.collections.lookup name).getD {}).lookupError <;> rfl

theorem findOne_makes (query : List (List String × Document)) (projection : Option Members) :
    Makes (findOne name query projection) w
      (.findOne name (query.map fun q => (Expr.pathText q.1, q.2)) projection) := by
  refine ⟨⟨rfl, fun _ => rfl⟩, fun e => ?_⟩
  rw [findOne_result, World.failureOf]
  cases (w.collection name).lookupError <;> simp

theorem distinct_makes (key : String) (query : Members) :
    Makes (distinct name key query) w (.distinct name key query) := by
  refine ⟨⟨rfl, fun _ => rfl⟩, fun e => ?_⟩
  change (w.collection name).distinct = .error e ↔ _
  rw [World.failureOf]
  cases (w.collection name).distinct <;> simp

theorem collection_setCollection {c : Collection} (h : (w.collection name).aggregates ≠ [])
    (n : String) : ((setCollection name c).run w).2.collection n =
      if n = name then c else w.collection n := by
  change ((w.collections.map fun e => if e.1 = name then (name, c) else e).lookup n).getD {} = _
  rw [lookup_map_replace]
  split
  · next hn =>
    subst hn
    cases hl : w.collections.lookup n with
    | none => simp [World.collection, hl] at h
    | some d => rfl
  · rfl

theorem run_aggregate_cons (p : Pipeline) (allowDiskUse : Document) {outcome : AggregateOutcome}
    {rest : List AggregateOutcome} (ha : (w.collection name).aggregates = outcome :: rest) :
    (aggregate name p allowDiskUse).run w = (outcome.error.elim (.ok outcome.documents) .error,
      ((setCollection name { w.collection name with aggregates := rest }).run
        { w with calls := w.calls ++ [.aggregate name p allowDiskUse] }).2) := by
  unfold World.collection at ha ⊢
  simp only [aggregate, record, collection, bind_pure_comp, StateT.run_bind,
    StateT.run_modify, StateT.run_map, StateT.run_get, map_pure, pure_bind, ha]
  cases outcome.error <;> rfl

/-- An aggregation is one call, which takes the next outcome that is prepared. -/
theorem aggregate_makes (p : Pipeline) (allowDiskUse : Document) :
    Makes (aggregate name p allowDiskUse) w (.aggregate name p allowDiskUse) := by
  unfold Makes
  let called : World := { w with calls := w.calls ++ [.aggregate name p allowDiskUse] }
  cases ha : (w.collection name).aggregates with
  | nil =>
    have hrun : (aggregate name p allowDiskUse).run w = (.ok [], called) := by
      unfold World.collection at ha
      simp only [aggregate, record, collection, bind_pure_comp, StateT.run_bind,
        StateT.run_modify, StateT.run_map, StateT.run_get, map_pure, pure_bind, ha]
      rfl
    rw [hrun]
    refine ⟨.draw rfl fun n => ?_, fun e => by simp [World.failureOf, ha]⟩
    by_cases hn : n = name
    · subst hn
      have htail : (w.collection n).aggregates.tail = (w.collection n).aggregates := by
        rw [ha, List.tail_nil]
      rw [if_pos rfl, htail]
      rfl
    · rw [if_neg hn]
      rfl
  | cons outcome rest =>
    rw [run_aggregate_cons w name p allowDiskUse ha]
    have hcalled : (called.collection name).aggregates ≠ [] := by
      change (w.collection name).aggregates ≠ []
      simp [ha]
    refine ⟨.draw rfl fun n => ?_, fun e => ?_⟩
    · rw [collection_setCollection called name hcalled]
      by_cases hn : n = name
      · subst hn
        rw [if_pos rfl, if_pos rfl, ha, List.tail_cons]
      · rw [if_neg hn, if_neg hn]
        rfl
    · rw [World.failureOf, ha, List.head?_cons, Option.bind_some]
      cases outcome.error <;> simp

end Session

end DialogueQuery
