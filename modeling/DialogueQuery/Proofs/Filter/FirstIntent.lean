import DialogueQuery.Proofs.Filter.Window
import DialogueQuery.Service

/-! The first intent of a conversation, derived in the store and in process, and
what the clause on it finds out. -/

namespace DialogueQuery

namespace Filter

open Conversation

def namesIntentExpr : Expr :=
  .and [.eq (.var "event" ["event"]) (.const (.str "user")),
    .ne (.ifNull (.var "event" intentNamePath) (.const .null)) (.const .null)]

def intentEventsExpr : Expr :=
  .filter (.ifNull (.field ["tracker", "events"]) (.array [])) (some "event") namesIntentExpr

theorem eval_namesIntent {follow : Resolver} (hf : follow.IsMemberwise) (doc : Document)
    {e : Document} (he : isWellTypedEvent e = true) :
    namesIntentExpr.eval follow doc [("event", some e)] =
      .ok (some (.bool (namesIntent e))) := by
  have hvar (path : List String) : (Expr.var "event" path).eval follow doc [("event", some e)] =
      .ok (follow e path) := Expr.eval_var rfl path
  have hk := Expr.eval_eq (hvar ["event"]) (Expr.eval_const (.str "user"))
  rw [hf.sameValue_str] at hk
  refine Expr.eval_and hk fun hu => ?_
  rw [Expr.eval_ne (Expr.eval_ifNull_null (hvar intentNamePath)) (Expr.eval_const _),
    hf.getD_follow (leadsThroughRecords_intentName (isObject_of_hasText hu)
      (hasIntent_of_isWellTypedEvent he))]
  simp [Expr.sameValue, Document.equal_null]

/-- The stage derives the intent that opens the conversation, and drops nothing. -/
theorem firstIntentStage_passes {m : StoreModel} (hf : m.follow.IsMemberwise) {c d : Document}
    (h : isWellTyped c = true) (hd : Windowed c d) :
    ∃ v, m.Passes [firstIntentStage] d true (d.derive "firstIntent" v) ∧
      v.getD .null = (openingIntent c).getD .null := by
  have htyped := hasTypedEvents_of_isWellTyped h
  have hev := hd.hasEvents (hasEvents_of_hasTypedEvents htyped)
  have hevents : (Expr.ifNull (.field ["tracker", "events"]) (.array [])).eval m.follow d [] =
      .ok (some (.arr (recorded c))) := by
    rw [Expr.eval_recorded hf hev, hd.recorded_eq]
  have hfilter : intentEventsExpr.eval m.follow d [] =
      .ok (some (.arr ((recorded c).filter namesIntent))) :=
    Expr.eval_filter hevents fun e he => eval_namesIntent hf d (isWellTypedEvent_of_mem htyped he)
  have hfirst := Expr.eval_elemAt hfilter (Expr.eval_const (.int 0))
  rw [Expr.elementAt_zero, List.head?_filter] at hfirst
  have hlet (body : Expr) :
      (Expr.letIn "first" (.elemAt intentEventsExpr (.const (.int 0))) body).eval m.follow d [] =
        body.eval m.follow d [("first", (recorded c).find? namesIntent)] :=
    Expr.eval_letIn hfirst
  cases he : (recorded c).find? namesIntent with
  | none =>
    rw [he] at hlet
    refine ⟨none, .addFields (StoreModel.addFields_one hd.isObject _
      ((hlet _).trans (Expr.eval_var_missing rfl _))), ?_⟩
    simp [openingIntent, he]
  | some e =>
    rw [he] at hlet
    refine ⟨m.follow e intentNamePath, .addFields (StoreModel.addFields_one hd.isObject _
      ((hlet _).trans (Expr.eval_var rfl _))), ?_⟩
    have hn := List.find?_some he
    simp only [namesIntent, Bool.and_eq_true] at hn
    have ht := isWellTypedEvent_of_mem htyped (List.mem_of_find?_eq_some he)
    rw [hf.getD_follow (leadsThroughRecords_intentName (isObject_of_hasText hn.1)
      (hasIntent_of_isWellTypedEvent ht))]
    simp [openingIntent, he]

end Filter

/-- Trigger intents are at hand if one way of starting is asked for. Then the query
and the check decide alike. -/
theorem Service.isMetBy_firstIntentQueryFor {spec : FilterSpec} {triggers : Option (List Document)}
    (ht : triggers.isSome = spec.needsTriggerIntents) (d : Document) :
    (firstIntentQueryFor spec triggers).isMetBy d = triggers.all fun intents =>
      Filter.firstIntentCheck spec intents ((d.member? "firstIntent").getD .null) := by
  cases triggers with
  | none => simp [firstIntentQueryFor, Query.any]
  | some intents =>
    have hs := ht.symm
    simp only [FilterSpec.needsTriggerIntents, Option.isSome_some, bne_iff_ne] at hs
    simp only [firstIntentQueryFor, Filter.firstIntentQuery, Filter.firstIntentCheck,
      beq_eq_false_iff_ne.mpr hs, Option.all_some]
    cases spec.triggered.getD false <;> simp [Test.passes]

end DialogueQuery
