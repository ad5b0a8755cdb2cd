import DialogueQuery.Proofs.Aggregation.Conditions
import DialogueQuery.Proofs.Aggregation.Reading
import DialogueQuery.Proofs.Aggregation.Stages
import DialogueQuery.Proofs.Funnel.CompiledWalk

/-! The stages of a funnel note on a conversation what the walk makes of it, and
keep those that complete the funnel. -/

namespace DialogueQuery.Funnel

open Conversation

def derivedFields : List String := ["sequence", "eventTypes", "matching", "funnelProgress"]

theorem walkConversation_eq {c : Document} (hc : isReadable c = true) {steps : List Step}
    {final : WalkState}
    (h : (recorded c ++ [endEvent]).foldlM advance ⟨steps, []⟩ = .ok final) :
    walkConversation c steps =
      .ok ⟨final.tokens.filter (· != stopToken), steps.length⟩ := by
  simp only [walkConversation, walk, eventList_eq (isReadable_iff.mp hc).1, ok_bind, h, pure_eq_ok]

theorem eval_labels {follow : Resolver} (hf : follow.IsMemberwise) {d : Document}
    {tokens : List String} (h : d.member? "matching" = some (.ofStrings tokens)) :
    (Expr.filter (.field ["matching"]) none
      (.ne (.var "this" []) (.const (.str stopToken)))).eval follow d [] =
      .ok (some (.ofStrings (tokens.filter (· != stopToken)))) := by
  have hfield : (Expr.field ["matching"]).eval follow d [] = .ok (some (.ofStrings tokens)) :=
    Expr.eval_field_member hf h
  refine (Expr.eval_filter (p := fun t => !t.equal (.str stopToken)) hfield ?_).trans ?_
  · intro t _
    refine (Expr.eval_ne (Expr.eval_var (d := t) (by simp [Expr.defaultItem]) [])
      (Expr.eval_const _)).trans ?_
    simp [hf.nil, Expr.sameValue]
  · simp [Document.ofStrings, List.filter_map, Function.comp_def, bne]

theorem eval_progress {follow : Resolver} (hf : follow.IsMemberwise) {d : Document}
    {labels : List String} (h : d.member? "matching" = some (.ofStrings labels)) :
    (Expr.size (.field ["matching"])).eval follow d [] = .ok (some (.int labels.length)) := by
  have hl : (Expr.field ["matching"]).eval follow d [] = .ok (some (.ofStrings labels)) :=
    Expr.eval_field_member hf h
  have hs := Expr.eval_size hl
  rwa [List.length_map] at hs

def withSteps (c : Document) (steps : List Step) : Document :=
  (c.derive "sequence" (some (.arr (steps.map Step.toDocument)))).derive "eventTypes"
    (some (.arr (steps.map fun s => .str s.type.name)))

/-- A conversation with the tokens of a walk, and in their place the labels among them. -/
def withTokens (c : Document) (tokens : List String) : Document :=
  ((c.derive "matching" (some (.ofStrings tokens))).derive "matching"
    (some (.ofStrings (tokens.filter (· != stopToken))))).derive "funnelProgress"
    (some (.int (tokens.filter (· != stopToken)).length))

theorem withSteps_passes (m : StoreModel) {c : Document} (ho : c.isObject = true)
    (steps : List Step) :
    m.Passes [.addFields [("sequence", .literal (.arr (steps.map Step.toDocument))),
      ("eventTypes", .literal (.arr (steps.map fun s => .str s.type.name)))]]
      c true (withSteps c steps) :=
  .addFields (StoreModel.addFields_two ho _ _ (Expr.eval_literal _) (Expr.eval_literal _))

theorem withTokens_passes {m : StoreModel} (hf : m.follow.IsMemberwise) {c : Document}
    (ho : c.isObject = true) {cursor : Nat} {tokens : List String}
    (hv : walkExpr.eval m.follow c [] = .ok (some (accumulator cursor tokens))) :
    m.Passes ([.addFields [("matching", .letIn "walk" walkExpr (.var "walk" ["matching"]))]] ++
      [.set [("matching", .filter (.field ["matching"]) none
        (.ne (.var "this" []) (.const (.str stopToken))))]] ++
      [.addFields [("funnelProgress", .size (.field ["matching"]))]])
      c true (withTokens c tokens) := by
  have hwalk : (Expr.letIn "walk" walkExpr (.var "walk" ["matching"])).eval m.follow c [] =
      .ok (some (.ofStrings tokens)) :=
    (Expr.eval_letIn hv).trans (Expr.eval_var_member hf rfl rfl)
  let walked := c.derive "matching" (some (.ofStrings tokens))
  have hw : walked.member? "matching" = some (.ofStrings tokens) := by
    simp [walked, Document.member?_derive, ho]
  let labelled := walked.derive "matching" (some (.ofStrings (tokens.filter (· != stopToken))))
  have hl : labelled.member? "matching" =
      some (.ofStrings (tokens.filter (· != stopToken))) := by
    simp [labelled, walked, Document.member?_derive, ho]
  have hw' : walked.isObject = true := by simpa [walked] using ho
  have hl' : labelled.isObject = true := by simpa [labelled] using hw'
  exact ((StoreModel.Passes.addFields (StoreModel.addFields_one ho _ hwalk)).append
    (.set (StoreModel.addFields_one hw' _ (eval_labels hf hw)))).append
    (.addFields (StoreModel.addFields_one hl' _ (eval_progress hf hl)))

theorem member?_withTokens {c : Document} (ho : c.isObject = true) (tokens : List String) :
    (withTokens c tokens).member? "matching" =
        some (.ofStrings (tokens.filter (· != stopToken))) ∧
      (withTokens c tokens).member? "funnelProgress" =
        some (.int (tokens.filter (· != stopToken)).length) := by
  simp [withTokens, Document.member?_derive, ho]

theorem member?_annotated {c : Document} (ho : c.isObject = true) (steps : List Step)
    (tokens : List String) {name : String} (hn : name ∉ derivedFields) :
    (withTokens (withSteps c steps) tokens).member? name = c.member? name := by
  simp only [derivedFields, List.mem_cons, List.not_mem_nil, or_false, not_or] at hn
  simp [withTokens, withSteps, Document.member?_derive, ho, hn]

theorem isMetBy_hasSize {d : Document} {labels : List String}
    (h : d.member? "matching" = some (.ofStrings labels)) (n : Nat) :
    (Query.all [.passes ["matching"] [.hasSize n]]).isMetBy d = (labels.length == n) := by
  simp [Test.passes, h, Document.ofStrings]

/-- The compiled stages note the labels and the progress of the walk in process, and keep what
passes. -/
theorem stages_agree {m : StoreModel} (hf : m.follow.IsMemberwise) {c : Document}
    (hc : isReadable c = true) {steps : List Step} (hs : steps ≠ []) :
    ∃ o d, walkConversation c steps = .ok o ∧
      m.Passes (progressStages steps) c true d ∧
      m.Passes (matchingStages steps) c o.passed d ∧
      d.member? "matching" = some (.ofStrings o.matching) ∧
      d.member? "funnelProgress" = some (.int o.progress) ∧
      ∀ name, name ∉ derivedFields → d.member? name = c.member? name := by
  obtain ⟨hev, hw⟩ := isReadable_iff.mp hc
  have ho := isObject_of_hasEvents hev
  have ho' : (withSteps c steps).isObject = true := by simpa [withSteps] using ho
  have ht : (withSteps c steps).member? "tracker" = c.member? "tracker" := by
    simp [withSteps, Document.member?_derive, ho]
  have hsteps : m.follow (withSteps c steps) ["sequence"] =
      some (.arr (steps.map Step.toDocument)) :=
    hf.follow_member (by simp [withSteps, Document.member?_derive, ho])
  obtain ⟨final, last, hwalk, hv⟩ := eval_walkExpr hf hsteps
    (by rw [hasEvents_congr (by rw [ho, ho']) ht, hev]) (by rw [recorded_congr ht]; exact hw) []
  rw [recorded_congr ht] at hwalk
  have hp : m.Passes (progressStages steps) c true
      (withTokens (withSteps c steps) final.tokens) := by
    have := (withSteps_passes m ho steps).append (withTokens_passes hf ho' hv)
    simpa [progressStages, hs] using this
  obtain ⟨hm, hn⟩ := member?_withTokens ho' final.tokens
  refine ⟨_, _, walkConversation_eq hc hwalk, hp, ?_, hm, hn, fun _ => member?_annotated ho _ _⟩
  have hq := hp.append (.filterBy m (.all [.passes ["matching"] [.hasSize steps.length]]) _)
  rw [isMetBy_hasSize hm] at hq
  simpa [matchingStages, hs, Outcome.passed, Outcome.progress] using hq

theorem isLegible_walkExpr : walkExpr.isLegible = true := by decide

/-- The names in the steps are quoted, and may begin with a dollar sign. -/
theorem isLegible_progressStages (steps : List Step) :
    Pipeline.isLegible (progressStages steps) = true := by
  unfold progressStages
  split
  · rfl
  · simp [Pipeline.isLegible, Stage.isLegible, Expr.haveLegible, Expr.isLegible,
      isLegible_walkExpr, Expr.isPath, Expr.isPathName, Expr.isReserved, Document.isPlain,
      stopToken]

theorem isLegible_matchingStages (steps : List Step) :
    Pipeline.isLegible (matchingStages steps) = true := by
  have hprogress := isLegible_progressStages steps
  rw [Pipeline.isLegible] at hprogress ⊢
  unfold matchingStages
  split
  · rfl
  · rw [List.all_append, hprogress]
    simp [Stage.isLegible, Query.isLegible, Condition.areLegible, Condition.isLegible,
      Expr.isPath, Expr.isPathName, Expr.isReserved]

/-- A store that is sent the stages of a funnel, and reads paths from member to member,
walks as the walk in process does: on every readable conversation it notes the same
labels and their number, changes no other field, and keeps the conversation if and
only if the walk passes. -/
theorem compiled_walk_agrees {m : StoreModel} (hm : m.follow = Resolver.byMember) {c : Document}
    (hc : isReadable c = true) {steps : List Step} (hs : steps ≠ []) :
    ∃ o d, walkConversation c steps = .ok o ∧
      m.runDocument (Pipeline.toDocument (progressStages steps)) [c] = .ok [d] ∧
      d.member? "matching" = some (.ofStrings o.matching) ∧
      d.member? "funnelProgress" = some (.int o.progress) ∧
      (∀ name, name ∉ derivedFields → d.member? name = c.member? name) ∧
      m.runDocument (Pipeline.toDocument (matchingStages steps)) [c] =
        .ok (if o.passed then [d] else []) := by
  have hf : m.follow.IsMemberwise := hm ▸ Resolver.byMember_isMemberwise
  obtain ⟨o, d, hw, hp, hk, hl, hn, hframe⟩ := stages_agree hf hc hs
  refine ⟨o, d, hw, ?_, hl, hn, hframe, ?_⟩
  · rw [m.runDocument_toDocument (isLegible_progressStages steps), hp.1, if_pos rfl]
  · rw [m.runDocument_toDocument (isLegible_matchingStages steps), hk.1]

/-- A name that begins with a dollar sign is a name like any other, and an event
without a name reaches a step that excludes names. -/
theorem compiled_walk_agrees_dollar :
    let m : StoreModel := ⟨Resolver.byMember, fun _ _ => true⟩
    let c : Document := .obj [("tracker", .obj [("events", .arr [.str "END", .arr [],
      .obj [("event", .str "user"), ("parse_data", .null)],
      .obj [("event", .str "action"), ("name", .str "$$step.label")]])])]
    let steps : List Step := [⟨.intent, ["greet"], true⟩, ⟨.action, ["$$step.label"], false⟩]
    m.follow = Resolver.byMember ∧ isReadable c = true ∧ steps ≠ [] ∧
      ∃ o d, walkConversation c steps = .ok o ∧
        m.runDocument (Pipeline.toDocument (progressStages steps)) [c] = .ok [d] ∧
        d.member? "matching" = some (.ofStrings o.matching) ∧
        d.member? "funnelProgress" = some (.int o.progress) ∧
        (∀ name, name ∉ derivedFields → d.member? name = c.member? name) ∧
        m.runDocument (Pipeline.toDocument (matchingStages steps)) [c] =
          .ok (if o.passed then [d] else []) :=
  ⟨rfl, by decide, by decide, compiled_walk_agrees rfl (by decide) (by decide)⟩

end DialogueQuery.Funnel
