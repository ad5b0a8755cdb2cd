import DialogueQuery.Funnel.Stages
import DialogueQuery.Proofs.Aggregation.Rules
import DialogueQuery.Proofs.Funnel.Reaching

/-! The fold that a store runs and the walk in process take the same steps: the
cursor of the fold counts the steps that the walk has taken off, and both leave
the same tokens. -/

namespace DialogueQuery.Funnel

open Conversation

theorem leadsThroughRecords_namePath {e : Document} (ho : e.isObject = true)
    (hw : isWalkable e = true) : e.leadsThroughRecords (namePath e) = true := by
  by_cases hu : isUserEvent e = true
  · have hi : hasIntent e = true := by simpa [isWalkable, hu] using hw
    simpa [namePath, hu] using leadsThroughRecords_intentName ho hi
  · simp [namePath, hu, Document.leadsThroughRecords, Document.isRecord_of_isObject ho]

section Step

variable {follow : Resolver} (hf : follow.IsMemberwise) {doc : Document} {env : Bindings}
  {e : Document} (he : env.lookup "this" = some (some e))
include hf he

theorem eval_eventNameExpr {s : Step} (hs : env.lookup "step" = some (some s.toDocument))
    (hk : hasText e "event" s.event = true) :
    eventNameExpr.eval follow doc env = .ok (follow e (namePath e)) := by
  have hu : (s.event == "user") = isUserEvent e := by
    rw [hasText_iff] at hk
    simp [isUserEvent, hasText, hk]
  have hevent : (Expr.var "step" ["event"]).eval follow doc env = .ok (some (.str s.event)) :=
    Expr.eval_var_member hf hs rfl
  have ht := Expr.eval_eq hevent (Expr.eval_const (.str "user"))
  rw [Expr.sameValue, Document.equal_str_str, hu] at ht
  rw [eventNameExpr, Expr.eval_cond ht, namePath]
  split <;> exact Expr.eval_var he _

/-- The test of the fold on an event and a step is the one of the walk. -/
theorem eval_reachesStepExpr {s : Step} (hs : env.lookup "step" = some (some s.toDocument))
    (hw : isWalkable e = true) :
    reachesStepExpr.eval follow doc env = .ok (some (.bool (s.accepts e))) := by
  have hevent : (Expr.var "step" ["event"]).eval follow doc env = .ok (some (.str s.event)) :=
    Expr.eval_var_member hf hs rfl
  have hnames : (Expr.var "step" ["names"]).eval follow doc env =
      .ok (some (.ofStrings s.names)) := Expr.eval_var_member hf hs rfl
  have hexcluded : (Expr.var "step" ["excluded"]).eval follow doc env =
      .ok (some (.bool s.excluded)) := Expr.eval_var_member hf hs rfl
  have hkind := Expr.eval_eq (Expr.eval_var he ["event"]) hevent
  rw [hf.sameValue_str] at hkind
  refine Expr.eval_and hkind fun hk => ?_
  have hnamed : eventNameExpr.eval follow doc env = .ok (follow e (namePath e)) :=
    eval_eventNameExpr hf he hs hk
  have hname := Expr.eval_ifNull_null hnamed
  rw [hf.getD_follow (leadsThroughRecords_namePath (isObject_of_hasText hk) hw)] at hname
  have hin := Expr.eval_isIn hname (Expr.eval_ifNull (Expr.array []) hnames rfl)
  rw [Expr.eval_ne hin (Expr.eval_ifNull (.const (.bool false)) hexcluded rfl)]
  simp [Expr.sameValue, Document.isAmong, eventName, Function.comp_def, bne]

omit hf in
/-- Beyond the last step nothing is expected, and no event reaches that. -/
theorem eval_reachesStepExpr_missing (hs : env.lookup "step" = some none) :
    reachesStepExpr.eval follow doc env = .ok (some (.bool false)) := by
  have hmissing (name : String) : (Expr.var "step" [name]).eval follow doc env = .ok none :=
    Expr.eval_var_missing hs [name]
  have hname : eventNameExpr.eval follow doc env = .ok (follow e ["name"]) := by
    have ht := Expr.eval_eq (hmissing "event") (Expr.eval_const (.str "user"))
    rw [eventNameExpr, Expr.eval_cond ht]
    simp [Expr.sameValue, Expr.eval_var he]
  have hnames : (Expr.ifNull (.var "step" ["names"]) (.array [])).eval follow doc env =
      .ok (some (.arr [])) := by
    rw [Expr.eval_ifNull_default (hmissing "names") rfl, Expr.eval_array_nil]
  have hexcluded : (Expr.ifNull (.var "step" ["excluded"]) (.const (.bool false))).eval follow
      doc env = .ok (some (.bool false)) := by
    rw [Expr.eval_ifNull_default (hmissing "excluded") rfl, Expr.eval_const]
  have hkind := Expr.eval_eq (Expr.eval_var he ["event"]) (hmissing "event")
  have hin := Expr.eval_ne (Expr.eval_isIn (Expr.eval_ifNull_null hname) hnames) hexcluded
  rw [reachesStepExpr, Expr.eval_and hkind fun _ => hin]
  simp [Expr.sameValue, Document.isAmong]

end Step

/-- The state of the compiled fold after a walk that has `cursor` steps behind it. -/
def accumulator (cursor : Nat) (tokens : List String) : Document :=
  .obj [("cursor", .int cursor), ("matching", .ofStrings tokens)]

section Fold

variable {follow : Resolver} (hf : follow.IsMemberwise) {doc : Document} {steps : List Step}
  (hd : follow doc ["sequence"] = some (.arr (steps.map Step.toDocument)))
include hf hd

theorem eval_walkStepExpr_of {env : Bindings} {cursor : Nat} {tokens : List String}
    (hv : env.lookup "value" = some (some (accumulator cursor tokens)))
    {reached : Bool} {l : String}
    (hr : reachesStepExpr.eval follow doc
      (("step", steps[cursor]?.map Step.toDocument) :: env) = .ok (some (.bool reached)))
    (hl : reached = true → steps[cursor]?.map Step.label = some l) :
    walkStepExpr.eval follow doc env = .ok (some (accumulator
      (if reached then cursor + 1 else cursor)
      (tokens ++ [if reached then l else stopToken]))) := by
  have hcursor (env' : Bindings)
      (hv : env'.lookup "value" = some (some (accumulator cursor tokens))) :
      (Expr.var "value" ["cursor"]).eval follow doc env' = .ok (some (.int cursor)) :=
    Expr.eval_var_member hf hv rfl
  have hstep : (Expr.elemAt (.field ["sequence"]) (.var "value" ["cursor"])).eval follow doc env =
      .ok (steps[cursor]?.map Step.toDocument) := by
    rw [Expr.eval_elemAt ((Expr.eval_field _).trans (congrArg _ hd)) (hcursor env hv)]
    simp [Expr.elementAt]
  have hv' : List.lookup "value" (("step", steps[cursor]?.map Step.toDocument) :: env) =
      some (some (accumulator cursor tokens)) := by simpa [List.lookup_cons] using hv
  have htokens : (Expr.var "value" ["matching"]).eval follow doc
      (("step", steps[cursor]?.map Step.toDocument) :: env) = .ok (some (.ofStrings tokens)) :=
    Expr.eval_var_member hf hv' rfl
  rw [walkStepExpr, Expr.eval_letIn hstep, Expr.eval_cond hr]
  cases reached with
  | true =>
    obtain ⟨s, hs, rfl⟩ := Option.map_eq_some_iff.mp (hl rfl)
    have hlabel : (Expr.var "step" ["label"]).eval follow doc
        (("step", steps[cursor]?.map Step.toDocument) :: env) = .ok (some (.str s.label)) :=
      Expr.eval_var_member hf (d := s.toDocument) (by simp [hs]) rfl
    have hnext := Expr.eval_add (hcursor _ hv') (Expr.eval_const (.int 1))
    have hmore := Expr.eval_concat htokens (Expr.eval_array hlabel)
    rw [if_pos rfl, Expr.eval_object "cursor" "matching" hnext hmore]
    simp [accumulator, Document.ofStrings]
  | false =>
    have hmore := Expr.eval_concat htokens (Expr.eval_array (Expr.eval_const (.str stopToken)))
    rw [if_neg (by simp), Expr.eval_object "cursor" "matching" (hcursor _ hv') hmore]
    simp [accumulator, Document.ofStrings]

/-- One step of the fold is one step of the walk. -/
theorem eval_walkStepExpr {e : Document} (hw : isWalkable e = true) {cursor : Nat}
    (hc : cursor ≤ steps.length) (tokens : List String) (env : Bindings) :
    ∃ next token, next ≤ steps.length ∧
      advance ⟨steps.drop cursor, tokens⟩ e = .ok ⟨steps.drop next, tokens ++ [token]⟩ ∧
      walkStepExpr.eval follow doc
        (("this", some e) :: ("value", some (accumulator cursor tokens)) :: env) =
        .ok (some (accumulator next (tokens ++ [token]))) := by
  let scope : Bindings := ("this", some e) :: ("value", some (accumulator cursor tokens)) :: env
  have hv : scope.lookup "value" = some (some (accumulator cursor tokens)) := by
    simp [scope, List.lookup_cons]
  have he (expected : Option Document) :
      List.lookup "this" (("step", expected) :: scope) = some (some e) := by
    simp [scope, List.lookup_cons]
  by_cases hlt : cursor < steps.length
  · have hs : steps[cursor]? = some steps[cursor] := List.getElem?_eq_getElem hlt
    have hr : reachesStepExpr.eval follow doc
        (("step", steps[cursor]?.map Step.toDocument) :: scope) =
        .ok (some (.bool (steps[cursor].accepts e))) :=
      eval_reachesStepExpr hf (he _) (by simp [hs]) hw
    have hn := eval_walkStepExpr_of hf hd hv hr fun _ => congrArg (Option.map Step.label) hs
    refine ⟨_, _, ?_, ?_, hn⟩
    · split <;> omega
    · rw [List.drop_eq_getElem_cons hlt, advance_cons hw]
      cases steps[cursor].accepts e <;> simp
  -- The cursor has passed the last step: `step` has no value, and both sides stand still.
  · have hs : steps[cursor]? = none := by simpa using hlt
    have hr : reachesStepExpr.eval follow doc
        (("step", steps[cursor]?.map Step.toDocument) :: scope) = .ok (some (.bool false)) :=
      eval_reachesStepExpr_missing (he _) (by simp [hs])
    have hn := eval_walkStepExpr_of hf hd hv hr (l := stopToken) (by simp)
    refine ⟨_, _, by simpa using hc, ?_, hn⟩
    simp [List.drop_eq_nil_of_le (Nat.le_of_not_lt hlt), advance_nil]

theorem foldlM_walkStepExpr {events : List Document} (hw : ∀ e ∈ events, isWalkable e = true)
    {cursor : Nat} (hc : cursor ≤ steps.length) (tokens : List String) (env : Bindings) :
    ∃ final last, events.foldlM advance ⟨steps.drop cursor, tokens⟩ = .ok final ∧
      events.foldlM (fun value d => walkStepExpr.eval follow doc
        (("this", some d) :: ("value", value) :: env)) (some (accumulator cursor tokens)) =
        .ok (some (accumulator last final.tokens)) := by
  induction events generalizing cursor tokens with
  | nil => exact ⟨_, cursor, rfl, rfl⟩
  | cons e es ih =>
    obtain ⟨next, token, hn, ha, hv⟩ := eval_walkStepExpr hf hd (hw e (by simp)) hc tokens env
    obtain ⟨final, last, hf', hv'⟩ := ih (fun d hd => hw d (by simp [hd])) hn (tokens ++ [token])
    refine ⟨final, last, ?_, ?_⟩
    · rw [List.foldlM_cons, ha]
      exact hf'
    · rw [List.foldlM_cons, hv]
      exact hv'

/-- The fold over the events of a conversation and the marker of their end is the walk over them.
-/
theorem eval_walkExpr (hc : hasEvents doc = true)
    (hw : ∀ e ∈ recorded doc, isWalkable e = true) (env : Bindings) :
    ∃ final last, (recorded doc ++ [endEvent]).foldlM advance ⟨steps, []⟩ = .ok final ∧
      walkExpr.eval follow doc env = .ok (some (accumulator last final.tokens)) := by
  obtain ⟨final, last, hf', hv⟩ := foldlM_walkStepExpr hf hd (isWalkable_append_endEvent hw)
    (Nat.zero_le _) [] env
  refine ⟨final, last, by simpa using hf', ?_⟩
  refine (Expr.eval_reduce ?_ ?_).trans hv
  · exact Expr.eval_concat (Expr.eval_recorded hf hc)
      (Expr.eval_array (Expr.eval_object_one "event" (Expr.eval_const (.str "END"))))
  · exact Expr.eval_object "cursor" "matching" (Expr.eval_const (.int 0)) Expr.eval_array_nil

end Fold

end DialogueQuery.Funnel
