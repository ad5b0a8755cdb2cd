import DialogueQuery.Proofs.Service.Turns

/-! What holds of all failures that an operation raises, whatever the store answers:
of which kinds they are, and that their texts can be sent. Only a specification that
compiles is aggregated for. -/

namespace DialogueQuery

namespace Failure

/-- If it has a name at all, it is of one of these kinds. -/
def IsAmong (kinds : List Kind) (f : Failure) : Prop :=
  ∀ kind text, f.named? = some (kind, text) → kind ∈ kinds

/-- If it is for the funnel of a specification, its message can be sent. -/
def IsSayable (f : Failure) : Prop :=
  ∀ c, f = compile (.funnel c) → Text.isWellFormed c.message = true

/-- Holds of the failures of a store and of whatever fails on its answers. -/
structure Admits (P : Failure → Prop) : Prop where
  store (attempt : String) (e : Breakdown) : P (ofBreakdown attempt e)
  fault (e : Fault) : P (fault e)
  invalidPage (es : List FieldError) : P (invalidPage es)

theorem Admits.ofAnswer {P : Failure → Prop} (hP : Admits P) {f : Failure} (h : f.IsOfAnswer) :
    P f := by
  rcases h with ⟨e, rfl⟩ | ⟨e, rfl⟩
  · exact hP.invalidPage e
  · exact hP.fault e

variable {kinds : List Kind} {f : Failure} {spec : FilterSpec}

theorem admits_isAmong (hk : .store ∈ kinds) : Admits (IsAmong kinds) := by
  constructor
  · intro attempt e kind text hn
    unfold ofBreakdown at hn
    split at hn <;> cases hn
    exact hk
  · intro e kind text hn
    cases hn
  · intro es kind text hn
    cases hn

theorem admits_isSayable : Admits IsSayable := by
  constructor
  · intro attempt e c hc
    unfold ofBreakdown at hc
    split at hc <;> cases hc
  · intro e c hc
    cases hc
  · intro es c hc
    cases hc

theorem IsOfSpec.isAmong (h : f.IsOfSpec spec) (hk : [.comparison, .funnel] ⊆ kinds) :
    f.IsAmong kinds := by
  intro kind text hn
  rcases h with ⟨e, rfl, -⟩ | ⟨e, rfl⟩
  · refine hk ?_
    cases e <;> cases hn <;> simp
  · cases hn

theorem IsOfSpec.isSayable (h : f.IsOfSpec spec) (hspec : spec.IsIdFree) : f.IsSayable := by
  rcases h with ⟨e, rfl, he⟩ | ⟨e, rfl⟩
  · rintro c ⟨⟩
    exact he c rfl hspec
  · nofun

end Failure

open Failure

namespace Action

variable {α β : Type} {P : Failure → Prop}

/-- Whatever the world is like, this holds of the failures that it raises. -/
def Raises (P : Failure → Prop) (x : Action α) : Prop := ∀ w, FailsBy P (x.run.run w).1

theorem raises_of_failsBy {r : Except Failure α} (h : FailsBy P r) : Raises P (ofExcept id r) := by
  intro w
  cases r <;> exact h

theorem raises_pure (a : α) : Raises P (pure a) := fun _ => FailsBy.ok a

theorem raises_throw {e : Failure} (h : P e) : Raises P (throw e : Action α) :=
  fun _ => FailsBy.error h

theorem raises_ofFault (hP : Admits P) (r : Except Fault α) : Raises P (ofFault r) :=
  fun _ => FailsBy.mapError fun e _ => hP.fault e

theorem raises_log (component : Component) (level : LogLevel) (message : String) :
    Raises P (log component level message) :=
  fun _ => FailsBy.ok ()

theorem raises_guarded (hP : Admits P) (component : Component) (logged attempt : String)
    (use : Session (Except Breakdown α)) : Raises P (guarded component logged attempt use) := by
  intro w
  obtain ⟨logs, hrun⟩ := run_guarded component logged attempt use w
  rw [hrun]
  exact FailsBy.mapError fun e _ => hP.store attempt e

theorem Raises.bind {x : Action α} {f : α → Action β} (hx : Raises P x)
    (hf : ∀ a, Raises P (f a)) : Raises P (x >>= f) := by
  intro w
  have hw := hx w
  rw [run_bind]
  rcases hr : x.run.run w with ⟨e | a, w₁⟩
  · rw [hr] at hw
    exact FailsBy.error (hw e rfl)
  · exact hf a w₁

end Action

open DialogueQuery.Action

section

variable {P : Failure → Prop} (hP : Admits P)
include hP

theorem ConversationStore.aggregate_raises (store : ConversationStore) (p : Pipeline) :
    Raises P (store.aggregate p) :=
  (raises_guarded hP _ _ _ _).bind fun _ => raises_ofFault hP _

theorem ConversationStore.findOne_raises (store : ConversationStore)
    (project conversation sender : Document) :
    Raises P (store.findOne project conversation sender) := by
  refine (raises_guarded hP _ _ _ _).bind fun found => ?_
  cases found.filter Document.isTruthy with
  | some d => exact (raises_ofFault hP _).bind fun _ => raises_pure _
  | none => exact raises_pure none

theorem ConversationStore.distinctIntents_raises (store : ConversationStore) (project : Document) :
    Raises P (store.distinctIntents project) :=
  (raises_guarded hP _ _ _ _).bind fun _ => raises_ofFault hP _

theorem ProjectStore.triggerIntents_raises (store : ProjectStore) (project : Document) :
    Raises P (store.triggerIntents project) := by
  refine (raises_guarded hP _ _ _ _).bind fun found => ?_
  cases found.filter Document.isTruthy with
  | some d => exact raises_ofFault hP _
  | none => exact (raises_log _ _ _).bind fun _ => raises_pure []

namespace Service

variable (s : Service) (spec : FilterSpec)

theorem wantedTriggerIntents_raises : Raises P (s.wantedTriggerIntents spec) := by
  unfold wantedTriggerIntents
  split
  · exact (s.projects.triggerIntents_raises hP _).bind fun _ => raises_pure _
  · exact raises_pure none

theorem find_raises (hfound : ∀ who, P (.notFound who)) (project conversation sender : Document) :
    Raises P (s.find project conversation sender) := by
  refine (s.conversations.findOne_raises hP project conversation sender).bind fun found => ?_
  cases found with
  | some d => exact raises_pure d
  | none => exact raises_throw (hfound _)

theorem intents_raises (project : Document) : Raises P (s.intents project) :=
  s.conversations.distinctIntents_raises hP project

theorem queryWith_raises (p : Pipeline) : Raises P (s.queryWith spec p) :=
  (raises_log _ _ _).bind fun _ => (s.conversations.aggregate_raises hP p).bind fun results =>
    raises_of_failsBy ((failsBy_pageOf spec results).mono fun _ => hP.ofAnswer)

theorem reportWith_raises (steps : List Funnel.Step) (p : Pipeline) :
    Raises P (s.reportWith steps p) :=
  (s.conversations.aggregate_raises hP p).bind fun groups =>
    raises_of_failsBy ((failsBy_reportOf steps groups).mono fun _ => hP.ofAnswer)

variable {spec} (hspec : ∀ f, f.IsOfSpec spec → P f)
include hspec

theorem compiled_raises {α : Type} {compile : Option (List Document) → Except Failure Pipeline}
    (hc : ∀ triggers, FailsBy (IsOfSpec spec) (compile triggers)) {k : Pipeline → Action α}
    (hk : ∀ p, Raises P (k p)) : Raises P (s.compiled spec compile k) :=
  (s.wantedTriggerIntents_raises hP spec).bind fun triggers =>
    (raises_of_failsBy ((hc triggers).mono hspec)).bind hk

theorem query_raises : Raises P (s.query spec) := by
  rw [query_eq_compiled]
  exact s.compiled_raises hP hspec (s.failsBy_compile spec) fun p => s.queryWith_raises hP spec p

theorem report_raises : Raises P (s.report spec) := by
  rw [report_eq_compiled]
  exact (raises_of_failsBy ((failsBy_funnelOf spec).mono hspec)).bind fun steps =>
    s.compiled_raises hP hspec (s.failsBy_compileReport spec steps)
      fun p => s.reportWith_raises hP steps p

theorem explain_raises (c : Document) : Raises P (s.explain spec c) := by
  refine (raises_ofFault hP _).bind fun stored => ?_
  refine (s.wantedTriggerIntents_raises hP spec).bind fun triggers => raises_of_failsBy ?_
  exact (failsBy_decideWithin spec
    (fun spec => Explanation.failsBy_ofStored stored spec triggers c) nameRoom).mono hspec

end Service

end

namespace Service

variable (s : Service) (spec : FilterSpec)

theorem aggregations_of_error {α : Type}
    {compile : Option (List Document) → Except Failure Pipeline} {k : Pipeline → Action α}
    (hk : ∀ p, Raises (IsAmong [.store]) (k p)) {w : World} {e : CompileError}
    (he : ((s.compiled spec compile k).run.run w).1 = .error (.compile e)) :
    s.aggregations (s.provided spec w >>= compile) = [] := by
  cases hp : s.provided spec w >>= compile with
  | error f => rfl
  | ok p =>
    obtain ⟨triggers, ht, hp⟩ := bind_eq_ok.mp hp
    rcases hr : (s.wantedTriggerIntents spec).run.run w with ⟨r, w₁⟩
    obtain rfl : r = .ok triggers := by rwa [provided, hr] at ht
    have hrun : (s.compiled spec compile k).run.run w = (k p).run.run w₁ := by
      rw [compiled, run_bind, hr]
      simp only [run_bind, run_ofExcept, hp, mapError_ok]
    rw [hrun] at he
    have hamong := hk p w₁ _ he
    cases e with
    | comparison e => exact absurd (hamong _ _ rfl) (by decide)
    | funnel e => exact absurd (hamong _ _ rfl) (by decide)

/-- A query for a specification that does not compile sends nothing but the lookup of
trigger intents, and neither does a report. -/
theorem query_uses_of_error {w : World} {e : CompileError}
    (he : ((s.query spec).run.run w).1 = .error (.compile e)) :
    (Request.query spec).uses s w = s.lookups spec := by
  rw [query_eq_compiled] at he
  have hnone := s.aggregations_of_error spec
    (s.queryWith_raises (admits_isAmong (by simp)) spec) he
  rw [Request.uses, hnone, List.append_nil]

theorem report_uses_of_error {w : World} {e : CompileError}
    (he : ((s.report spec).run.run w).1 = .error (.compile e)) :
    (Request.report spec).uses s w ⊆ s.lookups spec := by
  rw [report_eq_compiled] at he
  rw [Request.uses]
  cases hf : funnelOf spec with
  | error f => simp
  | ok steps =>
    rw [hf] at he
    have hnone := s.aggregations_of_error spec
      (s.reportWith_raises (admits_isAmong (by simp)) steps) he
    simp [hnone]

end Service

end DialogueQuery
