import DialogueQuery.Filter.Stored
import DialogueQuery.Proofs.Filter.Window

/-! The clauses of the stored query, and the checks in process that stand beside
them. Each clause lets everything through if it is not active. -/

namespace DialogueQuery.Filter

open Conversation

def statusMet (spec : FilterSpec) (c : Document) : Bool :=
  spec.status.isEmpty || ((c.member? "status").getD .null).isAmong (spec.status.map .str)

def envMet (spec : FilterSpec) (defaultEnv : Option String) (c : Document) : Bool :=
  (nonEmpty spec.env).all fun env => envCheck defaultEnv env ((c.member? "env").getD .null)

def userMet (spec : FilterSpec) (c : Document) : Bool :=
  (nonEmpty spec.userId).all fun id => ((c.member? "userId").getD .null).equal (.str id)

def anyConfidence (comparator : Comparator) (bound : Binary64) (c : Document) : Bool :=
  (recorded c).any fun e => confidencePaths.any fun path =>
    (Test.compare comparator (.float bound)).passes (some (e.follow path))

def confidenceMet (bound : Option (Comparator × Binary64)) (c : Document) : Bool :=
  bound.all fun b => anyConfidence b.1 b.2 c

def datesMet (range : Option (Int × Int)) (c : Document) : Bool :=
  range.all fun r => (Test.compare .lessThan (.int r.2)).passes (stamps c).head? &&
    (Test.compare .greaterThan (.int r.1)).passes (stamps c).getLast?

theorem storedChecks_eq (spec : FilterSpec) (defaultEnv : Option String) {c : Document}
    (ho : c.isObject = true) :
    ∃ checks, storedChecks spec defaultEnv c = .ok checks ∧
      checks.all (·.2) = (statusMet spec c && envMet spec defaultEnv c && userMet spec c) := by
  simp only [storedChecks, Document.get_of_isObject ho, statusMet, envMet, userMet, Except.map]
  cases spec.status.isEmpty <;> cases nonEmpty spec.env <;> cases nonEmpty spec.userId <;>
    simp [Bool.and_assoc]

theorem isSome_of_confidenceBound? {spec : FilterSpec} {bound : Option (Comparator × Binary64)}
    (h : confidenceBound? spec = .ok bound) : bound.isSome = spec.hasConfidence :=
  isSome_of_active (f := fun c => (c, spec.confidenceBound.getD .zero)) h

theorem confidenceCheck_eq {c : Document} (h : hasTypedEvents c = true) (comparator : Comparator)
    (bound : Binary64) :
    confidenceCheck comparator bound c = .ok (anyConfidence comparator bound c) := by
  have htest : ∀ v ∈ ((recorded c).flatMap fun e =>
      (confidencePaths.map e.follow).filter fun d => !d.isNull),
      comparator.test v (.float bound) =
        .ok ((Test.compare comparator (.float bound)).passes (some v)) := by
    intro v hv
    obtain ⟨e, he, hv⟩ := List.mem_flatMap.mp hv
    obtain ⟨hv, hset⟩ := List.mem_filter.mp hv
    obtain ⟨path, hpath, rfl⟩ := List.mem_map.mp hv
    have ht := isWellTypedEvent_of_mem h he
    simp only [isWellTypedEvent, Bool.and_eq_true, List.all_eq_true] at ht
    have hnumber : (e.follow path).isNumber = true := by
      simpa [show (e.follow path).isNull = false by simpa using hset] using ht.2 path hpath
    exact Comparator.test_of_isNumber comparator hnumber rfl
  have hnull (d : Document) :
      (!d.isNull && (Test.compare comparator (.float bound)).passes (some d)) =
        (Test.compare comparator (.float bound)).passes (some d) := by
    cases d <;> simp [Document.isNull, Test.passes_compare_null]
  rw [confidenceCheck, confidences_eq h, ok_bind, anyM_ok htest, List.any_flatMap]
  simp only [List.any_filter, List.any_map, hnull, anyConfidence, Function.comp_def]

theorem isMetBy_envCondition (defaultEnv : Option String) (env : String) (d : Document) :
    (envCondition defaultEnv env).isMetBy d =
      envCheck defaultEnv env ((d.member? "env").getD .null) := by
  unfold envCondition envCheck
  split
  · next h => simp [Test.passes, Document.isAmong, Document.equal_null, h, Bool.or_comm]
  · next h => simp [h]

theorem isMetBy_confidenceQueries {c d : Document} (h : hasEvents c = true) (hd : Windowed c d)
    (comparator : Comparator) (bound : Binary64) :
    (Condition.anyOf (confidenceQueries comparator bound)).isMetBy d =
      anyConfidence comparator bound c := by
  have hitem (path : List String) (e : Document) :
      (Condition.passes path [.isPresent, .compare comparator (.float bound)]).isMetBy e =
        (Test.compare comparator (.float bound)).passes (some (e.follow path)) := by
    rw [← Resolver.getD_byMember, Test.passes_compare_getD, Condition.isMetBy]
    cases Resolver.byMember e path with
    | none => cases comparator <;> rfl
    | some v => simp [Test.passes]
  have hsome (path : List String) :
      (Condition.someElement ["tracker", "events"]
        (.all [.passes path [.isPresent, .compare comparator (.float bound)]])).isMetBy d =
        (recorded c).any fun e =>
          (Test.compare comparator (.float bound)).passes (some (e.follow path)) := by
    rw [Condition.isMetBy, ← hd.recorded_eq]
    rcases Resolver.byMember_isMemberwise.follow_events (hd.hasEvents h) with he | ⟨hn, he⟩
    · simp only [he, Query.isMetBy_all, Condition.areMetBy_cons, Condition.areMetBy_nil,
        Bool.and_true, hitem]
    · rw [he, List.any_nil]
      rcases Expr.isNullish_iff.mp hn with hv | hv <;> rw [hv]
  simp only [Condition.isMetBy_anyOf, confidenceQueries, List.any_cons, List.any_nil,
    Query.isMetBy_all, Condition.areMetBy_cons, Condition.areMetBy_nil, Bool.and_true, hsome,
    Bool.or_false, anyConfidence, confidencePaths]
  rw [Bool.eq_iff_iff]
  simp only [Bool.or_eq_true, List.any_eq_true, ← exists_or, ← and_or_left]

/-- The stored query is met if and only if every clause lets the conversation through. -/
theorem storedQuery_eq {spec : FilterSpec} {bound : Option (Comparator × Binary64)}
    (hb : confidenceBound? spec = .ok bound) (defaultEnv : Option String) {c d : Document}
    (h : hasEvents c = true) (hd : Windowed c d)
    (hp : c.member? "projectId" = some (.str spec.projectId)) :
    ∃ q, storedQuery spec defaultEnv = .ok q ∧
      q.isMetBy d = (statusMet spec c && envMet spec defaultEnv c && confidenceMet bound c &&
        datesMet (dateRange? spec) c && userMet spec c) := by
  refine ⟨_, by simp only [storedQuery, hb]; rfl, ?_⟩
  have hproject : d.member? "projectId" = some (.str spec.projectId) :=
    (hd.frame _ (by decide)).trans hp
  have hstatus : Condition.areMetBy d (if spec.status.isEmpty then []
      else [.passes ["status"] [.isIn (spec.status.map .str)]]) = statusMet spec c := by
    unfold statusMet
    cases spec.status.isEmpty <;> simp [Test.passes, hd.frame "status" (by decide)]
  simp only [Query.isMetBy_all, Condition.areMetBy_append, Condition.areMetBy_cons,
    Condition.areMetBy_toList, Condition.isMetBy_equals, hproject, hstatus, Option.all_map,
    isMetBy_envCondition, isMetBy_confidenceQueries h hd,
    isMetBy_dateRangeQueries hd, hd.frame "env" (by decide), hd.frame "userId" (by decide)]
  simp [envMet, confidenceMet, datesMet, userMet]

end DialogueQuery.Filter
