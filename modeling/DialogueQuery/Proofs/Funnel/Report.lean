import Mathlib.Algebra.BigOperators.Group.List.Lemmas
import Mathlib.Algebra.GroupWithZero.Nat
import Mathlib.Data.List.Perm.Basic
import DialogueQuery.Proofs.Funnel.Greedy
import DialogueQuery.Proofs.Service.Pipelines

/-! The report of a funnel counts for each step the conversations that complete
the funnel which ends there, in whatever order the groups come. -/

namespace DialogueQuery

namespace Funnel

open Conversation

theorem reachedCount_take (events : List Document) (steps : List Step) (k : Nat) :
    reachedCount events (steps.take k) = min k (reachedCount events steps) := by
  induction events generalizing steps k with
  | nil => simp [reachedCount]
  | cons e es ih =>
    cases steps with
    | nil => simp
    | cons s rest =>
      cases k with
      | zero => simp
      | succ k =>
        by_cases h : s.accepts e = true
        · simp only [List.take_succ_cons, reachedCount, h, if_true, ih rest k]
          omega
        · simpa [reachedCount, h] using ih (s :: rest) (k + 1)

def progressOf (steps : List Step) (c : Document) : Nat :=
  (walkConversation c steps).toOption.elim 0 Outcome.progress

def completes (steps : List Step) (c : Document) : Bool :=
  (walkConversation c steps).toOption.any Outcome.passed

section

variable {c : Document} (hc : isReadable c = true)
include hc

theorem progressOf_eq (steps : List Step) :
    progressOf steps c = reachedCount (recorded c) steps := by
  have hle := reachedCount_le (recorded c) steps
  simp [progressOf, walkConversation_reached hc, Except.toOption, Outcome.progress, hle]

/-- The walk through the whole funnel gets as far as a step if and only if the
walk through the funnel that ends there gets to its end. -/
theorem completes_take_iff {steps : List Step} {k : Nat} (hk : k ≤ steps.length) :
    completes (steps.take k) c = true ↔ k ≤ progressOf steps c := by
  have hp := progressOf_eq hc (steps.take k)
  rw [reachedCount_take] at hp
  have hpass : completes (steps.take k) c = (progressOf (steps.take k) c == k) := by
    simp [completes, progressOf, walkConversation_reached hc, Except.toOption, Outcome.passed, hk]
  rw [hpass, hp, progressOf_eq hc, beq_iff_eq]
  omega

end

def group (progress count : Nat) : Document :=
  .obj [("_id", .int progress), ("count", .int count)]

/-- One group for each value that occurs, with the number of its occurrences; the
groups come in any order. -/
def IsHistogram (groups : List Document) (values : List Nat) : Prop :=
  ∃ keys : List Nat, keys.Nodup ∧ (∀ n, n ∈ keys ↔ n ∈ values) ∧
    groups = keys.map fun n => group n (values.count n)

/-- Counts are kept in the order in which their groups come. -/
theorem putCount_of_new {progress count : Int} {counts : List (Int × Int)}
    (h : progress ∉ counts.map (·.1)) :
    putCount progress count counts = counts ++ [(progress, count)] := by
  induction counts with
  | nil => rfl
  | cons entry rest ih =>
    obtain ⟨p, n⟩ := entry
    simp only [List.map_cons, List.mem_cons, not_or] at h
    simp [putCount, Ne.symm h.1, ih h.2]

theorem sum_filter_counts {keys values : List Nat} (hn : keys.Nodup)
    (hm : ∀ n, n ∈ keys ↔ n ∈ values) (p : Nat → Bool) :
    ((keys.filter p).map values.count).sum = values.countP p := by
  have hp : keys.Perm values.dedup :=
    (List.perm_ext_iff_of_nodup hn values.nodup_dedup).mpr fun n => by
      rw [hm, List.mem_dedup]
  rw [← List.sum_map_count_dedup_filter_eq_countP p values]
  exact ((hp.filter p).map _).sum_eq

def counted (count : Nat → Nat) (progress : Nat) : Int × Int := (progress, count progress)

theorem foldr_counted (count : Nat → Nat) (keys : List Nat) :
    (keys.map (counted count)).foldr (fun c total => c.2 + total) (0 : Int) =
      (keys.map count).sum := by
  induction keys with
  | nil => rfl
  | cons n keys ih => simp [ih, counted]

theorem reachedAtLeast_counted (count : Nat → Nat) (keys : List Nat) (k : Nat) :
    reachedAtLeast (keys.map (counted count)) k =
      ((keys.filter fun n => decide (k ≤ n)).map count).sum := by
  rw [← foldr_counted, reachedAtLeast, List.filter_map]
  simp [Function.comp_def, counted]

end Funnel

theorem Service.countsOfGroups_append {groups : List Document} {counts : List (Int × Int)}
    (h : countsOfGroups groups = .ok counts) (progress count : Nat) :
    countsOfGroups (groups ++ [Funnel.group progress count]) =
      .ok (Funnel.putCount progress count counts) := by
  unfold countsOfGroups at h ⊢
  rw [List.foldlM_append, h]
  rfl

theorem Service.countsOfGroups_group (count : Nat → Nat) {keys : List Nat} (hn : keys.Nodup) :
    countsOfGroups (keys.map fun n => Funnel.group n (count n)) =
      .ok (keys.map (Funnel.counted count)) := by
  induction keys using List.reverseRecOn with
  | nil => rfl
  | append_singleton keys n ih =>
    obtain ⟨hkeys, -, hd⟩ := List.nodup_append.mp hn
    have hnew : (n : Int) ∉ (keys.map (Funnel.counted count)).map (·.1) := by
      simp only [List.map_map, List.mem_map, Function.comp_apply, Funnel.counted, not_exists,
        not_and, Int.natCast_inj]
      exact fun m hm => hd m hm n (by simp)
    rw [List.map_append, List.map_singleton, countsOfGroups_append (ih hkeys),
      Funnel.putCount_of_new hnew, List.map_append]
    rfl

/-- Every conversation is counted once in the total, and at each step if and only
if it completes the funnel that ends with this step. The walks that tell so do
not fail. -/
structure FunnelReport.Counts (r : FunnelReport) (steps : List Funnel.Step)
    (cs : List Document) : Prop where
  total : r.total = cs.length
  walked : ∀ c ∈ cs, ∀ k, (Funnel.walkConversation c (steps.take k)).isOk = true
  length : r.steps.length = steps.length
  entry (k : Nat) (hk : k < steps.length) : r.steps[k]? =
    some (steps[k].label, (cs.countP (Funnel.completes (steps.take (k + 1))) : Int))
  falling : r.steps.Pairwise fun earlier later => later.2 ≤ earlier.2
  bounded : ∀ e ∈ r.steps, e.2 ≤ r.total

section

variable {steps : List Funnel.Step} {cs : List Document}
  (hc : ∀ c ∈ cs, Conversation.isReadable c = true)
include hc

/-- The conversations that got as far as a step are those that complete the funnel up to it. -/
theorem Funnel.countP_progress {k : Nat} (hk : k ≤ steps.length) :
    (cs.map (progressOf steps)).countP (fun n => decide (k ≤ n)) =
      cs.countP (completes (steps.take k)) := by
  rw [List.countP_map]
  refine List.countP_congr fun c hcs => ?_
  rw [completes_take_iff (hc c hcs) hk, Function.comp_apply, decide_eq_true_iff]

/-- A longer funnel is completed by no more conversations. -/
theorem Funnel.countP_completes_le {i j : Nat} (hij : i ≤ j) (hj : j ≤ steps.length) :
    cs.countP (completes (steps.take j)) ≤ cs.countP (completes (steps.take i)) := by
  refine List.countP_mono_left fun c hcs h => ?_
  rw [completes_take_iff (hc c hcs) hj] at h
  exact (completes_take_iff (hc c hcs) (hij.trans hj)).mpr (hij.trans h)

theorem FunnelReport.counts_ofCounts {keys : List Nat} (hn : keys.Nodup)
    (hm : ∀ n, n ∈ keys ↔ n ∈ cs.map (Funnel.progressOf steps)) :
    Counts (ofCounts (keys.map (Funnel.counted (cs.map (Funnel.progressOf steps)).count)) steps)
      steps cs := by
  let r := ofCounts (keys.map (Funnel.counted (cs.map (Funnel.progressOf steps)).count)) steps
  have hlength : r.steps.length = steps.length := by simp [r, ofCounts, Funnel.stepCounts]
  have hentry (k : Nat) (hk : k < steps.length) : r.steps[k]? =
      some (steps[k].label, (cs.countP (Funnel.completes (steps.take (k + 1))) : Int)) := by
    have hreached := Funnel.reachedAtLeast_counted (cs.map (Funnel.progressOf steps)).count keys
      (k + 1)
    rw [Funnel.sum_filter_counts hn hm, Funnel.countP_progress hc hk] at hreached
    simp only [r, ofCounts, Funnel.stepCounts, List.getElem?_map, List.getElem?_zipIdx,
      List.getElem?_eq_getElem hk, Option.map_some, Nat.zero_add]
    exact congrArg (fun n => some (steps[k].label, n)) hreached
  have hcount (k : Nat) (hk : k < r.steps.length) :
      r.steps[k].2 = cs.countP (Funnel.completes (steps.take (k + 1))) := by
    have he := hentry k (hlength ▸ hk)
    rw [List.getElem?_eq_getElem hk, Option.some.injEq] at he
    rw [he]
  have htotal : r.total = cs.length := by
    have hsum := Funnel.sum_filter_counts hn hm fun _ => true
    simp only [List.filter_true, List.countP_true, List.length_map] at hsum
    rw [← hsum]
    exact Funnel.foldr_counted _ keys
  refine ⟨htotal, fun c hcs k => ?_, hlength, hentry, ?_, ?_⟩
  · rw [Funnel.walkConversation_reached (hc c hcs)]
    rfl
  · refine List.pairwise_iff_getElem.mpr fun i j hi hj hij => ?_
    have hle := Funnel.countP_completes_le hc (Nat.succ_le_succ hij.le) (hlength ▸ hj)
    rw [hcount i hi, hcount j hj]
    exact_mod_cast hle
  · intro e he
    obtain ⟨k, hk, rfl⟩ := List.getElem_of_mem he
    rw [hcount k hk, htotal]
    exact_mod_cast List.countP_le_length

end

/-- Whatever order the groups of the aggregation come in, the report counts every
conversation once, and at each step of the specification those for which the funnel up
to it passes. -/
theorem Service.report_counts {s : Service} {spec : FilterSpec} {steps : List Funnel.Step}
    {pipeline : Pipeline} {groups cs : List Document} {w w₁ w₂ : World}
    (hp : (s.reportPipeline spec).run.run w = (.ok (steps, pipeline), w₁))
    (hg : (s.conversations.aggregate pipeline).run.run w₁ = (.ok groups, w₂))
    (hc : ∀ c ∈ cs, Conversation.isReadable c = true)
    (hh : Funnel.IsHistogram groups (cs.map (Funnel.progressOf steps))) :
    Funnel.stepsOf spec = .ok steps ∧ steps ≠ [] ∧
      ∃ r, (s.report spec).run.run w = (.ok r, w₂) ∧ r.Counts steps cs := by
  obtain ⟨hsteps, hne⟩ := stepsOf_of_funnelOf (funnelOf_of_reportPipeline hp)
  obtain ⟨keys, hn, hm, rfl⟩ := hh
  refine ⟨hsteps, hne, _, ?_, FunnelReport.counts_ofCounts hc hn hm⟩
  rw [run_report hp hg, reportOf, countsOfGroups_group _ hn]
  rfl

def tourSpec : FilterSpec :=
  { projectId := "bf"
    eventFilterOperator := "inOrder"
    eventFilter := [.text "intent: greet", .text "action: utter_bye"] }

def tourSteps : List Funnel.Step := [⟨.intent, ["greet"], false⟩, ⟨.action, ["utter_bye"], false⟩]

/-- One conversation that completes the funnel, and two that do not get to its first step. -/
def tours : List Document :=
  [.obj [("tracker", .null)],
    .obj [("tracker", .obj [("events", .arr [
      .obj [("event", .str "user"),
        ("parse_data", .obj [("intent", .obj [("name", .str "greet")])])],
      .obj [("event", .str "action"), ("name", .str "utter_bye")]])])],
    .obj [("tracker", .obj [("events", .arr [
      .obj [("event", .str "action"), ("name", .str "utter_bye")]])])]]

/-- The groups do not come in the order of the progress. -/
def tourGroups : List Document := [Funnel.group 2 1, Funnel.group 0 2]

def tourService : Service := ⟨{}, {}, some "development"⟩

def tourWorld : World where
  script := {}
  collections := [("conversations", { aggregates := [{ documents := tourGroups }] })]

theorem Service.report_counts_tours :
    ∃ pipeline w₂,
      (tourService.reportPipeline tourSpec).run.run tourWorld =
        (.ok (tourSteps, pipeline), tourWorld) ∧
      (tourService.conversations.aggregate pipeline).run.run tourWorld =
        (.ok tourGroups, w₂) ∧
      (∀ c ∈ tours, Conversation.isReadable c = true) ∧
      Funnel.IsHistogram tourGroups (tours.map (Funnel.progressOf tourSteps)) ∧
      Funnel.stepsOf tourSpec = .ok tourSteps ∧ tourSteps ≠ [] ∧
        ∃ r, (tourService.report tourSpec).run.run tourWorld = (.ok r, w₂) ∧
          r.Counts tourSteps tours := by
  have hsteps : funnelOf tourSpec = .ok tourSteps := ok_of_toOption (by decide +kernel)
  obtain ⟨pipeline, hpipeline⟩ := exists_of_isOk
    (show (tourService.compileReport tourSpec tourSteps none).isOk = true by decide +kernel)
  have hp : (tourService.reportPipeline tourSpec).run.run tourWorld =
      (.ok (tourSteps, pipeline), tourWorld) :=
    run_reportPipeline hsteps (show (tourService.wantedTriggerIntents tourSpec).run.run
      tourWorld = (.ok none, tourWorld) from rfl) hpipeline
  obtain ⟨w₂, hg⟩ : ∃ w₂, (tourService.conversations.aggregate pipeline).run.run tourWorld =
      (.ok tourGroups, w₂) := ⟨_, rfl⟩
  have hc : ∀ c ∈ tours, Conversation.isReadable c = true := by decide
  have hh : Funnel.IsHistogram tourGroups (tours.map (Funnel.progressOf tourSteps)) := by
    rw [show tours.map (Funnel.progressOf tourSteps) = [0, 2, 0] by decide]
    exact ⟨[2, 0], by decide, fun n => by simp; omega, rfl⟩
  exact ⟨pipeline, w₂, hp, hg, hc, hh, report_counts hp hg hc hh⟩

end DialogueQuery
