import Mathlib.Data.List.Forall2
import Mathlib.Data.List.NodupEquivFin
import Mathlib.Order.Bounds.Basic
import DialogueQuery.Proofs.Funnel.Reaching

/-! A walk that advances at every event it can gets as far as any placement of
the steps at increasing positions: whatever is matched later can be matched at
the first event that fits. -/

namespace DialogueQuery.Funnel

open Conversation

/-- The first `k` steps are reached by events at strictly increasing positions. -/
def Placeable (events : List Document) (steps : List Step) (k : Nat) : Prop :=
  ∃ pos : Fin k → Fin events.length, StrictMono pos ∧
    ∀ j : Fin k, ∃ s, steps[(j : Nat)]? = some s ∧ s.reachedBy events[pos j] = .ok true

/-- The number of steps that are reached if each event is matched with the first
step that is still open. -/
def reachedCount : List Document → List Step → Nat
  | [], _ => 0
  | _ :: _, [] => 0
  | e :: es, s :: rest =>
    if s.accepts e then reachedCount es rest + 1 else reachedCount es (s :: rest)

@[simp] theorem reachedCount_nil (events : List Document) : reachedCount events [] = 0 := by
  cases events <;> rfl

theorem reachedCount_le (events : List Document) (steps : List Step) :
    reachedCount events steps ≤ steps.length := by
  induction events generalizing steps with
  | nil => simp [reachedCount]
  | cons e es ih =>
    cases steps with
    | nil => simp
    | cons s rest =>
      by_cases h : s.accepts e = true
      · simpa [reachedCount, h] using ih rest
      · simpa [reachedCount, h] using ih (s :: rest)

/-- Later events go on with the steps that the earlier ones have left. -/
theorem reachedCount_append (before after : List Document) (steps : List Step) :
    reachedCount (before ++ after) steps =
      reachedCount before steps + reachedCount after (steps.drop (reachedCount before steps)) := by
  induction before generalizing steps with
  | nil => simp [reachedCount]
  | cons e before ih =>
    cases steps with
    | nil => simp
    | cons s rest =>
      by_cases ha : s.accepts e = true
      · have hi := ih rest
        simp only [List.cons_append, reachedCount, ha, if_true, List.drop_succ_cons]
        omega
      · have hi := ih (s :: rest)
        simpa [reachedCount, ha] using hi

theorem reachedCount_append_endEvent (events : List Document) (steps : List Step) :
    reachedCount (events ++ [endEvent]) steps = reachedCount events steps := by
  have hend (steps : List Step) : reachedCount [endEvent] steps = 0 := by
    cases steps <;> simp [reachedCount, Step.accepts_endEvent]
  rw [reachedCount_append, hend, Nat.add_zero]

/-- The tokens of a walk that are no stop tokens are the labels of the steps it
has taken off the remaining ones. -/
theorem foldlM_advance {events : List Document} (h : ∀ e ∈ events, isWalkable e = true)
    (steps : List Step) (tokens : List String) :
    ∃ more, events.foldlM advance ⟨steps, tokens⟩ =
        .ok ⟨steps.drop (reachedCount events steps), tokens ++ more⟩ ∧
      more.filter (· != stopToken) = (steps.take (reachedCount events steps)).map Step.label := by
  induction events generalizing steps tokens with
  | nil => exact ⟨[], by simp [reachedCount], by simp [reachedCount]⟩
  | cons e es ih =>
    have he := h e (by simp)
    have hes : ∀ d ∈ es, isWalkable d = true := fun d hd => h d (by simp [hd])
    cases steps with
    | nil =>
      obtain ⟨more, hf, hm⟩ := ih hes [] (tokens ++ [stopToken])
      refine ⟨stopToken :: more, ?_, by simpa using hm⟩
      simpa [advance_nil] using hf
    | cons s rest =>
      by_cases ha : s.accepts e = true
      · obtain ⟨more, hf, hm⟩ := ih hes rest (tokens ++ [s.label])
        refine ⟨s.label :: more, ?_, ?_⟩
        · simpa [advance_cons he, ha, reachedCount] using hf
        · simpa [reachedCount, ha, s.label_ne_stopToken] using hm
      · obtain ⟨more, hf, hm⟩ := ih hes (s :: rest) (tokens ++ [stopToken])
        refine ⟨stopToken :: more, ?_, ?_⟩
        · simpa [advance_cons he, ha, reachedCount] using hf
        · simpa [reachedCount, ha] using hm

/-- A walk over events that can be walked does not fail, and leaves the labels of the steps it
reaches. -/
theorem walk_eq {events : List Document} (h : ∀ e ∈ events, isWalkable e = true)
    (steps : List Step) :
    walk events steps =
      .ok ⟨(steps.take (reachedCount events steps)).map Step.label, steps.length⟩ := by
  obtain ⟨more, hf, hm⟩ := foldlM_advance (isWalkable_append_endEvent h) steps []
  rw [reachedCount_append_endEvent] at hf hm
  simp [walk, hf, hm]

theorem walkConversation_reached {c : Document} (hc : isReadable c = true) (steps : List Step) :
    walkConversation c steps = .ok
      ⟨(steps.take (reachedCount (recorded c) steps)).map Step.label, steps.length⟩ := by
  obtain ⟨hev, hw⟩ := isReadable_iff.mp hc
  simp only [walkConversation, eventList_eq hev, ok_bind, walk_eq hw]

abbrev Embeds (steps : List Step) (events : List Document) : Prop :=
  List.SublistForall₂ (fun s e => Step.accepts s e = true) steps events

theorem embeds_reachedCount (events : List Document) (steps : List Step) :
    Embeds (steps.take (reachedCount events steps)) events := by
  induction events generalizing steps with
  | nil => simpa [reachedCount] using List.SublistForall₂.nil
  | cons e es ih =>
    cases steps with
    | nil => simpa using List.SublistForall₂.nil
    | cons s rest =>
      by_cases h : s.accepts e = true
      · simp only [reachedCount, h, if_true, List.take_succ_cons]
        exact .cons h (ih rest)
      · simp only [reachedCount, h]
        exact .cons_right (ih (s :: rest))

theorem Embeds.tail {s : Step} {steps : List Step} {events : List Document}
    (h : Embeds (s :: steps) events) : Embeds steps events := by
  induction events with
  | nil => cases h
  | cons e es ih =>
    cases h with
    | cons _ h => exact .cons_right h
    | cons_right h => exact .cons_right (ih h)

/-- The exchange: an event that fits the first step can be given to it, whatever
event an embedding uses for that step. -/
theorem Embeds.advance {s : Step} {steps : List Step} {e : Document} {es : List Document}
    (h : Embeds (s :: steps) (e :: es)) : Embeds steps es := by
  cases h with
  | cons _ h => exact h
  | cons_right h => exact Embeds.tail h

/-- No placement gets further than the greedy one. -/
theorem le_reachedCount {events : List Document} {steps : List Step} {k : Nat}
    (hk : k ≤ steps.length) (h : Embeds (steps.take k) events) :
    k ≤ reachedCount events steps := by
  induction events generalizing steps k with
  | nil =>
    have he : steps.take k = [] := by
      cases ht : steps.take k with
      | nil => rfl
      | cons => rw [ht] at h; cases h
    simp only [List.take_eq_nil_iff] at he
    rcases he with rfl | rfl <;> simp_all
  | cons e es ih =>
    cases steps with
    | nil => simpa using hk
    | cons s rest =>
      cases k with
      | zero => simp
      | succ k =>
        simp only [List.take_succ_cons] at h
        by_cases ha : s.accepts e = true
        -- The walk takes this event, which the embedding may leave for a later one.
        · have hi := ih (by simpa using hk) (Embeds.advance h)
          simp only [reachedCount, ha, if_true]
          omega
        · have hs : Embeds ((s :: rest).take (k + 1)) es := by
            cases h with
            | cons hc _ => exact absurd hc ha
            | cons_right h => simpa using h
          simpa [reachedCount, ha] using ih hk hs

theorem Placeable.le {events : List Document} {steps : List Step} {k : Nat}
    (h : Placeable events steps k) : k ≤ steps.length := by
  obtain ⟨pos, _, hp⟩ := h
  cases k with
  | zero => simp
  | succ k =>
    obtain ⟨s, hs, _⟩ := hp (Fin.last k)
    exact (List.getElem?_eq_some_iff.mp hs).1

theorem placeable_iff {events : List Document} (hw : ∀ e ∈ events, isWalkable e = true)
    {steps : List Step} {k : Nat} (hk : k ≤ steps.length) :
    Placeable events steps k ↔ Embeds (steps.take k) events := by
  have hr (s : Step) (i : Nat) (hi : i < events.length) :
      s.reachedBy events[i] = .ok true ↔ s.accepts events[i] = true :=
    s.reachedBy_iff (hw _ (List.getElem_mem hi))
  rw [Embeds, List.sublistForall₂_iff]
  constructor
  · rintro ⟨pos, hm, hp⟩
    refine ⟨List.ofFn fun j => events[pos j], ?_, ?_⟩
    · refine List.forall₂_iff_get.mpr ⟨by simp [hk], fun i hi hi' => ?_⟩
      obtain ⟨s, hs, ha⟩ := hp ⟨i, by simpa using hi'⟩
      obtain ⟨_, rfl⟩ := List.getElem?_eq_some_iff.mp hs
      simpa using (hr _ _ (pos ⟨i, _⟩).isLt).mp ha
    · refine List.sublist_iff_exists_fin_orderEmbedding_get_eq.mpr ⟨OrderEmbedding.ofStrictMono
        (fun i => pos (i.cast (by simp))) fun i j hij => hm hij, fun i => List.get_ofFn _ i⟩
  · rintro ⟨found, hf, hs⟩
    obtain ⟨f, hg⟩ := List.sublist_iff_exists_fin_orderEmbedding_get_eq.mp hs
    obtain ⟨hl, ha⟩ := List.forall₂_iff_get.mp hf
    have hlen : found.length = k := by simpa [hk] using hl.symm
    refine ⟨fun j => f (j.cast hlen.symm), fun i j hij => f.strictMono hij, fun j => ?_⟩
    refine ⟨steps[(j : Nat)], by simp, ?_⟩
    have hj := ha j (by simp [hk]) (by simp [hlen])
    have he := hg (j.cast hlen.symm)
    simp only [List.get_eq_getElem, List.getElem_take] at hj he
    rw [Fin.getElem_fin, hr]
    simpa [← he] using hj

/-- The steps that can be placed are those that the greedy walk reaches. -/
theorem placeable_iff_le {events : List Document} (hw : ∀ e ∈ events, isWalkable e = true)
    {steps : List Step} {k : Nat} : Placeable events steps k ↔ k ≤ reachedCount events steps := by
  constructor
  · intro h
    exact le_reachedCount h.le ((placeable_iff hw h.le).mp h)
  · intro h
    have hk := h.trans (reachedCount_le events steps)
    have he := embeds_reachedCount events steps
    refine (placeable_iff hw hk).mpr ?_
    rw [Embeds, List.sublistForall₂_iff] at he ⊢
    obtain ⟨found, hf, hs⟩ := he
    refine ⟨found.take k, ?_, (List.take_sublist k found).trans hs⟩
    simpa [List.take_take, h] using List.forall₂_take k hf

/-- The walk is optimal. However the steps are placed at increasing positions,
the walk reaches at least as many of them; it leaves exactly the labels of those
it reaches, and it passes when all of them can be placed. -/
theorem walk_isGreatest {events : List Document} (hw : ∀ e ∈ events, isWalkable e = true)
    (steps : List Step) :
    ∃ o, walk events steps = .ok o ∧
      IsGreatest {k | Placeable events steps k} o.progress ∧
      o.matching = (steps.take o.progress).map Step.label ∧
      (o.passed = true ↔ Placeable events steps steps.length) := by
  have hle := reachedCount_le events steps
  have hp : Outcome.progress ⟨(steps.take (reachedCount events steps)).map Step.label,
      steps.length⟩ = reachedCount events steps := by simp [Outcome.progress, hle]
  refine ⟨_, walk_eq hw steps, ?_, ?_, ?_⟩
  · rw [hp]
    exact ⟨(placeable_iff_le hw).mpr le_rfl, fun k hk => (placeable_iff_le hw).mp hk⟩
  · rw [hp]
  · simp only [Outcome.passed, hp, beq_iff_eq, placeable_iff_le hw]
    omega

/-- A repeated step needs two events. What is no event is passed over, and a name
that looks like a token is a name. -/
theorem walk_isGreatest_repeated :
    let events : List Document := [.str "END", .obj [("event", .str "action"),
      ("name", .str "STOP")], .null, .obj [("event", .str "user")],
      .obj [("event", .str "action"), ("name", .str "STOP")]]
    let steps : List Step := [⟨.action, ["STOP"], false⟩, ⟨.action, ["STOP"], false⟩,
      ⟨.intent, ["greet"], true⟩]
    (∀ e ∈ events, isWalkable e = true) ∧
      ∃ o, walk events steps = .ok o ∧
        IsGreatest {k | Placeable events steps k} o.progress ∧
        o.matching = (steps.take o.progress).map Step.label ∧
        (o.passed = true ↔ Placeable events steps steps.length) :=
  ⟨by decide, walk_isGreatest (by decide) _⟩

end DialogueQuery.Funnel
