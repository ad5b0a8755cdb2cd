import DialogueQuery.Proofs.Store.Calls

/-! Operations that try everything once: no call is made twice, and the first one
that fails is the last one that is made and decides the answer. -/

namespace DialogueQuery

structure Attempt {α : Type} (w : World) (calls : List Call) (r : Except Failure α) (w' : World) :
    Prop where
  effect : Effect w w' calls
  once : calls.Nodup
  failed : ∀ c ∈ calls, ∀ e, w.failureOf c = some e →
    calls.getLast? = some c ∧ ∃ attempt, r = .error (.ofBreakdown attempt e)
  /-- No answer blames the database without a call that failed. -/
  blamed : ∀ f e, r = .error f → f.cause? = some e → ∃ c ∈ calls, w.failureOf c = some e

theorem Attempt.error {α β : Type} {w w' : World} {calls : List Call} {e : Failure}
    (h : Attempt w calls (.error e : Except Failure α) w') :
    Attempt w calls (.error e : Except Failure β) w' := by
  refine ⟨h.effect, h.once, fun c hc e' he => ?_, fun f e' hf he => ?_⟩
  · obtain ⟨hlast, attempt, ha⟩ := h.failed c hc e' he
    exact ⟨hlast, attempt, congrArg _ (Except.error.inj ha)⟩
  · exact h.blamed f e' (congrArg _ (Except.error.inj hf)) he

/-- It yields something, or fails with a failure of this sort. -/
def FailsBy {α : Type} (P : Failure → Prop) (r : Except Failure α) : Prop := ∀ f, r = .error f → P f

namespace FailsBy

variable {α β ε : Type} {P Q : Failure → Prop}

theorem ok (a : α) : FailsBy P (.ok a) := nofun

theorem error {e : Failure} (h : P e) : FailsBy P (.error e : Except Failure α) := by
  intro f hf
  cases hf
  exact h

theorem bind {x : Except Failure α} {f : α → Except Failure β} (hx : FailsBy P x)
    (hf : ∀ a, FailsBy P (f a)) : FailsBy P (x >>= f) := by
  cases x with
  | ok a => exact hf a
  | error e => exact error (hx e rfl)

theorem mapError {x : Except ε α} {f : ε → Failure} (h : ∀ e, x = .error e → P (f e)) :
    FailsBy P (x.mapError f) := by
  cases x with
  | ok a => exact ok a
  | error e => exact error (h e rfl)

theorem mono {r : Except Failure α} (hr : FailsBy P r) (h : ∀ f, P f → Q f) : FailsBy Q r :=
  fun f hf => h f (hr f hf)

end FailsBy

/-- A failure that is no failure of a call. -/
abbrev Blameless {α : Type} (r : Except Failure α) : Prop := FailsBy (fun f => f.cause? = none) r

namespace Action

variable {α β : Type} {w : World} {calls more : List Call}

def Attempts (x : Action α) (w : World) (calls : List Call) : Prop :=
  Attempt w calls (x.run.run w).1 (x.run.run w).2

theorem run_guarded (component : Component) (logged attempt : String)
    (use : Session (Except Breakdown α)) (w : World) :
    ∃ logs, (guarded component logged attempt use).run.run w =
      ((use.run w).1.mapError (.ofBreakdown attempt), { (use.run w).2 with logs }) := by
  have hrun : (guarded component logged attempt use).run.run w = match use.run w with
      | (.ok a, w') => (.ok a, w')
      | (.error cause, w') => (if cause.ofDatabase then do
          log component .error (Failure.storeMessage logged cause)
          throw (.store attempt cause)
        else throw (.breakdown cause) : Action α).run.run w' := by
    rw [guarded, run_bind]
    rcases hu : use.run w with ⟨_ | a, w'⟩ <;> simp [hu] <;> rfl
  rw [hrun]
  rcases use.run w with ⟨cause | a, w'⟩
  · cases hd : cause.ofDatabase
    · exact ⟨w'.logs, by simp [Failure.ofBreakdown, hd]; rfl⟩
    · exact ⟨_, by simp [Failure.ofBreakdown, hd]; rfl⟩
  · exact ⟨w'.logs, rfl⟩

/-- A guarded use of the store makes one call, and its failure is the one that is raised. -/
theorem guarded_attempts {component : Component} {logged attempt : String}
    {use : Session (Except Breakdown α)} {call : Call} (h : Session.Makes use w call) :
    Attempts (guarded component logged attempt use) w [call] := by
  obtain ⟨logs, hrun⟩ := run_guarded component logged attempt use w
  unfold Attempts
  rw [hrun]
  refine ⟨h.1.of_eq rfl rfl, by simp, ?_, ?_⟩
  · intro c hc e he
    obtain rfl := List.mem_singleton.mp hc
    rw [(h.2 e).mpr he]
    exact ⟨rfl, attempt, rfl⟩
  · intro f e hf he
    refine ⟨call, List.mem_singleton_self call, ?_⟩
    cases hu : (use.run w).1 with
    | ok a => simp [hu] at hf
    | error cause =>
      rw [hu] at hf
      cases hf
      rw [Failure.cause?_ofBreakdown] at he
      exact (h.2 e).mp (hu.trans (congrArg _ (Option.some.inj he)))

theorem attempts_ofExcept {ε : Type} {f : ε → Failure} {r : Except ε α}
    (h : Blameless (r.mapError f)) (w : World) : Attempts (ofExcept f r) w [] := by
  refine ⟨.refl w, List.nodup_nil, nofun, fun g e hg he => ?_⟩
  rw [h g hg] at he
  cases he

theorem attempts_of_blameless {r : Except Failure α} (h : Blameless r) (w : World) :
    Attempts (ofExcept id r) w [] :=
  attempts_ofExcept (by cases r <;> exact h) w

theorem attempts_pure (a : α) (w : World) : Attempts (pure a) w [] :=
  attempts_of_blameless (.ok a) w

theorem attempts_ofFault (r : Except Fault α) (w : World) : Attempts (ofFault r) w [] :=
  attempts_ofExcept (.mapError fun _ _ => rfl) w

theorem attempts_throw {e : Failure} (h : e.cause? = none) (w : World) :
    Attempts (throw e : Action α) w [] :=
  attempts_of_blameless (r := .error e) (fun f hf => by cases hf; exact h) w

theorem attempts_log (component : Component) (level : LogLevel) (message : String) (w : World) :
    Attempts (log component level message) w [] :=
  ⟨(Effect.refl w).of_eq rfl rfl, List.nodup_nil, nofun, fun _ _ => nofun⟩

namespace Attempts

variable {x : Action α} {f : α → Action β}

theorem effect_of_run (hx : Attempts x w calls) {r : Except Failure α} {w₁ : World}
    (hr : x.run.run w = (r, w₁)) : Effect w w₁ calls := by
  have he := hx.effect
  rwa [hr] at he

/-- What comes after the calls makes none of its own. -/
theorem andThen (hx : Attempts x w calls) (hf : ∀ a w₁, Attempts (f a) w₁ []) :
    Attempts (x >>= f) w calls := by
  unfold Attempts at hx ⊢
  rw [run_bind]
  rcases hr : x.run.run w with ⟨e | a, w₁⟩
  · rw [hr] at hx
    exact hx.error
  · rw [hr] at hx
    have hfa := hf a w₁
    refine ⟨?_, hx.once, fun c hc e he => ?_, fun g e hg he => ?_⟩
    · simpa using hx.effect.trans hfa.effect
    · obtain ⟨-, attempt, ha⟩ := hx.failed c hc e he
      cases ha
    · obtain ⟨c, hc, -⟩ := hfa.blamed g e hg he
      cases hc

/-- Further calls follow if the first ones yield something, and these leave the
prepared outcomes alone. -/
theorem bind (hx : Attempts x w calls)
    (hd : ∀ c ∈ calls, ∀ name, c.drawsFrom name = false) (hn : (calls ++ more).Nodup)
    (herror : ∀ e, (x.run.run w).1 = .error e → more = [])
    (hf : ∀ a w₁, x.run.run w = (.ok a, w₁) → Attempts (f a) w₁ more) :
    Attempts (x >>= f) w (calls ++ more) := by
  unfold Attempts at hx ⊢
  rw [run_bind]
  rcases hr : x.run.run w with ⟨e | a, w₁⟩
  · rw [hr] at hx herror
    rw [herror e rfl, List.append_nil]
    exact hx.error
  · rw [hr] at hx
    have hfa := hf a w₁ hr
    have hsame := hx.effect.failureOf_eq hd
    refine ⟨hx.effect.trans hfa.effect, hn, fun c hc e he => ?_, fun g e hg he => ?_⟩
    · rcases List.mem_append.mp hc with hc | hc
      · obtain ⟨-, attempt, ha⟩ := hx.failed c hc e he
        cases ha
      · obtain ⟨hlast, attempt, ha⟩ := hfa.failed c hc e (by rw [hsame]; exact he)
        exact ⟨by rw [List.getLast?_append, hlast]; rfl, attempt, ha⟩
    · obtain ⟨c, hc, hfail⟩ := hfa.blamed g e hg he
      exact ⟨c, List.mem_append_right _ hc, by rw [← hsame]; exact hfail⟩

theorem after (hx : Attempts x w []) (herror : ∀ e, (x.run.run w).1 = .error e → calls = [])
    (hf : ∀ a w₁, x.run.run w = (.ok a, w₁) → Attempts (f a) w₁ calls) :
    Attempts (x >>= f) w calls := by
  have hn : calls.Nodup := by
    rcases hr : x.run.run w with ⟨e | a, w₁⟩
    · rw [herror e (by rw [hr])]
      exact List.nodup_nil
    · exact (hf a w₁ hr).once
  simpa using hx.bind nofun hn herror hf

end Attempts

end Action

theorem ConversationStore.aggregate_attempts (store : ConversationStore) (p : Pipeline)
    (w : World) :
    Action.Attempts (store.aggregate p) w [.aggregate store.collection p store.allowDiskUse] :=
  (Action.guarded_attempts
    (Session.aggregate_makes w store.collection p store.allowDiskUse)).andThen fun results =>
      Action.attempts_ofFault (results.mapM withTextIds)

theorem ConversationStore.findOne_attempts (store : ConversationStore)
    (project conversation sender : Document) (w : World) :
    Action.Attempts (store.findOne project conversation sender) w
      [.findOne store.collection
        [("projectId", project),
          if sender.isTruthy then ("tracker.sender_id", sender) else ("_id", conversation)]
        none] := by
  unfold findOne
  cases sender.isTruthy <;>
    refine (Action.guarded_attempts (Session.findOne_makes w store.collection _ none)).andThen
      fun found w₁ => ?_ <;>
    cases found.filter Document.isTruthy with
    | some d =>
      exact (Action.attempts_ofFault (withTextId d) w₁).andThen fun _ => Action.attempts_pure _
    | none => exact Action.attempts_pure none w₁

theorem ConversationStore.distinctIntents_attempts (store : ConversationStore)
    (project : Document) (w : World) :
    Action.Attempts (store.distinctIntents project) w
      [.distinct store.collection "intents" [("projectId", project)]] :=
  (Action.guarded_attempts (Session.distinct_makes w store.collection "intents"
    [("projectId", project)])).andThen fun _ => Action.attempts_ofFault _

theorem ProjectStore.triggerIntents_attempts (store : ProjectStore) (project : Document)
    (w : World) :
    Action.Attempts (store.triggerIntents project) w
      [.findOne store.collection [("_id", project)] (some [("triggerIntents", .int 1)])] := by
  refine (Action.guarded_attempts (Session.findOne_makes w store.collection
    [(["_id"], project)] (some [("triggerIntents", .int 1)]))).andThen fun found w₁ => ?_
  cases found.filter Document.isTruthy with
  | some d => exact Action.attempts_ofFault _ w₁
  | none => exact (Action.attempts_log _ _ _ w₁).andThen fun _ => Action.attempts_pure []

end DialogueQuery
