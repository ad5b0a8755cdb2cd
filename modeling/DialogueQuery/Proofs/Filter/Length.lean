import DialogueQuery.Filter.Length
import DialogueQuery.Proofs.Filter.Window

/-! The length of a conversation, derived in the store and in process. -/

namespace DialogueQuery.Filter

open Conversation

/-- The user events, none if there is no array of events. -/
def userEventsExpr : Expr :=
  .ifNull (.filter (.field ["tracker", "events"]) (some "event")
    (.eq (.var "event" ["event"]) (.const (.str "user")))) (.array [])

theorem eval_userEvents {follow : Resolver} (hf : follow.IsMemberwise) {d : Document}
    (h : hasEvents d = true) :
    userEventsExpr.eval follow d [] = .ok (some (.arr ((recorded d).filter isUserEvent))) := by
  have htest (e : Document) :
      (Expr.eq (.var "event" ["event"]) (.const (.str "user"))).eval follow d
        [("event", some e)] = .ok (some (.bool (isUserEvent e))) := by
    rw [Expr.eval_eq (Expr.eval_var rfl _) (Expr.eval_const _), hf.sameValue_str]
    rfl
  rcases hf.follow_events h with he | ⟨hn, he⟩
  · exact Expr.eval_ifNull _
      (Expr.eval_filter ((Expr.eval_field _).trans (by rw [he])) fun e _ => htest e) rfl
  · rw [he]
    exact (Expr.eval_ifNull_default (Expr.eval_filter_nullish (Expr.eval_field _) hn) rfl).trans
      Expr.eval_array_nil

def lengthMet (bound : Option (Comparator × Int)) (c : Document) : Bool :=
  bound.all fun b =>
    (Test.compare b.1 (.int b.2)).passes (some (.int ((recorded c).countP isUserEvent - 1)))

theorem isSome_of_lengthBound? {spec : FilterSpec} {bound : Option (Comparator × Int)}
    (h : lengthBound? spec = .ok bound) : bound.isSome = spec.hasLength :=
  isSome_of_active (f := fun c => (c, spec.lengthBound.getD 0)) h

/-- The stages for the length keep a conversation if the number of its turns meets the bound. -/
theorem lengthStages_pass {m : StoreModel} (hf : m.follow.IsMemberwise) {c d : Document}
    (h : hasEvents c = true) (hd : Windowed c d) {spec : FilterSpec}
    {bound : Option (Comparator × Int)} (hb : lengthBound? spec = .ok bound) :
    ∃ p d', lengthStages spec = .ok p ∧ Windowed c d' ∧ m.Passes p d (lengthMet bound c) d' := by
  cases bound with
  | none => exact ⟨[], d, by simp [lengthStages, hb], hd, .nil m d⟩
  | some b =>
    obtain ⟨comparator, n⟩ := b
    let turns : Document := .int ((recorded c).countP isUserEvent - 1)
    have hlen : (Expr.subtract (.size userEventsExpr) (.const (.int 1))).eval m.follow d [] =
        .ok (some turns) := by
      rw [Expr.eval_subtract (Expr.eval_size (eval_userEvents hf (hd.hasEvents h)))
        (Expr.eval_const _), hd.recorded_eq, ← List.countP_eq_length_filter]
      rfl
    have hs : lengthStages spec = .ok
        [.addFields [("convLen", .subtract (.size userEventsExpr) (.const (.int 1)))],
          .filterBy (.all [.passes ["convLen"] [.compare comparator (.int n)]])] := by
      simp only [lengthStages, hb]
      rfl
    refine ⟨_, d.derive "convLen" (some turns), hs, hd.derive (by decide) _, ?_⟩
    have hp := (StoreModel.Passes.addFields (StoreModel.addFields_one hd.isObject _ hlen)).append
      (.filterBy m (.all [.passes ["convLen"] [.compare comparator (.int n)]])
        (d.derive "convLen" (some turns)))
    simpa [Document.member?_derive, hd.isObject, lengthMet, turns] using hp

end DialogueQuery.Filter
