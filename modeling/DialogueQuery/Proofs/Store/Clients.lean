import DialogueQuery.Proofs.Store.Attempts
import DialogueQuery.Store.Connection

/-! The clients of a world: which calls are uses of them, and that each of them is
closed once and left alone then, but for the one that is open. -/

namespace DialogueQuery

def Call.client? : Call → Option Nat
  | ping n | useDatabase n _ | close n => some n
  | _ => none

namespace World

def callsOn (w : World) (n : Nat) : List Call := w.calls.filter fun c => c.client? = some n

/-- Calls were recorded and clients were made. -/
structure Grows (w w' : World) (calls : List Call) (made : Nat) : Prop where
  calls_eq : w'.calls = w.calls ++ calls
  clients_eq : w'.clients = w.clients + made

namespace Grows

variable {w w₁ w₂ : World} {calls more : List Call} {made : Nat}

theorem of_eq (hcalls : w₁.calls = w.calls) (hclients : w₁.clients = w.clients) :
    Grows w w₁ [] 0 :=
  ⟨by rw [hcalls, List.append_nil], hclients⟩

theorem trans {made' : Nat} (h : Grows w w₁ calls made) (h' : Grows w₁ w₂ more made') :
    Grows w w₂ (calls ++ more) (made' + made) :=
  ⟨by rw [h'.calls_eq, h.calls_eq, List.append_assoc],
    by rw [h'.clients_eq, h.clients_eq, Nat.add_right_comm, Nat.add_assoc]⟩

theorem callsOn_eq (h : Grows w w₁ calls made) (n : Nat) :
    w₁.callsOn n = w.callsOn n ++ calls.filter fun c => c.client? = some n := by
  rw [callsOn, h.calls_eq, List.filter_append]
  rfl

theorem callsOn_unused (h : Grows w w₁ calls made) {n : Nat}
    (hn : ∀ c ∈ calls, c.client? ≠ some n) : w₁.callsOn n = w.callsOn n := by
  have hnone : (calls.filter fun c => c.client? = some n) = [] :=
    List.filter_eq_nil_iff.mpr fun c hc => by simp [hn c hc]
  rw [h.callsOn_eq, hnone, List.append_nil]

end Grows

end World

/-- Closed once, and not used after that. -/
def ClosedLast (n : Nat) (calls : List Call) : Prop :=
  ∃ before, calls = before ++ [.close n] ∧ .close n ∉ before

/-- What became of a client, while one may be open. -/
structure Accounted (w : World) (opened : Option Nat) (n : Nat) : Prop where
  unmade : w.clients ≤ n → opened ≠ some n ∧ w.callsOn n = []
  unclosed : opened = some n → .close n ∉ w.callsOn n
  closed : n < w.clients → opened ≠ some n → ClosedLast n (w.callsOn n)

/-- All clients are accounted for. -/
def Ledger (w : World) (opened : Option Nat) : Prop := ∀ n, Accounted w opened n

theorem Accounted.congr {w w' : World} {opened opened' : Option Nat} {n : Nat}
    (h : Accounted w opened n) (hmade : n < w'.clients ↔ n < w.clients)
    (hopened : opened' = some n ↔ opened = some n) (hcalls : w'.callsOn n = w.callsOn n) :
    Accounted w' opened' n := by
  refine ⟨fun hn => ?_, fun ho => ?_, fun hn ho => ?_⟩
  · rw [hcalls, Ne, hopened]
    exact h.unmade (by omega)
  · rw [hcalls]
    exact h.unclosed (hopened.mp ho)
  · rw [hcalls]
    exact h.closed (hmade.mp hn) (mt hopened.mpr ho)

namespace Ledger

variable {w w' : World} {opened : Option Nat} {n : Nat}

/-- What uses no client leaves all of them as they are. -/
theorem unused {calls : List Call} (h : Ledger w opened) (hg : w.Grows w' calls 0)
    (hcalls : ∀ c ∈ calls, c.client? = none) : Ledger w' opened := fun n =>
  (h n).congr (by rw [hg.clients_eq]; rfl) Iff.rfl
    (hg.callsOn_unused fun c hc => by simp [hcalls c hc])

/-- What concerns one client leaves the others as they are. -/
theorem of_client {opened' : Option Nat} {calls : List Call} {made : Nat} (h : Ledger w opened)
    (hg : w.Grows w' calls made) (hcalls : ∀ c ∈ calls, c.client? = none ∨ c.client? = some n)
    (hmade : ∀ m ≠ n, m < w.clients + made ↔ m < w.clients)
    (hopened : ∀ m ≠ n, opened' = some m ↔ opened = some m) (hn : Accounted w' opened' n) :
    Ledger w' opened' := by
  intro m
  by_cases hm : m = n
  · rwa [hm]
  · refine (h m).congr (by rw [hg.clients_eq]; exact hmade m hm) (hopened m hm) ?_
    exact hg.callsOn_unused fun c hc => by rcases hcalls c hc with hc | hc <;> simp [hc, Ne.symm hm]

theorem turnedAway {uri timeoutMs : Document} (h : Ledger w opened)
    (hg : w.Grows w' [.connect uri timeoutMs, .ping w.clients, .close w.clients] 1) :
    Ledger w' opened := by
  obtain ⟨hopened, hnil⟩ := (h w.clients).unmade (Nat.le_refl _)
  have hcalls : w'.callsOn w.clients = [.ping w.clients, .close w.clients] := by
    rw [hg.callsOn_eq, hnil]
    simp [Call.client?]
  refine h.of_client hg (n := w.clients) (by simp [Call.client?]) (by omega) (by simp) ?_
  refine ⟨fun hm => ?_, fun ho => absurd ho hopened, fun _ _ => ?_⟩
  · rw [hg.clients_eq] at hm
    omega
  · exact ⟨[.ping w.clients], hcalls, by simp⟩

/-- A connection that is answered holds the client that it has made, and no other is open. -/
theorem opens {uri timeoutMs name : Document} (h : Ledger w none)
    (hg : w.Grows w' [.connect uri timeoutMs, .ping w.clients, .useDatabase w.clients name,
      .useDatabase w.clients name] 1) : Ledger w' (some w.clients) := by
  have hnil := ((h w.clients).unmade (Nat.le_refl _)).2
  refine h.of_client hg (n := w.clients) (by simp [Call.client?]) (by omega)
    (by simp [eq_comm]) ?_
  refine ⟨fun hm => ?_, fun _ => ?_, fun _ ho => absurd rfl ho⟩
  · rw [hg.clients_eq] at hm
    omega
  · rw [hg.callsOn_eq, hnil]
    simp [Call.client?]

theorem closes (h : Ledger w (some n)) (hg : w.Grows w' [.close n] 0) : Ledger w' none := by
  refine h.of_client hg (n := n) (by simp [Call.client?]) (by simp) (by simp [eq_comm]) ?_
  refine ⟨fun hm => ?_, nofun, fun _ _ => ?_⟩
  · rw [hg.clients_eq] at hm
    exact absurd rfl ((h n).unmade hm).1
  · exact ⟨w.callsOn n, by simpa [Call.client?] using hg.callsOn_eq n, (h n).unclosed rfl⟩

theorem uses {name : Document} (h : Ledger w (some n)) (hg : w.Grows w' [.useDatabase n name] 0) :
    Ledger w' (some n) := by
  refine h.of_client hg (n := n) (by simp [Call.client?]) (by simp) (by simp) ?_
  refine ⟨fun hm => ?_, fun _ => ?_, fun _ ho => absurd rfl ho⟩
  · rw [hg.clients_eq] at hm
    exact absurd rfl ((h n).unmade hm).1
  · rw [hg.callsOn_eq]
    simpa [Call.client?] using (h n).unclosed rfl

end Ledger

/-- Why a start that finds these answers fails. -/
def Script.failure? (s : Script) : Option Breakdown := s.connectError <|> s.pingError

namespace Session

theorem run_connect (uri timeoutMs : Document) (w : World) :
    (connect uri timeoutMs).run w = match w.script.connectError with
      | some e => (.error e, { w with calls := w.calls ++ [.connect uri timeoutMs] })
      | none => (.ok w.clients, { w with
          calls := w.calls ++ [.connect uri timeoutMs]
          collections := w.script.collections
          clients := w.clients + 1 }) := by
  have hrun : (connect uri timeoutMs).run w =
      makeClient.run { w with calls := w.calls ++ [.connect uri timeoutMs] } := rfl
  rw [hrun]
  simp only [makeClient, StateT.run_bind, StateT.run_get, pure_bind]
  cases w.script.connectError <;> rfl

theorem run_checked (client : Nat) (w : World) :
    (Connection.checked client).run w = match w.script.pingError with
      | none => (.ok (), { w with calls := w.calls ++ [.ping client] })
      | some e => (.error e, { w with
          calls := w.calls ++ .ping client :: if e.ofDatabase then [.close client] else [] }) := by
  have hping : (ping client).run w = (w.script.pingError.elim (.ok ()) .error,
      { w with calls := w.calls ++ [.ping client] }) := rfl
  rw [Connection.checked, StateT.run_bind, hping]
  cases w.script.pingError with
  | none => rfl
  | some e =>
    have hrun : (do
        if e.ofDatabase then record (.close client)
        return .error e : Session (Except Breakdown Unit)).run
          { w with calls := w.calls ++ [.ping client] } = (.error e, { w with
          calls := w.calls ++ .ping client :: if e.ofDatabase then [.close client] else [] }) := by
      cases e.ofDatabase
      · rfl
      · simp [record]
        rfl
    exact hrun

end Session

namespace Connection

variable (c : Connection) {w : World} {e : Breakdown}

theorem connect_refused (h : w.script.connectError = some e) :
    ∃ w', c.connect.run.run w = (.error (.ofBreakdown refused e), w') ∧
      w.Grows w' [.connect c.uri c.timeoutMs] 0 := by
  obtain ⟨logs, hg⟩ := Action.run_guarded .connection refused refused
    (Session.connect c.uri c.timeoutMs) w
  rw [Session.run_connect, h] at hg
  rw [connect, Action.run_bind, hg]
  exact ⟨_, rfl, rfl, rfl⟩

/-- The world in which a new client is asked for a sign of life. -/
theorem connect_made (h : w.script.connectError = none) :
    ∃ w₁, w.Grows w₁ [.connect c.uri c.timeoutMs] 1 ∧ w₁.script = w.script ∧
      c.connect.run.run w = (do
        Action.guarded .connection refused refused (checked w.clients)
        Action.log .connection .info
          ("Connected to MongoDB database '" ++ c.database.display ++ "'")
        return { c with client := some w.clients } : Action Connection).run.run w₁ := by
  obtain ⟨logs, hg⟩ := Action.run_guarded .connection refused refused
    (Session.connect c.uri c.timeoutMs) w
  rw [Session.run_connect, h] at hg
  rw [connect, Action.run_bind, hg]
  refine ⟨{ w with
    calls := w.calls ++ [.connect c.uri c.timeoutMs], collections := w.script.collections
    clients := w.clients + 1, logs }, ⟨rfl, rfl⟩, rfl, rfl⟩

theorem connect_unanswered (h : w.script.connectError = none) (hp : w.script.pingError = some e)
    (he : e.ofDatabase = true) :
    ∃ w', c.connect.run.run w = (.error (.store refused e), w') ∧
      w.Grows w' [.connect c.uri c.timeoutMs, .ping w.clients, .close w.clients] 1 := by
  obtain ⟨w₁, hw, hs, hrun⟩ := c.connect_made h
  obtain ⟨logs, hg⟩ := Action.run_guarded .connection refused refused (checked w.clients) w₁
  simp only [Session.run_checked, hs, hp, he, if_true, Failure.ofBreakdown, mapError_error] at hg
  rw [hrun, Action.run_bind, hg]
  exact ⟨_, rfl, hw.trans ⟨rfl, rfl⟩⟩

theorem connect_answered (h : w.script.connectError = none) (hp : w.script.pingError = none) :
    ∃ w', c.connect.run.run w = (.ok { c with client := some w.clients }, w') ∧
      w.Grows w' [.connect c.uri c.timeoutMs, .ping w.clients] 1 := by
  obtain ⟨w₁, hw, hs, hrun⟩ := c.connect_made h
  obtain ⟨logs, hg⟩ := Action.run_guarded .connection refused refused (checked w.clients) w₁
  rw [Session.run_checked, hs, hp] at hg
  rw [hrun, Action.run_bind, hg]
  exact ⟨_, rfl, hw.trans ⟨rfl, rfl⟩⟩

theorem run_close (w : World) : ∃ w', c.close.run w = ({ c with client := none }, w') ∧
    w.Grows w' (c.client.elim [] fun n => [.close n]) 0 := by
  obtain ⟨_, _, _, client⟩ := c
  cases client with
  | none => exact ⟨w, rfl, .of_eq rfl rfl⟩
  | some n => exact ⟨_, rfl, rfl, rfl⟩

theorem useDatabase_grows (w : World) :
    w.Grows (c.useDatabase.run.run w).2
      (c.client.elim [] fun n => [.useDatabase n c.database]) 0 := by
  obtain ⟨_, _, _, client⟩ := c
  cases client with
  | none => exact .of_eq rfl rfl
  | some n => exact ⟨rfl, rfl⟩

end Connection

namespace Ledger

variable {w : World} {opened : Option Nat} {c : Connection}

theorem close (h : Ledger w c.client) :
    ∃ w', c.close.run w = ({ c with client := none }, w') ∧ Ledger w' none := by
  obtain ⟨w', hrun, hg⟩ := c.run_close w
  refine ⟨w', hrun, ?_⟩
  cases hc : c.client with
  | none =>
    rw [hc] at h hg
    exact h.unused hg nofun
  | some n =>
    rw [hc] at h hg
    exact h.closes hg

/-- Closing a second time changes nothing. -/
theorem close_again (h : Ledger w opened) (hc : c.client = none) :
    ∃ w', c.close.run w = ({ c with client := none }, w') ∧ Ledger w' opened := by
  obtain ⟨w', hrun, hg⟩ := c.run_close w
  rw [hc] at hg
  exact ⟨w', hrun, h.unused hg nofun⟩

theorem useDatabase (h : Ledger w opened) (hc : c.client = none ∨ c.client = opened) :
    Ledger (c.useDatabase.run.run w).2 opened := by
  have hg := c.useDatabase_grows w
  cases hn : c.client with
  | none =>
    rw [hn] at hg
    exact h.unused hg nofun
  | some n =>
    rw [hn] at hc hg
    obtain rfl := hc.resolve_left nofun
    exact h.uses hg

end Ledger

end DialogueQuery
