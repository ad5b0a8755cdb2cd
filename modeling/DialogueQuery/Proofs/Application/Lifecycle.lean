import DialogueQuery.Application
import DialogueQuery.Proofs.Store.Clients

/-! The life of an application: starts that succeed or fail, stops, and what is done to
its connections besides. A service is installed from a start to the next stop, and every
client is closed once. -/

namespace DialogueQuery

namespace Application

variable (app : Application) {w : World} {e : Breakdown}

/-- A start is one of the connection, with log records around it. -/
theorem run_start (w : World) : ∃ w₀, w.Grows w₀ [] 0 ∧ w₀.script = w.script ∧
    app.start.run.run w = (do
      let connection ← app.options.database.connect
      connection.useDatabase
      connection.useDatabase
      logInfo "Conversation query service started"
      let service : Service :=
        ⟨app.options.conversations, app.options.projects, app.options.defaultEnv.text?⟩
      return { app with running := some (service, connection) } :
        Action Application).run.run w₀ := by
  refine ⟨_, ?_, ?_, rfl⟩
  · exact .of_eq rfl rfl
  · rfl

/-- A start that fails tells why, and closes the client if it has made one. -/
theorem start_fails (h : w.script.failure? = some e) (he : e.ofDatabase = true) :
    ∃ w', app.start.run.run w = (.error (.store Connection.refused e), w') ∧
      ∀ opened, Ledger w opened → Ledger w' opened := by
  obtain ⟨w₀, hw, hs, hrun⟩ := app.run_start w
  rw [Script.failure?, ← hs] at h
  rw [hrun, Action.run_bind]
  cases hc : w₀.script.connectError with
  | some e' =>
    obtain rfl : e' = e := by simpa [hc] using h
    obtain ⟨w', hconnect, hw'⟩ := app.options.database.connect_refused hc
    rw [hconnect]
    refine ⟨w', by simp [Failure.ofBreakdown, he], fun opened hl => ?_⟩
    exact hl.unused (hw.trans hw') (by simp [Call.client?])
  | none =>
    have hp : w₀.script.pingError = some e := by simpa [hc] using h
    obtain ⟨w', hconnect, hw'⟩ := app.options.database.connect_unanswered hc hp he
    rw [hconnect]
    refine ⟨w', rfl, fun opened hl => ?_⟩
    exact (hl.unused hw (by simp)).turnedAway hw'

/-- A start that does not fail runs on the client it has made. -/
theorem start_succeeds (h : w.script.failure? = none) :
    ∃ service connection w', app.start.run.run w =
        (.ok { app with running := some (service, connection) }, w') ∧
      connection.client = some w.clients ∧ (Ledger w none → Ledger w' (some w.clients)) := by
  obtain ⟨w₀, hw, hs, hrun⟩ := app.run_start w
  rw [Script.failure?, ← hs] at h
  have hc : w₀.script.connectError = none := by
    cases hc : w₀.script.connectError <;> simp_all
  have hp : w₀.script.pingError = none := by simpa [hc] using h
  obtain ⟨w₁, hconnect, hw₁⟩ := app.options.database.connect_answered hc hp
  have hclients : w₀.clients = w.clients := hw.clients_eq
  rw [hrun, Action.run_bind, hconnect]
  refine ⟨_, _, _, rfl, congrArg some hclients, fun hl => ?_⟩
  rw [← hclients]
  exact (hl.unused hw (by simp)).opens (hw₁.trans ⟨List.append_assoc w₁.calls _ _, rfl⟩)

theorem run_stop {service : Service} {connection : Connection}
    (h : app.running = some (service, connection)) (w : World) :
    ∃ w₀, w.Grows w₀ [] 0 ∧
      app.stop.run w = ({ app with running := none }, (connection.close.run w₀).2) := by
  rw [stop, h]
  refine ⟨_, ?_, rfl⟩
  exact .of_eq rfl rfl

end Application

/-- A connection of an application: that of the start it runs from, or of one before. -/
inductive Handle where
  | running
  | former (i : Nat)

/-- What happens to an application. Leaving the context of a connection closes it. -/
inductive Event where
  /-- A start that finds these answers prepared. -/
  | start (script : Script)
  | stop
  | close (handle : Handle)
  | useDatabase (handle : Handle)

/-- An application in its world, with the connections of the starts before. -/
structure Lifetime where
  app : Application
  world : World
  former : List Connection

namespace Lifetime

def initial (options : Application.Options) : Lifetime :=
  { app := { options }, world := .ofScript {}, former := [] }

def connection? (l : Lifetime) : Handle → Option Connection
  | .running => l.app.running.map (·.2)
  | .former i => l.former[i]?

def setConnection (l : Lifetime) (c : Connection) : Handle → Lifetime
  | .running => { l with app := { l.app with running := l.app.running.map fun r => (r.1, c) } }
  | .former i => { l with former := l.former.set i c }

def openClient? (l : Lifetime) : Option Nat := (l.connection? .running).bind Connection.client

def start (l : Lifetime) (script : Script) : Except Failure Application × World :=
  l.app.start.run.run { l.world with script }

def step (l : Lifetime) : Event → Lifetime
  | .start script => match l.start script with
    | (.ok app, world) => { l with app, world }
    | (.error _, world) => { l with world }
  | .stop =>
    -- What closing makes of a connection is the same in every world.
    let closed := (l.connection? .running).map fun c => (c.close.run l.world).1
    let (app, world) := l.app.stop.run l.world
    { app, world, former := l.former ++ closed.toList }
  | .close handle => match l.connection? handle with
    | some c =>
      let (c, world) := c.close.run l.world
      { l.setConnection c handle with world }
    | none => l
  | .useDatabase handle => match l.connection? handle with
    | some c => { l with world := (c.useDatabase.run.run l.world).2 }
    | none => l

def run (l : Lifetime) (events : List Event) : Lifetime := events.foldl step l

end Lifetime

/-- Where an application is in its life. -/
inductive Phase where
  | stopped
  | serving
  /-- The connection of the running start was closed before the stop. -/
  | severed
deriving DecidableEq

namespace Phase

def next : Phase → Event → Phase
  | phase, .start script => if script.failure?.isSome then phase else serving
  | _, .stop => stopped
  | serving, .close .running => severed
  | phase, _ => phase

theorem next_close_former (phase : Phase) (i : Nat) : phase.next (.close (.former i)) = phase := by
  cases phase <;> rfl

theorem next_useDatabase (phase : Phase) (handle : Handle) :
    phase.next (.useDatabase handle) = phase := by
  cases phase <;> rfl

def after (phase : Phase) (events : List Event) : Phase := events.foldl next phase

/-- Starts fail only for what is wrong with the database, and only after the stop of a
start that succeeded can another one succeed. -/
def Allows (phase : Phase) : Event → Prop
  | .start script =>
    (∀ e, script.failure? = some e → e.ofDatabase = true) ∧
      (script.failure? = none → phase = stopped)
  | _ => True

def AllowsAll : Phase → List Event → Prop
  | _, [] => True
  | phase, e :: events => phase.Allows e ∧ AllowsAll (phase.next e) events

end Phase

namespace Lifetime

/-- What holds of an application all its life. -/
structure Kept (phase : Phase) (l : Lifetime) : Prop where
  installed : l.app.service?.isSome = true ↔ phase ≠ .stopped
  opened : l.openClient?.isSome = true ↔ phase = .serving
  accounted : Ledger l.world l.openClient?
  released : ∀ c ∈ l.former, c.client = none

variable {l : Lifetime} {phase : Phase}

theorem kept_initial (options : Application.Options) : Kept .stopped (initial options) := by
  refine ⟨by simp [initial, Application.service?], by simp [initial, openClient?, connection?],
    fun n => ?_, nofun⟩
  exact ⟨fun _ => ⟨nofun, rfl⟩, nofun, nofun⟩

namespace Kept

theorem openClient?_eq_none (h : Kept phase l) (hp : phase ≠ .serving) : l.openClient? = none :=
  Option.not_isSome_iff_eq_none.mp (mt h.opened.mp hp)

theorem phase_eq_stopped (h : Kept phase l) (hr : l.app.running = none) : phase = .stopped := by
  simpa [Application.service?, hr] using h.installed

/-- Only the running connection may have a client left. -/
theorem client_of_former (h : Kept phase l) {i : Nat} {c : Connection}
    (hc : l.connection? (.former i) = some c) : c.client = none :=
  h.released c (List.mem_of_getElem? hc)

theorem start (h : Kept phase l) {script : Script} (ha : phase.Allows (.start script)) :
    Kept (phase.next (.start script)) (l.step (.start script)) := by
  have hledger : Ledger { l.world with script } l.openClient? :=
    h.accounted.unused (.of_eq rfl rfl) (by simp)
  rw [Phase.next, step, Lifetime.start]
  cases hf : script.failure? with
  | some e =>
    obtain ⟨w', hrun, hl⟩ := l.app.start_fails (w := { l.world with script }) hf (ha.1 e hf)
    rw [hrun]
    exact ⟨h.installed, h.opened, hl _ hledger, h.released⟩
  | none =>
    obtain ⟨service, c, w', hrun, hc, hl⟩ :=
      l.app.start_succeeds (w := { l.world with script }) hf
    rw [hrun]
    have hopen : ({ l with
        app := { l.app with running := some (service, c) }, world := w' } : Lifetime).openClient? =
          some l.world.clients := hc
    refine ⟨by simp [Application.service?], by simp [hopen], ?_, h.released⟩
    rw [hopen]
    have hidle := h.openClient?_eq_none (by simp [ha.2 hf])
    exact hl (hidle ▸ hledger)

theorem stop (h : Kept phase l) : Kept .stopped (l.step .stop) := by
  cases hr : l.app.running with
  | none =>
    have hstep : l.step .stop = l := by simp [step, connection?, Application.stop, hr]; rfl
    rw [hstep, ← h.phase_eq_stopped hr]
    exact h
  | some r =>
    obtain ⟨service, c⟩ := r
    obtain ⟨w₀, hw, hrun⟩ := l.app.run_stop hr l.world
    have hl : Ledger w₀ c.client := by
      have hl := h.accounted
      rw [openClient?, connection?, hr] at hl
      exact hl.unused hw (by simp)
    obtain ⟨w', hclose, hl'⟩ := hl.close
    obtain ⟨_, hclosed, -⟩ := c.run_close l.world
    have hstep : l.step .stop =
        ⟨{ l.app with running := none }, w', l.former ++ [{ c with client := none }]⟩ := by
      simp [step, connection?, hr, hrun, hclose, hclosed]
    rw [hstep]
    refine ⟨by simp [Application.service?], by simp [openClient?, connection?], hl', ?_⟩
    rw [List.forall_mem_append]
    exact ⟨h.released, by simp⟩

theorem close_running (h : Kept phase l) :
    Kept (phase.next (.close .running)) (l.step (.close .running)) := by
  cases hr : l.app.running with
  | none =>
    have hstep : l.step (.close .running) = l := by simp [step, connection?, hr]
    obtain rfl := h.phase_eq_stopped hr
    rw [hstep]
    exact h
  | some r =>
    obtain ⟨service, c⟩ := r
    have hl := h.accounted
    rw [openClient?, connection?, hr] at hl
    obtain ⟨w', hrun, hl'⟩ := Ledger.close hl
    have hstep : l.step (.close .running) =
        { l with
          app := { l.app with running := some (service, { c with client := none }) }
          world := w' } := by
      simp [step, connection?, setConnection, hr, hrun]
    have hinstalled := h.installed
    rw [hstep]
    refine ⟨?_, ?_, hl', h.released⟩
    · cases phase <;> simp_all [Application.service?, Phase.next]
    · cases phase <;> simp_all [openClient?, connection?, Phase.next, Application.service?]

theorem close_former (h : Kept phase l) (i : Nat) :
    Kept phase (l.step (.close (.former i))) := by
  cases hc : l.connection? (.former i) with
  | none =>
    have hstep : l.step (.close (.former i)) = l := by simp [step, hc]
    rw [hstep]
    exact h
  | some c =>
    obtain ⟨w', hrun, hl⟩ := h.accounted.close_again (h.client_of_former hc)
    have hstep : l.step (.close (.former i)) =
        { l with world := w', former := l.former.set i { c with client := none } } := by
      simp [step, hc, setConnection, hrun]
    rw [hstep]
    refine ⟨h.installed, h.opened, hl, fun c' hc' => ?_⟩
    rcases List.mem_or_eq_of_mem_set hc' with hc' | rfl
    · exact h.released c' hc'
    · rfl

theorem useDatabase (h : Kept phase l) (handle : Handle) :
    Kept (phase.next (.useDatabase handle)) (l.step (.useDatabase handle)) := by
  rw [Phase.next_useDatabase, step]
  cases hc : l.connection? handle with
  | none => exact h
  | some c =>
    refine ⟨h.installed, h.opened, h.accounted.useDatabase ?_, h.released⟩
    cases handle with
    | running => exact .inr (by rw [openClient?, hc]; rfl)
    | former i => exact .inl (h.client_of_former hc)

theorem step (h : Kept phase l) {e : Event} (ha : phase.Allows e) :
    Kept (phase.next e) (l.step e) := by
  cases e with
  | start script => exact h.start ha
  | stop => exact h.stop
  | close handle =>
    cases handle with
    | running => exact h.close_running
    | former i =>
      rw [Phase.next_close_former]
      exact h.close_former i
  | useDatabase handle => exact h.useDatabase handle

theorem run {events : List Event} (h : Kept phase l) (ha : phase.AllowsAll events) :
    Kept (phase.after events) (l.run events) := by
  induction events generalizing phase l with
  | nil => exact h
  | cons e events ih => exact ih (h.step ha.1) ha.2

end Kept

/-- How a start ends that finds these answers prepared. -/
structure Starts (l : Lifetime) (script : Script) : Prop where
  succeeds : script.failure? = none → ∃ app, (l.start script).1 = .ok app
  fails : ∀ e, script.failure? = some e →
    (l.start script).1 = .error (.store Connection.refused e) ∧
      (l.step (.start script)).app = l.app
  leaves : script.failure?.isSome = true → ∀ n, l.world.clients ≤ n →
    n < (l.step (.start script)).world.clients →
      ClosedLast n ((l.step (.start script)).world.callsOn n)

theorem Kept.starts (h : Kept phase l) {script : Script} (ha : phase.Allows (.start script)) :
    Starts l script := by
  have hfails : ∀ e, script.failure? = some e →
      (l.start script).1 = .error (.store Connection.refused e) ∧
        (l.step (.start script)).app = l.app := by
    intro e he
    obtain ⟨w', hrun, -⟩ := l.app.start_fails (w := { l.world with script }) he (ha.1 e he)
    simp [Lifetime.step, Lifetime.start, hrun]
  refine ⟨fun hnone => ?_, hfails, fun hsome n hn hmade => ?_⟩
  · obtain ⟨_, _, _, hrun, -⟩ := l.app.start_succeeds (w := { l.world with script }) hnone
    exact ⟨_, by rw [Lifetime.start, hrun]⟩
  · obtain ⟨e, he⟩ := Option.isSome_iff_exists.mp hsome
    have hopen : (l.step (.start script)).openClient? = l.openClient? := by
      rw [openClient?, connection?, (hfails e he).2]
      rfl
    refine ((h.start ha).accounted n).closed hmade ?_
    rw [hopen]
    exact ((h.accounted n).unmade hn).1

/-- However an application is started, stopped and meddled with: a service is installed
from each start that succeeds to the next stop, a client is open until its connection is
closed, every other client that was made has been closed once and is left alone, and a
start that fails changes nothing. -/
theorem run_kept (options : Application.Options) {events : List Event}
    (ha : Phase.stopped.AllowsAll events) :
    Kept (Phase.stopped.after events) ((initial options).run events) ∧
      ∀ script, (Phase.stopped.after events).Allows (.start script) →
        Starts ((initial options).run events) script :=
  have h := (kept_initial options).run ha
  ⟨h, fun _ => h.starts⟩

/-- A refused start, one without an answer, and one that succeeds, whose connection is
closed before the stop and again after it. -/
def troubled : List Event :=
  let down : Breakdown := ⟨"NetworkTimeout", "down", true⟩
  [.start { connectError := some down }, .start { pingError := some down }, .start {},
    .close .running, .useDatabase .running, .start { pingError := some down }, .stop,
    .close (.former 0), .start {}]

theorem run_kept_troubled :
    Phase.stopped.AllowsAll troubled ∧
      Kept (Phase.stopped.after troubled) ((initial (.ofSettings {})).run troubled) ∧
        ∀ script, (Phase.stopped.after troubled).Allows (.start script) →
          Starts ((initial (.ofSettings {})).run troubled) script := by
  have ha : Phase.stopped.AllowsAll troubled := by
    simp [troubled, Phase.AllowsAll, Phase.Allows, Phase.next, Script.failure?]
  exact ⟨ha, run_kept _ ha⟩

end Lifetime

end DialogueQuery
