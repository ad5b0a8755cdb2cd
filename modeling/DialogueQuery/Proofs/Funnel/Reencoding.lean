import Mathlib.Data.List.Forall2
import DialogueQuery.Explanation
import DialogueQuery.Proofs.Funnel.Grammar
import DialogueQuery.Service

/-! Steps that are written as entries again. A step can be written as an object, and as
a text if it has one name that is not excluded; either way the entry is read as
the step that was written. -/

namespace DialogueQuery

theorem mapM_eq_ok {ε α β : Type} {f : α → Except ε β} {xs : List α} {ys : List β} :
    xs.mapM f = .ok ys ↔ List.Forall₂ (fun x y => f x = .ok y) xs ys := by
  induction xs generalizing ys with
  | nil =>
    rw [List.forall₂_nil_left_iff]
    exact ⟨fun h => (Except.ok.inj h).symm, fun h => h ▸ rfl⟩
  | cons x xs ih =>
    rw [List.forall₂_cons_left_iff, List.mapM_cons]
    constructor
    · intro h
      obtain ⟨y, hy, h⟩ := bind_eq_ok.mp h
      obtain ⟨ys, hys, h⟩ := bind_eq_ok.mp h
      cases h
      exact ⟨y, ys, hy, ih.mp hys, rfl⟩
    · rintro ⟨y, ys, hy, hys, rfl⟩
      rw [hy, ok_bind, ih.mpr hys]
      rfl

theorem exists_of_mem_mapM {ε α β : Type} {f : α → Except ε β} {xs : List α} {ys : List β}
    (h : xs.mapM f = .ok ys) {y : β} (hy : y ∈ ys) : ∃ x ∈ xs, f x = .ok y := by
  rw [mapM_eq_ok] at h
  induction h with
  | nil => cases hy
  | @cons x z xs zs hx hrest ih =>
    rcases List.mem_cons.mp hy with rfl | hy
    · exact ⟨x, List.mem_cons_self, hx⟩
    · obtain ⟨x', hmem, hx'⟩ := ih hy
      exact ⟨x', List.mem_cons_of_mem x hmem, hx'⟩

namespace Funnel

namespace Step

def members (s : Step) : Members :=
  [("type", .str s.type.name), ("name", .ofStrings s.names), ("excluded", .bool s.excluded)]

/-- The entries that a step is written as: the object with its members, or its label if
there is one name and it is not excluded. -/
inductive IsWrittenAs (s : Step) : Entry → Prop
  | form : IsWrittenAs s (.form s.members)
  | label {name : String} (hname : s.names = [name]) (hplain : s.excluded = false) :
      IsWrittenAs s (.text s.label)

/-- Some names, each one stripped, not empty, and there once. -/
structure IsNamed (s : Step) : Prop where
  named : s.names ≠ []
  distinct : s.names.Nodup
  stripped (n : String) : n ∈ s.names → n ≠ "" ∧ Text.strip n = n

theorem IsReadFrom.isNamed {s : Step} {entry : Document} (h : s.IsReadFrom entry) : s.IsNamed :=
  have hnamed := h.named
  ⟨hnamed.1, hnamed.2.1, hnamed.2.2⟩

end Step

variable {s : Step}

theorem Step.IsNamed.isNameTree (h : s.IsNamed) : IsNameTree s.type (.ofStrings s.names) := by
  refine .array (by simpa using h.named) fun d hd => ?_
  obtain ⟨n, hn, rfl⟩ := List.mem_map.mp hd
  obtain ⟨hne, hstrip⟩ := h.stripped n hn
  exact .text (by rwa [hstrip])

theorem StepType.strip_name (type : StepType) : Text.strip type.name = type.name := by
  cases type <;> decide +kernel

theorem StepType.colon_notMem_name (type : StepType) : ':' ∉ type.name.toList := by
  cases type <;> decide +kernel

theorem Step.isTyped_members (s : Step) : IsTyped s.type s.members :=
  ⟨s.type.name, rfl, s.type.strip_name⟩

theorem Step.IsNamed.isReadFrom_members (h : s.IsNamed) : s.IsReadFrom (.obj s.members) := by
  have hflag : isFlagged s.members = s.excluded := rfl
  refine ⟨.ofStrings s.names, ?_, h.isNameTree, ?_⟩
  · rw [← hflag]
    exact .plain s.isTyped_members rfl rfl rfl
  · rw [leaves_ofStrings fun n hn => (h.stripped n hn).2, ← distinctNames_eq_eraseDups,
      distinctNames_of_nodup h.distinct]

/-- A step that excludes nothing and has one name is read from its label. -/
theorem Step.IsNamed.isReadFrom_label (h : s.IsNamed) {name : String} (hname : s.names = [name])
    (hplain : s.excluded = false) : s.IsReadFrom (.str s.label) := by
  have hlabel : s.label = s.type.name ++ ":" ++ (" " ++ name) := by
    have hsep : ": " = ":" ++ " " := by decide +kernel
    have hjoin : " | ".intercalate [name] = name := by simp
    simp only [label, hname, hplain, Bool.false_eq_true, if_false, String.append_empty, hjoin,
      hsep, String.append_assoc]
  obtain ⟨hne, hstrip⟩ := h.stripped name (by simp [hname])
  have hblank : Text.strip (" " ++ name) = name := by
    have hblank := Text.strip_blank_append (c := ' ') (by decide) name
    rwa [hstrip] at hblank
  refine ⟨.str (" " ++ name), ?_, .text (by rwa [hblank]), ?_⟩
  · rw [hlabel, hplain]
    exact .text s.type.colon_notMem_name s.type.strip_name
  · rw [leaves, hblank, hname]
    rfl

/-- A step that has been read is read again from every entry that it is written as. -/
theorem stepWithin_of_isWrittenAs {room : Nat} (hroom : 2 ≤ room) (h : s.IsNamed) {written : Entry}
    (hwritten : s.IsWrittenAs written) : stepWithin room written.toDocument = .ok s := by
  rw [stepWithin_eq_ok]
  cases hwritten with
  | label hname hplain =>
    refine ⟨?_, h.isReadFrom_label hname hplain⟩
    simp [Entry.toDocument, isTooDeep, errorOverruns, nesting]
  | form =>
    refine ⟨?_, h.isReadFrom_members⟩
    have hblank : ∀ n ∈ s.names, Text.strip n ≠ "" := by
      intro n hn
      obtain ⟨hne, hstrip⟩ := h.stripped n hn
      rwa [hstrip]
    rw [Entry.toDocument, isTooDeep_obj s.isTyped_members]
    exact overruns_ofStrings s.type _ hroom h.named hblank

theorem ofEntry_eq (entry : Entry) : Step.ofEntry entry = Step.ofDocument entry.toDocument := by
  cases entry <;> rfl

theorem isNamed_of_stepsOf {spec : FilterSpec} {steps : List Step}
    (h : stepsOf spec = .ok steps) : ∀ s ∈ steps, s.IsNamed := by
  unfold stepsOf at h
  split at h
  · intro s hs
    obtain ⟨entry, -, hentry⟩ := exists_of_mem_mapM h hs
    rw [ofEntry_eq, ofDocument_eq_ok] at hentry
    exact hentry.isNamed
  · cases h
    simp

theorem stepsWithin_of_areWritten {room : Nat} (hroom : 2 ≤ room) {steps : List Step}
    (hnamed : ∀ s ∈ steps, s.IsNamed) {written : List Entry}
    (hwritten : List.Forall₂ Step.IsWrittenAs steps written) :
    stepsWithin room (written.map Entry.toDocument) = .ok steps := by
  rw [stepsWithin, mapM_eq_ok, List.forall₂_map_left_iff]
  induction hwritten with
  | nil => exact .nil
  | cons h hrest ih =>
    obtain ⟨hs, hrests⟩ := List.forall_mem_cons.mp hnamed
    exact .cons (stepWithin_of_isWrittenAs hroom hs h) (ih hrests)

theorem mapM_ofEntry_of_stepsWithin {room : Nat} {entries : List Entry} {steps : List Step}
    (h : stepsWithin room (entries.map Entry.toDocument) = .ok steps) :
    entries.mapM Step.ofEntry = .ok steps := by
  rw [stepsWithin, mapM_eq_ok, List.forall₂_map_left_iff] at h
  rw [mapM_eq_ok]
  refine h.imp fun entry s hs => ?_
  rw [ofEntry_eq, ofDocument_eq_ok]
  exact (stepWithin_eq_ok.mp hs).2

/-- A specification with another event filter asks for the same funnel. -/
structure Refunnels (room : Nat) (spec again : FilterSpec) (steps : List Step) : Prop where
  steps : stepsOf again = .ok steps
  fits : specOverruns room again = false
  pipeline (defaultEnv : Option String) (firstIntent : Query) :
    Pipeline.ofSpec again defaultEnv firstIntent = Pipeline.ofSpec spec defaultEnv firstIntent
  outcome (c : Document) : Explanation.funnelOutcome? again c = Explanation.funnelOutcome? spec c
  explanation (stored : Filter.Checks) (triggers : Option (List Document)) (c : Document) :
    Explanation.ofStored stored again triggers c = Explanation.ofStored stored spec triggers c

/-- The steps of a funnel are read again from any way of writing them down. -/
theorem refunnels_of_areWritten {room : Nat} (hroom : 2 ≤ room) {spec : FilterSpec}
    {steps : List Step} (hsteps : stepsOf spec = .ok steps) {written : List Entry}
    (hwritten : List.Forall₂ Step.IsWrittenAs steps written) :
    Refunnels room spec { spec with eventFilter := written } steps := by
  have hread := stepsWithin_of_areWritten hroom (isNamed_of_stepsOf hsteps) hwritten
  have hagain : stepsOf { spec with eventFilter := written } = .ok steps := by
    unfold stepsOf at hsteps ⊢
    cases hin : spec.isInOrder with
    | true =>
      have hin' : ({ spec with eventFilter := written } : FilterSpec).isInOrder = true := hin
      rw [hin', if_pos rfl]
      exact mapM_ofEntry_of_stepsWithin hread
    | false =>
      have hin' : ({ spec with eventFilter := written } : FilterSpec).isInOrder = false := hin
      rw [hin] at hsteps
      rw [hin']
      exact hsteps
  have houtcome (c : Document) :
      Explanation.funnelOutcome? { spec with eventFilter := written } c =
        Explanation.funnelOutcome? spec c := by
    simp only [Explanation.funnelOutcome?, hsteps, hagain]
  constructor
  case steps => exact hagain
  case fits => simp [specOverruns, hread]
  case pipeline =>
    intro defaultEnv firstIntent
    simp only [Pipeline.ofSpec, hsteps, hagain]
    rfl
  case outcome => exact houtcome
  case explanation =>
    intro stored triggers c
    simp only [Explanation.ofStored, houtcome]
    rfl

/-- What is read from an entry is read again from what it is written as, and so are the
steps of a funnel. -/
theorem steps_reread {room : Nat} (hroom : 2 ≤ room) :
    (∀ entry step written, Step.ofDocument entry = .ok step → step.IsWrittenAs written →
      stepWithin room written.toDocument = .ok step) ∧
    ∀ (spec : FilterSpec) (steps : List Step) (written : List Entry), stepsOf spec = .ok steps →
      List.Forall₂ Step.IsWrittenAs steps written →
      Refunnels room spec { spec with eventFilter := written } steps := by
  constructor
  · intro entry step written hread hwritten
    exact stepWithin_of_isWrittenAs hroom (ofDocument_eq_ok.mp hread).isNamed hwritten
  · intro spec steps written hsteps hwritten
    exact refunnels_of_areWritten hroom hsteps hwritten

/-- Names with a colon and with blanks inside. -/
def colonSpec : FilterSpec :=
  { projectId := "bf"
    eventFilterOperator := "inOrder"
    eventFilter := [.text " action :  a: b  c ",
      .form [("type", .str "intent"), ("excluded", .int 1),
        ("name", .obj [("OR", .arr [.str "x:y ", .obj [("intent", .str "z")], .str " x:y"])])]] }

theorem steps_reread_colons :
    stepWithin Service.nameRoom (.str "action: a: b  c") = .ok ⟨.action, ["a: b  c"], false⟩ ∧
      Refunnels Service.nameRoom colonSpec
        { colonSpec with eventFilter := [.text "action: a: b  c",
          .form [("type", .str "intent"), ("name", .ofStrings ["x:y", "z"]),
            ("excluded", .bool true)]] }
        [⟨.action, ["a: b  c"], false⟩, ⟨.intent, ["x:y", "z"], true⟩] := by
  have hroom : 2 ≤ Service.nameRoom := by decide
  have hread : Step.ofDocument (.str " action :  a: b  c ") = .ok ⟨.action, ["a: b  c"], false⟩ :=
    ok_of_toOption (by decide +kernel)
  have hsteps : stepsOf colonSpec =
      .ok [⟨.action, ["a: b  c"], false⟩, ⟨.intent, ["x:y", "z"], true⟩] :=
    ok_of_toOption (by decide +kernel)
  have hlabel : Step.label ⟨.action, ["a: b  c"], false⟩ = "action: a: b  c" := by decide +kernel
  have hwritten : Step.IsWrittenAs ⟨.action, ["a: b  c"], false⟩ (.text "action: a: b  c") := by
    rw [← hlabel]
    exact .label rfl rfl
  have hform : Step.IsWrittenAs ⟨.intent, ["x:y", "z"], true⟩ (.form [("type", .str "intent"),
      ("name", .ofStrings ["x:y", "z"]), ("excluded", .bool true)]) := .form
  have hstep := (steps_reread hroom).1 _ _ _ hread hwritten
  have hfunnel := (steps_reread hroom).2 _ _ _ hsteps (.cons hwritten (.cons hform .nil))
  exact ⟨hstep, hfunnel⟩

end Funnel

end DialogueQuery
