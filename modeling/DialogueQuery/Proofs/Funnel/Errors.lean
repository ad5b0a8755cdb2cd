import DialogueQuery.Funnel.Reshape
import DialogueQuery.Proofs.Document.Read

/-! The entries that the errors of a funnel show. What was sent holds no identifiers
made by a store, so the messages of these errors can always be sent. -/

namespace DialogueQuery

open CodePoint

theorem Document.isIdFree_of_lookup {members : Members} {name : String} {d : Document}
    (h : (obj members).isIdFree = true) (hl : members.lookup name = some d) :
    d.isIdFree = true := by
  rw [isIdFree, membersAreIdFree_eq_all] at h
  obtain ⟨before, after, rfl, -⟩ := List.lookup_eq_some_iff.mp hl
  exact List.all_eq_true.mp h (name, d) (by simp)

namespace Funnel

def SpecError.documents : SpecError → List Document
  | unknownType type entry => [type, entry]
  | noSeparator entry => [entry]
  | noType entry => [entry]
  | unresolvedName entry => [entry]
  | emptyName entry => [entry]
  | noFunnel => []

/-- An error that shows no identifiers made by a store can be sent. -/
theorem SpecError.isWellFormed_message {e : SpecError}
    (h : ∀ d ∈ e.documents, d.isIdFree = true) : Text.isWellFormed e.message = true := by
  have hshown {d : Document} (hd : d ∈ e.documents) : Unmarked d.literal.toList :=
    d.unmarked_literal (h d hd)
  refine Text.isWellFormed_of_unmarked ?_
  unfold message
  cases e with
  | unknownType type entry =>
    simp only [String.toList_append]
    exact .append (.append (.append (.ofList rfl) (hshown (by simp [documents]))) (.ofList rfl))
      (hshown (by simp [documents]))
  | noSeparator entry | noType entry =>
    simp only [String.toList_append]
    exact .append (.append (.ofList rfl) (hshown (by simp [documents]))) (.ofList rfl)
  | unresolvedName entry | emptyName entry =>
    simp only [String.toList_append]
    exact .append (.ofList rfl) (hshown (by simp [documents]))
  | noFunnel => exact .ofList rfl

variable {type : StepType} {entry : Document} {e : SpecError}

theorem documents_of_nonEmptyNames {names : List String}
    (h : nonEmptyNames entry names = .error e) : e.documents = [entry] := by
  unfold nonEmptyNames at h
  split at h <;> cases h
  rfl

mutual

theorem documents_of_collectNames : (d : Document) → collectNames type entry d = .error e →
    e.documents = [entry]
  | .str _, h => documents_of_nonEmptyNames h
  | .obj members, h => documents_of_namesOfMember members h
  | .arr items, h => by
    rw [collectNames] at h
    rcases bind_eq_error.mp h with h | ⟨names, -, h⟩
    · exact documents_of_collectItems items h
    · exact documents_of_nonEmptyNames h
  | .null, h | .bool _, h | .int _, h | .float _, h | .objectId _, h => by
    cases h
    rfl

theorem documents_of_namesOfMember : (ms : List (String × Document)) →
    namesOfMember type entry ms = .error e → e.documents = [entry]
  | [(key, d)], h => by
    rw [namesOfMember] at h
    split at h
    · exact documents_of_collectNames d h
    · cases h
      rfl
  | [], h | _ :: _ :: _, h => by
    cases h
    rfl

theorem documents_of_collectItems : (ds : List Document) →
    collectItems type entry ds = .error e → e.documents = [entry]
  | [], h => nomatch h
  | d :: ds, h => by
    rw [collectItems] at h
    rcases bind_eq_error.mp h with h | ⟨names, -, h⟩
    · exact documents_of_collectNames d h
    · rcases bind_eq_error.mp h with h | ⟨rest, -, h⟩
      · exact documents_of_collectItems ds h
      · cases h

end

theorem documents_of_resolveType {raw : Document} (h : resolveType raw entry = .error e) :
    e.documents = [raw, entry] := by
  unfold resolveType at h
  split at h
  · next s =>
    cases hn : StepType.ofName? (Text.strip s) <;> rw [hn] at h <;> cases h
    rfl
  · cases h
    rfl

theorem isIdFree_of_ofText {s : String} (h : Step.ofText s = .error e) :
    ∀ d ∈ e.documents, d.isIdFree = true := by
  dsimp only [Step.ofText] at h
  split at h
  · cases h
    simp [SpecError.documents, Document.isIdFree]
  · split at h
    · rw [pure_eq_ok, ok_bind] at h
      rcases bind_eq_error.mp h with h | ⟨names, -, h⟩
      · simp [documents_of_collectNames _ h, Document.isIdFree]
      · cases h
    · next hresolve =>
      cases h
      simp [documents_of_resolveType hresolve, Document.isIdFree]

theorem isIdFree_of_ofMembers {members : Members} (hm : (Document.obj members).isIdFree = true)
    (h : Step.ofMembers members = .error e) : ∀ d ∈ e.documents, d.isIdFree = true := by
  unfold Step.ofMembers at h
  cases hl : members.lookup "type" with
  | none =>
    rw [hl] at h
    cases h
    simpa [SpecError.documents] using hm
  | some raw =>
    rw [hl] at h
    have hraw := Document.isIdFree_of_lookup hm hl
    rcases bind_eq_error.mp h with h | ⟨type, -, h⟩
    · simp [documents_of_resolveType h, hraw, hm]
    · dsimp only at h
      rcases bind_eq_error.mp h with h | ⟨names, -, h⟩
      · simpa [documents_of_collectNames _ h] using hm
      · cases h

end Funnel

def FilterSpec.IsIdFree (spec : FilterSpec) : Prop :=
  ∀ entry ∈ spec.eventFilter, entry.toDocument.isIdFree = true

theorem Funnel.isWellFormed_of_stepsOf {spec : FilterSpec} (hspec : spec.IsIdFree)
    {e : SpecError} (h : stepsOf spec = .error e) : Text.isWellFormed e.message = true := by
  unfold stepsOf at h
  split at h
  · obtain ⟨entry, hentry, he⟩ := exists_of_mapM_error h
    have hfree := hspec entry hentry
    refine SpecError.isWellFormed_message ?_
    cases entry with
    | text s =>
      rw [Step.ofEntry] at he
      exact isIdFree_of_ofText he
    | form members =>
      rw [Step.ofEntry] at he
      exact isIdFree_of_ofMembers hfree he
  · cases h

end DialogueQuery
