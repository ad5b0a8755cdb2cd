import DialogueQuery.Document.Reader
import DialogueQuery.Proofs.Document.Literals
import DialogueQuery.Proofs.Results

/-! No text reads as a document with an identifier made by a store. -/

namespace DialogueQuery.Document

theorem areIdFree_eq_all (ds : List Document) : areIdFree ds = ds.all isIdFree := by
  induction ds with
  | nil => rfl
  | cons d ds ih => rw [areIdFree, ih, List.all_cons]

theorem membersAreIdFree_eq_all (ms : Members) :
    membersAreIdFree ms = ms.all fun m => m.2.isIdFree := by
  induction ms with
  | nil => rfl
  | cons m ms ih => rw [membersAreIdFree, ih, List.all_cons]

theorem membersAreIdFree_setMember {d : Document} (hd : d.isIdFree = true) (name : String)
    {ms : Members} (h : membersAreIdFree ms = true) :
    membersAreIdFree (setMember name d ms) = true := by
  induction ms with
  | nil => simp [setMember, membersAreIdFree, hd]
  | cons m rest ih =>
    obtain ⟨k, v⟩ := m
    obtain ⟨hv, hrest⟩ := Bool.and_eq_true_iff.mp h
    rw [setMember]
    split
    · simp [membersAreIdFree, hd, hrest]
    · simp [membersAreIdFree, hv, ih hrest]

namespace Reader

theorem isIdFree_of_readWord {r : Rest} {found : Document × Rest} (h : readWord r = some found) :
    found.1.isIdFree = true := by
  obtain ⟨word, hword, rfl⟩ := Option.map_eq_some_iff.mp h
  have hwords : words.all (fun w => w.2.isIdFree) = true := rfl
  exact List.all_eq_true.mp hwords word (List.mem_of_find?_eq_some hword)

theorem isIdFree_of_readNumber {r : Rest} {found : Document × Rest}
    (h : readNumber r = .ok found) : found.1.isIdFree = true := by
  revert h
  fun_cases readNumber r <;> intro h <;> cases h <;> rfl

/-- What is read within some fuel has no identifiers made by a store. -/
structure ReadsIdFree (fuel : Nat) : Prop where
  value {depth : Nat} {r : Rest} {found : Document × Rest} :
    readValue fuel depth r = .ok found → found.1.isIdFree = true
  items {depth : Nat} {r : Rest} {acc : List Document} {found : Document × Rest} :
    areIdFree acc = true → readItems fuel depth r acc = .ok found → found.1.isIdFree = true
  members {depth : Nat} {r : Rest} {acc : Members} {found : Document × Rest} :
    membersAreIdFree acc = true → readMembers fuel depth r acc = .ok found →
      found.1.isIdFree = true

theorem readsIdFree (fuel : Nat) : ReadsIdFree fuel := by
  induction fuel with
  | zero =>
    constructor
    · intro depth r found h
      cases h
    · intro depth r acc found _ h
      cases h
    · intro depth r acc found _ h
      cases h
  | succ fuel ih =>
    constructor
    · intro depth r found h
      rw [readValue] at h
      split at h
      · obtain ⟨s, -, h⟩ := bind_eq_ok.mp h
        cases h
        rfl
      · dsimp only at h
        split at h
        · cases h
        · split at h
          · cases h
            rfl
          · exact ih.items rfl h
      · dsimp only at h
        split at h
        · cases h
        · split at h
          · cases h
            rfl
          · exact ih.members rfl h
      · split at h
        · next hword =>
          cases h
          exact isIdFree_of_readWord hword
        · exact isIdFree_of_readNumber h
    · intro depth r acc found hacc h
      rw [readItems] at h
      obtain ⟨⟨d, r₁⟩, hd, h⟩ := bind_eq_ok.mp h
      have hitems : areIdFree (d :: acc) = true := by
        rw [areIdFree, ih.value hd, hacc]
        rfl
      dsimp only at h
      split at h
      · cases h
        rwa [isIdFree, areIdFree_eq_all, List.all_reverse, ← areIdFree_eq_all]
      · exact ih.items hitems h
      · cases h
    · intro depth r acc found hacc h
      rw [readMembers] at h
      split at h
      · obtain ⟨⟨name, r₁⟩, -, h⟩ := bind_eq_ok.mp h
        dsimp only at h
        split at h
        · obtain ⟨⟨d, r₂⟩, hd, h⟩ := bind_eq_ok.mp h
          have hmembers := membersAreIdFree_setMember (ih.value hd) name hacc
          dsimp only at h
          split at h
          · cases h
            exact hmembers
          · exact ih.members hmembers h
          · cases h
        · cases h
      · cases h

/-- What is read from a text holds no identifiers made by a store. -/
theorem isIdFree_of_read {depth : Nat} {s : String} {d : Document} (h : read depth s = .ok d) :
    d.isIdFree = true := by
  obtain ⟨⟨d', r⟩, hd, h⟩ := bind_eq_ok.mp h
  dsimp only at h
  split at h <;> cases h
  exact (readsIdFree _).value hd

end Reader

end DialogueQuery.Document
