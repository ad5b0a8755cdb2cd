import DialogueQuery.Proofs.FilterSpec.Written
import DialogueQuery.Proofs.Funnel.Errors

/-! The entries of an event filter are kept as they were sent, so what holds of all
values in a document holds of the entries of its specification. -/

namespace DialogueQuery

namespace Coercion

theorem toDocument_of_entry {d : Document} {entry : Entry} (h : Coercion.entry d = .ok entry) :
    entry.toDocument = d := by
  cases d <;> cases h <;> rfl

theorem toDocument_of_items {ds : List Document} {entries : List Entry} {n : Nat}
    (h : items Coercion.entry n ds = .ok entries) : entries.map Entry.toDocument = ds := by
  induction ds generalizing entries n with
  | nil =>
    cases h
    rfl
  | cons d ds ih =>
    simp only [items] at h
    split at h
    · next entry rest hentry hrest =>
      cases h
      rw [List.map_cons, toDocument_of_entry hentry, ih hrest]
    all_goals cases h

theorem toDocument_of_list {d : Document} {entries : List Entry}
    (h : list Coercion.entry d = .ok entries) : .arr (entries.map Entry.toDocument) = d := by
  cases d with
  | arr ds => rw [toDocument_of_items h]
  | _ => cases h

end Coercion

namespace FilterSpec

theorem Field.isIdFree_find {f : Field} {members : Members}
    (hm : (Document.obj members).isIdFree = true) {key : String} {d : Document}
    (h : f.find members = some (key, d)) : d.isIdFree = true := by
  unfold find at h
  split at h
  · next hl =>
    cases h
    exact Document.isIdFree_of_lookup hm hl
  · obtain ⟨v, hl, hv⟩ := Option.map_eq_some_iff.mp h
    cases hv
    exact Document.isIdFree_of_lookup hm hl

theorem isIdFree_of_reads {members : Members} (hm : (Document.obj members).isIdFree = true)
    {spec : FilterSpec} (h : Reads members spec) : spec.IsIdFree := by
  have hentries := h.eventFilter
  unfold optional at hentries
  intro entry hentry
  split at hentries
  · next key d hd =>
    cases hc : Coercion.list Coercion.entry d with
    | error es =>
      rw [hc] at hentries
      cases hentries
    | ok entries =>
      rw [hc] at hentries
      obtain rfl : entries = spec.eventFilter := Checked.valid.inj hentries
      have hfree := Field.isIdFree_find hm hd
      rw [← Coercion.toDocument_of_list hc, Document.isIdFree, Document.areIdFree_eq_all] at hfree
      exact List.all_eq_true.mp hfree _ (List.mem_map_of_mem hentry)
  · obtain hnone : [] = spec.eventFilter := Checked.valid.inj hentries
    rw [← hnone] at hentry
    cases hentry

theorem isIdFree_of_ofDocument {d : Document} (hd : d.isIdFree = true) {spec : FilterSpec}
    (h : ofDocument d = .ok spec) : spec.IsIdFree := by
  cases d with
  | obj members => exact isIdFree_of_reads hd (check_eq_valid.mp (Checked.toExcept_eq_ok.mp h))
  | _ => cases h

end FilterSpec

end DialogueQuery
