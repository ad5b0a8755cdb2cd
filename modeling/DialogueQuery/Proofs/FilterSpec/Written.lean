import DialogueQuery.FilterSpec.Validation
import DialogueQuery.Proofs.Calendar.Written
import DialogueQuery.Proofs.Document.Members

/-! A specification that is written out field by field is read back as it was,
under whichever of their names the fields are sent and in any order. -/

namespace DialogueQuery

namespace Checked

variable {α β : Type}

theorem seq_eq_valid {f : Checked (α → β)} {a : Checked α} {b : β} :
    f <*> a = .valid b ↔ ∃ g, f = .valid g ∧ ∃ x, a = .valid x ∧ g x = b := by
  change seq f (fun _ => a) = .valid b ↔ _
  cases f <;> cases a <;> simp [seq]

theorem map_eq_valid {f : α → β} {a : Checked α} {b : β} :
    f <$> a = .valid b ↔ ∃ x, a = .valid x ∧ f x = b := by
  change map f a = .valid b ↔ _
  cases a <;> simp [map]

theorem toExcept_eq_ok {c : Checked α} {a : α} : c.toExcept = .ok a ↔ c = .valid a := by
  cases c <;> simp [toExcept]

end Checked

namespace Coercion

variable {α : Type}

/-- What a coercion gives can be written so that it gives the same once more. -/
def Rereads (c : Coercion α) (write : α → Document) : Prop :=
  ∀ d a, c d = .ok a → c (write a) = .ok a

variable {c : Coercion α} {write : α → Document}

theorem rereads_string : Rereads string .str := fun _ _ _ => rfl

theorem rereads_integer : Rereads integer .int := fun _ _ _ => rfl

theorem rereads_number : Rereads number .float := fun _ _ _ => rfl

theorem rereads_boolean : Rereads boolean .bool := fun _ _ _ => rfl

theorem rereads_entry : Rereads entry Entry.toDocument := fun _ e _ => by cases e <;> rfl

theorem rereads_nonEmptyString : Rereads nonEmptyString .str := by
  intro d s h
  cases d with
  | str t =>
    have hs : s = t := by
      simp only [nonEmptyString, string, ok_bind, ofText] at h
      split at h
      · split at h
        · cases h
        · exact (Except.ok.inj h).symm
      · cases h
    exact hs ▸ h
  | _ => cases h

/-- Refusing some of the values leaves the others as they were. -/
theorem rereads_unless (h : Rereads c write) (p : α → Prop) [DecidablePred p] (e : Defect) :
    Rereads (fun d => do
      let a ← c d
      if p a then refuse e else return a) write := by
  intro d a hd
  obtain ⟨b, hb, hd⟩ := bind_eq_ok.mp hd
  by_cases hp : p b
  · rw [if_pos hp] at hd
    cases hd
  · rw [if_neg hp] at hd
    cases hd
    simp only [h d _ hb, ok_bind, if_neg hp, pure_eq_ok]

theorem rereads_pageNumber : Rereads pageNumber .int :=
  rereads_unless rereads_integer (· < 1) .belowOne

theorem rereads_pageSize : Rereads pageSize .int :=
  rereads_unless rereads_integer (fun n => n ≠ unboundedPageSize ∧ n < 1) .pageSize

theorem hasZone_of_dateTime {d : Document} {t : DateTime} (h : dateTime d = .ok t) :
    t.hasZone = true := by
  have hread {r : Except DateTime.ReadError DateTime} (hr : ofDateTimeResult r = .ok t) :
      r = .ok t := by
    cases r with
    | ok t' => cases hr; rfl
    | error cause => cases hr
  have hcounted {x : Option DateTime}
      (hx : x.elim (.error .outOfRange) .ok = (.ok t : Except DateTime.ReadError DateTime)) :
      x = some t := by
    cases x with
    | none => cases hx
    | some t' => exact congrArg some (Except.ok.inj hx)
  cases d with
  | str s =>
    simp only [dateTime, ofText] at h
    split at h
    · exact DateTime.hasZone_of_ofText (hread h)
    · cases h
  | int n =>
    have hn := hread h
    unfold DateTime.ofInt at hn
    split at hn
    · exact DateTime.hasZone_of_ofInstant? (hcounted hn)
    · cases hn
  | float x =>
    obtain ⟨instant, -, hi⟩ := Option.bind_eq_some_iff.mp (hcounted (hread h))
    exact DateTime.hasZone_of_ofInstant? hi
  | _ => cases h

/-- A date may be sent as a count or in many forms; the one it is written in is read. -/
theorem rereads_dateTime : Rereads dateTime fun t => .str t.isoFormat := by
  intro d t h
  simp only [dateTime, ofText, t.isWellFormed_isoFormat, if_true,
    DateTime.ofText_isoFormat (hasZone_of_dateTime h), ofDateTimeResult]

theorem rereads_nullable (h : Rereads c write) (hnull : ∀ a, write a ≠ .null) :
    Rereads (nullable c) (FilterSpec.ofOption write) := by
  have hsome (d : Document) (hd : d ≠ .null) : nullable c d = (c d).map some := by
    cases d <;> first | rfl | exact absurd rfl hd
  intro d a hd
  cases a with
  | none => rfl
  | some a =>
    have hne : d ≠ .null := by
      rintro rfl
      cases hd
    rw [hsome d hne] at hd
    cases hc : c d with
    | error es => rw [hc] at hd; cases hd
    | ok b =>
      rw [hc] at hd
      cases hd
      simp only [FilterSpec.ofOption, hsome _ (hnull _), h d _ hc]
      rfl

theorem items_written (h : Rereads c write) {ds : List Document} {as : List α} {n : Nat}
    (hread : items c n ds = .ok as) : ∀ m, items c m (as.map write) = .ok as := by
  induction ds generalizing as n with
  | nil =>
    cases hread
    exact fun _ => rfl
  | cons d ds ih =>
    intro m
    simp only [items] at hread
    split at hread
    · next a rest hd hrest =>
      cases hread
      simp only [List.map_cons, items, h d a hd, ih hrest]
    all_goals cases hread

theorem rereads_list (h : Rereads c write) :
    Rereads (list c) fun as => .arr (as.map write) := by
  intro d as hd
  cases d with
  | arr ds => exact items_written h hd 0
  | _ => cases hd

end Coercion

namespace FilterSpec

/-- The members of an object give every field of a specification. -/
structure Reads (members : Members) (spec : FilterSpec) : Prop where
  projectId : required members .projectId Coercion.nonEmptyString = .valid spec.projectId
  page : optional members .page 1 Coercion.pageNumber = .valid spec.page
  pageSize : optional members .pageSize 20 Coercion.pageSize = .valid spec.pageSize
  status : optional members .status [] (Coercion.list Coercion.string) = .valid spec.status
  sort : optional members .sort none (Coercion.nullable Coercion.string) = .valid spec.sort
  env : optional members .env (some "development") (Coercion.nullable Coercion.string) =
    .valid spec.env
  lengthBound : optional members .lengthBound none (Coercion.nullable Coercion.integer) =
    .valid spec.lengthBound
  lengthComparison : optional members .lengthComparison none (Coercion.nullable Coercion.string) =
    .valid spec.lengthComparison
  minDuration : optional members .minDuration none (Coercion.nullable Coercion.number) =
    .valid spec.minDuration
  maxDuration : optional members .maxDuration none (Coercion.nullable Coercion.number) =
    .valid spec.maxDuration
  confidenceBound : optional members .confidenceBound none (Coercion.nullable Coercion.number) =
    .valid spec.confidenceBound
  confidenceComparison : optional members .confidenceComparison none
    (Coercion.nullable Coercion.string) = .valid spec.confidenceComparison
  startDate : optional members .startDate none (Coercion.nullable Coercion.dateTime) =
    .valid spec.startDate
  endDate : optional members .endDate none (Coercion.nullable Coercion.dateTime) =
    .valid spec.endDate
  userId : optional members .userId none (Coercion.nullable Coercion.string) = .valid spec.userId
  eventFilterOperator : optional members .eventFilterOperator "or" Coercion.string =
    .valid spec.eventFilterOperator
  eventFilter : optional members .eventFilter [] (Coercion.list Coercion.entry) =
    .valid spec.eventFilter
  userInitiated : optional members .userInitiated none (Coercion.nullable Coercion.boolean) =
    .valid spec.userInitiated
  triggered : optional members .triggered none (Coercion.nullable Coercion.boolean) =
    .valid spec.triggered

/-- A specification is accepted if and only if each of its fields is read. -/
theorem check_eq_valid {members : Members} {spec : FilterSpec} :
    check members = .valid spec ↔ Reads members spec := by
  constructor
  · intro h
    unfold check at h
    iterate 18
      replace h := Checked.seq_eq_valid.mp h
      obtain ⟨_, h, _, _, rfl⟩ := h
    obtain ⟨_, _, rfl⟩ := Checked.map_eq_valid.mp h
    constructor <;> assumption
  · intro h
    simp only [check, h.projectId, h.page, h.pageSize, h.status, h.sort, h.env, h.lengthBound,
      h.lengthComparison, h.minDuration, h.maxDuration, h.confidenceBound, h.confidenceComparison,
      h.startDate, h.endDate, h.userId, h.eventFilterOperator, h.eventFilter, h.userInitiated,
      h.triggered]
    rfl

section

variable {α : Type} {members written : Members} {f : Field} {key : String} {write : α → Document}
  {c : Coercion α} {a default : α}

theorem required_written (hc : c.Rereads write) (hread : required members f c = .valid a)
    (hfind : f.find written = some (key, write a)) : required written f c = .valid a := by
  rw [required] at hread
  rw [required, hfind]
  split at hread
  · next k d _ =>
    cases hd : c d with
    | error es => rw [hd] at hread; cases hread
    | ok b =>
      rw [hd] at hread
      cases hread
      simp only [hc d _ hd, Checked.ofExcept]
  · cases hread

/-- A default that is written is read back like any other value. -/
theorem optional_written (hc : c.Rereads write) (hdefault : c (write default) = .ok default)
    (hread : optional members f default c = .valid a)
    (hfind : f.find written = some (key, write a)) : optional written f default c = .valid a := by
  rw [optional] at hread
  split at hread
  · next k d hd =>
    have hrequired : required members f c = .valid a := by rw [required, hd]; exact hread
    have h := required_written hc hrequired hfind
    rw [required, hfind] at h
    rw [optional, hfind]
    exact h
  · cases hread
    simp only [optional, hfind, hdefault, Checked.ofExcept]

end

namespace Field

/-- A field may be sent under this key. -/
def HasName (f : Field) (key : String) : Prop := key = f.wireName ∨ key = f.name

theorem mem_all (f : Field) : f ∈ all := by
  cases f <;> decide

theorem eq_of_hasName {f g : Field} {key : String} (hf : f.HasName key) (hg : g.HasName key) :
    f = g := by
  have hdistinct : ∀ f ∈ all, ∀ g ∈ all, f ≠ g →
      f.wireName ≠ g.wireName ∧ f.wireName ≠ g.name ∧ f.name ≠ g.name := by decide +kernel
  by_contra hne
  obtain ⟨hww, hwn, hnn⟩ := hdistinct f f.mem_all g g.mem_all hne
  obtain ⟨-, hnw, -⟩ := hdistinct g g.mem_all f f.mem_all (Ne.symm hne)
  rcases hf with rfl | rfl <;> rcases hg with h | h
  · exact hww h
  · exact hwn h
  · exact hnw h.symm
  · exact hnn h

end Field

/-- The members that write a specification, every field under a key of its own. -/
def writing (spec : FilterSpec) (key : Field → String) : Members :=
  Field.all.map fun f => (key f, spec.value f)

section

variable {spec : FilterSpec} {key : Field → String} {unknown written : Members}
  (hkey : ∀ f : Field, f.HasName (key f)) (hunknown : ∀ m ∈ unknown, ∀ f : Field, ¬ f.HasName m.1)
  (hwritten : written.Perm (spec.writing key ++ unknown))
include hkey hunknown hwritten

theorem mem_written {f : Field} {m : String × Document} (hm : m ∈ written)
    (hname : f.HasName m.1) : m = (key f, spec.value f) := by
  rcases List.mem_append.mp (hwritten.mem_iff.mp hm) with h | h
  · obtain ⟨g, -, rfl⟩ := List.mem_map.mp h
    rw [Field.eq_of_hasName hname (hkey g)]
  · exact absurd hname (hunknown m h f)

theorem find_written (f : Field) : f.find written = some (key f, spec.value f) := by
  have hmem : (key f, spec.value f) ∈ written :=
    hwritten.mem_iff.mpr (List.mem_append_left _ (List.mem_map.mpr ⟨f, f.mem_all, rfl⟩))
  have hlookup : written.lookup (key f) = some (spec.value f) :=
    lookup_of_unique hmem fun m hm hn => by
      rw [mem_written hkey hunknown hwritten hm (hn ▸ hkey f)]
  by_cases hwire : key f = f.wireName
  · rw [Field.find, ← hwire, hlookup]
  · have hnone : written.lookup f.wireName = none := by
      refine List.lookup_eq_none_iff.mpr fun m hm => bne_iff_ne.mpr fun hn => hwire ?_
      rw [hn, mem_written hkey hunknown hwritten hm (.inl hn.symm)]
    have hname := (hkey f).resolve_left hwire
    rw [Field.find, hnone, ← hname, hlookup]
    rfl

/-- A specification that is accepted is accepted once more when it is written out: dates
in their calendar form, null for what is not given, every field under one of its
names, in any order and among members that are no fields. It comes back as it was. -/
theorem ofDocument_written {members : Members} (hread : ofDocument (.obj members) = .ok spec) :
    ofDocument (.obj written) = .ok spec := by
  have hfind := find_written hkey hunknown hwritten
  have hr := check_eq_valid.mp (Checked.toExcept_eq_ok.mp hread)
  have hstring := Coercion.rereads_nullable Coercion.rereads_string (by simp)
  have hinteger := Coercion.rereads_nullable Coercion.rereads_integer (by simp)
  have hnumber := Coercion.rereads_nullable Coercion.rereads_number (by simp)
  have hboolean := Coercion.rereads_nullable Coercion.rereads_boolean (by simp)
  have hdateTime := Coercion.rereads_nullable Coercion.rereads_dateTime (by simp)
  refine Checked.toExcept_eq_ok.mpr (check_eq_valid.mpr ?_)
  exact {
    projectId := required_written Coercion.rereads_nonEmptyString hr.projectId (hfind .projectId)
    page := optional_written Coercion.rereads_pageNumber rfl hr.page (hfind .page)
    pageSize := optional_written Coercion.rereads_pageSize rfl hr.pageSize (hfind .pageSize)
    status := optional_written (Coercion.rereads_list Coercion.rereads_string) rfl hr.status
      (hfind .status)
    sort := optional_written hstring rfl hr.sort (hfind .sort)
    env := optional_written hstring rfl hr.env (hfind .env)
    lengthBound := optional_written hinteger rfl hr.lengthBound (hfind .lengthBound)
    lengthComparison := optional_written hstring rfl hr.lengthComparison (hfind .lengthComparison)
    minDuration := optional_written hnumber rfl hr.minDuration (hfind .minDuration)
    maxDuration := optional_written hnumber rfl hr.maxDuration (hfind .maxDuration)
    confidenceBound := optional_written hnumber rfl hr.confidenceBound (hfind .confidenceBound)
    confidenceComparison := optional_written hstring rfl hr.confidenceComparison
      (hfind .confidenceComparison)
    startDate := optional_written hdateTime rfl hr.startDate (hfind .startDate)
    endDate := optional_written hdateTime rfl hr.endDate (hfind .endDate)
    userId := optional_written hstring rfl hr.userId (hfind .userId)
    eventFilterOperator := optional_written Coercion.rereads_string rfl hr.eventFilterOperator
      (hfind .eventFilterOperator)
    eventFilter := optional_written (Coercion.rereads_list Coercion.rereads_entry) rfl
      hr.eventFilter (hfind .eventFilter)
    userInitiated := optional_written hboolean rfl hr.userInitiated (hfind .userInitiated)
    triggered := optional_written hboolean rfl hr.triggered (hfind .triggered) }

end

/-- Members under names of both kinds, with values in other forms than the written one;
of the two page sizes that under the wire name counts. -/
def mixedMembers : Members :=
  [("page_size", .int 7), ("project_id", .str "tours"), ("page", .str "+02"),
    ("pageSize", .float (Binary64.ofInt 50)), ("env", .null),
    ("startDate", .str "2024-03-01t09:30:00,1234567-0730"), ("end_date", .int 1709283600500),
    ("lengthFilter", .str "1_0"), ("x_than_length", .str "equals"),
    ("durationFilterLowerBound", .bool true), ("triggered_conversations", .str "Yes"),
    ("eventFilter", .arr [.str "greet", .obj [("name", .str "book"), ("excluded", .bool false)]])]

/-- Short wire names stay, fields with long ones go by their other name. -/
def shorterKey (f : Field) : String := if f.wireName.length < 9 then f.wireName else f.name

theorem ofDocument_written_mixed : ∃ spec, ofDocument (.obj mixedMembers) = .ok spec ∧
    (spec.page = 2 ∧ spec.pageSize = 50 ∧ spec.env = none ∧
      spec.startDate.map DateTime.isoFormat = some "2024-03-01T09:30:00.123456-07:30" ∧
      spec.endDate.map DateTime.isoFormat = some "2024-03-01T09:00:00.500000+00:00") ∧
    ofDocument (.obj (("comment", .str "next week") :: (spec.writing shorterKey).reverse)) =
      .ok spec := by
  obtain ⟨spec, hread, hvalues⟩ := ok_of_any_toOption (x := ofDocument (.obj mixedMembers))
    (p := fun spec => spec.page = 2 ∧ spec.pageSize = 50 ∧ spec.env = none ∧
      spec.startDate.map DateTime.isoFormat = some "2024-03-01T09:30:00.123456-07:30" ∧
      spec.endDate.map DateTime.isoFormat = some "2024-03-01T09:00:00.500000+00:00")
    (by decide +kernel)
  have hkey (f : Field) : f.HasName (shorterKey f) := by
    unfold shorterKey
    split
    · exact .inl rfl
    · exact .inr rfl
  have hcomment : ∀ f ∈ Field.all, ¬ f.HasName "comment" := by
    unfold Field.HasName
    decide +kernel
  have hunknown : ∀ m ∈ [("comment", Document.str "next week")], ∀ f : Field,
      ¬ f.HasName m.1 := by
    intro m hm f
    rw [List.mem_singleton.mp hm]
    exact hcomment f f.mem_all
  have hwritten : (("comment", Document.str "next week") ::
      (spec.writing shorterKey).reverse).Perm
        (spec.writing shorterKey ++ [("comment", .str "next week")]) :=
    ((List.reverse_perm _).cons _).trans (List.perm_append_singleton _ _).symm
  exact ⟨spec, hread, of_decide_eq_true hvalues,
    ofDocument_written hkey hunknown hwritten hread⟩

end FilterSpec

end DialogueQuery
