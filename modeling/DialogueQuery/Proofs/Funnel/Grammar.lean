import DialogueQuery.Proofs.Funnel.NameTrees

/-! The entries that are steps of a funnel. Apart from entries that are nested too
deeply, these are the ones with a type and a tree of names of that type. -/

namespace DialogueQuery.Funnel

theorem StepType.ofName?_eq_some {s : String} {type : StepType} :
    ofName? s = some type ↔ s = type.name := by
  constructor
  · intro h
    have hname := List.find?_some h
    exact (beq_iff_eq.mp hname).symm
  · rintro rfl
    cases type <;> decide +kernel

/-- A type is a text that is the name of one, with blanks around it or not. -/
theorem resolveType_eq_ok {raw entry : Document} {type : StepType} :
    resolveType raw entry = .ok type ↔ ∃ s, raw = .str s ∧ Text.strip s = type.name := by
  cases raw with
  | str s =>
    simp only [Document.str.injEq, exists_eq_left', ← StepType.ofName?_eq_some, resolveType]
    cases StepType.ofName? (Text.strip s) <;> simp
  | _ => simp [resolveType]

theorem distinctNames_filter (p : String → Bool) (names : List String) :
    distinctNames (names.filter p) = (distinctNames names).filter p := by
  induction names with
  | nil => rfl
  | cons n ns ih =>
    cases hn : p n with
    | true => simp only [List.filter_cons, hn, if_true, distinctNames, ih, List.filter_filter,
        Bool.and_comm]
    | false =>
      have hskip : ∀ m ∈ distinctNames ns, (p m && decide (m ≠ n)) = p m := by
        intro m _
        by_cases hm : m = n
        · simp [hm, hn]
        · simp [hm]
      rw [List.filter_cons_of_neg (by simp [hn]), ih, distinctNames,
        List.filter_cons_of_neg (by simp [hn]), List.filter_filter, List.filter_congr hskip]

theorem distinctNames_eq_eraseDups (names : List String) :
    distinctNames names = names.eraseDups := by
  induction hlen : names.length using Nat.strong_induction_on generalizing names with
  | _ k ih =>
    cases names with
    | nil => rfl
    | cons n ns =>
      have hlt : (ns.filter (fun m => !m == n)).length < k := by
        rw [← hlen, List.length_cons]
        exact Nat.lt_succ_of_le (List.length_filter_le _ _)
      rw [List.eraseDups_cons, ← ih _ hlt _ rfl, distinctNames_filter, distinctNames]
      congr 2
      funext m
      by_cases hm : m = n <;> simp [hm]

theorem nodup_distinctNames (names : List String) : (distinctNames names).Nodup := by
  induction names with
  | nil => exact List.nodup_nil
  | cons n ns ih =>
    rw [distinctNames, List.nodup_cons]
    exact ⟨by simp, ih.filter _⟩

theorem distinctNames_of_nodup {names : List String} (h : names.Nodup) :
    distinctNames names = names := by
  induction names with
  | nil => rfl
  | cons n ns ih =>
    obtain ⟨hn, hns⟩ := List.nodup_cons.mp h
    have hkept : ∀ m ∈ ns, decide (m ≠ n) = true := by
      intro m hm
      have hne : m ≠ n := fun he => hn (he ▸ hm)
      simpa using hne
    rw [distinctNames, ih hns, List.filter_eq_self.mpr hkept]

/-- An object is marked with a type, blanks around its name ignored. -/
def IsTyped (type : StepType) (members : Members) : Prop :=
  ∃ raw, members.lookup "type" = some (.str raw) ∧ Text.strip raw = type.name

def isFlagged (members : Members) : Bool := (members.lookup "excluded").any Document.isTruthy

/-- An entry names a type and a tree, and tells whether the names in the tree are
excluded: a text by what stands before and after its first colon, an object by its
members. Around the name of an object there may be another one that holds it as
`NOT`, or else as `OR`. -/
inductive Describes (type : StepType) : Document → Document → Bool → Prop
  | text {before name : String} (hcolon : ':' ∉ before.toList)
      (htype : Text.strip before = type.name) :
      Describes type (.str (before ++ ":" ++ name)) (.str name) false
  | negated {members wrapper : Members} {tree : Document} (htype : IsTyped type members)
      (hname : members.lookup "name" = some (.obj wrapper))
      (hnot : wrapper.lookup "NOT" = some tree) : Describes type (.obj members) tree true
  | grouped {members wrapper : Members} {tree : Document} (htype : IsTyped type members)
      (hname : members.lookup "name" = some (.obj wrapper)) (hnot : wrapper.lookup "NOT" = none)
      (hor : wrapper.lookup "OR" = some tree) :
      Describes type (.obj members) tree (isFlagged members)
  | plain {members : Members} {tree : Document} (htype : IsTyped type members)
      (hname : members.lookup "name" = some tree) (hnot : tree.member? "NOT" = none)
      (hor : tree.member? "OR" = none) : Describes type (.obj members) tree (isFlagged members)

/-- The step has the type of the entry and the names in its tree, each of them once. -/
def Step.IsReadFrom (step : Step) (entry : Document) : Prop :=
  ∃ tree, Describes step.type entry tree step.excluded ∧ IsNameTree step.type tree ∧
    step.names = (leaves tree).eraseDups

variable {members : Members} {tree : Document} {excluded : Bool} {type : StepType}

theorem isFlagged_eq (members : Members) :
    ((members.lookup "excluded").getD (.bool false)).isTruthy = isFlagged members := by
  unfold isFlagged
  cases members.lookup "excluded" <;> rfl

/-- The tree of names of an object is the one that it describes. Without a name it
describes none, and null, which is then read in its place, is none. -/
theorem describes_obj (htree : IsNameTree type tree) :
    Describes type (.obj members) tree excluded ↔
      IsTyped type members ∧ nameTree members = (tree, excluded) := by
  constructor
  · intro h
    unfold nameTree
    rw [isFlagged_eq]
    cases h with
    | negated htype hname hnot => simp [htype, hname, Document.member?, hnot]
    | grouped htype hname hnot hor => simp [htype, hname, Document.member?, hnot, hor]
    | plain htype hname hnot hor => simp [htype, hname, hnot, hor]
  · rintro ⟨htype, h⟩
    unfold nameTree at h
    rw [isFlagged_eq] at h
    cases hname : members.lookup "name" with
    | none =>
      rw [hname] at h
      cases h
      cases htree
    | some name =>
      rw [hname] at h
      dsimp only [Option.getD_some] at h
      cases hnot : name.member? "NOT" with
      | some d =>
        cases name with
        | obj wrapper =>
          rw [hnot] at h
          cases h
          exact .negated htype hname hnot
        | _ => cases hnot
      | none =>
        cases hor : name.member? "OR" with
        | some d =>
          cases name with
          | obj wrapper =>
            rw [hnot, hor] at h
            cases h
            exact .grouped htype hname hnot hor
          | _ => cases hor
        | none =>
          rw [hnot, hor] at h
          cases h
          exact .plain htype hname hnot hor

/-- An object is a step if and only if it describes one. -/
theorem ofMembers_eq_ok {step : Step} :
    Step.ofMembers members = .ok step ↔ step.IsReadFrom (.obj members) := by
  constructor
  · intro h
    unfold Step.ofMembers at h
    cases hraw : members.lookup "type" with
    | none =>
      rw [hraw] at h
      cases h
    | some raw =>
      rw [hraw] at h
      obtain ⟨type, htype, h⟩ := bind_eq_ok.mp h
      obtain ⟨names, hnames, h⟩ := bind_eq_ok.mp h
      cases h
      obtain ⟨s, rfl, hs⟩ := resolveType_eq_ok.mp htype
      obtain ⟨htree, rfl⟩ := collectNames_eq_ok.mp hnames
      exact ⟨_, (describes_obj htree).mpr ⟨⟨s, hraw, hs⟩, rfl⟩, htree,
        distinctNames_eq_eraseDups _⟩
  · rintro ⟨tree, hdescribes, htree, hnames⟩
    obtain ⟨⟨raw, hraw, hstrip⟩, hname⟩ := (describes_obj htree).mp hdescribes
    simp only [Step.ofMembers, hraw, hname, resolveType_eq_ok.mpr ⟨raw, rfl, hstrip⟩,
      htree.collectNames_eq, ok_bind, distinctNames_eq_eraseDups, ← hnames]
    rfl

theorem ofText_of_no_colon {s : String} (h : ':' ∉ s.toList) :
    Step.ofText s = .error (.noSeparator (.str s)) := by
  have hall : s.toList.takeWhile (· ≠ ':') = s.toList := by
    refine List.takeWhile_eq_self_iff.mpr fun c hc => ?_
    have hne : c ≠ ':' := fun he => h (he ▸ hc)
    simpa using hne
  simp only [Step.ofText, hall, List.drop_length]
  rfl

theorem ofText_append {before name : String} (h : ':' ∉ before.toList) :
    Step.ofText (before ++ ":" ++ name) = (do
      let type ← resolveType (.str before) (.str (before ++ ":" ++ name))
      let names ← collectNames type (.str (before ++ ":" ++ name)) (.str name)
      return ⟨type, names, false⟩) := by
  have hsplit : (before ++ ":" ++ name).toList = before.toList ++ ':' :: name.toList := by simp
  have hall : ∀ c ∈ before.toList, decide (c ≠ ':') = true := by
    intro c hc
    have hne : c ≠ ':' := fun he => h (he ▸ hc)
    simpa using hne
  have hbefore : (before.toList ++ ':' :: name.toList).takeWhile (· ≠ ':') = before.toList := by
    rw [List.takeWhile_append_of_pos hall]
    simp
  simp only [Step.ofText, hsplit, hbefore, List.drop_left, String.ofList_toList]
  cases resolveType (.str before) (.str (before ++ ":" ++ name)) <;> rfl

/-- A text is a step if and only if a type stands before its first colon, and a name behind that.
-/
theorem ofText_eq_ok {s : String} {step : Step} :
    Step.ofText s = .ok step ↔ step.IsReadFrom (.str s) := by
  constructor
  · intro h
    by_cases hcolon : ':' ∈ s.toList
    · obtain ⟨before, name, hs, hbefore⟩ := List.eq_append_cons_of_mem hcolon
      obtain rfl : s = String.ofList before ++ ":" ++ String.ofList name := by
        refine String.toList_inj.mp ?_
        simp [hs]
      have hbefore : ':' ∉ (String.ofList before).toList := by simpa using hbefore
      rw [ofText_append hbefore] at h
      obtain ⟨type, htype, h⟩ := bind_eq_ok.mp h
      obtain ⟨names, hnames, h⟩ := bind_eq_ok.mp h
      cases h
      obtain ⟨_, hraw, hstrip⟩ := resolveType_eq_ok.mp htype
      cases hraw
      obtain ⟨htree, rfl⟩ := collectNames_eq_ok.mp hnames
      exact ⟨_, .text hbefore hstrip, htree, rfl⟩
    · rw [ofText_of_no_colon hcolon] at h
      cases h
  · rintro ⟨tree, hdescribes, htree, hnames⟩
    obtain ⟨type, names, excluded⟩ := step
    cases hdescribes with
    | text hcolon htype =>
      obtain rfl : names = (leaves _).eraseDups := hnames
      rw [ofText_append hcolon, resolveType_eq_ok.mpr ⟨_, rfl, htype⟩, ok_bind,
        htree.collectNames_eq]
      rfl

theorem ofDocument_eq_ok {entry : Document} {step : Step} :
    Step.ofDocument entry = .ok step ↔ step.IsReadFrom entry := by
  cases entry with
  | str s => rw [Step.ofDocument, ofText_eq_ok]
  | obj members => rw [Step.ofDocument, ofMembers_eq_ok]
  | _ =>
    refine iff_of_false (by simp [Step.ofDocument]) ?_
    rintro ⟨tree, hdescribes, -⟩
    cases hdescribes

theorem one_le_nesting (d : Document) : 1 ≤ nesting d := by
  cases d <;> simp [nesting]

theorem nesting_of_lookup {members : Members} {name : String} {d : Document}
    (h : members.lookup name = some d) : nesting d ≤ nestingOfMembers members := by
  induction members with
  | nil => cases h
  | cons m rest ih =>
    obtain ⟨key, value⟩ := m
    rw [nestingOfMembers]
    rw [List.lookup_cons] at h
    split at h
    · cases h
      exact le_max_left _ _
    · exact (ih h).trans (le_max_right _ _)

theorem nesting_nameTree (members : Members) :
    nesting (nameTree members).1 ≤ nesting (.obj members) := by
  have hname : nesting ((members.lookup "name").getD .null) ≤ nesting (.obj members) := by
    cases h : members.lookup "name" with
    | none => exact one_le_nesting _
    | some name => exact (nesting_of_lookup h).trans (Nat.le_succ _)
  have hinner {key : String} {d : Document}
      (h : ((members.lookup "name").getD .null).member? key = some d) :
      nesting d ≤ nesting (.obj members) := by
    refine le_trans ?_ hname
    revert h
    cases (members.lookup "name").getD .null with
    | obj wrapper => exact fun h => (nesting_of_lookup h).trans (Nat.le_succ _)
    | _ => exact fun h => nomatch h
  unfold nameTree
  dsimp only
  split
  · next hnot => exact hinner hnot
  · next hor => exact hinner hor
  · exact hname

section

variable {entry : Document} {type : StepType}

mutual

theorem overruns_eq_false : (d : Document) → {room : Nat} →
    nesting entry + 2 * nesting d ≤ room → overruns type entry room d = false
  | .arr items, room, h => by
    rw [nesting] at h
    have hentry := one_le_nesting entry
    have hitems : itemsOverrun type entry (room - 2) items = false :=
      itemsOverrun_eq_false items (by omega)
    rw [overruns, hitems]
    simp only [errorOverruns, Bool.or_false, Bool.or_eq_false_iff, decide_eq_false_iff_not,
      Bool.and_eq_false_iff]
    exact ⟨by omega, .inr (by omega)⟩
  | .obj [(key, d)], room, h => by
    simp only [nesting, nestingOfMembers, Nat.max_zero] at h
    have hd : overruns type entry (room - 1) d = false := overruns_eq_false d (by omega)
    rw [overruns, hd]
    split <;> simp only [errorOverruns, Bool.or_false, decide_eq_false_iff_not] <;> omega
  | .str s, room, h => by
    simp only [overruns, errorOverruns, Bool.and_eq_false_iff, decide_eq_false_iff_not]
    exact .inr (by omega)
  | .obj [], room, h | .obj (_ :: _ :: _), room, h | .null, room, h | .bool _, room, h
  | .int _, room, h | .float _, room, h | .objectId _, room, h => by
    simp only [overruns, errorOverruns, decide_eq_false_iff_not]
    omega

theorem itemsOverrun_eq_false : (ds : List Document) → {room : Nat} →
    nesting entry + 2 * nestingOfItems ds ≤ room → itemsOverrun type entry room ds = false
  | [], _, _ => rfl
  | d :: ds, room, h => by
    rw [nestingOfItems] at h
    have hd : overruns type entry room d = false := overruns_eq_false d (by omega)
    have hds : itemsOverrun type entry room ds = false := itemsOverrun_eq_false ds (by omega)
    rw [itemsOverrun, hd, hds]
    simp

end

end

theorem itemsOverrun_ofStrings (type : StepType) (entry : Document) (room : Nat)
    {names : List String} (h : ∀ n ∈ names, Text.strip n ≠ "") :
    itemsOverrun type entry room (names.map .str) = false := by
  induction names with
  | nil => rfl
  | cons n ns ih =>
    obtain ⟨hn, hns⟩ := List.forall_mem_cons.mp h
    simp [itemsOverrun, overruns, hn, ih hns]

theorem overruns_ofStrings (type : StepType) (entry : Document) {room : Nat} (hroom : 2 ≤ room)
    {names : List String} (hne : names ≠ []) (h : ∀ n ∈ names, Text.strip n ≠ "") :
    overruns type entry room (.ofStrings names) = false := by
  have hitems := itemsOverrun_ofStrings type entry (room - 2) h
  have hfits : ¬room < 2 := by omega
  simp [Document.ofStrings, overruns, hitems, hfits, hne]

theorem isTooDeep_obj {type : StepType} {members : Members} (h : IsTyped type members)
    (room : Nat) : isTooDeep room (.obj members) =
      overruns type (.obj members) room (nameTree members).1 := by
  obtain ⟨raw, hraw, hstrip⟩ := h
  have htype : resolveType (.str raw) (.obj members) = .ok type :=
    resolveType_eq_ok.mpr ⟨raw, rfl, hstrip⟩
  simp only [isTooDeep, hraw, Option.map_some, htype]

/-- There is room for all that is nested no deeper than a third of it. -/
theorem isTooDeep_eq_false {entry : Document} {room : Nat} (h : 3 * nesting entry ≤ room) :
    isTooDeep room entry = false := by
  have herror : errorOverruns entry room = false := by
    simp only [errorOverruns, decide_eq_false_iff_not]
    omega
  cases entry with
  | obj members =>
    have htree := nesting_nameTree members
    unfold isTooDeep
    dsimp only
    split
    · exact overruns_eq_false _ (by omega)
    · exact herror
  | _ => exact herror

/-- What becomes of an entry for which there is some room. -/
structure Resolves (room : Nat) (entry : Document) : Prop where
  accepted (step : Step) : isTooDeep room entry = false →
    (stepWithin room entry = .ok step ↔ step.IsReadFrom entry)
  refused : isTooDeep room entry = false → (¬ ∃ step : Step, step.IsReadFrom entry) →
    ∃ e, stepWithin room entry = .error (.compile (.funnel e))
  tooDeep : isTooDeep room entry = true → stepWithin room entry = .error (.fault .tooDeep)
  fits : 3 * nesting entry ≤ room → isTooDeep room entry = false
  named (step : Step) : stepWithin room entry = .ok step →
    step.names ≠ [] ∧ step.names.Nodup ∧ ∀ n ∈ step.names, n ≠ "" ∧ Text.strip n = n

/-- An entry for which there is room is read as if there were no end to it. -/
theorem stepWithin_eq_ok {room : Nat} {entry : Document} {step : Step} :
    stepWithin room entry = .ok step ↔ isTooDeep room entry = false ∧ step.IsReadFrom entry := by
  unfold stepWithin
  cases isTooDeep room entry with
  | true => simp
  | false => simp [mapError_eq_ok, ofDocument_eq_ok]

/-- A step has names, each of them once, trimmed and not empty. -/
theorem Step.IsReadFrom.named {step : Step} {entry : Document} (h : step.IsReadFrom entry) :
    step.names ≠ [] ∧ step.names.Nodup ∧ ∀ n ∈ step.names, n ≠ "" ∧ Text.strip n = n := by
  obtain ⟨tree, -, htree, hnames⟩ := h
  rw [hnames]
  refine ⟨?_, ?_, fun n hn => htree.of_mem_leaves n (List.mem_eraseDups.mp hn)⟩
  · obtain ⟨n, ns, hleaves⟩ := List.exists_cons_of_ne_nil htree.leaves_ne_nil
    rw [hleaves, List.eraseDups_cons]
    exact List.cons_ne_nil _ _
  · rw [← distinctNames_eq_eraseDups]
    exact nodup_distinctNames _

/-- An entry for which there is room is a step if and only if it describes one, and
otherwise an error tells why it is none. There is room for every entry that is
nested less than a third as deep. -/
theorem entry_resolves (room : Nat) (entry : Document) : Resolves room entry where
  accepted step hdepth := by simp [stepWithin_eq_ok, hdepth]
  refused hdepth hnone := by
    cases hstep : stepWithin room entry with
    | ok step => exact absurd ⟨step, (stepWithin_eq_ok.mp hstep).2⟩ hnone
    | error e =>
      rw [stepWithin, hdepth] at hstep
      obtain ⟨cause, -, rfl⟩ := mapError_eq_error.mp hstep
      exact ⟨cause, rfl⟩
  tooDeep hdepth := by rw [stepWithin, if_pos hdepth]
  fits := isTooDeep_eq_false
  named step hstep := (stepWithin_eq_ok.mp hstep).2.named

def groupedMembers : Members :=
  [("name", .obj [("OR", .str "c"),
      ("NOT", .arr [.str " a", .arr [.obj [("action", .str "b ")]], .str "a"])]),
    ("excluded", .int 0), ("type", .str "action ")]

/-- The group that excludes goes before the other one, and a name counts once. -/
theorem entry_resolves_grouped :
    stepWithin 986 (.obj groupedMembers) = .ok ⟨.action, ["a", "b"], true⟩ := by
  have htype : IsTyped .action groupedMembers := ⟨"action ", rfl, by decide +kernel⟩
  have hfirst : IsNameTree .action (.str " a") := .text (by decide +kernel)
  have hlast : IsNameTree .action (.str "a") := .text (by decide +kernel)
  have hgroup : IsNameTree .action (.str "b ") := .text (by decide +kernel)
  have hmember : IsNameTree .action (.obj [("action", .str "b ")]) := hgroup.member
  have hinner : IsNameTree .action (.arr [.obj [("action", .str "b ")]]) :=
    .array (List.cons_ne_nil _ _) (by simpa using hmember)
  have htree : IsNameTree .action
      (.arr [.str " a", .arr [.obj [("action", .str "b ")]], .str "a"]) :=
    .array (List.cons_ne_nil _ _) (by simpa using ⟨hfirst, hinner, hlast⟩)
  have hroom : isTooDeep 986 (.obj groupedMembers) = false :=
    (entry_resolves 986 (.obj groupedMembers)).fits (by decide)
  have hread : Step.IsReadFrom ⟨.action, ["a", "b"], true⟩ (.obj groupedMembers) :=
    ⟨_, .negated htype rfl rfl, htree, by decide +kernel⟩
  exact ((entry_resolves 986 (.obj groupedMembers)).accepted _ hroom).mpr hread

def wrapped (d : Document) : Nat → Document
  | 0 => d
  | n + 1 => .arr [wrapped d n]

theorem isNameTree_wrapped {type : StepType} {d : Document} (h : IsNameTree type d) (n : Nat) :
    IsNameTree type (wrapped d n) := by
  induction n with
  | zero => exact h
  | succ n ih => exact .array (List.cons_ne_nil _ _) (by simpa using ih)

theorem leaves_wrapped (d : Document) (n : Nat) : leaves (wrapped d n) = leaves d := by
  induction n with
  | zero => rfl
  | succ n ih => rw [wrapped, leaves, leavesOfItems, ih, leavesOfItems, List.append_nil]

theorem overruns_wrapped (type : StepType) (entry d : Document) {n room : Nat}
    (h : room < 2 * n) : overruns type entry room (wrapped d n) = true := by
  induction n generalizing room with
  | zero => omega
  | succ n ih =>
    by_cases hr : room < 2
    · simp [wrapped, overruns, hr]
    · simp [wrapped, overruns, itemsOverrun, ih (show room - 2 < 2 * n by omega)]

/-- A name within more arrays than there is room for. -/
def wrappedEntry : Document :=
  .obj [("type", .str "intent"), ("name", wrapped (.str "greet") 600)]

/-- The entry describes a step, but it is not read. -/
theorem wrappedEntry_unread :
    Step.IsReadFrom ⟨.intent, ["greet"], false⟩ wrappedEntry ∧
      stepWithin 986 wrappedEntry = .error (.fault .tooDeep) := by
  have hstrip : Text.strip "greet" = "greet" := by decide +kernel
  have hintent : Text.strip "intent" = StepType.intent.name := by decide +kernel
  constructor
  · refine ⟨wrapped (.str "greet") 600, .plain ⟨"intent", rfl, hintent⟩ rfl rfl rfl,
      isNameTree_wrapped (.text (by simp [hstrip])) 600, ?_⟩
    rw [leaves_wrapped, leaves, hstrip]
    rfl
  · have hdeep : isTooDeep 986 wrappedEntry = true := by
      rw [wrappedEntry, isTooDeep_obj ⟨"intent", rfl, hintent⟩]
      exact overruns_wrapped .intent _ (.str "greet") (by decide)
    rw [stepWithin, if_pos hdeep]

end DialogueQuery.Funnel
