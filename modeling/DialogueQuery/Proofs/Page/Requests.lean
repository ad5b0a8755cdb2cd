import Mathlib.Data.Rat.Floor
import DialogueQuery.Page
import DialogueQuery.Proofs.Aggregation.Stages
import DialogueQuery.Proofs.Document.Members
import DialogueQuery.Proofs.Document.Numbers
import DialogueQuery.Proofs.Page.Order
import DialogueQuery.Proofs.Page.Slices

/-! Pages of a sorted list. Every page is asked for on its own, and the store may
enumerate the documents in another order each time. -/

namespace DialogueQuery

theorem Coercion.items_object (cs : List Members) (n : Nat) :
    Coercion.items Coercion.object n (cs.map .obj) = .ok cs := by
  induction cs generalizing n with
  | nil => rfl
  | cons c cs ih => simp [Coercion.items, Coercion.object, ih]

namespace ConversationPage

theorem ofParts_objects (cs : List Members) (pages : Int) :
    ofParts (.arr (cs.map .obj)) (.int pages) = .ok ⟨cs, pages⟩ := by
  simp only [ofParts, Coercion.list, Coercion.items_object]
  rfl

def facetResult (cs : List Members) (counts : List Document) : Document :=
  .arr [.obj [("conversations", .arr (cs.map .obj)), ("pages", .arr counts)]]

theorem ofResults_unbounded {cs : List Members} (hcs : cs ≠ []) (counts : List Document) :
    ofResults (facetResult cs counts) (.int unboundedPageSize) = .ok ⟨cs, 1⟩ := by
  obtain ⟨c, cs, rfl⟩ := List.exists_cons_of_ne_nil hcs
  exact ofParts_objects (c :: cs) 1

/-- The number of pages is the quotient rounded up. -/
theorem pageCount_int (total : Int) {size : Nat} (hs : 1 ≤ size) :
    pageCount (.int total) (.int size) = .ok (.int ⌈(total : ℚ) / size⌉) := by
  have hz : size ≠ 0 := by omega
  have hq : (Document.int (-total)).quotient (.int size) = .ok (.int ((-total).fdiv size)) := by
    simp [Document.quotient, Document.withNumbers, Document.numeral?, Numeral.toDocument, hz,
      Except.map]
  rw [Rat.ceil_intCast_div_natCast, ← Int.fdiv_eq_ediv_of_nonneg _ (Int.natCast_nonneg size)]
  simp only [pageCount, Document.negate, Document.numeral?, ok_bind, hq]

theorem ofResults_bounded {cs : List Members} (hcs : cs ≠ []) (total : Nat) {size : Nat}
    (hs : 1 ≤ size) :
    ofResults (facetResult cs [.single Page.totalName (.int total)]) (.int size) =
      .ok ⟨cs, ⌈(total : ℚ) / size⌉⟩ := by
  obtain ⟨c, cs, rfl⟩ := List.exists_cons_of_ne_nil hcs
  have hu : (Document.int size).equal (.int unboundedPageSize) = false := by
    rw [Document.equal_int_int, beq_eq_false_iff_ne]
    exact fun h => by simp only [unboundedPageSize] at h; omega
  have hr : ofResults (facetResult (c :: cs) [.single Page.totalName (.int total)]) (.int size) =
      (pageCount (.int total) (.int size)).mapError .fault >>=
        ofParts (.arr ((c :: cs).map .obj)) := by
    unfold ofResults
    simp only [facetResult, hu]
    rfl
  rw [hr, pageCount_int total hs]
  exact ofParts_objects (c :: cs) ⌈(total : ℚ) / size⌉

end ConversationPage

namespace Page

/-- The page that the facet cuts out of the documents, shaped. -/
def paged (m : StoreModel) (page size : Int) (docs : List Members) :
    Except PageError ConversationPage := do
  let results ← (m.run [facetStage page size] (docs.map .obj)).mapError .fault
  ConversationPage.ofResults (.arr results) (.int size)

/-- One request: the documents as the store enumerates them this time are sorted,
the facet is applied, and its output is shaped. -/
def request (m : StoreModel) (sort : Document) (page size : Int) (enumeration : List Members) :
    Except PageError ConversationPage := do
  let results ← (m.run [sortStage sort, facetStage page size]
    (enumeration.map .obj)).mapError .fault
  ConversationPage.ofResults (.arr results) (.int size)

/-- The answers by page number, when the pages are cut from this list. -/
structure Paginates (S : List Members) (size : Nat) (answer : Nat → ConversationPage) : Prop where
  slice (page : Nat) : 1 ≤ page →
    (answer page).conversations = (S.drop ((min page size - 1) * size)).take size
  count : (answer 1).pages = ⌈(S.length : ℚ) / size⌉
  joined : ((List.range' 1 (answer 1).pages.toNat).flatMap fun page =>
    (answer page).conversations) = S ↔ (answer 1).pages ≤ size
  reach : (answer 1).pages ≤ size ↔ S.length ≤ size * size
  repeated (page : Nat) : size < page → answer page = answer size

/-- The list is what every request for a page of these documents is served from. -/
structure ServedFrom (m : StoreModel) (sort : Document) (docs S : List Members) : Prop where
  perm : S.Perm docs
  sorted : (S.map Document.obj).Pairwise fun a b => m.precedes (askedKeys sort) a b = true
  same {enumeration : List Members} : enumeration.Perm docs →
    m.run [sortStage sort] (enumeration.map .obj) = .ok (S.map .obj)
  bounded {size : Nat} {enumerate : Nat → List Members} : 1 ≤ size →
    (∀ page, (enumerate page).Perm docs) → ∃ answer : Nat → ConversationPage,
      (∀ page : Nat, 1 ≤ page →
        request m sort page size (enumerate page) = .ok (answer page)) ∧
        Paginates S size answer
  noLimit (page : Int) : facetStage page (-1) = facetOf [.skip (.int 0)]
  unbounded (page : Int) {enumeration : List Members} : enumeration.Perm docs →
    request m sort page (-1) enumeration = .ok ⟨S, if S.isEmpty then 0 else 1⟩

/-- Skipping and limiting shows one page of the list. -/
theorem run_slices {size page : Nat} (hs : 1 ≤ size) (hp : 1 ≤ page) (S : List Document) :
    (slices page size).foldl Slice.run S = shown S size page := by
  have hu : ¬ (size : Int) = unboundedPageSize := by simp only [unboundedPageSize]; omega
  have hlt : unboundedPageSize < (size : Int) := by simp only [unboundedPageSize]; omega
  have hskip : ((boundedNumber page size - 1) * size).toNat = (min page size - 1) * size := by
    rw [boundedNumber, if_pos hlt, min_comm, ← Nat.cast_min,
      ← Nat.cast_one, ← Nat.cast_sub (by omega), ← Nat.cast_mul, Int.toNat_natCast]
  simp only [slices, if_neg hu, List.foldl_cons, List.foldl_nil, Slice.run, hskip,
    Int.toNat_natCast, shown]

def answer (S : List Members) (size page : Nat) : ConversationPage :=
  ⟨shown S size page, if (shown S size page).isEmpty then 0 else ⌈(S.length : ℚ) / size⌉⟩

section

variable (m : StoreModel) (docs : List Members)

theorem paged_eq (page size : Int) {cs : List Members}
    (hcs : (slices page size).foldl Slice.run (docs.map .obj) = cs.map .obj) :
    paged m page size docs = ConversationPage.ofResults
      (ConversationPage.facetResult cs (Slice.run (docs.map .obj) (.count totalName)))
      (.int size) := by
  have hf : m.run [facetStage page size] (docs.map .obj) = .ok [.obj [("conversations",
      .arr (cs.map .obj)), ("pages", .arr (Slice.run (docs.map .obj) (.count totalName)))]] := by
    rw [← hcs]
    rfl
  rw [paged, hf]
  rfl

theorem paged_bounded {size page : Nat} (hs : 1 ≤ size) (hp : 1 ≤ page) :
    paged m page size docs = .ok (answer docs size page) := by
  have hcs : (slices page size).foldl Slice.run (docs.map .obj) =
      (shown docs size page).map Document.obj := by
    simp only [run_slices hs hp, shown, List.map_drop, List.map_take]
  rw [paged_eq m docs page size hcs, answer]
  by_cases he : shown docs size page = []
  · rw [he]
    rfl
  · have hne : docs ≠ [] := by
      intro h
      exact he (by simp [shown, h])
    have hcount : Slice.run (docs.map .obj) (.count totalName) =
        [.single totalName (.int docs.length)] := by
      simp [Slice.run, hne]
    rw [hcount, ConversationPage.ofResults_bounded he docs.length hs]
    simp [he]

theorem paged_unbounded (page : Int) :
    paged m page unboundedPageSize docs = .ok ⟨docs, if docs.isEmpty then 0 else 1⟩ := by
  rw [paged_eq m docs page unboundedPageSize rfl]
  by_cases he : docs = []
  · subst he
    rfl
  · rw [ConversationPage.ofResults_unbounded he]
    simp [he]

end

section

variable {m : StoreModel} {sort : Document} {enumeration S : List Members}
variable (hS : m.run [sortStage sort] (enumeration.map .obj) = .ok (S.map .obj))
include hS

theorem request_eq_paged (page size : Int) :
    request m sort page size enumeration = paged m page size S := by
  have hr : m.run [sortStage sort, facetStage page size] (enumeration.map .obj) =
      m.run [facetStage page size] (S.map .obj) := by
    rw [← ok_bind (S.map Document.obj) (m.run [facetStage page size]), ← hS]
    exact m.run_append [sortStage sort] [facetStage page size] _
  rw [request, hr, paged]

theorem request_bounded {size page : Nat} (hs : 1 ≤ size) (hp : 1 ≤ page) :
    request m sort page size enumeration = .ok (answer S size page) :=
  (request_eq_paged hS page size).trans (paged_bounded m S hs hp)

theorem request_unbounded (page : Int) :
    request m sort page unboundedPageSize enumeration =
      .ok ⟨S, if S.isEmpty then 0 else 1⟩ :=
  (request_eq_paged hS page _).trans (paged_unbounded m S page)

end

theorem answer_pages_one (S : List Members) {size : Nat} (hs : 1 ≤ size) :
    (answer S size 1).pages = ⌈(S.length : ℚ) / size⌉ := by
  cases S with
  | nil => simp [answer, shown]
  | cons c S =>
    have hne : shown (c :: S) size 1 ≠ [] := by
      simp [shown, List.take_eq_nil_iff]
      omega
    simp [answer, hne]

theorem paginates_answer {S : List Members} (hd : S.Nodup) {size : Nat} (hs : 1 ≤ size) :
    Paginates S size (answer S size) := by
  have hpages := ceil_le_iff hs S.length
  have hle : (answer S size 1).pages ≤ size ↔ ⌈(S.length : ℚ) / size⌉.toNat ≤ size := by
    rw [answer_pages_one S hs, Int.toNat_le]
  constructor
  · exact fun page _ => rfl
  · exact answer_pages_one S hs
  · rw [hle, answer_pages_one S hs]
    exact flatMap_shown_eq_iff hd hs hpages
  · rw [hle]
    exact hpages size
  · intro page hlt
    simp only [answer, shown_of_le hlt.le]

def inOrder (m : StoreModel) (sort : Document) (docs : List Members) : List Members :=
  docs.mergeSort fun a b => m.precedes (askedKeys sort) (.obj a) (.obj b)

theorem map_inOrder (m : StoreModel) (sort : Document) (docs : List Members) :
    (inOrder m sort docs).map Document.obj =
      (docs.map .obj).mergeSort (m.precedes (askedKeys sort)) :=
  List.map_mergeSort fun _ _ _ _ => rfl

section

variable {m : StoreModel} (ho : m.IsOrdered) (sort : Document) {docs : List Members}
variable (hd : m.DistinctIds (docs.map .obj))
include ho hd

theorem run_sortStage {enumeration : List Members} (hp : enumeration.Perm docs) :
    m.run [sortStage sort] (enumeration.map .obj) =
      .ok ((inOrder m sort docs).map .obj) := by
  have hid : ("_id", 1) ∈ sortKeys (SortOrder.ofDocument? sort) :=
    List.mem_append_right _ (List.mem_singleton_self _)
  rw [sortKeys_eq] at hid
  rw [map_inOrder, ← StoreModel.mergeSort_eq_of_perm ho hd (hp.map Document.obj) hid, sortStage,
    sortKeys_eq]
  rfl

theorem nodup_inOrder : (inOrder m sort docs).Nodup :=
  (List.mergeSort_perm docs _).nodup_iff.mpr (hd.nodup ho).of_map

/-- Whatever order the store enumerates the documents in, their sorted list is
the same, and every page is a slice of it. All pages together give it back
exactly if there are no more pages than the page size. -/
theorem servedFrom_inOrder : ServedFrom m sort docs (inOrder m sort docs) where
  perm := List.mergeSort_perm docs _
  sorted := by
    rw [map_inOrder]
    exact StoreModel.pairwise_mergeSort_precedes ho _ _
  same := run_sortStage ho sort hd
  bounded {size enumerate} hs hp :=
    ⟨answer (inOrder m sort docs) size,
      fun page hpage => request_bounded (run_sortStage ho sort hd (hp page)) hs hpage,
      paginates_answer (nodup_inOrder ho sort hd) hs⟩
  noLimit _ := rfl
  unbounded page {_} hp := request_unbounded (run_sortStage ho sort hd hp) page

end

def integerRank : Document → Int
  | .int n => n
  | _ => 0

def byIntegers : StoreModel := ⟨.collecting, fun a b => integerRank a ≤ integerRank b⟩

theorem servedFrom_inOrder_integers :
    ServedFrom byIntegers (.str "updatedAt_DESC")
      [[("_id", .int 2), ("updatedAt", .int 7)], [("_id", .int 1), ("updatedAt", .int 7)],
        [("_id", .int 3)]]
      (inOrder byIntegers (.str "updatedAt_DESC")
        [[("_id", .int 2), ("updatedAt", .int 7)], [("_id", .int 1), ("updatedAt", .int 7)],
          [("_id", .int 3)]]) :=
  servedFrom_inOrder
    { total := fun a b => by simpa [byIntegers] using le_total _ _
      trans := fun hab hbc => by
        simp only [byIntegers, decide_eq_true_eq] at *
        exact hab.trans hbc }
    _ (by decide)

end Page

end DialogueQuery
