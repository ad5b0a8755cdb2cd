import DialogueQuery.Proofs.Aggregation.Reads

/-! The view of a document in which the texts that are only data cannot be told
apart. Everything else is in view: kinds, order, names, numbers, and the texts that
are evaluated. -/

namespace DialogueQuery.Document

/-- Where a value stands in a pipeline. A text is evaluated in an expression; in a
query it is a value, unless the query contains an expression. -/
inductive Place where
  | expression
  | query
  | quoted
deriving DecidableEq

namespace Place

def under (name : String) : Place → Place
  | expression => if name = "$literal" then quoted else expression
  | query => if name = "$expr" ∨ name = "$where" then expression else query
  | quoted => quoted

end Place

mutual

/-- The document with every text left out that is not evaluated at its place. -/
def mask (place : Place) : Document → Document
  | .str s => .str (if place = .expression then s else "")
  | .arr items => .arr (maskItems place items)
  | .obj members => .obj (maskMembers place members)
  | d => d

def maskItems (place : Place) : List Document → List Document
  | [] => []
  | d :: ds => mask place d :: maskItems place ds

def maskMembers (place : Place) : List (String × Document) → List (String × Document)
  | [] => []
  | (name, d) :: ms => (name, mask (place.under name) d) :: maskMembers place ms

end

theorem maskItems_eq_map (place : Place) (ds : List Document) :
    maskItems place ds = ds.map (mask place) := by
  induction ds with
  | nil => rfl
  | cons d ds ih => rw [maskItems, ih, List.map_cons]

theorem names_maskMembers (place : Place) (ms : Members) :
    (maskMembers place ms).map Prod.fst = ms.map Prod.fst := by
  induction ms with
  | nil => rfl
  | cons m ms ih => rw [maskMembers, List.map_cons, ih, List.map_cons]

/-- Of texts that are data, only the number is in view. -/
theorem mask_ofStrings {place : Place} (h : place ≠ .expression) (ss : List String) :
    mask place (ofStrings ss) = .arr (List.replicate ss.length (.str "")) := by
  rw [ofStrings, mask, maskItems_eq_map, List.map_map, ← List.map_const']
  congr 1
  refine List.map_congr_left fun s _ => ?_
  rw [Function.comp_apply, mask, if_neg h]

mutual

/-- Masking the data of an expression leaves the paths that are read in it. -/
theorem pathFields_mask : ∀ d : Document, (d.mask .expression).pathFields = d.pathFields
  | .str _ => rfl
  | .arr items => pathFieldsOfItems_mask items
  | .obj members => pathFieldsOfMembers_mask members
  | .null | .bool _ | .int _ | .float _ | .objectId _ => rfl

theorem pathFieldsOfItems_mask : ∀ ds : List Document,
    pathFieldsOfItems (maskItems .expression ds) = pathFieldsOfItems ds
  | [] => rfl
  | d :: ds => by
    rw [maskItems, pathFieldsOfItems, pathFields_mask d, pathFieldsOfItems_mask ds,
      pathFieldsOfItems]

theorem pathFieldsOfMembers_mask : ∀ ms : List (String × Document),
    pathFieldsOfMembers (maskMembers .expression ms) = pathFieldsOfMembers ms
  | [] => rfl
  | (name, d) :: ms => by
    rw [maskMembers, pathFieldsOfMembers, pathFieldsOfMembers_mask ms, pathFieldsOfMembers]
    by_cases hname : name = "$literal"
    · rw [if_pos hname, if_pos hname]
    · rw [Place.under, if_neg hname, if_neg hname, if_neg hname, pathFields_mask d]

end

mutual

/-- What a query is on stands in its names, which are in view at every place. -/
theorem queryFields_mask : ∀ (place : Place) (d : Document),
    (d.mask place).queryFields = d.queryFields
  | place, .arr items => queryFieldsOfItems_mask place items
  | place, .obj members => queryFieldsOfMembers_mask place members
  | _, .str _ | _, .null | _, .bool _ | _, .int _ | _, .float _ | _, .objectId _ => rfl

theorem queryFieldsOfItems_mask : ∀ (place : Place) (ds : List Document),
    queryFieldsOfItems (maskItems place ds) = queryFieldsOfItems ds
  | _, [] => rfl
  | place, d :: ds => by
    rw [maskItems, queryFieldsOfItems, queryFields_mask place d, queryFieldsOfItems_mask place ds,
      queryFieldsOfItems]

theorem queryFieldsOfMembers_mask : ∀ (place : Place) (ms : List (String × Document)),
    queryFieldsOfMembers (maskMembers place ms) = queryFieldsOfMembers ms
  | _, [] => rfl
  | place, (name, d) :: ms => by
    rw [maskMembers, queryFieldsOfMembers, queryFields_mask (place.under name) d,
      queryFieldsOfMembers_mask place ms, queryFieldsOfMembers]

end

end DialogueQuery.Document
