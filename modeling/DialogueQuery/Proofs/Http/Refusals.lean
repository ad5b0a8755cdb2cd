import DialogueQuery.Http.SpecBody
import DialogueQuery.Proofs.FilterSpec.Errors

/-! A body that is no specification is answered with what is wrong with it, if the
values at fault can be shown. -/

namespace DialogueQuery

theorem Document.areJson_eq_all (ds : List Document) : areJson ds = ds.all isJson := by
  induction ds with
  | nil => rfl
  | cons d ds ih => rw [areJson, ih, List.all_cons]

namespace Http

namespace Response

theorem json_of_isJson (status : Nat) {d : Document} (h : d.isJson = true) :
    json status d = ⟨status, .json d, none, none⟩ := by
  rw [json, if_pos h]

theorem isJson_single_detail {d : Document} (h : d.isJson = true) :
    (Document.single "detail" d).isJson = true := by
  have hname : Text.isWellFormed "detail" = true := Text.isWellFormed_ofList rfl
  simp [Document.single, Document.isJson, Document.membersAreJson, h, hname]

/-- A response that says why there is no other. -/
def saying (status : Nat) (text : String) : Response :=
  ⟨status, .json (.single "detail" (.str text)), none, none⟩

theorem detail_eq_saying (status : Nat) {text : String} (h : Text.isWellFormed text = true) :
    detail status (.str text) = saying status text :=
  json_of_isJson status (isJson_single_detail h)

theorem detail_of_unsendable (status : Nat) {text : String} (h : Text.isWellFormed text = false) :
    detail status (.str text) = internalError := by
  rw [detail, json, if_neg]
  simp [Document.single, Document.isJson, Document.membersAreJson, h]

theorem isJson_code (defect : Defect) : (Document.str defect.code).isJson = true := by
  cases defect with
  | noDateTime cause => cases cause <;> exact Text.isWellFormed_ofList rfl
  | _ => exact Text.isWellFormed_ofList rfl

theorem isJson_message {defect : Defect} {message : String} (h : defect.message? = some message) :
    (Document.str message).isJson = true := by
  cases defect <;> cases h <;> exact Text.isWellFormed_ofList rfl

theorem isJson_ofFieldError {e : FieldError} (h : e.isPlain = true) :
    (ofFieldError e).isJson = true := by
  have hpath : (Document.arr (e.path.map ofStep)).isJson = true := by
    rw [Document.isJson, Document.areJson_eq_all, List.all_map]
    refine List.all_eq_true.mpr fun step hs => ?_
    have hstep := List.all_eq_true.mp h step hs
    cases step with
    | key name => exact hstep
    | index n => rfl
  have hnames : Text.isWellFormed "type" = true ∧ Text.isWellFormed "loc" = true ∧
      Text.isWellFormed "msg" = true :=
    ⟨Text.isWellFormed_ofList rfl, Text.isWellFormed_ofList rfl, Text.isWellFormed_ofList rfl⟩
  have hcode := isJson_code e.defect
  cases hm : e.defect.message? with
  | none =>
    simp only [ofFieldError, hm, Option.map_none, Option.toList_none, List.append_nil,
      Document.isJson, Document.membersAreJson, Bool.and_eq_true]
    exact ⟨⟨hnames.1, hcode⟩, ⟨hnames.2.1, hpath⟩, trivial⟩
  | some message =>
    simp only [ofFieldError, hm, Option.map_some, Option.toList_some, List.cons_append,
      List.nil_append, Document.isJson, Document.membersAreJson, Bool.and_eq_true]
    exact ⟨⟨hnames.1, hcode⟩, ⟨hnames.2.1, hpath⟩, ⟨hnames.2.2, isJson_message hm⟩, trivial⟩

def errorsShown (errors : List FieldError) : Document :=
  .single "detail" (.arr ((errors.map (FieldError.under (.key "body"))).map ofFieldError))

theorem refused_of_isPlain {errors : List FieldError} (h : errors.all FieldError.isPlain = true) :
    refused errors = ⟨422, .json (errorsShown errors), none, none⟩ := by
  refine json_of_isJson 422 (isJson_single_detail ?_)
  rw [Document.isJson, Document.areJson_eq_all, List.all_map, List.all_map]
  refine List.all_eq_true.mpr fun e he => isJson_ofFieldError ?_
  have hbody : (PathStep.key "body").isPlain = true := Text.isWellFormed_ofList rfl
  exact FieldError.isPlain_under hbody (List.all_eq_true.mp h e he)

end Response

namespace SpecBody

theorem plain_check (d : Option Document) : Plain (check d) := by
  unfold check
  split
  · exact .error rfl
  · exact FilterSpec.plain_ofDocument _
  · exact .error rfl

/-- The values at fault can be written, and are not nested too deeply for that. -/
def areShown (d : Option Document) (errors : List FieldError) : Bool :=
  errors.all fun e => (subject (d.getD .null) e.path).isJson &&
    (subject (d.getD .null) e.path).depth ≤ 965

/-- A refused specification is answered with the errors of its fields, unless what they show
cannot be sent. -/
theorem refusal_of_check {d : Option Document} {errors : List FieldError}
    (h : check d = .error errors) : refusal d errors =
      if areShown d errors then ⟨422, .json (Response.errorsShown errors), none, none⟩
      else Response.internalError := by
  rw [← Response.refused_of_isPlain (plain_check d errors h)]
  rfl

/-- A body that cannot be read is told so. -/
theorem status_response (e : ReadError) : e.response.status = 422 ∨ e.response.status = 400 := by
  cases e with
  | malformed position =>
    refine .inl ?_
    rw [ReadError.response, Response.refused_of_isPlain rfl]
  | unreadable =>
    refine .inr ?_
    rw [ReadError.response, Response.detail_eq_saying 400 (Text.isWellFormed_ofList rfl)]
    rfl

end SpecBody

end Http

end DialogueQuery
