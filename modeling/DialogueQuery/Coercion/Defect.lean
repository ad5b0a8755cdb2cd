import DialogueQuery.Calendar.Text

/-! What can be wrong with a value that was sent, where it stands, and how it
is reported. -/

namespace DialogueQuery

inductive PathStep where
  | key (name : String)
  | index (n : Nat)
deriving DecidableEq, Repr

inductive Defect where
  | missing
  | notString
  /-- A text with a lone half of a surrogate pair. -/
  | notUnicode
  | emptyString
  | notInteger
  | unreadableInteger
  /-- An integer that is too long a text or too large a binary64 number. -/
  | oversizedInteger
  | fraction
  | notFinite
  | belowOne
  | pageSize
  | notNumber
  | unreadableNumber
  | notBoolean
  | unreadableBoolean
  | notList
  | notObject
  | noDateTime (cause : DateTime.ReadError)
  /-- The whole specification is no object. -/
  | noSpecification
  /-- The body of a request is no object. -/
  | noBodyObject
  /-- The body of a request is no JSON text. -/
  | malformedBody
deriving DecidableEq, Repr

def Defect.code : Defect → String
  | missing => "missing"
  | notString => "string_type"
  | notUnicode => "string_unicode"
  | emptyString => "string_too_short"
  | notInteger => "int_type"
  | unreadableInteger => "int_parsing"
  | oversizedInteger => "int_parsing_size"
  | fraction => "int_from_float"
  | notFinite => "finite_number"
  | belowOne => "greater_than_equal"
  | pageSize => "value_error"
  | notNumber => "float_type"
  | unreadableNumber => "float_parsing"
  | notBoolean => "bool_type"
  | unreadableBoolean => "bool_parsing"
  | notList => "list_type"
  | notObject => "dict_type"
  | noDateTime .unreadable => "datetime_from_date_parsing"
  | noDateTime .outOfRange => "datetime_parsing"
  | noDateTime .wrongKind => "datetime_type"
  | noSpecification => "model_type"
  | noBodyObject => "model_attributes_type"
  | malformedBody => "json_invalid"

/-- The message of a defect; those of dates are not part of an answer. -/
def Defect.message? : Defect → Option String
  | missing => "Field required"
  | notString => "Input should be a valid string"
  | notUnicode => "Input should be a valid string, unable to parse raw data as a unicode string"
  | emptyString => "String should have at least 1 character"
  | notInteger => "Input should be a valid integer"
  | unreadableInteger => "Input should be a valid integer, unable to parse string as an integer"
  | oversizedInteger => "Unable to parse input string as an integer, exceeded maximum size"
  | fraction => "Input should be a valid integer, got a number with a fractional part"
  | notFinite => "Input should be a finite number"
  | belowOne => "Input should be greater than or equal to 1"
  | pageSize => "Value error, pageSize must be -1 (unbounded) or a positive integer"
  | notNumber => "Input should be a valid number"
  | unreadableNumber => "Input should be a valid number, unable to parse string as a number"
  | notBoolean => "Input should be a valid boolean"
  | unreadableBoolean => "Input should be a valid boolean, unable to interpret input"
  | notList => "Input should be a valid list"
  | notObject => "Input should be a valid dictionary"
  | noDateTime _ => none
  | noSpecification => "Input should be a valid dictionary or instance of FilterSpec"
  | noBodyObject => "Input should be a valid dictionary or object to extract fields from"
  | malformedBody => "JSON decode error"

structure FieldError where
  path : List PathStep
  defect : Defect
deriving DecidableEq, Repr

/-- The same defect seen from one step further out. -/
def FieldError.under (step : PathStep) (e : FieldError) : FieldError := ⟨step :: e.path, e.defect⟩

end DialogueQuery
