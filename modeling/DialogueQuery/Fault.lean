/-! Faults of operations on documents whose shape nobody has checked. -/

namespace DialogueQuery

inductive Fault where
  /-- Two values without an order were compared. -/
  | unordered
  /-- Arithmetic on a value that is no number. -/
  | notNumeric
  /-- A value that is no collection was enumerated, measured or indexed. -/
  | notCollection
  /-- An array or an object was used as a key. -/
  | notKey
  /-- A text operation on a value that is no text. -/
  | notText
  /-- A member was read from a value that has no members. -/
  | notRecord
  /-- A required member or element is absent. -/
  | missingMember
  /-- A text was read as an integer and is none. -/
  | malformedInteger
  /-- A name denotes a setting that is no level. -/
  | notLevel
  | divisionByZero
  /-- A number is too large for its target. -/
  | overflow
  /-- A value is nested too deeply. -/
  | tooDeep
  /-- A closed connection was used. -/
  | noConnection
deriving DecidableEq, Repr

end DialogueQuery
