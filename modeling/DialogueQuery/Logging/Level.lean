import DialogueQuery.Document.Literal
import DialogueQuery.Text.Case

/-! The levels of log records: numbers, some of which have names. -/

namespace DialogueQuery

inductive LogLevel where
  | notSet
  | debug
  | info
  | warning
  | error
  | critical
deriving DecidableEq, Repr

namespace LogLevel

def all : List LogLevel := [notSet, debug, info, warning, error, critical]

def name : LogLevel → String
  | notSet => "NOTSET"
  | debug => "DEBUG"
  | info => "INFO"
  | warning => "WARNING"
  | error => "ERROR"
  | critical => "CRITICAL"

def number : LogLevel → Int
  | notSet => 0
  | debug => 10
  | info => 20
  | warning => 30
  | error => 40
  | critical => 50

def unnamed (level : String) : String := "Level " ++ level

def nameOf (n : Int) : String :=
  match all.find? (·.number == n) with
  | some l => l.name
  | none => unnamed (toString n)

def otherNames : List (String × LogLevel) := [("WARN", warning), ("FATAL", critical)]

/-- Names of settings that are no levels, and what is wrong with them as such. -/
def reservedNames : List (String × Fault) :=
  [("BASIC_FORMAT", .notLevel), ("_STYLES", .notNumeric)]

/-- The level that a name asks for, its case ignored; an unknown name asks for `INFO`. -/
def ofName (s : String) : Except Fault LogLevel :=
  let s := Text.upper s
  match reservedNames.lookup s with
  | some f => .error f
  | none => .ok (((all.find? (·.name == s)).or (otherNames.lookup s)).getD info)

/-- Only a text names a level. -/
def ofDocument : Document → Except Fault LogLevel
  | .str s => ofName s
  | _ => .error .notText

end LogLevel

end DialogueQuery
