import DialogueQuery.Logging.Files
import DialogueQuery.Logging.Level

/-! Loggers form a tree by the dots in their names. A record passes when its
level reaches that of its logger, or of the nearest logger above that has one,
and goes to the handlers of that logger and of those above. -/

namespace DialogueQuery

/-- Where records of a level are written to. -/
inductive Handler where
  | console (level : Int)
  | file (location : Location) (level : Int)
deriving DecidableEq, Repr

def Handler.level : Handler → Int
  | console level => level
  | file _ level => level

structure Logger where
  level : Int := 0
  handlers : List Handler := []
deriving DecidableEq, Repr

/-- All loggers in the order in which they were first asked for, and the files
they wrote to. -/
structure Loggers where
  loggers : List (String × Logger) := []
  files : Files := {}
  /-- The application logger, once it is set up. -/
  application : Option String := none
deriving DecidableEq, Repr

inductive LoggerError where
  | fault (f : Fault)
  | file (e : FileError)
deriving DecidableEq, Repr

/-- An operation on the loggers; what was changed before an error stays. -/
abbrev LoggerAction := ExceptT LoggerError (StateM Loggers)

namespace Loggers

def rootName : String := "root"

def canonicalName (name : String) : String := if name = "" then rootName else name

def nameOf (d : Document) : Except Fault String :=
  match d with
  | .str s => .ok (canonicalName s)
  | d => if d.isTruthy then .error .notCollection else .ok rootName

/-- A logger that nobody has set up is silent on its own; the root is at `WARNING`. -/
def logger (s : Loggers) (name : String) : Logger :=
  (s.loggers.lookup name).getD
    (if name = rootName then { level := LogLevel.warning.number } else {})

def isThere (s : Loggers) (name : String) : Bool := (s.loggers.lookup name).isSome

/-- A logger keeps its place; a new one goes last. -/
def setLogger (s : Loggers) (name : String) (l : Logger) : Loggers :=
  { s with loggers :=
      if s.isThere name then s.loggers.map fun x => if x.1 = name then (name, l) else x
      else s.loggers ++ [(name, l)] }

def update (s : Loggers) (name : String) (f : Logger → Logger) : Loggers :=
  s.setLogger name (f (s.logger name))

/-- Makes sure that a logger is there; from then on it is above others. -/
def enroll (s : Loggers) (name : String) : Loggers := s.update name id

/-- What stands before the dots of a name that is read from its end, the longest
first. A dot that stands right before another one is passed over. -/
def beforeDots : List Char → List (List Char)
  | '.' :: c :: rest => (c :: rest).reverse :: beforeDots rest
  | _ :: rest => beforeDots rest
  | [] => []

def wasBefore (s : Loggers) (first second : String) : Bool :=
  (s.loggers.takeWhile (·.1 != second)).any (·.1 == first)

/-- A new logger takes its place between the loggers below it and those above them.
It passes over a logger whose parent has a name that begins with the new one's,
because that parent counts as lying between them. The root may be such a parent. -/
def isPassedOver (s : Loggers) (name parent : String) : Bool :=
  parent.toList.isPrefixOf rootName.toList && s.wasBefore name parent

def parent? (s : Loggers) (name : String) : Option String :=
  (((beforeDots name.toList.reverse).map String.ofList).find? s.isThere).filter fun parent =>
    !s.isPassedOver name parent

/-- The loggers above a name from the nearest one on, apart from the root.
Every name is shorter than the one before it, which bounds their number. -/
def lineage (s : Loggers) : Nat → String → List String
  | 0, _ => []
  | fuel + 1, name => match s.parent? name with
    | some p => p :: lineage s fuel p
    | none => []

/-- A name and the loggers above it; the root comes last. -/
def line (s : Loggers) (name : String) : List String :=
  if name = rootName then [name] else name :: s.lineage name.length name ++ [rootName]

def effectiveLevel (s : Loggers) (name : String) : Int :=
  (((s.line name).map fun n => (s.logger n).level).find? (· != 0)).getD 0

/-- Whether the records of a logger reach the handlers above it. -/
def propagates (name : String) : Bool := name.toList.contains '.'

def reached : List String → List String
  | [] => []
  | name :: rest => name :: if propagates name then reached rest else []

def handlersFor (s : Loggers) (name : String) : List Handler :=
  (reached (s.line name)).flatMap fun n => (s.logger n).handlers

end Loggers

namespace LoggerAction

def ofFault (r : Except Fault α) : LoggerAction α := ExceptT.mk (pure (r.mapError .fault))

def onFiles (action : FileAction α) : LoggerAction α := do
  let s ← get
  let (result, files) := action.run.run s.files
  set { s with files }
  match result with
  | .ok a => return a
  | .error e => throw (.file e)

def addHandler (name : String) (h : Handler) : LoggerAction Unit :=
  modify fun s => s.update name fun l => { l with handlers := l.handlers ++ [h] }

def pathIn? (file : Document) : Except Fault (Option String) :=
  match file with
  | .str s => .ok (if s = "" then none else some s)
  | d => if d.isTruthy then .error .notCollection else .ok none

/-- Sets the level of a logger, and gives it its handlers if it has none. -/
def setup (name : String) (level file : Document) : LoggerAction Unit := do
  modify fun s => s.enroll name
  let level := (← ofFault (LogLevel.ofDocument level)).number
  modify fun s => s.update name fun l => { l with level }
  if ((← get).logger name).handlers.isEmpty then
    addHandler name (.console level)
    match ← ofFault (pathIn? file) with
    | some path => addHandler name (.file (← onFiles (FileAction.openFile path)) level)
    | none => return

def applicationName : String := "convquery"

def setupApplication (level file : Document) : LoggerAction Unit := do
  setup applicationName level file
  modify fun s => { s with application := some applicationName }

/-- The name of the application logger or of one below it. Before the
application logger is set up, it is given the default level each time. -/
def applicationLogger (component : Document) : LoggerAction String := do
  if (← get).application.isNone then setup applicationName (.str LogLevel.info.name) .null
  let base := (← get).application.getD applicationName
  if !component.isTruthy then return base
  match component with
  | .str c =>
    let name := base ++ "." ++ c
    modify fun s => s.enroll name
    return name
  | _ => throw (.fault .notCollection)

/-- The level of a record, which has to be an integer, and how it is written. -/
def recordLevel : Document → Except Fault (Int × String)
  | .int n => .ok (n, LogLevel.nameOf n)
  | .bool b => .ok (if b then 1 else 0, LogLevel.unnamed (Document.bool b).literal)
  | _ => .error .notNumeric

def recordText (name levelName message : String) : String :=
  " - " ++ name ++ " - " ++ levelName ++ " - " ++ message

/-- Writes a record to one handler; a file takes only texts that can be encoded. -/
def write (level : Int) (text : String) (files : Files) : Handler → Files
  | .console _ => files
  | .file location l =>
    if l ≤ level ∧ Text.isWellFormed text then files.append location text else files

/-- Writes a record; a level that is not positive is never written. -/
def log (name : String) (level message : Document) : LoggerAction Unit := do
  modify fun s => s.enroll name
  let (level, levelName) ← ofFault (recordLevel level)
  let s ← get
  if 0 < level ∧ s.effectiveLevel name ≤ level then
    let text := recordText name levelName message.display
    set { s with files := (s.handlersFor name).foldl (write level text) s.files }

end LoggerAction

end DialogueQuery
