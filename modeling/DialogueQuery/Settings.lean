import DialogueQuery.Coercion.Checked
import DialogueQuery.Environment
import DialogueQuery.Text.Case

/-! The settings of the program, read from the environment. Every one has a
default; the case of the variables' names has no meaning. -/

namespace DialogueQuery

structure Settings where
  host : String := "0.0.0.0"
  portNumber : Int := 7789
  debug : Bool := false
  databaseUri : String := "mongodb://localhost:27017"
  databaseName : String := "bf"
  conversationsCollection : String := "conversations"
  projectsCollection : String := "projects"
  databaseTimeoutMs : Int := 5000
  allowDiskUse : Bool := true
  defaultEnv : String := "development"
  logLevel : String := "INFO"
  logFile : String := "./logs/convquery.log"
deriving DecidableEq, Repr

namespace Settings

/-- The value of a variable; of several spellings of its name the last one counts. -/
def find? (environment : Environment) (name : String) : Option String :=
  environment.reverse.findSome? fun v => if Text.lower v.1 = name then some v.2 else none

def read (environment : Environment) (name : String) (default : α) (c : Coercion α) :
    Checked α :=
  match find? environment name with
  | some s => .ofExcept name (c (.str s))
  | none => .valid default

def ofEnvironment (environment : Environment) : Except (List FieldError) Settings :=
  let default : Settings := {}
  let read {α : Type} := read (α := α) environment
  let checked := Settings.mk
    <$> read "host" default.host Coercion.string
    <*> read "port" default.portNumber Coercion.integer
    <*> read "debug" default.debug Coercion.boolean
    <*> read "mongo_uri" default.databaseUri Coercion.string
    <*> read "mongo_database" default.databaseName Coercion.string
    <*> read "conversations_collection" default.conversationsCollection Coercion.string
    <*> read "projects_collection" default.projectsCollection Coercion.string
    <*> read "mongo_timeout_ms" default.databaseTimeoutMs Coercion.integer
    <*> read "allow_disk_use" default.allowDiskUse Coercion.boolean
    <*> read "default_env" default.defaultEnv Coercion.string
    <*> read "log_level" default.logLevel Coercion.string
    <*> read "log_file" default.logFile Coercion.string
  checked.toExcept

end Settings

end DialogueQuery
