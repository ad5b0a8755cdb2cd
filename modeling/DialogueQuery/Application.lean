import DialogueQuery.Http.Api
import DialogueQuery.Settings
import DialogueQuery.Store.Connection

/-! The application: starting it connects to the database and installs the
service, and stopping it undoes both. -/

namespace DialogueQuery

namespace Application

/-- What the application starts with. Values that it only shows or hands on are
kept as they were given. -/
structure Options where
  host : Document
  portNumber : Document
  database : Connection
  conversations : ConversationStore
  projects : ProjectStore
  defaultEnv : Document
deriving Repr

def Options.ofSettings (s : Settings) : Options where
  host := .str s.host
  portNumber := .int s.portNumber
  database :=
    { uri := .str s.databaseUri, database := .str s.databaseName
      timeoutMs := .int s.databaseTimeoutMs }
  conversations := ⟨s.conversationsCollection, .bool s.allowDiskUse⟩
  projects := ⟨s.projectsCollection⟩
  defaultEnv := .str s.defaultEnv

end Application

structure Application where
  options : Application.Options := .ofSettings {}
  /-- The service and its connection, from a start to the next stop. -/
  running : Option (Service × Connection) := none
deriving Repr

namespace Application

def logInfo (message : String) : Action Unit := Action.log .application .info message

def service? (app : Application) : Option Service := app.running.map (·.1)

/-- Connects and installs the service. A failed start leaves the application as it was. -/
def start (app : Application) : Action Application := do
  let options := app.options
  logInfo "Starting conversation query service..."
  logInfo ("  Host: " ++ options.host.display)
  logInfo ("  Port: " ++ options.portNumber.display)
  logInfo ("  Database: " ++ options.database.database.display)
  logInfo ("  Default env: " ++ options.defaultEnv.display)
  let connection ← options.database.connect
  connection.useDatabase
  connection.useDatabase
  logInfo "Conversation query service started"
  let service : Service := ⟨options.conversations, options.projects, options.defaultEnv.text?⟩
  return { app with running := some (service, connection) }

/-- Removes the service, then closes the connection. -/
def stop (app : Application) : Session Application := do
  match app.running with
  | none => return app
  | some (_, connection) =>
    Session.log .application .info "Shutting down conversation query service..."
    let _ ← connection.close
    return { app with running := none }

def serve (app : Application) (request : Http.Request) : Session Http.Response :=
  Http.Api.serve app.service? request

end Application

end DialogueQuery
