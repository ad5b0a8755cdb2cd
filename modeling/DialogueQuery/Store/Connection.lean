import DialogueQuery.Failure

/-! The connection to the database server: it is checked when it is made, and
closing it a second time does nothing. -/

namespace DialogueQuery

/-- A connection with the values that it was given; nobody has checked them. -/
structure Connection where
  uri : Document := .str "mongodb://localhost:27017"
  database : Document := .str "bf"
  timeoutMs : Document := .int 5000
  /-- The client, until the connection is closed. -/
  client : Option Nat := none
deriving Repr

namespace Connection

def isOpen (c : Connection) : Bool := c.client.isSome

def refused : String := "Failed to connect to MongoDB"

/-- Closes a client that turned out useless when the error is one of the database. -/
def checked (client : Nat) : Session (Except Breakdown Unit) := do
  match ← Session.ping client with
  | .ok _ => return .ok ()
  | .error cause =>
    if cause.ofDatabase then Session.record (.close client)
    return .error cause

def connect (c : Connection) : Action Connection := do
  let client ← Action.guarded .connection refused refused (Session.connect c.uri c.timeoutMs)
  Action.guarded .connection refused refused (checked client)
  Action.log .connection .info ("Connected to MongoDB database '" ++ c.database.display ++ "'")
  return { c with client := some client }

/-- Takes over a client that was made elsewhere; the server is not asked. -/
def withClient (c : Connection) (client : Nat) : Connection := { c with client := some client }

def useDatabase (c : Connection) : Action Unit :=
  match c.client with
  | some client => ExceptT.lift (Session.record (.useDatabase client c.database))
  | none => throw (.fault .noConnection)

def close (c : Connection) : Session Connection := do
  match c.client with
  | some client =>
    Session.record (.close client)
    Session.log .connection .info "MongoDB connection closed"
    return { c with client := none }
  | none => return c

end Connection

end DialogueQuery
