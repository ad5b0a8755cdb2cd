import DialogueQuery.Logging.Level
import DialogueQuery.Pipeline

/-! What a run can be seen to do: the calls that reach the database, the log
records, and the answers that the database has prepared. -/

namespace DialogueQuery

/-- An error raised below the repositories, by the database or by anything else. -/
structure Breakdown where
  kind : String
  message : String
  ofDatabase : Bool
deriving DecidableEq, Repr

/-- A use of the database. Clients are numbered in the order in which they are made. -/
inductive Call where
  /-- A client is made, with one timeout for choosing a server and for connecting. -/
  | connect (uri timeoutMs : Document)
  | ping (client : Nat)
  | useDatabase (client : Nat) (name : Document)
  | close (client : Nat)
  | aggregate (collection : String) (pipeline : Pipeline) (allowDiskUse : Document)
  | findOne (collection : String) (query : Members) (projection : Option Members)
  | distinct (collection key : String) (query : Members)

inductive Component where
  | application
  | connection
  | query
  | repository
deriving DecidableEq, Repr

def Component.loggerName : Component → String
  | application => "convquery"
  | connection => "convquery.db"
  | query => "convquery.query"
  | repository => "convquery.repository"

structure LogRecord where
  component : Component
  level : LogLevel
  message : String
deriving DecidableEq, Repr

/-- What one aggregation yields: documents, and an error that may follow them. -/
structure AggregateOutcome where
  documents : List Document := []
  error : Option Breakdown := none

/-- The answers that a collection has prepared. -/
structure Collection where
  /-- The outcomes of the aggregations to come, in order. -/
  aggregates : List AggregateOutcome := []
  documents : List Document := []
  lookupError : Option Breakdown := none
  distinct : Except Breakdown (List Document) := .ok []

/-- The answers of a database: of its collections, and of connecting to it. -/
structure Script where
  collections : List (String × Collection) := []
  connectError : Option Breakdown := none
  pingError : Option Breakdown := none

structure World where
  script : Script
  /-- The collections as they stand after the calls so far. -/
  collections : List (String × Collection)
  calls : List Call := []
  logs : List LogRecord := []
  /-- How many clients have been made. -/
  clients : Nat := 0

def World.ofScript (script : Script) : World :=
  { script, collections := script.collections }

abbrev Session := StateM World

namespace Session

def record (c : Call) : Session Unit := modify fun w => { w with calls := w.calls ++ [c] }

def log (component : Component) (level : LogLevel) (message : String) : Session Unit :=
  modify fun w => { w with logs := w.logs ++ [⟨component, level, message⟩] }

/-- Makes a client. The collections then answer from the start of their scripts. -/
def makeClient : Session (Except Breakdown Nat) := do
  let w ← get
  match w.script.connectError with
  | some cause => return .error cause
  | none =>
    set { w with collections := w.script.collections, clients := w.clients + 1 }
    return .ok w.clients

def connect (uri timeoutMs : Document) : Session (Except Breakdown Nat) := do
  record (.connect uri timeoutMs)
  makeClient

def ping (client : Nat) : Session (Except Breakdown Unit) := do
  record (.ping client)
  return ((← get).script.pingError).elim (.ok ()) .error

def collection (name : String) : Session Collection := do
  return ((← get).collections.lookup name).getD {}

/-- Replaces what a collection has prepared. -/
def setCollection (name : String) (c : Collection) : Session Unit :=
  modify fun w => { w with
    collections := w.collections.map fun e => if e.1 = name then (name, c) else e }

/-- Runs an aggregation. Its outcome is used up, and an error voids the
documents that came before it. -/
def aggregate (name : String) (pipeline : Pipeline) (allowDiskUse : Document) :
    Session (Except Breakdown (List Document)) := do
  record (.aggregate name pipeline allowDiskUse)
  let c ← collection name
  match c.aggregates with
  | [] => return .ok []
  | outcome :: rest =>
    setCollection name { c with aggregates := rest }
    return match outcome.error with
      | some e => .error e
      | none => .ok outcome.documents

/-- Whether every path of a query leads to the wanted value. -/
def meets (query : List (List String × Document)) (d : Document) : Bool :=
  query.all fun q => (d.follow q.1).equal q.2

def findOne (name : String) (query : List (List String × Document))
    (projection : Option Members) : Session (Except Breakdown (Option Document)) := do
  record (.findOne name (query.map fun q => (Expr.pathText q.1, q.2)) projection)
  let c ← collection name
  return match c.lookupError with
    | some e => .error e
    | none => .ok (c.documents.find? (meets query))

def distinct (name key : String) (query : Members) :
    Session (Except Breakdown (List Document)) := do
  record (.distinct name key query)
  return (← collection name).distinct

end Session

end DialogueQuery
