import DialogueQuery.Store.World

/-! Why an operation of the service fails, and operations that may fail. What
was recorded before a failure stays recorded. -/

namespace DialogueQuery

inductive Failure where
  /-- The specification has no pipeline. -/
  | compile (e : CompileError)
  /-- The database refused an operation; `attempt` tells which. -/
  | store (attempt : String) (cause : Breakdown)
  /-- No conversation has that identifier or sender. -/
  | notFound (who : Document)
  /-- An error below the repositories that is none of the database. -/
  | breakdown (cause : Breakdown)
  /-- An operation on data of the wrong shape. -/
  | fault (f : Fault)
  /-- The answer of the database makes no page. -/
  | invalidPage (errors : List FieldError)
deriving Repr

namespace Failure

/-- What a failed operation was about to do, and why it failed. -/
def storeMessage (attempt : String) (cause : Breakdown) : String := attempt ++ ": " ++ cause.message

def notFoundMessage (who : Document) : String := "Conversation not found: " ++ who.display

inductive Kind where
  | comparison
  | funnel
  | notFound
  | store
deriving DecidableEq, Repr

/-- The name and the text of a failure that has a name. -/
def named? : Failure → Option (Kind × String)
  | compile (.comparison e) => some (.comparison, e.message)
  | compile (.funnel e) => some (.funnel, e.message)
  | notFound who => some (.notFound, notFoundMessage who)
  | store attempt cause => some (.store, storeMessage attempt cause)
  | _ => none

def ofPageError : PageError → Failure
  | .fault f => fault f
  | .invalid errors => invalidPage errors

end Failure

/-- An operation on the world that yields a value or fails. -/
abbrev Action := ExceptT Failure Session

namespace Action

def ofExcept (f : ε → Failure) (r : Except ε α) : Action α := ExceptT.mk (pure (r.mapError f))

def ofFault (r : Except Fault α) : Action α := ofExcept .fault r

def log (component : Component) (level : LogLevel) (message : String) : Action Unit :=
  ExceptT.lift (Session.log component level message)

/-- Hands on what a use of the database yields. An error of the database is
logged and named for what was attempted; any other error passes unlogged. -/
def guarded (component : Component) (logged attempt : String)
    (use : Session (Except Breakdown α)) : Action α := do
  match ← ExceptT.lift use with
  | .ok a => return a
  | .error cause =>
    if cause.ofDatabase then
      log component .error (Failure.storeMessage logged cause)
      throw (.store attempt cause)
    else throw (.breakdown cause)

end Action

end DialogueQuery
