import DialogueQuery.Failure
import DialogueQuery.Http.Target

/-! The routes: which operation a method and a path ask for. Routes are tried
in order; the first one that fits the path alone decides when no method fits. -/

namespace DialogueQuery.Http

inductive Route where
  | query
  | report
  | intents
  | conversation
  | explain
  | health
deriving DecidableEq, Repr

inductive Segment where
  | fixed (name : String)
  /-- Any text that is not empty. -/
  | parameter
deriving DecidableEq, Repr

namespace Route

def all : List Route := [query, report, intents, conversation, explain, health]

def method : Route → String
  | query => "POST"
  | report => "POST"
  | intents => "GET"
  | conversation => "GET"
  | explain => "POST"
  | health => "GET"

def base : List Segment := [.fixed "api", .fixed "v1", .fixed "conversations"]

def segments : Route → List Segment
  | query => base ++ [.fixed "query"]
  | report => base ++ [.fixed "funnel"]
  | intents => base ++ [.parameter, .fixed "intents"]
  | conversation => base ++ [.parameter, .parameter]
  | explain => base ++ [.parameter, .parameter, .fixed "explain"]
  | health => [.fixed "health"]

/-- The kinds of failures that a route expects from its operation. -/
def expected : Route → List Failure.Kind
  | query => [.comparison, .funnel, .store]
  | report => [.comparison, .funnel, .store]
  | intents => [.store]
  | conversation => [.notFound, .store]
  | explain => [.comparison, .funnel, .notFound, .store]
  | health => []

/-- Matches the parts of a path and collects the parameters. After a fixed
segment at the end a single line feed is ignored. -/
def matchSegments : List Segment → List (List Char) → Option (List String)
  | [], [] => some []
  | [.fixed name], [part] =>
    if part = name.toList ∨ part = name.toList ++ ['\n'] then some [] else none
  | .fixed name :: segments, part :: parts =>
    if part = name.toList then matchSegments segments parts else none
  | .parameter :: segments, part :: parts =>
    if part = [] then none
    else (matchSegments segments parts).map (Text.ofChars part :: ·)
  | _, _ => none

/-- The parameters of a path that fits the route. -/
def parameters? (r : Route) (path : List Char) : Option (List String) :=
  match path with
  | '/' :: rest => matchSegments r.segments (rest.splitOn '/')
  | _ => none

end Route

inductive Destination where
  | route (r : Route) (parameters : List String)
  /-- The path has a route, but for another method. -/
  | otherMethod (allowed : String)
  /-- The path has a route when slashes at its end are dropped or one is added. -/
  | redirect (path : List Char)
  | nowhere
deriving DecidableEq, Repr

namespace Destination

def dropSlashes (path : List Char) : List Char := (path.reverse.dropWhile (· = '/')).reverse

/-- The path with its slashes at the end dropped, or with one if it has none. -/
def otherEnd (path : List Char) : List Char :=
  if path.getLast? = some '/' then dropSlashes path else path ++ ['/']

def fits (path : List Char) (r : Route) : Bool := (r.parameters? path).isSome

def find (method : String) (path : List Char) : Destination :=
  let fitting := Route.all.filter (fits path)
  match fitting.find? (·.method == method), fitting with
  | some r, _ => route r ((r.parameters? path).getD [])
  | none, r :: _ => otherMethod r.method
  | none, [] =>
    if path ≠ ['/'] ∧ Route.all.any (fits (otherEnd path)) then redirect (otherEnd path)
    else nowhere

end Destination

end DialogueQuery.Http
