import DialogueQuery.Document.Arithmetic
import DialogueQuery.Funnel.Step

/-! The report of a funnel: how many conversations reached each of its steps,
from the number of conversations by the progress they made. -/

namespace DialogueQuery.Funnel

/-- Notes a count under its progress; a later count replaces an earlier one. -/
def putCount (progress count : Int) : List (Int × Int) → List (Int × Int)
  | [] => [(progress, count)]
  | (p, n) :: rest =>
    if p = progress then (p, count) :: rest else (p, n) :: putCount progress count rest

/-- The conversations that got at least that far. -/
def reachedAtLeast (counts : List (Int × Int)) (progress : Int) : Int :=
  (counts.filter fun c => progress ≤ c.1).foldr (fun c total => c.2 + total) 0

/-- Each label with the number of conversations that reached its step; the
first step is reached by a progress of one. -/
def stepCounts (counts : List (Int × Int)) (steps : List Step) : List (String × Int) :=
  steps.zipIdx.map fun (step, i) => (step.label, reachedAtLeast counts (i + 1))

/-- Notes a count under a value of any kind. Equal keys are one key, and a
collection is none. -/
def putCountOf (progress count : Document) :
    List (Document × Document) → Except Fault (List (Document × Document)) :=
  let rec put : List (Document × Document) → List (Document × Document)
    | [] => [(progress, count)]
    | (p, n) :: rest => if p.equal progress then (p, count) :: rest else (p, n) :: put rest
  fun counts => match progress with
    | .arr _ => .error .notKey
    | .obj _ => .error .notKey
    | _ => .ok (put counts)

def countsOfPairs (pairs : List (Document × Document)) :
    Except Fault (List (Document × Document)) :=
  pairs.foldlM (fun counts pair => putCountOf pair.1 pair.2 counts) []

def reachedAtLeastOf (counts : List (Document × Document)) (progress : Int) :
    Except Fault Document :=
  counts.foldlM (fun sum c => do
    if ← c.1.holds .atLeast (.int progress) then sum.plus c.2 else return sum) (.int 0)

def stepCountsOf (counts : List (Document × Document)) (steps : List Step) :
    Except Fault (List (String × Document)) :=
  steps.zipIdx.mapM fun (step, i) => do
    return (step.label, ← reachedAtLeastOf counts (i + 1))

end DialogueQuery.Funnel
