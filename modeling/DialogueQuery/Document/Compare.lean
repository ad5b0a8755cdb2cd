import DialogueQuery.Document.Basic

/-! Equality and order of documents. Truth values count as the integers 0 and
1, integers and binary64 numbers are compared exactly, texts by code point,
arrays by their first unequal items; every other pair is only equal or not. -/

namespace DialogueQuery

/-- A number of either kind. -/
inductive Numeral where
  | int (n : Int)
  | float (x : Binary64)
deriving DecidableEq, Repr

namespace Numeral

/-- Where a number stands in the order: finite numbers by their exact value
between the two infinities. That which is no number has no place. -/
def position? : Numeral → Option (Int × Rat)
  | int n => some (0, n)
  | float .nan => none
  | float (.infinite negative) => some (if negative then -1 else 1, 0)
  | float x => x.toRat?.map fun q => (0, q)

def compare? (a b : Numeral) : Option Ordering :=
  match a.position?, b.position? with
  | some p, some q =>
    some (if p.1 < q.1 then .lt else if q.1 < p.1 then .gt
      else if p.2 < q.2 then .lt else if q.2 < p.2 then .gt else .eq)
  | _, _ => none

end Numeral

inductive Relation where
  | atLeast
  | atMost
  | below
deriving DecidableEq, Repr

def Relation.admits : Relation → Ordering → Bool
  | .atLeast, o => o != .lt
  | .atMost, o => o != .gt
  | .below, o => o == .lt

namespace Document

/-- A number, or a truth value as the integer 0 or 1. -/
def numeral? : Document → Option Numeral
  | bool b => some (.int (if b then 1 else 0))
  | int n => some (.int n)
  | float x => some (.float x)
  | _ => none

def equalNumbers (a b : Document) : Bool :=
  match a.numeral?, b.numeral? with
  | some x, some y => x.compare? y == some .eq
  | _, _ => false

mutual

/-- Equality; the order of the members of an object has no meaning. -/
def equal : Document → Document → Bool
  | null, b => b.isNull
  | str s, b => match b with
    | str t => s == t
    | _ => false
  | objectId s, b => match b with
    | objectId t => s == t
    | _ => false
  | arr xs, b => match b with
    | arr ys => equalItems xs ys
    | _ => false
  | obj xs, b => match b with
    | obj ys => xs.length == ys.length && includedMembers xs ys
    | _ => false
  | bool p, b => equalNumbers (bool p) b
  | int n, b => equalNumbers (int n) b
  | float x, b => equalNumbers (float x) b

def equalItems : List Document → List Document → Bool
  | [], ys => ys.isEmpty
  | x :: xs, ys => match ys with
    | [] => false
    | y :: ys => equal x y && equalItems xs ys

/-- Every member has an equal one of the same name on the other side. -/
def includedMembers : List (String × Document) → List (String × Document) → Bool
  | [], _ => true
  | (k, v) :: xs, ys => (match ys.lookup k with
    | some w => equal v w
    | none => false) && includedMembers xs ys

end

instance : BEq Document := ⟨equal⟩

mutual

def holds (r : Relation) : Document → Document → Except Fault Bool
  | arr xs, b => match b with
    | arr ys => holdsItems r xs ys
    | _ => .error .unordered
  | str s, b => match b with
    | str t => .ok (r.admits (Text.order s t))
    | _ => .error .unordered
  | a, b => match a.numeral?, b.numeral? with
    | some x, some y => .ok ((x.compare? y).any r.admits)
    | _, _ => .error .unordered

/-- The first unequal items decide, then the lengths. -/
def holdsItems (r : Relation) : List Document → List Document → Except Fault Bool
  | [], ys => .ok (r.admits (if ys.isEmpty then .eq else .lt))
  | x :: xs, ys => match ys with
    | [] => .ok (r.admits .gt)
    | y :: ys => if equal x y then holdsItems r xs ys else holds r x y

end

def isAmong (d : Document) (items : List Document) : Bool := items.any (equal d)

/-- Continues a run while every item is below the one before it, or while none
is. Also gives the items after the run. -/
def extendRun (falling : Bool) (last : Document) :
    List Document → Except Fault (List Document × List Document)
  | [] => .ok ([], [])
  | x :: xs => do
    if (← holds .below x last) = falling then
      let (run, rest) ← extendRun falling x xs
      return (x :: run, rest)
    else return ([], x :: xs)

/-- The ascending run that the items begin with, and the items after it. A
falling run is turned around. -/
def leadingRun : List Document → Except Fault (List Document × List Document)
  | a :: b :: items => do
    let falling ← holds .below b a
    let (run, rest) ← extendRun falling b items
    let run := a :: b :: run
    return (if falling then run.reverse else run, rest)
  | items => .ok (items, [])

/-- Where a value goes among ascending items, from `low` up to `high`: after the
items that it is not below. Each comparison halves the range. -/
def insertionPoint (d : Document) (items : List Document) (low high : Nat) : Except Fault Nat :=
  if low < high then do
    let middle := (low + high) / 2
    if ← holds .below d (items.getD middle null) then insertionPoint d items low middle
    else insertionPoint d items (middle + 1) high
  else .ok low
termination_by high - low

def insertAscending (items : List Document) (d : Document) : Except Fault (List Document) := do
  return items.insertIdx (← insertionPoint d items 0 items.length) d

/-- Ascending order; equal items keep their order. Which pairs are compared
counts, because not every pair can be. -/
def sorted (items : List Document) : Except Fault (List Document) := do
  let (run, rest) ← leadingRun items
  rest.foldlM insertAscending run

/-- The smaller of two values, the first one when they are equal. -/
def minimum (a b : Document) : Except Fault Document := do
  return if ← holds .below b a then b else a

end Document

end DialogueQuery
