import DialogueQuery.Document.Compare
import DialogueQuery.Number.Text

/-! Arithmetic on numbers of both kinds: integers stay exact, and one binary64
operand makes the result binary64. -/

namespace DialogueQuery

namespace Numeral

def toDocument : Numeral → Document
  | int n => .int n
  | float x => .float x

/-- The nearest binary64 number; an integer may be out of range. -/
def toBinary64 : Numeral → Except Fault Binary64
  | float x => .ok x
  | int n => match Binary64.ofInt n with
    | .finite s m e => .ok (.finite s m e)
    | _ => .error .overflow

def combine (onInt : Int → Int → Int) (onFloat : Binary64 → Binary64 → Binary64)
    (a b : Numeral) : Except Fault Numeral :=
  match a, b with
  | int m, int n => .ok (int (onInt m n))
  | _, _ => do return float (onFloat (← a.toBinary64) (← b.toBinary64))

end Numeral

namespace Document

def withNumbers (f : Numeral → Numeral → Except Fault Numeral) (a b : Document) :
    Except Fault Document :=
  match a.numeral?, b.numeral? with
  | some x, some y => (f x y).map Numeral.toDocument
  | _, _ => .error .notNumeric

def plus : Document → Document → Except Fault Document :=
  withNumbers (Numeral.combine (· + ·) Binary64.add)

def minus : Document → Document → Except Fault Document :=
  withNumbers (Numeral.combine (· - ·) Binary64.sub)

def times : Document → Document → Except Fault Document :=
  withNumbers (Numeral.combine (· * ·) Binary64.mul)

/-- The floor of a quotient. An operand out of range is noticed before a zero divisor. -/
def quotient : Document → Document → Except Fault Document :=
  withNumbers fun a b => match a, b with
    | .int m, .int n => if n = 0 then .error .divisionByZero else .ok (.int (Int.fdiv m n))
    | _, _ => do
      let x ← a.toBinary64
      let y ← b.toBinary64
      if y.isZero then .error .divisionByZero else .ok (.float (x.floorDiv y))

def negate (d : Document) : Except Fault Document :=
  match d.numeral? with
  | some (.int n) => .ok (int (-n))
  | some (.float x) => .ok (float x.neg)
  | none => .error .notNumeric

/-- The whole part of a number, or the integer that a text writes. -/
def toInteger : Document → Except Fault Int
  | bool b => .ok (if b then 1 else 0)
  | int n => .ok n
  | float (.infinite _) => .error .overflow
  | float x => x.truncate?.elim (.error .malformedInteger) .ok
  | str s => (Text.integerOfAnyScript? s).elim (.error .malformedInteger) .ok
  | _ => .error .notNumeric

def total (items : List Document) : Except Fault Document := items.foldlM plus (int 0)

end Document

end DialogueQuery
