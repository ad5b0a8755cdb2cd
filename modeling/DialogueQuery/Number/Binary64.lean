/-! Binary64 numbers as exact dyadic values: a finite number is a signed
mantissa times a power of two, and every operation is the exact result
rounded to nearest, a tie going to the even mantissa. -/

namespace DialogueQuery

inductive Binary64 where
  | finite (negative : Bool) (mantissa : Nat) (exponent : Int)
  | infinite (negative : Bool)
  | nan
deriving DecidableEq, Repr, Inhabited

def twoPow (e : Int) : Rat :=
  if 0 ≤ e then ((Nat.pow 2 e.toNat : Nat) : Rat) else mkRat 1 (Nat.pow 2 (-e).toNat)

/-- The integer nearest to `num / den`; a tie goes to the even one. -/
def roundHalfEven (num den : Nat) : Nat :=
  let q := num / den
  let r := num % den
  if 2 * r < den then q
  else if den < 2 * r then q + 1
  else if q % 2 = 0 then q else q + 1

/-- The largest `k` with `2 ^ k ≤ num / den`, for positive `num` and `den`. -/
def floorLog2 (num den : Nat) : Int :=
  let k : Int := (num.log2 : Int) - (den.log2 : Int)
  let fits := if 0 ≤ k then den * Nat.pow 2 k.toNat ≤ num else den ≤ num * Nat.pow 2 (-k).toNat
  if fits then k else k - 1

namespace Binary64

def zero : Binary64 := .finite false 0 0

/-- The least exponent of a finite number, that of the subnormal numbers. -/
def minExponent : Int := -1074

/-- The greatest exponent of a finite number with a 53-bit mantissa. -/
def maxExponent : Int := 971

/-- The number nearest to `± num / den`. -/
def ofFraction (negative : Bool) (num den : Nat) : Binary64 :=
  if num = 0 then .finite negative 0 0
  else
    let e := max (floorLog2 num den - 52) minExponent
    let m := if 0 ≤ e then roundHalfEven num (den * Nat.pow 2 e.toNat)
      else roundHalfEven (num * Nat.pow 2 (-e).toNat) den
    let (m, e) := if m = Nat.pow 2 53 then (Nat.pow 2 52, e + 1) else (m, e)
    if maxExponent < e then .infinite negative else .finite negative m e

def ofRat (q : Rat) : Binary64 := ofFraction (q.num < 0) q.num.natAbs q.den

/-- The number nearest to an integer, infinite when it is out of range. -/
def ofInt (n : Int) : Binary64 := ofFraction (n < 0) n.natAbs 1

def toRat? : Binary64 → Option Rat
  | .finite negative m e =>
    let q := (m : Rat) * twoPow e
    some (if negative then -q else q)
  | _ => none

def isNegative : Binary64 → Bool
  | .finite negative _ _ => negative
  | .infinite negative => negative
  | .nan => false

def isPositive : Binary64 → Bool
  | .finite negative m _ => !negative && m != 0
  | .infinite negative => !negative
  | .nan => false

def isZero : Binary64 → Bool
  | .finite _ m _ => m == 0
  | _ => false

def neg : Binary64 → Binary64
  | .finite negative m e => .finite (!negative) m e
  | .infinite negative => .infinite (!negative)
  | .nan => .nan

/-- A zero with the sign that the operands call for, any other number as it is. -/
def withZeroSign (negative : Bool) : Binary64 → Binary64
  | .finite s m e => if m = 0 then .finite negative 0 0 else .finite s m e
  | x => x

def add (x y : Binary64) : Binary64 :=
  match x.toRat?, y.toRat? with
  | some a, some b => (ofRat (a + b)).withZeroSign (x.isNegative && y.isNegative)
  | _, _ =>
    match x, y with
    | .nan, _ | _, .nan => .nan
    | .infinite s, .infinite t => if s = t then .infinite s else .nan
    | .infinite s, _ | _, .infinite s => .infinite s
    | _, _ => .nan

def sub (x y : Binary64) : Binary64 := x.add y.neg

def mul (x y : Binary64) : Binary64 :=
  let sign := x.isNegative != y.isNegative
  match x.toRat?, y.toRat? with
  | some a, some b => (ofRat (a * b)).withZeroSign sign
  | _, _ =>
    match x, y with
    | .nan, _ | _, .nan => .nan
    | _, _ => if x.isZero || y.isZero then .nan else .infinite sign

/-- The integer to which a rounded quotient is close; a zero gets the given sign. -/
def snap (negative : Bool) (x : Binary64) : Binary64 :=
  match x.toRat? with
  | some q =>
    if q = 0 then .finite negative 0 0
    else if q - q.floor ≤ 1 / 2 then ofInt q.floor
    else ofInt (q.floor + 1)
  | none => x

/-- The floor of a quotient; the divisor is not zero. What the dividend exceeds
a multiple of the divisor by is taken off first, and each step is rounded. -/
def floorDiv (x y : Binary64) : Binary64 :=
  let sign := x.isNegative != y.isNegative
  match x.toRat?, y.toRat? with
  | some a, some b =>
    let whole := Int.tdiv (a / b).num (a / b).den
    let excess := a - whole * b
    let quotient := ofRat (((ofRat (a - excess)).toRat?.getD 0) / b)
    let below := excess ≠ 0 ∧ (decide (b < 0) ≠ decide (excess < 0))
    snap sign (if below then quotient.sub (ofInt 1) else quotient)
  | some _, none =>
    match y with
    | .infinite _ => if x.isZero || !sign then .finite sign 0 0 else ofInt (-1)
    | _ => .nan
  | _, _ => .nan

/-- The integer part, the fraction being dropped; no value when not finite. -/
def truncate? (x : Binary64) : Option Int :=
  x.toRat?.map fun q => Int.tdiv q.num q.den

end Binary64

end DialogueQuery
