import DialogueQuery.Number.Binary64

/-! Binary64 numbers in decimal: reading digits with an exponent, the
shortest digits that read back, and their written form. -/

namespace DialogueQuery

/-- `digits * 10 ^ exponent`, the value of a decimal numeral without its sign. -/
structure Decimal where
  digits : Nat
  exponent : Int
deriving DecidableEq, Repr

namespace Decimal

def width (n : Nat) : Nat := if n = 0 then 0 else (Nat.toDigits 10 n).length

def fraction (d : Decimal) : Nat × Nat :=
  if 0 ≤ d.exponent then (d.digits * Nat.pow 10 d.exponent.toNat, 1)
  else (d.digits, Nat.pow 10 (-d.exponent).toNat)

/-- The nearest binary64 number. Exponents far outside the range are decided
without computing the power. -/
def toBinary64 (negative : Bool) (d : Decimal) : Binary64 :=
  if d.digits = 0 then .finite negative 0 0
  else if 400 < d.exponent + width d.digits then .infinite negative
  else if d.exponent + width d.digits < -400 then .finite negative 0 0
  else Binary64.ofFraction negative d.fraction.1 d.fraction.2

end Decimal

namespace Binary64

def fraction (m : Nat) (e : Int) : Nat × Nat :=
  if 0 ≤ e then (m * Nat.pow 2 e.toNat, 1) else (m, Nat.pow 2 (-e).toNat)

/-- The exponent of the first decimal digit of `num / den`: the largest `k`
with `10 ^ k ≤ num / den`. -/
def leadingExponent (num den : Nat) : Int :=
  if den ≤ num then (Decimal.width (num / den) : Int) - 1
  else
    let k := Decimal.width (den / num)
    if den ≤ num * Nat.pow 10 (k - 1) then 1 - (k : Int) else -(k : Int)

/-- The neighbours of `num / den` on the grid of multiples of `10 ^ k` that read
back as `x`, the nearer one first; of two equally near, the even one. -/
def neighbours (num den : Nat) (k : Int) : List Decimal :=
  let (a, b) := if 0 ≤ k then (num, den * Nat.pow 10 k.toNat)
    else (num * Nat.pow 10 (-k).toNat, den)
  let q := a / b
  let r := a % b
  let below : Decimal := ⟨q, k⟩
  let above : Decimal := ⟨q + 1, k⟩
  if r = 0 then [below]
  else if 2 * r < b ∨ (2 * r = b ∧ q % 2 = 0) then [below, above]
  else [above, below]

/-- The shortest decimal that reads back as `m * 2 ^ e`, the nearest one among
those of that length. -/
def shortest (m : Nat) (e : Int) : Decimal :=
  let (num, den) := fraction m e
  let top := leadingExponent num den
  let value := (Binary64.finite false m e).toRat?
  let readsBack (d : Decimal) : Bool := (d.toBinary64 false).toRat? == value
  let best := (List.range 17).findSome? fun (p : Nat) =>
    (neighbours num den (top - (p : Int))).find? readsBack
  best.getD ⟨num / den, 0⟩

/-- The exponents that are written in positional notation: at least the first
and below the second. -/
def positionalExponents : Int × Int := (-4, 16)

/-- Digits without trailing zeros, and the exponent of the first of them. -/
def scientific (d : Decimal) : List Char × Int :=
  let digits := Nat.toDigits 10 d.digits
  let trimmed := (digits.reverse.dropWhile (· = '0')).reverse
  (if trimmed.isEmpty then ['0'] else trimmed, d.exponent + digits.length - 1)

/-- Positional notation keeps a point and at least one digit after it; an
exponent has a sign and at least two digits. -/
def layout (digits : List Char) (top : Int) : String :=
  let text : List Char :=
    if positionalExponents.1 ≤ top ∧ top < positionalExponents.2 then
      if top < 0 then ['0', '.'] ++ List.replicate (-top - 1).toNat '0' ++ digits
      else
        let whole := top.toNat + 1
        let padded := digits ++ List.replicate (whole - digits.length) '0'
        let rest := padded.drop whole
        padded.take whole ++ ['.'] ++ if rest.isEmpty then ['0'] else rest
    else
      let exponent := (toString top.natAbs).toList
      let exponent := if exponent.length < 2 then '0' :: exponent else exponent
      let mantissa := match digits with
        | [] => []
        | [d] => [d]
        | d :: rest => d :: '.' :: rest
      mantissa ++ ['e', if top < 0 then '-' else '+'] ++ exponent
  String.ofList text

def text : Binary64 → String
  | .nan => "nan"
  | .infinite negative => if negative then "-inf" else "inf"
  | .finite negative m e =>
    let body := if m = 0 then "0.0" else
      let (digits, top) := scientific (shortest m e)
      layout digits top
    if negative then "-" ++ body else body

end Binary64

end DialogueQuery
