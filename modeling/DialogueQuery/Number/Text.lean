import DialogueQuery.Number.Decimal
import DialogueQuery.Text.Blank

/-! Numbers written by hand: blanks around them, underscores that group their
digits, and for binary64 numbers the words for the infinities and for no number. -/

namespace DialogueQuery

namespace Text

/-- Drops the underscores that stand singly between two digits; any other
underscore is refused. `afterDigit` tells whether a digit comes before the text. -/
def ungroup (isDigit : Char → Bool) (afterDigit : Bool) : List Char → Option (List Char)
  | [] => some []
  | '_' :: c :: rest =>
    if afterDigit && isDigit c then (ungroup isDigit true rest).map (c :: ·) else none
  | '_' :: [] => none
  | c :: rest => (ungroup isDigit (isDigit c) rest).map (c :: ·)

def splitSign (cs : List Char) : Bool × List Char :=
  match cs with
  | '-' :: rest => (true, rest)
  | '+' :: rest => (false, rest)
  | _ => (false, cs)

def digitsValue? (cs : List Char) : Option Nat :=
  if cs.isEmpty then none
  else cs.foldlM (fun n c => (digitValue? c).map fun d => n * 10 + d) 0

def signed (negative : Bool) (n : Nat) : Int := if negative then -(n : Int) else n

def asciiDigitsValue? (cs : List Char) : Option Nat :=
  if cs.all Char.isDigit then digitsValue? cs else none

inductive IntegerError where
  | malformed
  /-- The numeral has more digits than are converted. -/
  | tooLong
deriving DecidableEq, Repr

/-- The most digits of a numeral that is converted to an integer. -/
def longestInteger : Nat := 4300

/-- A sign or none, then ASCII digits without a leading zero. A numeral that is
too long is refused before what follows it is looked at. -/
def plainInteger (cs : List Char) : Except IntegerError Int :=
  let (negative, body) := match cs with
    | '-' :: rest => (true, rest)
    | _ => (false, cs)
  match body with
  | ['0'] => .ok 0
  | c :: _ =>
    let digits := body.takeWhile Char.isDigit
    if c = '0' ∨ digits.isEmpty then .error .malformed
    else if longestInteger < digits.length then .error .tooLong
    else if digits.length = body.length then
      ((digitsValue? digits).map (signed negative)).elim (.error .malformed) .ok
    else .error .malformed
  | [] => .error .malformed

/-- What follows leading zeros, among which underscores may stand. A lone zero
and a zero before a point stay, and so does a minus sign after the zeros. -/
def skipZeros (last : Char) : List Char → Option (List Char)
  | [] => some [last]
  | c :: rest =>
    if c = '0' ∨ c = '_' then skipZeros c rest
    else if c.isDigit ∨ c = '-' then some (c :: rest)
    else if c = '.' then some (last :: c :: rest)
    else none

def dropLeadingZeros : List Char → Option (List Char)
  | '0' :: rest => skipZeros '0' rest
  | c :: rest => if c.isDigit ∨ c = '-' then some (c :: rest) else none
  | [] => none

def dropZeroFraction (cs : List Char) : List Char :=
  let whole := cs.takeWhile (· ≠ '.')
  match cs.drop whole.length with
  | _ :: zeros => if !zeros.isEmpty && zeros.all (· == '0') then whole else cs
  | [] => cs

def groupsWell (cs : List Char) : Bool :=
  cs.head? != some '_' && cs.getLast? != some '_' && !(cs.zip (cs.drop 1)).contains ('_', '_')

def withoutGroups? (cs : List Char) : Option (List Char) :=
  if groupsWell cs && cs.contains '_' then some (cs.filter (· ≠ '_')) else none

/-- A numeral without blanks around it, plus sign, leading zeros, zeros after a
point and underscores. -/
def cleanInteger (cs : List Char) : Option (List Char) := do
  let (negative, body) ← match trimList isWhiteSpace cs with
    | '+' :: '-' :: _ => none
    | '+' :: rest => some (false, rest)
    | '-' :: rest => some (true, rest)
    | cs => some (false, cs)
  let body := dropZeroFraction (← dropLeadingZeros body)
  let body := (withoutGroups? body).getD body
  return if negative then '-' :: body else body

/-- An integer in ASCII digits, as it stands or cleaned. Only a text that is too
long as it stands is told from one that is no numeral. -/
def integer (s : String) : Except IntegerError Int :=
  match plainInteger s.toList with
  | .error .malformed =>
    match (cleanInteger s.toList).map plainInteger with
    | some (.ok n) => .ok n
    | _ => .error .malformed
  | answer => answer

/-- An integer in the digits of any script, of which there may not be too many. -/
def integerOfAnyScript? (s : String) : Option Int := do
  let (negative, body) := splitSign (trimList isWhiteSpace s.toList)
  let isDigit c := (digitValue? c).isSome
  let digits ← ungroup isDigit false body
  if longestInteger < digits.length then none
  else return signed negative (← digitsValue? digits)

/-- A decimal numeral: digits, a point anywhere around or between them, an exponent. -/
def decimal? (cs : List Char) : Option Decimal := do
  let whole := cs.takeWhile Char.isDigit
  let rest := cs.drop whole.length
  let (fraction, rest) := match rest with
    | '.' :: rest =>
      let fraction := rest.takeWhile Char.isDigit
      (fraction, rest.drop fraction.length)
    | _ => ([], rest)
  let digits ← asciiDigitsValue? (whole ++ fraction)
  let exponent ← match rest with
    | [] => some 0
    | c :: rest =>
      if c = 'e' ∨ c = 'E' then
        let (negative, rest) := splitSign rest
        (asciiDigitsValue? rest).map (signed negative)
      else none
  return ⟨digits, exponent - fraction.length⟩

/-- A decimal numeral or one of the words, with a sign or without. -/
def plainBinary64? (cs : List Char) : Option Binary64 := do
  let (negative, body) := splitSign cs
  let word := String.ofList (body.map Char.toLower)
  if word = "inf" ∨ word = "infinity" then return .infinite negative
  else if word = "nan" then return .nan
  else return (← decimal? body).toBinary64 negative

/-- A binary64 number with blanks around it or with underscores in it, not both. -/
def binary64? (s : String) : Option Binary64 :=
  (plainBinary64? (trimList isWhiteSpace s.toList)).or
    ((withoutGroups? s.toList).bind plainBinary64?)

end Text

end DialogueQuery
