import DialogueQuery.Document.Basic
import DialogueQuery.Number.Decimal
import DialogueQuery.Text.CodePoint

/-! Reading a document from JSON text. The non-finite numbers have names, and an
escape may write a lone half of a surrogate pair. -/

namespace DialogueQuery.Document.Reader

inductive ReadError where
  /-- Reading stopped at this position, counted in code points. -/
  | malformed (position : Nat)
  /-- Arrays and objects are nested too deeply. -/
  | tooDeep
  /-- An integer has more digits than are converted. -/
  | tooManyDigits
deriving DecidableEq, Repr

def fail (position : Nat) : Except ReadError α := .error (.malformed position)

/-- The most digits of an integer. -/
def mostDigits : Nat := 4300

/-- What is left of the text, and how many code points were read before it. -/
structure Rest where
  chars : List Char
  position : Nat

def isSeparatingBlank (c : Char) : Bool := c == ' ' || c == '\t' || c == '\n' || c == '\r'

def Rest.drop (r : Rest) (n : Nat) : Rest := ⟨r.chars.drop n, r.position + n⟩

def Rest.skipBlanks (r : Rest) : Rest := r.drop (r.chars.takeWhile isSeparatingBlank).length

def hexValue? (c : Char) : Option Nat :=
  if c.isDigit then some (c.toNat - '0'.toNat)
  else if 'a' ≤ c ∧ c ≤ 'f' then some (c.toNat - 'a'.toNat + 10)
  else if 'A' ≤ c ∧ c ≤ 'F' then some (c.toNat - 'A'.toNat + 10)
  else none

def hexQuad? (a b c d : Char) : Option Nat := do
  return (((← hexValue? a) * 16 + (← hexValue? b)) * 16 + (← hexValue? c)) * 16 + (← hexValue? d)

def simpleEscape? (c : Char) : Option Char :=
  match c with
  | '"' => some '"'
  | '\\' => some '\\'
  | '/' => some '/'
  | 'b' => some '\x08'
  | 'f' => some '\x0c'
  | 'n' => some '\n'
  | 'r' => some '\r'
  | 't' => some '\t'
  | _ => none

def prepend (p : CodePoint) (acc : List Char) : List Char := p.encode.reverse ++ acc

/-- The rest of a text whose opening quote stands at `start`. What was read
comes last character first. -/
def readText (start : Nat) : List Char → Nat → List Char → Except ReadError (String × Rest)
  | [], _, _ => fail start
  | '"' :: rest, pos, acc => .ok (String.ofList acc.reverse, ⟨rest, pos + 1⟩)
  | '\\' :: 'u' :: a :: b :: c :: d :: '\\' :: 'u' :: a' :: b' :: c' :: d' :: rest, pos, acc =>
    match hexQuad? a b c d with
    | none => fail (pos + 1)
    | some high =>
      if CodePoint.isHighHalf high && !rest.isEmpty then
        match hexQuad? a' b' c' d' with
        | none => fail (pos + 7)
        | some low =>
          if CodePoint.isLowHalf low then
            readText start rest (pos + 12) (prepend (.ofPair high low) acc)
          else readText start ('\\' :: 'u' :: a' :: b' :: c' :: d' :: rest) (pos + 6)
            (prepend (.ofNat high) acc)
      else readText start ('\\' :: 'u' :: a' :: b' :: c' :: d' :: rest) (pos + 6)
        (prepend (.ofNat high) acc)
  | '\\' :: 'u' :: a :: b :: c :: d :: rest, pos, acc =>
    match hexQuad? a b c d with
    | none => fail (pos + 1)
    | some n =>
      if rest.isEmpty then fail (pos + 1)
      else readText start rest (pos + 6) (prepend (.ofNat n) acc)
  | '\\' :: 'u' :: _, pos, _ => fail (pos + 1)
  | '\\' :: c :: rest, pos, acc =>
    match simpleEscape? c with
    | none => fail pos
    | some c => readText start rest (pos + 2) (c :: acc)
  | ['\\'], _, _ => fail start
  | [c], pos, acc => if c.toNat < 0x20 then fail pos else readText start [] (pos + 1) (c :: acc)
  | c :: d :: rest, pos, acc =>
    if c = CodePoint.mark then readText start rest (pos + 1) (d :: c :: acc)
    else if c.toNat < 0x20 then fail pos
    else readText start (d :: rest) (pos + 1) (c :: acc)
termination_by cs => cs.length

def natOfDigits (cs : List Char) : Nat :=
  cs.foldl (fun n c => n * 10 + (c.toNat - '0'.toNat)) 0

def digitsOf (cs : List Char) : List Char := cs.takeWhile Char.isDigit

/-- A fraction needs a digit after the point; without one the point is not read. -/
def fractionOf (cs : List Char) : List Char :=
  match cs with
  | '.' :: rest => digitsOf rest
  | _ => []

/-- The length and the value of an exponent; one without digits is not read. -/
def exponentOf (cs : List Char) : Nat × Int :=
  match cs with
  | c :: rest =>
    if c = 'e' ∨ c = 'E' then
      let (sign, negative) := match rest with
        | '+' :: _ => (1, false)
        | '-' :: _ => (1, true)
        | _ => (0, false)
      let digits := digitsOf (rest.drop sign)
      if digits.isEmpty then (0, 0)
      else
        let n : Int := natOfDigits digits
        (1 + sign + digits.length, if negative then -n else n)
    else (0, 0)
  | [] => (0, 0)

/-- A number at the start of the text: an integer unless it has a fraction or an exponent. -/
def readNumber (r : Rest) : Except ReadError (Document × Rest) :=
  let negative := r.chars.head? = some '-'
  let sign := if negative then 1 else 0
  let body := r.chars.drop sign
  let whole := match body with
    | '0' :: _ => ['0']
    | _ => digitsOf body
  if whole.isEmpty then fail r.position
  else
    let afterWhole := body.drop whole.length
    let fraction := fractionOf afterWhole
    let pointed := if fraction.isEmpty then 0 else fraction.length + 1
    let (length, exponent) := exponentOf (afterWhole.drop pointed)
    let rest := r.drop (sign + whole.length + pointed + length)
    if fraction.isEmpty ∧ length = 0 then
      let n : Int := natOfDigits whole
      if mostDigits < whole.length then .error .tooManyDigits
      else .ok (.int (if negative then -n else n), rest)
    else
      let d : Decimal := ⟨natOfDigits (whole ++ fraction), exponent - fraction.length⟩
      .ok (.float (d.toBinary64 negative), rest)

def words : List (String × Document) :=
  [("null", .null), ("true", .bool true), ("false", .bool false), ("NaN", .float .nan),
    ("Infinity", .float (.infinite false)), ("-Infinity", .float (.infinite true))]

def readWord (r : Rest) : Option (Document × Rest) :=
  (words.find? fun w => w.1.toList.isPrefixOf r.chars).map fun w => (w.2, r.drop w.1.length)

mutual

/-- A value at the start of the text, nested at most `depth` levels. Every step
reads a character, so the length of the text bounds the number of calls. -/
def readValue (fuel depth : Nat) (r : Rest) : Except ReadError (Document × Rest) :=
  match fuel with
  | 0 => fail r.position
  | fuel + 1 =>
    match r.chars with
    | '"' :: rest => do
      let (s, rest) ← readText r.position rest (r.position + 1) []
      return (.str s, rest)
    | '[' :: _ =>
      let inside := (r.drop 1).skipBlanks
      if depth = 0 then .error .tooDeep
      else if inside.chars.head? = some ']' then .ok (.arr [], inside.drop 1)
      else readItems fuel (depth - 1) inside []
    | '\x7b' :: _ =>
      let inside := (r.drop 1).skipBlanks
      if depth = 0 then .error .tooDeep
      else if inside.chars.head? = some '\x7d' then .ok (.obj [], inside.drop 1)
      else readMembers fuel (depth - 1) inside []
    | _ => match readWord r with
      | some found => .ok found
      | none => readNumber r

def readItems (fuel depth : Nat) (r : Rest) (acc : List Document) :
    Except ReadError (Document × Rest) :=
  match fuel with
  | 0 => fail r.position
  | fuel + 1 => do
    let (d, r) ← readValue fuel depth r
    let r := r.skipBlanks
    match r.chars with
    | ']' :: _ => return (.arr (d :: acc).reverse, r.drop 1)
    | ',' :: _ => readItems fuel depth (r.drop 1).skipBlanks (d :: acc)
    | _ => fail r.position

/-- The members of an object from the one at the start of the text; of equal
names the last one counts. -/
def readMembers (fuel depth : Nat) (r : Rest) (acc : Members) :
    Except ReadError (Document × Rest) :=
  match fuel with
  | 0 => fail r.position
  | fuel + 1 =>
    match r.chars with
    | '"' :: rest => do
      let (name, r) ← readText r.position rest (r.position + 1) []
      let r := r.skipBlanks
      match r.chars with
      | ':' :: _ =>
        let (d, r) ← readValue fuel depth (r.drop 1).skipBlanks
        let acc := setMember name d acc
        let r := r.skipBlanks
        match r.chars with
        | '\x7d' :: _ => return (.obj acc, r.drop 1)
        | ',' :: _ => readMembers fuel depth (r.drop 1).skipBlanks acc
        | _ => fail r.position
      | _ => fail r.position
    | _ => fail r.position

end

/-- A text that holds one value and blanks around it; `depth` is how deeply its
arrays and objects may be nested. -/
def read (depth : Nat) (s : String) : Except ReadError Document := do
  let r := Rest.skipBlanks ⟨s.toList, 0⟩
  let (d, r) ← readValue (2 * r.chars.length + 2) depth r
  let r := r.skipBlanks
  if r.chars.isEmpty then return d else fail r.position

end DialogueQuery.Document.Reader
