/-! Texts as code points. An escape in a JSON text can write half of a surrogate
pair alone, which is no character; strings mark such a half and keep it. -/

namespace DialogueQuery

/-- A code point of a text: a character, or a lone half of a surrogate pair. -/
inductive CodePoint where
  | char (c : Char)
  | half (unit : Nat)
deriving DecidableEq, Repr

namespace CodePoint

def isHighHalf (n : Nat) : Bool := 0xd800 ≤ n && n < 0xdc00

def isLowHalf (n : Nat) : Bool := 0xdc00 ≤ n && n < 0xe000

def ofNat (n : Nat) : CodePoint :=
  if isHighHalf n || isLowHalf n then half n else char (Char.ofNat n)

def ofPair (high low : Nat) : CodePoint :=
  char (Char.ofNat (0x10000 + (high - 0xd800) * 0x400 + (low - 0xdc00)))

def toNat : CodePoint → Nat
  | char c => c.toNat
  | half unit => unit

def char? : CodePoint → Option Char
  | char c => some c
  | half _ => none

/-- The character that stands before one that stands for a half. A noncharacter
is taken for it; where the text has this one itself, it stands twice. -/
def mark : Char := Char.ofNat 0x1ffff

/-- How far the character that stands for a half is above it. -/
def halfOffset : Nat := 0x10000

def encode : CodePoint → List Char
  | char c => if c = mark then [mark, mark] else [c]
  | half unit => [mark, Char.ofNat (halfOffset + unit)]

def decode : List Char → List CodePoint
  | c :: d :: rest =>
    if c ≠ mark then char c :: decode (d :: rest)
    else (if d = mark then char mark else half (d.toNat - halfOffset)) :: decode rest
  | [c] => [char c]
  | [] => []

end CodePoint

namespace Text

def ofCodePoints (ps : List CodePoint) : String := String.ofList (ps.flatMap CodePoint.encode)

def codePoints (s : String) : List CodePoint := CodePoint.decode s.toList

def ofChars (cs : List Char) : String := ofCodePoints (cs.map .char)

/-- The order of texts by their code points. Strings that stand for the same
code points without being equal, which no text does, go by their characters. -/
def order (s t : String) : Ordering :=
  (compare ((codePoints s).map CodePoint.toNat) ((codePoints t).map CodePoint.toNat)).then
    (compareOfLessAndEq s t)

def chars (s : String) : List Char := (codePoints s).filterMap CodePoint.char?

/-- A text without lone halves. -/
def isWellFormed (s : String) : Bool := (codePoints s).all fun p => p.char?.isSome

/-- A text with three replacement characters for each lone half. -/
def legible (s : String) : String :=
  ofChars ((codePoints s).flatMap fun p =>
    p.char?.elim (List.replicate 3 '\ufffd') fun c => [c])

end Text

end DialogueQuery
