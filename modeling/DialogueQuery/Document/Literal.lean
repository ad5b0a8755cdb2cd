import DialogueQuery.Document.Basic
import DialogueQuery.Number.Decimal
import DialogueQuery.Text.Printable
import DialogueQuery.Text.CodePoint

/-! The written form of a document in messages: quoted texts, bracketed arrays
and objects, numbers with the fewest digits that read back. -/

namespace DialogueQuery

namespace Text

def hexPadded (width n : Nat) : List Char :=
  let digits := Nat.toDigits 16 n
  List.replicate (width - digits.length) '0' ++ digits

def escapedCodePoint (n : Nat) : List Char :=
  if n < 0x100 then '\\' :: 'x' :: hexPadded 2 n
  else if n < 0x10000 then '\\' :: 'u' :: hexPadded 4 n
  else '\\' :: 'U' :: hexPadded 8 n

/-- One character inside quotes: the quote and the backslash are escaped, and
so is every character without a visible form. -/
def quotedChar (quote c : Char) : List Char :=
  if c = quote ∨ c = '\\' then ['\\', c]
  else if c = '\n' then ['\\', 'n']
  else if c = '\r' then ['\\', 'r']
  else if c = '\t' then ['\\', 't']
  else if isPrintable c then [c]
  else escapedCodePoint c.toNat

def quotedCodePoint (quote : Char) : CodePoint → List Char
  | .char c => quotedChar quote c
  | .half unit => escapedCodePoint unit

/-- Single quotes, unless the text holds one of them and no double quote. -/
def quoteFor (s : String) : Char :=
  if s.contains '\'' && !s.contains '"' then '"' else '\''

def quoted (s : String) : String :=
  let q := quoteFor s
  String.ofList (q :: (codePoints s).flatMap (quotedCodePoint q) ++ [q])

end Text

namespace Document

mutual

def literal : Document → String
  | null => "None"
  | bool b => if b then "True" else "False"
  | int n => toString n
  | float x => x.text
  | str s => Text.quoted s
  | objectId hex => "ObjectId('" ++ hex ++ "')"
  | arr items => "[" ++ ", ".intercalate (literals items) ++ "]"
  | obj members => "\x7b" ++ ", ".intercalate (memberLiterals members) ++ "\x7d"

def literals : List Document → List String
  | [] => []
  | x :: xs => literal x :: literals xs

def memberLiterals : List (String × Document) → List String
  | [] => []
  | (k, v) :: rest => (Text.quoted k ++ ": " ++ literal v) :: memberLiterals rest

end

/-- The written form of a whole value: a text or an identifier stands as it is. -/
def display : Document → String
  | str s => s
  | objectId hex => hex
  | d => d.literal

end Document

end DialogueQuery
