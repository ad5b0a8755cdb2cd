import DialogueQuery.Text.CodePoint
import DialogueQuery.Text.Utf8

/-! Texts of a system whose texts are bytes. They are read as UTF-8, and a byte
that is no part of a character stands as a low half of a surrogate pair. -/

namespace DialogueQuery.Text

def byteHalf : Nat := 0xdc00

def halfOfByte (b : Nat) : CodePoint := .half (byteHalf + b)

/-- The bytes of a code point; of the halves only those that stand for bytes outside
of ASCII have some. -/
def bytesOf? : CodePoint → Option (List Nat)
  | .char c => some (Utf8.encodeChar c)
  | .half unit =>
    if byteHalf + 0x80 ≤ unit ∧ unit ≤ byteHalf + 0xff then some [unit - byteHalf] else none

def bytes? (s : String) : Option (List Nat) := ((codePoints s).mapM bytesOf?).map List.flatten

def ofBytes (bs : List Nat) : String :=
  ofCodePoints ((Utf8.parts bs).flatMap fun
    | .ok c => [.char c]
    | .error start => start.map halfOfByte)

def kept? (s : String) : Option String := (bytes? s).map ofBytes

end DialogueQuery.Text
