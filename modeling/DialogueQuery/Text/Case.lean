/-! Upper and lower case of the texts that are compared without regard to it:
ASCII letters, and the letters outside of ASCII whose other case is in ASCII. -/

namespace DialogueQuery.Text

/-- The sign for kelvin is a capital K. -/
def lowerChar (c : Char) : Char := if c = '\u212a' then 'k' else c.toLower

def lower (s : String) : String := s.map lowerChar

/-- The letters and ligatures outside of ASCII whose capitals are in ASCII. -/
def capitals : List (Char × String) := [
  ('\u00df', "SS"), ('\u0131', "I"), ('\u017f', "S"), ('\ufb00', "FF"), ('\ufb01', "FI"),
  ('\ufb02', "FL"), ('\ufb03', "FFI"), ('\ufb04', "FFL"), ('\ufb05', "ST"), ('\ufb06', "ST")]

def upperChars (c : Char) : List Char :=
  match capitals.lookup c with
  | some letters => letters.toList
  | none => [c.toUpper]

def upper (s : String) : String := String.ofList (s.toList.flatMap upperChars)

end DialogueQuery.Text
