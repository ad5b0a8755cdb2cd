import DialogueQuery.Text.CodePoint
import DialogueQuery.Text.Utf8

/-! The target of a request: a path and a query, both percent-encoded. -/

namespace DialogueQuery.Http

def hexDigit? (c : Char) : Option Nat :=
  if c.isDigit then some (c.toNat - 0x30)
  else if 'a' ≤ c ∧ c ≤ 'f' then some (c.toNat - 0x57)
  else if 'A' ≤ c ∧ c ≤ 'F' then some (c.toNat - 0x37)
  else none

/-- The bytes of a percent-encoded text. A percent sign without two
hexadecimal digits after it stands for itself. -/
def percentBytes : List Char → List Nat
  | '%' :: a :: b :: rest =>
    match hexDigit? a, hexDigit? b with
    | some high, some low => (high * 16 + low) :: percentBytes rest
    | _, _ => 0x25 :: percentBytes (a :: b :: rest)
  | c :: rest => Text.Utf8.encodeChar c ++ percentBytes rest
  | [] => []

def percentDecode (cs : List Char) : List Char := Text.Utf8.decode (percentBytes cs)

/-- The characters that the path of a location keeps as they are. What would
begin a query or a fragment is none of them; a percent sign is one. -/
def isPlain (c : Char) : Bool :=
  c.isAlphanum || "_.-~:/%=@[]!$&'()*+,;".contains c

def upperHex (n : Nat) : Char := (Nat.digitChar n).toUpper

def percentEncode (cs : List Char) : List Char :=
  cs.flatMap fun c =>
    if isPlain c then [c]
    else (Text.Utf8.encodeChar c).flatMap fun b => ['%', upperHex (b / 16), upperHex (b % 16)]

/-- A path, decoded, and the parameters of a query in order. -/
structure Target where
  path : List Char
  query : List (String × String)
deriving Repr

namespace Target

def splitAtFirst (separator : Char) (cs : List Char) : List Char × List Char :=
  let before := cs.takeWhile (· ≠ separator)
  (before, cs.drop (before.length + 1))

/-- A name or a value of a query, in which a plus sign is a blank. -/
def formDecode (cs : List Char) : String :=
  Text.ofChars (percentDecode (cs.map fun c => if c = '+' then ' ' else c))

def queryOf (cs : List Char) : List (String × String) :=
  ((cs.splitOn '&').filter (· ≠ [])).map fun part =>
    let (name, value) := splitAtFirst '=' part
    (formDecode name, formDecode value)

def ofText (s : String) : Target :=
  let (path, query) := splitAtFirst '?' (splitAtFirst '#' (Text.chars s)).1
  ⟨percentDecode path, queryOf query⟩

def parameter? (t : Target) (name : String) : Option String := t.query.reverse.lookup name

end Target

end DialogueQuery.Http
