import DialogueQuery.Document.Literal

/-! Writing a document as JSON text. The text is ASCII: every other character
is written as one or two escaped code units. -/

namespace DialogueQuery.Document

mutual

/-- JSON has neither identifiers nor numbers that are not finite, and no bytes
encode a lone half of a surrogate pair. -/
def isJson : Document → Bool
  | objectId _ => false
  | float x => x.toRat?.isSome
  | str s => Text.isWellFormed s
  | arr items => areJson items
  | obj members => membersAreJson members
  | _ => true

def areJson : List Document → Bool
  | [] => true
  | d :: ds => d.isJson && areJson ds

def membersAreJson : List (String × Document) → Bool
  | [] => true
  | (k, d) :: rest => Text.isWellFormed k && d.isJson && membersAreJson rest

end

mutual

/-- How many values a value is nested in at most. -/
def depth : Document → Nat
  | arr items => depthOfItems items
  | obj members => depthOfMembers members
  | _ => 0

def depthOfItems : List Document → Nat
  | [] => 0
  | d :: ds => max (d.depth + 1) (depthOfItems ds)

def depthOfMembers : List (String × Document) → Nat
  | [] => 0
  | (_, d) :: rest => max (d.depth + 1) (depthOfMembers rest)

end

namespace Writer

def escapedUnit (n : Nat) : List Char := '\\' :: 'u' :: Text.hexPadded 4 n

def writeCodePoint (p : CodePoint) : List Char :=
  let n := p.toNat
  if p = .char '"' ∨ p = .char '\\' then ['\\', Char.ofNat n]
  else if 0x20 ≤ n ∧ n < 0x7f then [Char.ofNat n]
  else if n < 0x10000 then escapedUnit n
  else escapedUnit (0xd800 + (n - 0x10000) / 0x400) ++ escapedUnit (0xdc00 + (n - 0x10000) % 0x400)

def writeText (s : String) : String :=
  String.ofList ('"' :: (Text.codePoints s).flatMap writeCodePoint ++ ['"'])

mutual

/-- The text of a document that JSON can express; what it cannot express is null. -/
def write : Document → String
  | null => "null"
  | bool b => if b then "true" else "false"
  | int n => toString n
  | float x => if x.toRat?.isSome then x.text else "null"
  | str s => writeText s
  | objectId _ => "null"
  | arr items => "[" ++ ",".intercalate (writeItems items) ++ "]"
  | obj members => "\x7b" ++ ",".intercalate (writeMembers members) ++ "\x7d"

def writeItems : List Document → List String
  | [] => []
  | d :: ds => write d :: writeItems ds

def writeMembers : List (String × Document) → List String
  | [] => []
  | (k, d) :: rest => (writeText k ++ ":" ++ write d) :: writeMembers rest

end

end Writer

end DialogueQuery.Document
