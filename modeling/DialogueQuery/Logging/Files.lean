import DialogueQuery.Text.Bytes

/-! The files that loggers write to. Paths lead from the working directory;
directories on the way are made, and a file is never taken for a directory. -/

namespace DialogueQuery

inductive FileError where
  /-- A directory is to be made where a file is. -/
  | exists
  /-- The way to a file leads through a file. -/
  | notDirectory
  /-- A file is to be opened where a directory is. -/
  | isDirectory
  | absent
  /-- A name or a path has too many bytes. -/
  | tooLong
  /-- A path holds the character that ends paths. -/
  | invalidPath
  /-- A path cannot be written in bytes. -/
  | unencodable
deriving DecidableEq, Repr

/-- The names on the way to a file or a directory; no names lead to the working
directory. Names that lead up can only come first. -/
abbrev Location := List String

namespace Location

def up : String := ".."

def here : String := "."

def top : String := "/"

def step (l : Location) (name : String) : Location :=
  if name = here ∨ name = "" then l
  else if name = up then
    if l = [top] then l else if l.all (· = up) then l ++ [up] else l.dropLast
  else l ++ [name]

def isInside (l : Location) : Bool := l.head? != some up && l.head? != some top

/-- A file inside the working directory by its path. -/
def path (l : Location) : String := "/".intercalate l

end Location

/-- A path as it is written: the names between its separators. They are empty
before a separator at the start and between separators that stand together. -/
abbrev FilePath := List String

namespace FilePath

def ofText (s : String) : FilePath :=
  (((Text.kept? s).getD s).toList.splitOn '/').map String.ofList

/-- Where a path starts: above everything if it begins with a separator. -/
def start : FilePath → Location
  | "" :: _ => [Location.top]
  | _ => []

/-- Where the names lead when only they are looked at. -/
def location (p : FilePath) : Location := p.foldl Location.step (start p)

/-- A path without the separators at its end, of which one that is all there is stays. -/
def stripEnd (p : FilePath) : FilePath :=
  if p.all (· = "") then p.take 1 else (p.reverse.dropWhile (· = "")).reverse

def parent (p : FilePath) : FilePath := stripEnd p.dropLast

/-- The number of bytes of a name, if it can be written in bytes. -/
def nameSize? (name : String) : Option Nat := (Text.bytes? name).map List.length

def size? (p : FilePath) : Option Nat :=
  (p.mapM nameSize?).map fun sizes => sizes.foldr (· + ·) (sizes.length - 1)

def longestName : Nat := 255

def longestPath : Nat := 4095

/-- The bytes that lead to the working directory, with the separator after them. -/
def workingDirectorySize : Nat := 17

end FilePath

structure Files where
  directories : List Location := []
  texts : List (Location × List String) := []
deriving DecidableEq, Repr

namespace Files

def isDirectory (fs : Files) (l : Location) : Bool :=
  l.all (· = Location.up) || l == [Location.top] || fs.directories.contains l

def isFile (fs : Files) (l : Location) : Bool := (fs.texts.lookup l).isSome

/-- Goes one name on from a location, which has to be a directory. -/
def enter (fs : Files) (l : Location) (name : String) : Except FileError Location :=
  if fs.isDirectory l then
    if FilePath.longestName < (FilePath.nameSize? name).getD 0 then .error .tooLong
    else .ok (l.step name)
  else .error (if fs.isFile l then .notDirectory else .absent)

/-- Where a path leads that is written after so many other bytes; there need not
be anything. -/
def walk (fs : Files) (before : Nat) (p : FilePath) : Except FileError Location :=
  match p.size? with
  | none => .error .unencodable
  | some size =>
    if p.any fun name => name.toList.contains '\x00' then .error .invalidPath
    else if FilePath.longestPath < before + size then .error .tooLong
    else p.foldlM fs.enter p.start

def leadsSomewhere (fs : Files) (p : FilePath) : Bool :=
  match fs.walk 0 p with
  | .ok l => fs.isDirectory l || fs.isFile l
  | .error _ => false

def touch (fs : Files) (l : Location) : Files :=
  if fs.isFile l then fs else { fs with texts := fs.texts ++ [(l, [])] }

def append (fs : Files) (l : Location) (record : String) : Files :=
  let fs := fs.touch l
  { fs with texts := fs.texts.map fun f => if f.1 = l then (l, f.2 ++ [record]) else f }

end Files

/-- An operation on the files; what was made before an error stays. -/
abbrev FileAction := ExceptT FileError (StateM Files)

namespace FileAction

def walk (before : Nat) (p : FilePath) : FileAction Location := do
  match (← get).walk before p with
  | .ok l => return l
  | .error e => throw e

def makeDirectory (p : FilePath) : FileAction Unit := do
  let l ← walk 0 p
  let fs ← get
  if fs.isDirectory l then return
  else if fs.isFile l then throw .exists
  else set { fs with directories := fs.directories ++ [l] }

/-- Makes the directories on a path. Those before the last one are made if they
lead nowhere; every one of them has a shorter path, which bounds their number. -/
def makeDirectories (p : FilePath) : Nat → FileAction Unit
  | 0 => return
  | fuel + 1 => do
    let before := p.parent
    if before = [] ∨ p = before ∨ (← get).leadsSomewhere before then makeDirectory p
    else
      makeDirectories before fuel
      if p.getLast? = some Location.here then return else makeDirectory p

/-- The path from the working directory to where a path leads. -/
def normalized (p : FilePath) : FilePath :=
  match p.location with
  | top :: names => if top = Location.top then "" :: names else top :: names
  | [] => []

/-- Opens a file to write at its end, in a directory that is made if need be.
Of the names in its path only the directory's have to lead somewhere. -/
def openFile (text : String) : FileAction Location := do
  let p := FilePath.ofText text
  let directory := p.parent
  if directory ≠ [] then makeDirectories directory directory.length
  let target := normalized p
  let l ← walk (if p.start = [] then FilePath.workingDirectorySize else 0) target
  if (← get).isDirectory l then throw .isDirectory
  modify (·.touch l)
  return l

end FileAction

end DialogueQuery
