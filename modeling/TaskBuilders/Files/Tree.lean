import TaskBuilders.Text.Path

/-!
# File trees

Directories, files and archives at their places below one root, and the working directory that
relative paths begin at. Paths are followed step by step: a step leads through a directory only.
-/

namespace TaskBuilders.Files

/-- A place: the names on the way from the root. -/
abbrev Location := List String

/-- A place as an absolute path. -/
def locationText (l : Location) : String := "/" ++ Text.join "/" l

/-- What stands at a place. -/
inductive Item where
  | directory
  | file (content : String)
  /-- An archive of named entries. -/
  | archive (entries : List (String × String))
deriving Repr, DecidableEq

/-- The reasons why a path leads nowhere, or not to a file. -/
inductive AccessError where
  | missing
  | notDirectory
  | isDirectory
deriving Repr, DecidableEq

/-- The text of a reason. -/
def AccessError.message : AccessError → String
  | missing => "no such file or directory"
  | notDirectory => "not a directory"
  | isDirectory => "is a directory"

/-- The bytes that an archive begins with, as far as they are text. -/
def archiveMark : String := "PK\x03\x04"

/-- The text of an item. -/
def Item.content : Item → Except AccessError String
  | .directory => .error .isDirectory
  | .file content => .ok content
  | .archive _ => .ok archiveMark

/-- What is in the way of a new item. -/
inductive Obstacle where
  /-- Something that is no directory, at the place of a directory. -/
  | file (place : Location)
  /-- A directory at the place of the item. -/
  | directory (place : Location)
deriving Repr, DecidableEq

/-- The text of an obstacle. -/
def Obstacle.message : Obstacle → String
  | file l => "mkdir " ++ locationText l ++ ": " ++ AccessError.notDirectory.message
  | directory l => "open " ++ locationText l ++ ": " ++ AccessError.isDirectory.message

/-- A file tree; the root is always a directory. -/
structure Tree where
  items : List (Location × Item) := []
  workingDir : Location := []
deriving Repr

namespace Tree

/-- What stands at a place. -/
def item? (t : Tree) (l : Location) : Option Item :=
  if l.isEmpty then some .directory else (t.items.find? (·.1 = l)).map (·.2)

/-- Puts an item at a place, instead of what was there. -/
def put (t : Tree) (l : Location) (i : Item) : Tree :=
  { t with items := t.items.filter (·.1 ≠ l) ++ [(l, i)] }

/-- Whether a place is a directory. -/
def isDirectory (t : Tree) (l : Location) : Bool := t.item? l == some .directory

/-- Whether something that is no directory stands at a place. -/
def isFile (t : Tree) (l : Location) : Bool := (t.item? l).any (· != .directory)

/-! ## Paths -/

/-- Follows steps from a place. -/
def descend (t : Tree) : Location → List String → Except AccessError Location
  | l, [] => .ok l
  | l, step :: rest =>
    if !t.isDirectory l then .error .notDirectory
    else if step = "" || step = "." then t.descend l rest
    else if step = ".." then t.descend l.dropLast rest
    else if (t.item? (l ++ [step])).isSome then t.descend (l ++ [step]) rest
    else .error .missing

/-- Whether a path begins at the root. -/
def isRooted (path : String) : Bool := path.toList.head? == some '/'

/-- The place that a path leads to. -/
def locate (t : Tree) (path : String) : Except AccessError Location :=
  if path = "" then .error .missing
  else t.descend (if isRooted path then [] else t.workingDir) (Text.splitAtChar '/' path)

/-- What stands where a path leads. -/
def stat (t : Tree) (path : String) : Except AccessError Item :=
  match t.locate path with
  | .error e => .error e
  | .ok l => (t.item? l).elim (.error .missing) .ok

/-- The text of a file. -/
def read (t : Tree) (path : String) : Except AccessError String :=
  match t.stat path with
  | .error e => .error e
  | .ok i => Item.content i

/-- The place that a path names, whether or not something stands there. -/
def absolute (t : Tree) (path : String) : Location :=
  let steps := Text.splitAtChar '/' path
  Text.cleanElements true (if isRooted path then steps else t.workingDir ++ steps)

/-! ## Changes -/

/-- Makes the directories along a path below `l`. -/
def makeDirs (t : Tree) (l : Location) : List String → Except Obstacle Tree
  | [] => .ok t
  | name :: rest =>
    let here := l ++ [name]
    match t.item? here with
    | some .directory => t.makeDirs here rest
    | some _ => .error (.file here)
    | none => (t.put here .directory).makeDirs here rest

/-- Puts an item at a place whose directories are made. -/
def place (t : Tree) (l : Location) (i : Item) : Except Obstacle Tree :=
  match t.makeDirs [] l.dropLast with
  | .error e => .error e
  | .ok t => if t.isDirectory l then .error (.directory l) else .ok (t.put l i)

/-! ## Walks -/

/-- Whether `a` comes no later than `b` when each directory is walked in the order of its names. -/
def walksBefore : (a b : Location) → Bool
  | [], _ => true
  | _ :: _, [] => false
  | x :: a, y :: b => if x = y then walksBefore a b else decide (x < y)

/-- The places below a directory that are no directories, relative to it, in the order of a walk. -/
def filesBelow (t : Tree) (l : Location) : List Location :=
  (t.items.filterMap fun (place, i) =>
    if l.isPrefixOf place && i != .directory && l.length < place.length then some (place.drop l.length)
    else none).mergeSort walksBefore

end Tree

end TaskBuilders.Files
