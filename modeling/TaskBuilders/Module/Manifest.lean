import TaskBuilders.Files.Tree
import TaskBuilders.Text.Blank

/-!
# Modules

A directory belongs to the module of the nearest manifest at or above it. The import path of a directory
is the path of its module followed by the way down from the module's root.
-/

namespace TaskBuilders.Module

open Files

/-- The name of a manifest. -/
def manifestName : String := "go.mod"

/-- The language version that new manifests declare. -/
def languageVersion : String := "1.25"

/-- The text of a new manifest. -/
def manifestText (path : String) : String :=
  "module " ++ path ++ "\n\ngo " ++ languageVersion ++ "\n"

/-- Why a file that is there cannot be read. -/
structure ReadFault where
  /-- The step that failed. -/
  step : String
  reason : String
deriving Repr, DecidableEq

/-- The text of a fault at a place. -/
def ReadFault.message (f : ReadFault) (l : Location) : String :=
  f.step ++ " " ++ locationText l ++ ": " ++ f.reason

/-- The places of files that cannot be read. -/
abbrev ReadFaults := Location → Option ReadFault

/-- All files can be read. -/
def ReadFaults.none : ReadFaults := fun _ => .none

/-- The reasons why the module of a directory is not known. -/
inductive SearchError where
  | unreadable (manifest : Location) (fault : ReadFault)
  | emptyPath (manifest : Location)
  | noDirective (manifest : Location)
  | noManifest (start : Location)
  | outside (dir root : Location)
deriving Repr, DecidableEq

/-- The text of a reason. -/
def SearchError.message : SearchError → String
  | unreadable m fault => fault.message m
  | emptyPath m => "go.mod has empty module path at " ++ locationText m
  | noDirective m => "go.mod missing module directive at " ++ locationText m
  | noManifest d => "could not find go.mod starting from " ++ locationText d
  | outside d r =>
    "directory is outside module root: dir=" ++ locationText d ++ " modRoot=" ++ locationText r

/-- The module path that a line of a manifest declares. -/
def directive? (line : String) : Option String :=
  let line := Text.trim line
  if line = "module" || Text.hasLeading "module " line then
    some (Text.trimWhile (· == '"') (Text.trim (Text.dropLeading "module" line)))
  else none

/-- The module path that a manifest declares first. -/
def declaredPath? (text : String) : Option String :=
  (Text.splitAtChar '\n' text).findSome? directive?

/-- A module: its root and its path. -/
structure ModuleRoot where
  root : Location
  path : String
deriving Repr, DecidableEq

/-- The module of a manifest, which has a text or cannot be read. -/
def ofManifest (dir : Location) : Except ReadFault String → Except SearchError ModuleRoot
  | .error fault => .error (.unreadable (dir ++ [manifestName]) fault)
  | .ok text =>
    match declaredPath? text with
    | none => .error (.noDirective (dir ++ [manifestName]))
    | some "" => .error (.emptyPath (dir ++ [manifestName]))
    | some path => .ok ⟨dir, path⟩

/-- What reading the manifest in a directory gives; nothing when none is there. -/
def manifestAt? (t : Tree) (faults : ReadFaults) (dir : Location) :
    Option (Except ReadFault String) :=
  let place := dir ++ [manifestName]
  match t.item? place with
  | some (.file text) => some ((faults place).elim (.ok text) .error)
  | some (.archive _) => some ((faults place).elim (.ok archiveMark) .error)
  | _ => none

/-- Climbs from a directory, whose names are given from the innermost outwards, to the nearest
manifest. One that cannot be read is not passed over. -/
def climb (t : Tree) (faults : ReadFaults) (start : Location) :
    List String → Except SearchError ModuleRoot
  | [] =>
    match manifestAt? t faults [] with
    | some manifest => ofManifest [] manifest
    | none => .error (.noManifest start)
  | name :: outer =>
    match manifestAt? t faults (name :: outer).reverse with
    | some manifest => ofManifest (name :: outer).reverse manifest
    | none => climb t faults start outer

/-- The module that a directory belongs to. -/
def find (t : Tree) (dir : Location) (faults : ReadFaults := .none) :
    Except SearchError ModuleRoot := climb t faults dir dir.reverse

/-- The import path of a directory of a module. -/
def importPath (m : ModuleRoot) (dir : Location) : Except SearchError String :=
  if m.root.isPrefixOf dir then
    match dir.drop m.root.length with
    | [] => .ok m.path
    | way => .ok (m.path ++ "/" ++ Text.join "/" way)
  else .error (.outside dir m.root)

/-- The import path of a source root, with the tree in which it belongs to a module. -/
structure Settled where
  importPath : String
  created : Bool
  tree : Tree

/-- Why a manifest is not written. -/
inductive WriteFault where
  /-- Something is in its way. -/
  | obstacle (o : Obstacle)
  /-- Nothing is in its way, and it cannot be written all the same. -/
  | failed (reason : String)
deriving Repr, DecidableEq

/-- The text of a fault. -/
def WriteFault.message : WriteFault → String
  | obstacle o => o.message
  | failed reason => reason

/-- The reasons why a source root has no import path. -/
inductive SettleError where
  | search (e : SearchError)
  | write (f : WriteFault)
deriving Repr, DecidableEq

/-- The text of a reason. -/
def SettleError.message : SettleError → String
  | search e => e.message
  | write f => "write go.mod: " ++ f.message

/-- Decides the import path of a source root. One that belongs to a module keeps it; otherwise a manifest
that declares `fallback` is written into it, unless there is a reason why it is unwritable. -/
def settle (t : Tree) (dir : Location) (fallback : String) (faults : ReadFaults := .none)
    (unwritable : Option String := none) : Except SettleError Settled :=
  match find t dir faults with
  | .ok m =>
    match importPath m dir with
    | .ok path => .ok ⟨path, false, t⟩
    | .error e => .error (.search e)
  | .error _ =>
    match t.place (dir ++ [manifestName]) (.file (manifestText fallback)) with
    | .ok t => unwritable.elim (.ok ⟨fallback, true, t⟩) fun reason => .error (.write (.failed reason))
    | .error o => .error (.write (.obstacle o))

end TaskBuilders.Module
