import TaskBuilders.Alias.Source
import TaskBuilders.Bundle.Archive
import TaskBuilders.Bundle.Descriptor
import TaskBuilders.Definition.Provider
import TaskBuilders.Files.Tree

/-!
# Bundles

A bundle is a directory or an archive that carries descriptors and alias sources. Its entries have an
order: that of a walk for directories, that of the stored entries for archives.
-/

namespace TaskBuilders

/-- Where a bundle keeps its entries. -/
inductive BundleContent where
  | directory
  | archive (entries : List (String × String))
deriving Repr, DecidableEq

/-- An opened bundle, with the definitions of all its descriptors in the order of their entries. -/
structure Bundle where
  path : String
  content : BundleContent
  entries : List String
  tasks : List TaskDefinition
deriving Repr

namespace Bundle

open Files (Tree Item AccessError)

/-- The reasons why a bundle cannot be opened. -/
inductive OpenError where
  /-- Nothing stands where the path leads. -/
  | missing
  | unreachable (path : String) (cause : AccessError)
  | notArchive (path : String)
  /-- An entry whose name cannot be asked for. -/
  | invalidEntry (name : String)
  | invalidDescriptor (name : String) (cause : Descriptor.Refusal)
deriving Repr, DecidableEq

/-- The text of a reason; some descriptors are refused without one. -/
def OpenError.message? : OpenError → Option String
  | missing => none
  | unreachable path cause => some s!"open bundle: stat {path}: {cause.message}"
  | notArchive path => some s!"open bundle {path}: zip: not a valid zip file"
  | invalidEntry name => some s!"read {name}: open {name}: invalid argument"
  | invalidDescriptor name cause => cause.message? name

/-- The path of an entry of a directory. -/
def entryPath (dir name : String) : String :=
  if Text.hasTrailing "/" dir then dir ++ name else dir ++ "/" ++ name

/-- Opens an entry; nothing when there is none of that name. -/
def openEntry? (t : Tree) (b : Bundle) (name : String) : Option Alias.Opening :=
  if !isEntryPath name then none
  else
    match b.content with
    | .directory =>
      match t.read (entryPath b.path name) with
      | .ok text => some (.content text)
      | .error .isDirectory =>
        some (.unreadable ("read " ++ entryPath b.path name ++ ": " ++ AccessError.isDirectory.message))
      | .error _ => none
    | .archive entries =>
      match archiveItem? entries name with
      | some (.file text) => some (.content text)
      | some .directory =>
        some (.unreadable ("read " ++ name ++ ": " ++ AccessError.isDirectory.message))
      | none => none

/-- Reads the definitions of one entry. -/
def readEntry (t : Tree) (b : Bundle) (name : String) : Except OpenError (List TaskDefinition) :=
  match b.openEntry? t name with
  | some (.content data) =>
    match Descriptor.read name data with
    | .ok ds => .ok ds
    | .error e => .error (.invalidDescriptor name e)
  | _ => .error (if isEntryPath name then .missing else .invalidEntry name)

/-- A bundle with the definitions of its descriptors, read in the order of the entries. -/
def withTasks (t : Tree) (b : Bundle) : Except OpenError Bundle :=
  match (b.entries.filter isDescriptorName).mapM (b.readEntry t) with
  | .error e => .error e
  | .ok found => .ok { b with tasks := found.flatten }

/-- Opens a directory or an archive and reads its descriptors. -/
def atPath (t : Tree) (path : String) : Except OpenError Bundle :=
  match t.locate path with
  | .error .missing => .error .missing
  | .error e => .error (.unreachable path e)
  | .ok l =>
    match t.item? l with
    | some .directory =>
      withTasks t ⟨path, .directory, (t.filesBelow l).map (Text.join "/"), []⟩
    | some (.archive entries) =>
      let names := (entries.map (·.1)).filter fun n => !Text.hasTrailing "/" n
      withTasks t ⟨path, .archive entries, names, []⟩
    | _ => .error (.notArchive path)

/-- The declared identifiers, each at its first place. -/
def definitions (b : Bundle) : List String := distinct (b.tasks.map (·.id))

/-- The declared definitions; of two with one identifier the later counts. -/
def provider (b : Bundle) : Provider := .static b.tasks

/-- The entries that are alias sources. -/
def aliasSources (b : Bundle) : List String :=
  b.entries.filter fun n => Alias.isSource n && !isDescriptorName n

end Bundle

end TaskBuilders
