import TaskBuilders.Command.Run
import TaskBuilders.Files.Packed

/-!
# The command line

The tree below the working directory is read, the run is done on it, and what the run has changed is
written back. External commands are not started from here, so a run that asks for a build ends with a
failed build.
-/

namespace TaskBuilders.CommandLine

open Files

/-- How deep directories are read. -/
def depthLimit : Nat := 32

/-- The names of the variables that settings are read from. -/
def variableNames : List String :=
  ["CLASSPATH", "OUT", "SEEK", "DEFAULT_ALIASES", "COMPILE", "JAR", "SCHEMA", "PACKAGE", "MODULE",
   "SOURCE_PREFIX", "REFERENCE_TYPE", "NO_CONTAINER", "LOG_LEVEL"].map (Config.variableLead ++ ·)

/-- The item that bytes of a file are. Bytes that are no text stand for a text that no format reads. -/
def itemOf (bytes : ByteArray) : Item :=
  match String.fromUTF8? bytes with
  | some text => if Text.hasLeading "PK" text then packed else .file text
  | none => packed
where
  /-- An archive, if the bytes are one. -/
  packed : Item := ((Packed.unpack? bytes.toList).map Item.archive).getD (.file "\x00")

/-- Reads a file or a directory at a place into a tree. A file that cannot be read is put there without
its text. -/
def readInto (t : Tree) (l : Location) : (depth : Nat) → IO Tree
  | 0 => pure t
  | depth + 1 => do
    try
      return t.put l (itemOf (← IO.FS.readBinFile (locationText l)))
    catch _ =>
      try
        let entries ← IO.FS.realPath (locationText l) >>= fun p => p.readDir
        let mut t := t.put l .directory
        for e in entries do
          t ← readInto t (l ++ [e.fileName]) depth
        return t
      catch _ =>
        try
          let path ← IO.FS.realPath (locationText l)
          return if ← path.isDir then t else t.put l (.file "")
        catch _ => return t

/-- The places from the root down to a directory, itself left out. -/
def ancestors (l : Location) : List Location := (List.range l.length).map l.take

/-- The tree that a run begins with: everything below the working directory, and the manifests of the
modules around it. -/
def readTree : IO Tree := do
  let here := Text.cleanElements true (Text.splitAtChar '/' (← IO.currentDir).toString)
  let mut t : Tree := { workingDir := here }
  for a in ancestors here do
    if !a.isEmpty then t := t.put a .directory
    t ← readInto t (a ++ [Module.manifestName]) 1
  readInto t here depthLimit

/-- The manifests of a tree that cannot be read. -/
def readFaults (t : Tree) : IO Module.ReadFaults := do
  let mut found : List (Location × Module.ReadFault) := []
  for (l, _) in t.items do
    if l.getLast? = some Module.manifestName then
      try discard <| IO.FS.readBinFile (locationText l)
      catch e => found := (l, ⟨"open", toString e⟩) :: found
  return fun l => found.lookup l

/-- Writes an item. -/
def writeItem (l : Location) : Item → IO Unit
  | .directory => IO.FS.createDirAll (locationText l)
  | .file text => do
    IO.FS.createDirAll (locationText l.dropLast)
    IO.FS.writeFile (locationText l) text
  | .archive entries => do
    IO.FS.createDirAll (locationText l.dropLast)
    IO.FS.writeBinFile (locationText l) ⟨(Packed.pack entries).toArray⟩

/-- How to call the command. -/
def usageText : String := "Usage:\n  taskdsl [flags] [alias files...]"

/-- The variables that are set. -/
def environment : IO (List (String × String)) := do
  let found ← variableNames.mapM fun n => return (← IO.getEnv n).map (n, ·)
  return found.filterMap id

/-- Runs the command in the working directory. -/
def execute (arguments : List String) : IO UInt32 := do
  let before ← readTree
  let around : Command.Surroundings :=
    { environment := ← environment, builds := false, faults := ← readFaults before }
  let o := Command.run around before arguments
  for (l, i) in o.tree.items do
    if before.item? l != some i then writeItem l i
  IO.eprint (String.join o.lines)
  if o.usage then IO.eprintln usageText
  match o.error with
  | none => return 0
  | some e =>
    IO.eprintln ("Error: " ++ e.message)
    return 1

end TaskBuilders.CommandLine

/-- The command. -/
def main (arguments : List String) : IO UInt32 := TaskBuilders.CommandLine.execute arguments
