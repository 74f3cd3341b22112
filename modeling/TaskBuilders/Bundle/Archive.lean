import TaskBuilders.Text.Path

/-!
# Entries of archives

An archive keeps the names of its entries as they were stored. An entry is looked up by its clean name;
of entries with the same clean name the first counts.
-/

namespace TaskBuilders.Bundle

/-- Whether a name can be asked for: elements between single slashes, none of them `.` or `..`. The
root is `.` alone. -/
def isEntryPath (name : String) : Bool :=
  name = "." || (Text.splitAtChar '/' name).all fun e => e ≠ "" && e ≠ "." && e ≠ ".."

/-- Takes leading steps upwards away. -/
def dropUpward : List String → List String
  | ".." :: next :: rest => dropUpward (next :: rest)
  | elements => elements

/-- The name that a stored name is looked up by: clean, below the root, with slashes only. -/
def entryKey (stored : String) : String :=
  let slashed := String.ofList (stored.toList.map fun c => if c = '\\' then '/' else c)
  let clean := Text.dropLeading "/" (Text.cleanPath slashed)
  Text.join "/" (dropUpward (Text.splitAtChar '/' clean))

/-- What a name in an archive stands for. -/
inductive ArchiveItem where
  | directory
  | file (content : String)
deriving Repr, DecidableEq

/-- Looks a name up. A directory is there if an entry is below it. -/
def archiveItem? (entries : List (String × String)) (name : String) : Option ArchiveItem :=
  if name = "." then some .directory
  else
    match entries.find? fun e => entryKey e.1 = name with
    | some (stored, content) =>
      some (if Text.hasTrailing "/" stored then .directory else .file content)
    | none =>
      if entries.any fun e => Text.hasLeading (name ++ "/") (entryKey e.1) then some .directory else none

end TaskBuilders.Bundle
