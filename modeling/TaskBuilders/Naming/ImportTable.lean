import TaskBuilders.Naming.FreeName
import TaskBuilders.Naming.Identifier
import TaskBuilders.Naming.Qualified
import TaskBuilders.Text.Path

/-!
# Import tables

The imports of one generated file. A table turns qualified names into local references and records
the packages that they need. A package keeps the alias it got first, and no two packages share one.
-/

namespace TaskBuilders.Naming

open Text

/-- An import path and the alias that the file uses for it. -/
structure ImportAlias where
  path : String
  shortName : String
deriving Repr, DecidableEq

/-- The identifier made of the last element of an import path. -/
def packageIdent (importPath : String) : String :=
  let ident := lowercase (camelCase (dropTrailing "-go" (pathBase importPath)))
  if ident = "" || ident = "_" then "pkg" else ident

/-- Whether a character parts the elements of an import path. -/
def isPathBreak (c : Char) : Bool := c == '/' || c == '.' || c == '-'

/-- The identifier made of a whole import path, for paths whose last elements meet. -/
def pathIdent (importPath : String) : String :=
  let parts := (piecesWhere isPathBreak importPath.toList).filter (fun p => !p.isEmpty)
  join "_" (parts.map fun p => lowercase (camelCase (String.ofList p)))

/-- The imports of a file in the package at import path `self`, in the order of first use. -/
structure ImportTable where
  self : String
  used : List ImportAlias
deriving Repr, DecidableEq

namespace ImportTable

/-- The table of a file without imports. -/
def empty (self : String) : ImportTable := ⟨self, []⟩

/-- The alias of a package that was used before. -/
def aliasOf? (t : ImportTable) (path : String) : Option String :=
  (t.used.find? (·.path == path)).map (·.shortName)

/-- The aliases in use. -/
def aliases (t : ImportTable) : List String := t.used.map (·.shortName)

/-- The alias that a new package gets. -/
def freshAlias (t : ImportTable) (path : String) : String :=
  if t.aliases.contains (packageIdent path) then firstFree t.aliases (pathIdent path)
  else packageIdent path

/-- The alias of a package, recorded on first use. -/
def require (t : ImportTable) (path : String) : String × ImportTable :=
  match t.aliasOf? path with
  | some a => (a, t)
  | none => (t.freshAlias path, { t with used := t.used ++ [⟨path, t.freshAlias path⟩] })

/-- The local reference of a qualified name. Builtin names and names of the file's own package stay
bare. -/
def shorten (t : ImportTable) (qualified : String) : String × ImportTable :=
  let q := QualifiedName.parse qualified
  if q.package = "" || q.package = t.self then (q.ident, t)
  else
    let (a, t') := t.require q.package
    (a ++ "." ++ q.ident, t')

/-- The number of imports. -/
def size (t : ImportTable) : Nat := t.used.length

end ImportTable

/-- A line of an import block; `name` is empty when the package goes by its last path element. -/
structure ImportSpec where
  name : String
  path : String
deriving Repr, DecidableEq

/-- The import line of a recorded package. -/
def ImportAlias.spec (a : ImportAlias) : ImportSpec :=
  ⟨if a.shortName = pathBase a.path then "" else a.shortName, a.path⟩

/-- The import block: one line a package, by ascending path. -/
def ImportTable.specs (t : ImportTable) : List ImportSpec :=
  (t.used.map ImportAlias.spec).mergeSort (fun a b => a.path ≤ b.path)

end TaskBuilders.Naming
