import TaskBuilders.Dict
import TaskBuilders.Naming.FreeName
import TaskBuilders.Naming.Identifier
import TaskBuilders.Naming.Qualified
import TaskBuilders.Text.Affix

/-!
# Names of generated types

All wrapper types and capability containers live in one output package, so their names are claimed
globally: the first identifier that asks for a name gets it, and a later one falls back to a name
made of its package. A name once given stays with its key.
-/

namespace TaskBuilders.Naming

open Text

/-- What stands before the simple name of every generated type. -/
def marker : String := "DSL"

/-- The key under which the container of a capability is named. -/
def containerKey (id : String) : String := "container:" ++ id

/-- The names given out so far. -/
structure Namer where
  /-- Import path of the output package. -/
  package : String
  /-- What is stripped from type identifiers before their package makes a fallback name. -/
  sourceRoot : String
  /-- The current name of each key. -/
  names : Dict String
  /-- The key that owns each name, also of names that their key has left. -/
  owners : Dict String

namespace Namer

/-- A namer that has given out no name. -/
def new (package sourceRoot : String) : Namer := ⟨package, sourceRoot, ∅, ∅⟩

/-- Whether a name belongs to another key. -/
def takenFor (n : Namer) (key ident : String) : Bool :=
  match n.owners.get? ident with
  | some owner => owner != key
  | none => false

/-- Gives a name to a key. -/
def assign (n : Namer) (key ident : String) : Namer :=
  { n with names := n.names.insert key ident, owners := n.owners.insert ident key }

/-- The package part of a fallback name: what follows the source root, or the whole package behind
`other`. -/
def fallbackPackage (n : Namer) (source : String) : String :=
  let package := packageOf source
  if n.sourceRoot ≠ "" && hasLeading n.sourceRoot (package ++ ".") then
    dropLeading n.sourceRoot (package ++ ".")
  else "other." ++ package

/-- The preferred name with the package of `source` put in behind the marker. -/
def fallbackName (n : Namer) (source preferred : String) : String :=
  marker ++ exported (camelCase (n.fallbackPackage source)) ++ dropLeading marker preferred

/-- The names that belong to keys other than `key`. -/
def takenNames (n : Namer) (key : String) : List String :=
  (n.owners.entries.filter (fun e => e.2 != key)).map (·.1)

/-- The name of a key that has none yet: the preferred one, or the first free fallback. -/
def choose (n : Namer) (key preferred source : String) : String :=
  if n.takenFor key preferred then firstFree (n.takenNames key) (n.fallbackName source preferred)
  else preferred

/-- The name of a key, given on first request. -/
def mint (n : Namer) (key preferred source : String) : String × Namer :=
  match n.names.get? key with
  | some ident => (ident, n)
  | none =>
    let ident := n.choose key preferred source
    (ident, n.assign key ident)

/-- The qualified name of the wrapper type of a type identifier. -/
def resultName (n : Namer) (id : String) : String × Namer :=
  let (ident, n') := n.mint id (marker ++ simpleName id) id
  (qualify n.package ident, n')

/-- The qualified name of the container of a capability. -/
def containerName (n : Namer) (id : String) : String × Namer :=
  let source := if id = "" then containerKey id else id
  let (ident, n') := n.mint (containerKey id) (marker ++ simpleName id ++ "Container") source
  (qualify n.package ident, n')

/-- Pins a name to a key, unless another key owns it. -/
def claimKey (n : Namer) (key qualified : String) : Bool × Namer :=
  let ident := identOf qualified
  if n.takenFor key ident then (false, n) else (true, n.assign key ident)

/-- Pins the wrapper name of a type identifier. -/
def claim (n : Namer) (id qualified : String) : Bool × Namer := n.claimKey id qualified

/-- Pins the container name of a capability. -/
def claimContainer (n : Namer) (id qualified : String) : Bool × Namer :=
  n.claimKey (containerKey id) qualified

end Namer

end TaskBuilders.Naming
