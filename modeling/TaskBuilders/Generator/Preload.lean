import TaskBuilders.Generator.Resolve

/-!
# Earlier libraries

The structure of an earlier run into the same package only pins the names of types, for its files
are written again. The structure of another library is merged: its types need no wrapper, its
builders are never written again, and both libraries use its runtime package.
-/

namespace TaskBuilders.Generator

open Naming

/-- A structure to load, and the orders in which its classes are met: one when its package is looked
for, and one when it is merged. Nothing determines these orders. -/
structure Loading where
  library : Structure
  asked : List (String × StructureClass)
  merged : List (String × StructureClass)
  asked_perm : asked.Perm library.classes.entries
  merged_perm : merged.Perm library.classes.entries

/-- The order of the names is an order of the classes. -/
theorem Loading.names_perm (s : Structure) : s.classes.entries.Perm s.classes.entries := .refl _

/-- A structure whose classes are met in the order of their names. -/
def Loading.byName (s : Structure) : Loading where
  library := s
  asked := s.classes.entries
  merged := s.classes.entries
  asked_perm := names_perm s
  merged_perm := names_perm s

/-- Whether a class was generated for a type or a capability. -/
def isGenerated (c : StructureClass) : Bool := c.source != "" || c.capability != ""

/-- Whether a structure belongs to the output package: the generated class that is met first
decides. -/
def samePackage (g : Generator) (l : Loading) : Bool :=
  match (l.asked.map Prod.snd).find? isGenerated with
  | some c => packageOf c.name == g.options.importPath
  | none => false

/-- Pins the name of a class. -/
def pinName (g : Generator) (c : StructureClass) : Generator :=
  if c.source ≠ "" then { g with namer := (g.namer.claim c.source c.name).2 }
  else if c.capability ≠ "" then { g with namer := (g.namer.claimContainer c.capability c.name).2 }
  else g

/-- Moves to another runtime package. Classes of the old one that carry builders are kept. -/
def switchRuntime (g : Generator) (runtime : String) : Generator :=
  let unused := (g.rootClasses.map (·.name)).filter fun name =>
    (g.library.class? name).any (·.functions.isEmpty)
  let classes := unused.foldl Dict.erase g.library.classes
  registerRoots { g with library := { g.library with classes }, emitter := ⟨runtime⟩ }

/-- Takes over the runtime package of the first library that is loaded, if it names one. -/
def settleRuntime (g : Generator) (s : Structure) : Generator :=
  let g :=
    if s.runtime = "" || s.runtime = g.runtime then g
    else if g.runtimeSettled then
      g.logging (.warn "preloaded structures use different runtimes, keeping the first"
        [("runtime", g.runtime), ("ignored", s.runtime)])
    else g.switchRuntime s.runtime
  { g with runtimeSettled := true }

/-- Takes over a class of another library. -/
def adoptClass (g : Generator) (c : StructureClass) : Generator :=
  if c.source ≠ "" then
    { g with resolved := g.resolved.insertNew c.source ⟨c.source, none, c.name, none⟩ }
  else if c.capability ≠ "" then g.adoptContainer c.capability c.name
  else g

/-- Takes over a structure of another package. -/
def adoptLibrary (g : Generator) (l : Loading) : Generator :=
  let g := g.settleRuntime l.library
  let g := { g with library := g.library.mergeInOrder l.library l.merged }
  let g := l.library.listing.foldl adoptClass g
  g.logging ⟨.debug, "structure preloaded",
    [("classes", .count l.library.classes.size), ("runtime", .text g.runtime)]⟩

/-- Loads the structure of an earlier run. -/
def load (g : Generator) (l : Loading) : Generator :=
  if g.samePackage l then l.library.listing.foldl pinName g else g.adoptLibrary l

/-- Loads the structure of an earlier run in the order of the names of its classes. -/
def preload (g : Generator) (s : Structure) : Generator := g.load (.byName s)

end TaskBuilders.Generator
