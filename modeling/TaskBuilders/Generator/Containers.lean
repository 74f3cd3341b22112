import TaskBuilders.Generator.Basic

/-!
# Capability containers

A capability gets one container, an interface in the file that holds them all. Types of the standard
library and identifiers with an excluded beginning get none.
-/

namespace TaskBuilders.Generator

open Naming Text

/-- The file that holds the containers. -/
def containersFile : String := "containers.gen.go"

/-- Whether a capability gets a container. -/
def needsContainer (g : Generator) (id : String) : Bool :=
  !g.options.noContainer.any (fun p => p != "" && hasLeading p id) && !isStandard (packageOf id)

/-- The qualified name of the container of a capability. -/
def containerName (g : Generator) (id : String) : String × Generator :=
  match g.containerNames.get? id with
  | some name => (name, g)
  | none =>
    let (name, namer) := g.namer.containerName id
    (name, { g with namer, containerNames := g.containerNames.insert id name })

/-- The names of the containers of several capabilities. -/
def containerNamesOf : List String → Generator → List String × Generator
  | [], g => ([], g)
  | id :: ids, g =>
    let (name, g) := g.containerName id
    let (names, g) := containerNamesOf ids g
    (name :: names, g)

/-- Records a container that an earlier library provides. -/
def adoptContainer (g : Generator) (id name : String) : Generator :=
  { g with
    containerNames := g.containerNames.insert id name
    containersDone := id :: g.containersDone }

/-- Registers the container of a capability under its name and writes its interface. -/
def openContainer (g : Generator) (id name : String) : Generator :=
  let path := g.filePath containersFile
  { (g.ensureFile path "capability containers").editFile path
      (·.emitContainer g.emitter name id) with
    containersDone := id :: g.containersDone
    library := g.library.register { name, capability := id }
    log := g.log ++
      [.debug "container resolved" [("capability", id), ("container", name)]] }

/-- Writes the container of a capability that needs one and has none. -/
def resolveContainer (g : Generator) (id : String) : Generator :=
  if g.containersDone.contains id || !g.needsContainer id then g
  else
    let (name, g) := g.containerName id
    g.openContainer id name

/-- Writes the containers of several capabilities. -/
def resolveContainers (g : Generator) (ids : List String) : Generator :=
  ids.foldl resolveContainer g

end TaskBuilders.Generator
