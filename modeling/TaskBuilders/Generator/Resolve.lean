import TaskBuilders.Generator.Render

/-!
# Resolving types

Resolving a type writes its wrapper and resolves the types of its nested elements. The type is
entered into the table of resolved types before its nested elements are looked at, so a nesting that
leads back to it ends there.

A provider that answers with a definition of another identifier can defeat that. The depth of the
nesting is therefore bounded; no run over a provider that answers with definitions of the
identifiers it is asked for reaches the bound.
-/

namespace TaskBuilders.Generator

open Naming

/-- How a run can break down when a provider answers with definitions of other identifiers. -/
inductive Crash where
  /-- A type counts as resolved, but the table has no entry for it. -/
  | missingTarget
  /-- The nesting is deeper than the bound. -/
  | endlessNesting
deriving Repr, DecidableEq

/-- The wording of a crash. -/
def Crash.message : Crash → String
  | .missingTarget => "runtime error: invalid memory address or nil pointer dereference"
  | .endlessNesting => "stack overflow"

/-- The outcome of resolving a type. -/
inductive Resolution where
  | resolved
  | unresolved
  | crashed (c : Crash)
deriving Repr, DecidableEq

/-- The definition of an identifier, from the table or from the provider. Identifiers that the
provider does not know are remembered. -/
def lookup (g : Generator) (id : String) : Option TaskDefinition × Generator :=
  match (g.resolved.get? id).bind (·.definition) with
  | some d => (some d, g)
  | none =>
    if g.missing.contains id then (none, g)
    else
      match g.provider.ask id g.memory with
      | (.found d, memory) => (some d, { g with memory })
      | (.failed f, memory) =>
        (none, { g with memory, missing := id :: g.missing }.logging
          (.debug "type not introspectable, skipping" [("type", id), ("err", f.message)]))
      | (_, memory) => (none, { g with memory, missing := id :: g.missing })

/-- Names the type of a definition and the containers of its nested types. -/
def nameTarget (g : Generator) (d : TaskDefinition) : String × List String × Generator :=
  let (name, namer) := g.namer.resultName d.id
  let (containers, g) := containerNamesOf (d.nestedTypes.filter g.needsContainer) { g with namer }
  (name, containers, g)

/-- Registers the class of a definition and writes its wrapper, once its type and the containers of
its nested types have names. -/
def enterTarget (g : Generator) (d : TaskDefinition) (name : String) (containers : List String) :
    Target × Generator :=
  let path := g.filePath (snakeCase (identOf name) ++ ".gen.go")
  let t : Target := ⟨d.id, some d, name, some path⟩
  let wrapper : Emitter.Wrapper := {
    type := name
    source := d.id
    attributes := d.descriptors name g.framework
    textContainer := d.textContainer
    condition := d.condition
    containers }
  (t, { (g.ensureFile path d.id).editFile path (·.emitWrapper g.emitter wrapper) with
    library := g.library.register { name, source := d.id, traits := containers }
    resolved := g.resolved.insert d.id t
    log := g.log ++ [.debug "class resolved" [("type", d.id), ("class", name)]] })

/-- Enters a definition: names and registers its class, and writes its wrapper. -/
def openTarget (g : Generator) (d : TaskDefinition) : Target × Generator :=
  let (name, containers, g) := g.nameTarget d
  g.enterTarget d name containers

/-- A way to resolve types. -/
abbrev Resolver := String → Generator → Resolution × Generator

/-- Writes the builder methods for a nested element whose type counts as resolved. The entry of the
type is needed only if its owner still has no builder for the tag. -/
def renderElement (owner : Target) (e : NestedElement) (g : Generator) : Option Crash × Generator :=
  if g.library.containsFunction owner.className e.tag then (none, g)
  else
    match g.resolved.get? e.type with
    | none => (some .missingTarget, g)
    | some t =>
      match t.definition with
      | none => (some .missingTarget, g)
      | some d =>
        (none, g.render (g.targetPath owner) ⟨.owner, owner.className⟩ e.tag d t.className)

/-- Writes the builder methods for nested elements on the wrapper of their owner. -/
def renderNested (resolve : Resolver) (owner : Target) :
    List NestedElement → Generator → Option Crash × Generator
  | [], g => (none, g)
  | e :: es, g =>
    if g.library.containsFunction owner.className e.tag then renderNested resolve owner es g
    else
      match resolve e.type g with
      | (.crashed c, g) => (some c, g)
      | (.unresolved, g) =>
        renderNested resolve owner es
          (g.logging (.debug "nested element type not resolvable, skipping"
            [("owner", owner.id), ("tag", e.tag), ("type", e.type)]))
      | (.resolved, g) =>
        match renderElement owner e g with
        | (some c, g) => (some c, g)
        | (none, g) => renderNested resolve owner es g

/-- Enters a definition with its nested elements and its containers. -/
def addTarget (resolve : Resolver) (d : TaskDefinition) (g : Generator) : Resolution × Generator :=
  let (t, g) := g.openTarget d
  match renderNested resolve t d.nested g with
  | (some c, g) => (.crashed c, g)
  | (none, g) =>
    (.resolved, (g.resolveContainers d.capabilities).resolveContainers d.nestedTypes)

/-- Resolves a type whose nesting is not deeper than a bound. -/
def resolveWithin : Nat → Resolver
  | 0, _, g => (.crashed .endlessNesting, g)
  | n + 1, id, g =>
    match g.resolved.get? id with
    | some t =>
      if t.definition.isSome then (.resolved, g)
      else
        match g.lookup id with
        | (none, g) => (.unresolved, g)
        | (some d, g) =>
          (.resolved, { g with resolved := g.resolved.insert id { t with definition := some d } })
    | none =>
      match g.lookup id with
      | (none, g) => (.unresolved, g)
      | (some d, g) => addTarget (resolveWithin n) d g

/-- The bound on the depth of a nesting. Along a nesting that returns to a type something has happened
in between: a definition was entered, a provider remembers one question more, or a nested element
has got its builders. -/
def nestingBound (g : Generator) : Nat :=
  (2 * g.provider.known.length + g.provider.elements + 2) * (g.provider.known.length + 2)

/-- Makes sure that a type has a class; its wrapper is written on first use. -/
def resolveClass (g : Generator) (id : String) : Resolution × Generator :=
  resolveWithin g.nestingBound id g

end TaskBuilders.Generator
