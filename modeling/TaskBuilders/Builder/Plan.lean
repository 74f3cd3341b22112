import TaskBuilders.Definition.Basic
import TaskBuilders.Naming.Identifier
import TaskBuilders.Naming.Namer
import TaskBuilders.Structure.AttributeDescriptor

/-!
# Builder plans

A plan says which builder functions exist for a definition under a parent, what their bodies do
and what they return, whatever they look like in source code. Every builder has two forms: the
immediate form takes an initializer block, the deferred form forwards to it with an empty one.
-/

namespace TaskBuilders

/-- Where a builder is callable. -/
inductive ParentKind where
  /-- On the root container; what is built there runs as soon as it is configured. -/
  | root
  /-- On the container of a capability. -/
  | container
  /-- As a method of the wrapper type that declares the nested element. -/
  | owner
deriving Repr, DecidableEq

/-- The receiver of a builder. -/
structure Parent where
  kind : ParentKind
  /-- The qualified receiver type. -/
  type : String
deriving Repr, DecidableEq

/-- Whether what is built under a parent runs on its own. -/
def Parent.outermost (p : Parent) : Bool := p.kind == .root

/-- The two call shapes of a builder. -/
inductive BuilderForm where
  | immediate
  | deferred
deriving Repr, DecidableEq

/-- What a builder returns. -/
inductive ReturnPolicy where
  | nothing
  | bool
  | reference
deriving Repr, DecidableEq

/-- Conditions return their evaluation, other definitions that can be referred to a reference, and
the rest nothing. -/
def TaskDefinition.returnPolicy (d : TaskDefinition) : ReturnPolicy :=
  if d.condition then .bool else if d.reference then .reference else .nothing

/-- A statement of a builder's body. -/
inductive BuilderStep where
  /-- Creates the node under the parent. -/
  | construct
  /-- Copies the given attributes onto the node. -/
  | assignAttributes
  /-- Runs the block on the node. -/
  | runInit
  /-- Wraps the node in a typed reference. -/
  | obtainReference
  /-- Attaches the node. -/
  | configure
  /-- Runs the block on a view of the node whose tasks become its children. -/
  | runContainer
  /-- Runs the node. -/
  | execute
  /-- Returns the evaluation or the reference. -/
  | return
  /-- Calls the immediate form with an empty block. -/
  | forward
deriving Repr, DecidableEq

/-- The steps in the order of their declaration. -/
def BuilderStep.all : List BuilderStep :=
  [.construct, .assignAttributes, .runInit, .obtainReference, .configure, .runContainer, .execute,
   .return, .forward]

/-- One builder function. -/
structure BuilderDecl where
  tag : String
  /-- The name of the deferred form. -/
  name : String
  form : BuilderForm
  parent : Parent
  /-- The qualified generated type that is constructed. -/
  element : String
  /-- The type identifier behind the element. -/
  source : String
  params : List AttributeDescriptor
  /-- The qualified type that the block receives. -/
  initReceiver : String
  container : Bool
  steps : List BuilderStep
  returns : ReturnPolicy
deriving Repr, DecidableEq

/-- The name of the immediate form of a builder. -/
def immediateName (name : String) : String := name ++ "With"

/-- The name of the function or method. -/
def BuilderDecl.funcName (d : BuilderDecl) : String :=
  match d.form with
  | .immediate => immediateName d.name
  | .deferred => d.name

/-- Whether the body has a step. -/
def BuilderDecl.has (d : BuilderDecl) (s : BuilderStep) : Bool := d.steps.contains s

/-- What a container's name says about its capability. -/
def capabilityLabel (containerType : String) : String :=
  Text.dropTrailing "Container" (Text.dropLeading Naming.marker (identOf containerType))

/-- The name of the builder for a tag. Builders on a capability's container carry its name, so that
several of them can live in one package. -/
def builderName (parent : Parent) (tag : String) : String :=
  let base := Naming.exported (Naming.camelCase tag)
  if parent.kind = .container then base ++ "In" ++ capabilityLabel parent.type else base

/-- The body of the immediate form. A container is attached before its block runs, everything else
after it; a condition is evaluated and never run. -/
def immediateSteps (d : TaskDefinition) (parent : Parent) (params : List AttributeDescriptor) :
    List BuilderStep :=
  [.construct]
    ++ (if params.isEmpty then [] else [.assignAttributes])
    ++ (if d.container then [] else [.runInit])
    ++ (if d.returnPolicy = .reference then [.obtainReference] else [])
    ++ [.configure]
    ++ (if d.container then [.runContainer] else [])
    ++ (if parent.outermost && !d.condition then [.execute] else [])
    ++ (if d.returnPolicy = .nothing then [] else [.return])

/-- The immediate form of the builder for `d` under `parent`. `element` is the generated type of
`d`, and `rootContainer` what the block of a container receives. -/
def planImmediate (d : TaskDefinition) (parent : Parent) (tag element rootContainer : String)
    (params : List AttributeDescriptor) : BuilderDecl where
  tag := tag
  name := builderName parent tag
  form := .immediate
  parent := parent
  element := element
  source := d.id
  params := params
  initReceiver := if d.container then rootContainer else element
  container := d.container
  steps := immediateSteps d parent params
  returns := d.returnPolicy

/-- The deferred form of a builder. -/
def BuilderDecl.toDeferred (b : BuilderDecl) : BuilderDecl :=
  { b with form := .deferred, steps := [.forward] }

/-- Both forms of the builder for `d` under `parent`. -/
def planBuilders (d : TaskDefinition) (parent : Parent) (tag element rootContainer : String)
    (params : List AttributeDescriptor) : List BuilderDecl :=
  let b := planImmediate d parent tag element rootContainer params
  [b, b.toDeferred]

end TaskBuilders
