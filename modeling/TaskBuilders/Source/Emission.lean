import TaskBuilders.Builder.Plan
import TaskBuilders.Source.File

/-!
# Writing wrappers, containers and builders

A block is made from qualified names. Shortening a name records an import, so the names are
shortened in the order in which the block needs them.
-/

namespace TaskBuilders

open Naming Source Text

/-- Writes blocks against the runtime package at an import path. -/
structure Emitter where
  runtime : String
deriving Repr, DecidableEq

namespace Emitter

/-- A qualified name of the runtime package. -/
def runtimeName (e : Emitter) (name : String) : String := qualify e.runtime name

/-- The path type of the runtime package. -/
def pathType (e : Emitter) : String := e.runtimeName "Path"

/-- The root container of the runtime package. -/
def taskContainerType (e : Emitter) : String := e.runtimeName "TaskContainer"

/-- Shortens a qualified name. -/
def short (qualified : String) : StateM ImportTable String := fun t => t.shorten qualified

/-- Shortens a name of the runtime package. -/
def shortRuntime (e : Emitter) (name : String) : StateM ImportTable String :=
  short (e.runtimeName name)

/-! ## Wrappers -/

/-- What a wrapper is made from. -/
structure Wrapper where
  /-- The qualified wrapper type. -/
  type : String
  /-- The type identifier. -/
  source : String
  attributes : List AttributeDescriptor
  textContainer : Bool
  condition : Bool
  /-- The qualified containers that the wrapper satisfies. -/
  containers : List String

/-- The type that an attribute has in source. -/
def attributeType (e : Emitter) (a : AttributeDescriptor) : StateM ImportTable String := do
  if a.kind = .primitive then return a.type
  else if a.kind = .ownerRef || a.kind = .pathRef then
    let reference ← e.shortRuntime "Reference"
    let target ← short a.type
    return "*" ++ reference ++ "[*" ++ target ++ "]"
  else return "string"

/-- The field name that an attribute asks for; `index` makes the name of an attribute that no
identifier can be made of. -/
def preferredField (index : Nat) (name : String) : String :=
  let ident := exported (camelCase name)
  if ident = "" || ident = "_" then "Attr" ++ toString index else ident

/-- The field names of attributes, each different from those in `used`; a name that is taken gets a
number. -/
def fieldNames (used : List String) (index : Nat) : List AttributeDescriptor → List String
  | [] => []
  | a :: rest =>
    let name := firstFree used (preferredField index a.name)
    name :: fieldNames (used ++ [name]) (index + 1) rest

/-- The field of an attribute. -/
def field (e : Emitter) (name : String) (a : AttributeDescriptor) : StateM ImportTable Field := do
  let type ← e.attributeType a
  return ⟨name, a.name, type, a.kind = .primitive || a.kind = .string⟩

/-- The fields of a wrapper, in the order of its attributes. -/
def fields (e : Emitter) (attrs : List AttributeDescriptor) : StateM ImportTable (List Field) :=
  ((fieldNames [] 0 attrs).zip attrs).mapM fun (name, a) => e.field name a

/-- Shortens a name of the runtime package that is needed under a condition. -/
def shortRuntimeIf (e : Emitter) (needed : Bool) (name : String) :
    StateM ImportTable (Option String) :=
  if needed then some <$> e.shortRuntime name else pure none

/-- The block of a wrapper. -/
def wrapperBlock (e : Emitter) (w : Wrapper) : StateM ImportTable WrapperBlock := do
  let node ← e.shortRuntime "Node"
  let task ← e.shortRuntime "Task"
  let newNode ← e.shortRuntime "NewNode"
  let fields ← e.fields w.attributes
  let textInterface ← e.shortRuntimeIf w.textContainer "TextContainer"
  let conditionInterface ← e.shortRuntimeIf w.condition "Condition"
  return {
    ident := identOf w.type
    source := w.source
    node, task, newNode, fields, textInterface, conditionInterface
    markers := w.containers.map identOf }

/-! ## Containers -/

/-- The block of the container `name` for a capability. -/
def containerBlock (e : Emitter) (name capability : String) :
    StateM ImportTable ContainerBlock := do
  let task ← e.shortRuntime "Task"
  return ⟨identOf name, capability, task⟩

/-! ## Builders -/

/-- The call of the immediate form from the deferred one. -/
def forwardCall (d : BuilderDecl) (blockType : String) : String :=
  let attrs := if d.params.isEmpty then [] else ["attrs"]
  let call := immediateName d.name
  let block := blockType ++ " \x7b\x7d"
  let stmt :=
    if d.parent.kind = .owner then "o." ++ call ++ "(" ++ join ", " (attrs ++ [block]) ++ ")"
    else call ++ "(" ++ join ", " (["parent"] ++ attrs ++ [block]) ++ ")"
  if d.returns = .nothing then stmt else "return " ++ stmt

/-- The lines of a step. -/
def stepLines (e : Emitter) (d : BuilderDecl) (create blockType : String) :
    BuilderStep → StateM ImportTable (List String)
  | .construct =>
    let parent := if d.parent.kind = .owner then "o" else "parent"
    let outermost := if d.parent.outermost then "true" else "false"
    pure ["obj := " ++ create ++ "(" ++ parent ++ ", " ++ quote d.tag ++ ", " ++ outermost ++ ")"]
  | .assignAttributes => pure ["obj.ApplyDSLAttrs(attrs)"]
  | .runInit => pure ["if body != nil \x7b", "\tbody(obj)", "\x7d"]
  | .obtainReference => do
    let newReference ← e.shortRuntime "NewReference"
    return ["ref := " ++ newReference ++ "(obj)"]
  | .configure => pure ["obj.DSLNode().Configure()"]
  | .runContainer => do
    let runContainer ← e.shortRuntime "RunContainer"
    return [runContainer ++ "(obj, body)"]
  | .execute => pure ["obj.DSLNode().Execute()"]
  | .return =>
    pure [if d.returns = .bool then "return obj.DSLNode().Eval()" else "return ref"]
  | .forward => pure [forwardCall d blockType]

/-- The parameter that takes the attributes, when there are any. -/
def attributeParams (d : BuilderDecl) : StateM ImportTable (List String) :=
  if d.params.isEmpty then pure []
  else do
    let element := QualifiedName.parse d.element
    let record ← short (qualify element.package (element.ident ++ "Attrs"))
    return ["attrs " ++ record]

/-- The type of the block that runs on the node, whose wrapper goes by `elem`. -/
def blockType (d : BuilderDecl) (elem : String) : StateM ImportTable String :=
  if d.container then do
    let receiver ← short d.initReceiver
    return "func(" ++ receiver ++ ")"
  else pure ("func(*" ++ elem ++ ")")

/-- The type that a builder returns. -/
def resultType (e : Emitter) (d : BuilderDecl) (elem : String) :
    StateM ImportTable (Option String) :=
  match d.returns with
  | .nothing => pure none
  | .bool => pure (some "bool")
  | .reference => do
    let reference ← e.shortRuntime "Reference"
    return some ("*" ++ reference ++ "[*" ++ elem ++ "]")

/-- The receiver of a builder that is a method on `parentType`. -/
def receiver (d : BuilderDecl) (parentType : String) : Option String :=
  if d.parent.kind = .owner then some ("o *" ++ parentType) else none

/-- The parameters of a builder under `parentType`. -/
def params (d : BuilderDecl) (parentType blockType : String) (attrs : List String) :
    List String :=
  (if d.parent.kind = .owner then [] else ["parent " ++ parentType]) ++ attrs
    ++ (if d.form = .immediate then ["body " ++ blockType] else [])

/-- The block of a builder. -/
def builderBlock (e : Emitter) (d : BuilderDecl) : StateM ImportTable BuilderBlock := do
  let element := QualifiedName.parse d.element
  let elem ← short d.element
  let create ← short (qualify element.package ("New" ++ element.ident))
  let parentType ← short d.parent.type
  let attrs ← attributeParams d
  let block ← blockType d elem
  let result ← e.resultType d elem
  let body ← d.steps.mapM (e.stepLines d create block)
  return {
    decl := d
    receiver := receiver d parentType
    params := params d parentType block attrs
    result
    body := body.flatten }

end Emitter

namespace SourceFile

/-- Adds a block that is made while imports are recorded. -/
def emit (f : SourceFile) (make : StateM ImportTable Block) : SourceFile :=
  let (b, t) := make f.imports
  { f with imports := t, blocks := f.blocks ++ [b] }

/-- Adds a wrapper. -/
def emitWrapper (f : SourceFile) (e : Emitter) (w : Emitter.Wrapper) : SourceFile :=
  f.emit (.wrapper <$> e.wrapperBlock w)

/-- Adds a container. -/
def emitContainer (f : SourceFile) (e : Emitter) (name capability : String) : SourceFile :=
  f.emit (.container <$> e.containerBlock name capability)

/-- Adds a builder. -/
def emitBuilder (f : SourceFile) (e : Emitter) (d : BuilderDecl) : SourceFile :=
  f.emit (.builder <$> e.builderBlock d)

end SourceFile

end TaskBuilders
