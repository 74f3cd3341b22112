import TaskBuilders.Generator.Containers

/-!
# Builders of a run

A builder is written once under each parent: neither when the parent has one for the tag nor when a
function of the same name exists.
-/

namespace TaskBuilders.Generator

/-- What stands before the names of a parent's builders in the table of functions. Methods have
their receiver to themselves; all other builders share the package. -/
def functionScope (parent : Parent) : String :=
  if parent.kind = .owner then parent.type ++ "." else ""

/-- Writes one form of a builder. -/
def writeBuilder (path : String) (g : Generator) (d : BuilderDecl) : Generator :=
  let g := { g with functions := (functionScope d.parent ++ d.funcName) :: g.functions }
  g.editFile path (·.emitBuilder g.emitter d)

/-- Declares a builder in the library, or keeps the reason why that is impossible. -/
def declare (g : Generator) (parent : Parent) (tag : String) (attrs : List AttributeDescriptor)
    (className : String) : Generator :=
  match g.library.addFunction parent.type tag (builderName parent tag) g.options.importPath attrs
      className with
  | .ok library => { g with library }
  | .error e => { g with errors := g.errors ++ [e] }

/-- Both forms of the builder for a definition whose generated type is `className`. -/
def plan (g : Generator) (parent : Parent) (tag : String) (d : TaskDefinition)
    (className : String) : List BuilderDecl :=
  planBuilders d parent tag className g.rootContainer (d.descriptors className g.framework)

/-- Writes both forms of a builder and declares it. -/
def build (g : Generator) (path : String) (parent : Parent) (tag : String) (d : TaskDefinition)
    (className : String) : Generator :=
  ((g.plan parent tag d className).foldl (writeBuilder path) g).declare parent tag
    (d.descriptors className g.framework) className

/-- Builds a builder, unless its parent has one for the tag or one of its names is taken. -/
def render (g : Generator) (path : String) (parent : Parent) (tag : String) (d : TaskDefinition)
    (className : String) : Generator :=
  if g.library.containsFunction parent.type tag then g
  else
    match (g.plan parent tag d className).find?
        (fun b => g.functions.contains (functionScope parent ++ b.funcName)) with
    | some b =>
      g.logging (.warn "builder name already taken, skipping"
        [("tag", tag), ("func", b.funcName), ("parent", parent.type)])
    | none => g.build path parent tag d className

/-- The path of the file that builders of a target go to. -/
def targetPath (g : Generator) (t : Target) : String :=
  t.file.getD (g.filePath ("ext_" ++ Naming.snakeCase (identOf t.className) ++ ".gen.go"))

/-- Makes sure that the file that builders of a target go to exists. -/
def placeTarget (g : Generator) (id : String) (t : Target) : Generator :=
  { g.ensureFile (g.targetPath t) t.id with
    resolved := g.resolved.insert id { t with file := some (g.targetPath t) } }

/-- Writes the builder for a tag under the container of a capability. -/
def renderInContainer (path : String) (t : Target) (d : TaskDefinition) (tag : String)
    (g : Generator) (capability : String) : Generator :=
  if !g.needsContainer capability then
    g.logging (.debug "capability has no container, skipping"
      [("tag", tag), ("type", t.id), ("capability", capability)])
  else
    let g := g.resolveContainer capability
    let (name, g) := g.containerName capability
    g.render path ⟨.container, name⟩ tag d t.className

/-- Writes the builders for a tag that produce a resolved type: under the root container when
`topLevel` is set and the type may stand there, and under the container of every capability that
has one. -/
def generateConstructors (g : Generator) (id tag : String) (topLevel : Bool) : Generator :=
  match g.resolved.get? id with
  | none => g
  | some t =>
    match t.definition with
    | none => g
    | some d =>
      let path := g.targetPath t
      let g := g.placeTarget id t
      let g :=
        if topLevel && d.topLevel then g.render path ⟨.root, g.rootContainer⟩ tag d t.className
        else g
      d.capabilities.foldl (renderInContainer path { t with id } d tag) g

end TaskBuilders.Generator
