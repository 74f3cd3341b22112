import TaskBuilders.Builder.AttributeMapping
import TaskBuilders.Definition.Provider
import TaskBuilders.Log.Record
import TaskBuilders.Source.Emission
import TaskBuilders.Structure.Basic

/-!
# The state of a generation run

Everything that a run knows: the provider of definitions, the structure of the library as far as it
is generated, the names given out, the files being written and what was resolved.
-/

namespace TaskBuilders

open Naming Text

/-- The settings of a run. -/
structure GeneratorOptions where
  /-- The name of the output package. -/
  package : String := ""
  /-- The import path of the output package. -/
  importPath : String := ""
  /-- The import path of the runtime package. -/
  runtimePath : String := ""
  /-- The directory of the output package below the source root. -/
  dir : String := ""
  /-- What is stripped from type identifiers that must be named by their package. -/
  sourceRoot : String := ""
  /-- The attribute type of references. -/
  referenceType : String := ""
  /-- Beginnings of identifiers whose capabilities never get a container. -/
  noContainer : List String := []

/-- The name of the output package when none is given. -/
def defaultPackage : String := "dslgen"

/-- Fills in what is not given. -/
def GeneratorOptions.withDefaults (o : GeneratorOptions) : GeneratorOptions :=
  let package := if o.package = "" then defaultPackage else o.package
  { o with
    package
    dir := if o.dir = "" then package else o.dir
    referenceType := if o.referenceType = "" then TaskBuilders.referenceType else o.referenceType }

/-- What can be wrong with the settings. -/
inductive OptionsError where
  | noImportPath
  | noRuntimePath
deriving Repr, DecidableEq

/-- The wording of an error in the settings. -/
def OptionsError.message : OptionsError → String
  | .noImportPath => "generator: invalid options: output import path is required"
  | .noRuntimePath => "generator: invalid options: runtime import path is required"

/-- A resolved type. -/
structure Target where
  /-- The type identifier. -/
  id : String
  /-- The definition; the types of an earlier library have none until they are needed. -/
  definition : Option TaskDefinition
  /-- The qualified generated type. -/
  className : String
  /-- The path of the file that builders of the type go to, once there is one. -/
  file : Option String

/-- A run of the generator. -/
structure Generator where
  options : GeneratorOptions
  provider : Provider
  memory : Memory := []
  library : Structure := .empty
  namer : Namer
  emitter : Emitter
  resolved : Dict Target := ∅
  /-- The identifiers that the provider does not know. -/
  missing : List String := []
  files : Dict SourceFile := ∅
  /-- The names of the functions written so far; those of methods behind their receiver. -/
  functions : List String := []
  containerNames : Dict String := ∅
  /-- The capabilities whose container exists. -/
  containersDone : List String := []
  /-- Whether an earlier library was loaded, which settles the runtime package. -/
  runtimeSettled : Bool := false
  errors : List StructureError := []
  log : List LogRecord := []

namespace Generator

/-- A qualified name of the runtime package. -/
def runtimeName (g : Generator) (name : String) : String := g.emitter.runtimeName name

/-- The root container. -/
def rootContainer (g : Generator) : String := g.emitter.taskContainerType

/-- The import path of the runtime package in use. -/
def runtime (g : Generator) : String := g.emitter.runtime

/-- Adds a log record. -/
def logging (g : Generator) (r : LogRecord) : Generator := { g with log := g.log ++ [r] }

/-- The runtime types that builders hang off: the root container, and projects and targets, which
are root containers. -/
def rootClasses (g : Generator) : List StructureClass :=
  [{ name := g.rootContainer },
   { name := g.runtimeName "Project", traits := [g.rootContainer] },
   { name := g.runtimeName "Target", traits := [g.rootContainer] }]

/-- Registers the types of the runtime package in use. -/
def registerRoots (g : Generator) : Generator :=
  { g with library := g.rootClasses.foldl Structure.register { g.library with runtime := g.runtime } }

/-- A fresh run over a provider. -/
def new (provider : Provider) (options : GeneratorOptions) : Except OptionsError Generator :=
  let options := options.withDefaults
  if options.importPath = "" then .error .noImportPath
  else if options.runtimePath = "" then .error .noRuntimePath
  else
    .ok (registerRoots {
      options
      provider := provider.safe
      namer := .new options.importPath options.sourceRoot
      emitter := ⟨options.runtimePath⟩ })

/-- The types that the mapping of attributes depends on. -/
def framework (g : Generator) : Framework := ⟨g.options.referenceType, g.emitter.pathType⟩

/-- The path of a file of the output package. -/
def filePath (g : Generator) (name : String) : String := joinPath [g.options.dir, name]

/-- Makes sure that a file exists. -/
def ensureFile (g : Generator) (path source : String) : Generator :=
  { g with files := g.files.insertNew path (.new path g.options.package g.options.importPath source) }

/-- Changes the file at a path. -/
def editFile (g : Generator) (path : String) (change : SourceFile → SourceFile) : Generator :=
  { g with files := g.files.modify path change }

/-- The written files, by ascending path. -/
def outputs (g : Generator) : List SourceFile := g.files.values.filter (fun f => !f.isEmpty)

end Generator

end TaskBuilders
