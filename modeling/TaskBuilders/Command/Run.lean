import TaskBuilders.Bundle.Classpath
import TaskBuilders.Config.Load
import TaskBuilders.Generator.Run
import TaskBuilders.Library.Basic
import TaskBuilders.Log.Line
import TaskBuilders.Module.Manifest
import TaskBuilders.Source.Layout
import TaskBuilders.Structure.Codec

/-!
# Runs of the command

A run reads settings, bundles and alias sources, generates the builders of a library and writes its
sources, the runtime package and the structure of the library below the output directory. On demand it
builds the sources and packs them into an archive.

A run works on a file tree. What it has written stays when a later step fails, so the tree is kept beside
the outcome.
-/

namespace TaskBuilders.Command

open Files Config

/-- The reasons why a structure of an earlier run is not loaded. -/
inductive PreloadError where
  | unopened (path : String) (cause : AccessError)
  | undecoded (e : StructureError)
deriving Repr, DecidableEq

/-- The text of a reason. -/
def PreloadError.message : PreloadError → String
  | unopened path cause => "open structure: open " ++ path ++ ": " ++ cause.message
  | undecoded e => e.message

/-- What is wrong with the generated sources. -/
structure GenerationFaults where
  /-- Builders that could not be declared. -/
  undeclared : List StructureError := []
  /-- Files that could not be written. -/
  unwritten : List String := []
  /-- Files that are no sources of the language, and are written as they are. -/
  malformed : List String := []
deriving Repr, DecidableEq

/-- Whether nothing is wrong. -/
def GenerationFaults.isEmpty (f : GenerationFaults) : Bool :=
  f.undeclared.isEmpty && f.unwritten.isEmpty && f.malformed.isEmpty

/-- The text of faults, one a line. -/
def GenerationFaults.message (f : GenerationFaults) : String :=
  Text.join "\n" (f.undeclared.map (·.message) ++ f.unwritten.map ("write " ++ ·) ++
    f.malformed.map ("format " ++ ·))

/-- The reasons why a run fails. -/
inductive RunError where
  | arguments (e : FlagError)
  | load (e : LoadError)
  | settings (e : SettingsError)
  | logLevel (message : String)
  | bundle (e : Bundle.OpenError)
  | aliasSource (e : Alias.SourceError)
  | module (e : Module.SettleError)
  | options (e : OptionsError)
  | preload (path : String) (e : PreloadError)
  | cancelled
  | crashed (c : Generator.Crash)
  | generation (f : GenerationFaults)
  | runtime (name : String) (o : Obstacle)
  | structureFile (o : Obstacle)
  | build
  | archive (o : Obstacle)

/-- The text of a reason. -/
def RunError.message : RunError → String
  | arguments e => e.message
  | load e => e.message
  | settings e => e.message
  | logLevel m => m
  | bundle e => e.message?.getD Descriptor.refused
  | aliasSource e => e.message
  | module e => e.message
  | options e => e.message
  | preload path e => "preload " ++ path ++ ": " ++ e.message
  | cancelled => "context canceled"
  | crashed c => c.message
  | generation f => f.message
  | runtime name o => "copy runtime " ++ name ++ ": " ++ o.message
  | structureFile (.file l) => "create structure dir: " ++ (Obstacle.file l).message
  | structureFile o => "create structure file: " ++ o.message
  | build => "compile generated sources: exit status 1"
  | archive (.file l) => "create dist dir: " ++ (Obstacle.file l).message
  | archive o => "failed to create ZIP file: " ++ o.message

/-- Whether a failure is one of how the command was called. -/
def RunError.isUsage : RunError → Bool
  | arguments _ | load _ | settings _ | logLevel _ => true
  | _ => false

/-! ## Layout of the output -/

/-- The directory of sources below the output directory. -/
def sourceDir : String := "src"

/-- The directory of build results below the output directory. -/
def resultDir : String := "bin"

/-- The directory, and last name, of the runtime package below that of sources. -/
def runtimeDir : String := "dsl"

/-- The way from a directory to a file named by a path with slashes. -/
def below (dir : Location) (path : String) : Location :=
  Text.cleanElements true (dir ++ Text.splitAtChar '/' path)

/-- The archive below the output directory. -/
def archiveName : String := "dist/taskdsl.zip"

/-- The external command that builds the sources. -/
def buildCommand : String := "go build ./..."

/-! ## Steps -/

/-- What a run has achieved. -/
structure Report where
  sourceRoot : Location
  files : Nat
  aliases : Nat
  archive : Option Location := none
deriving Repr

/-- The state of a run. -/
structure Session where
  tree : Tree
  log : List LogRecord := []
  /-- The external commands that were started. -/
  commands : List String := []
  report : Option Report := none

/-- What a run depends on besides the file tree. -/
structure Surroundings where
  environment : List (String × String) := []
  /-- Whether the external build succeeds. -/
  builds : Bool := true
  cancelled : Generator.Cancellation := .never
  /-- The manifests that cannot be read. -/
  faults : Module.ReadFaults := .none
  /-- The reason why no manifest can be written, if there is one. -/
  unwritable : Option String := none

/-- A step of a run. What it did before a failure stays. -/
abbrev Step := ExceptT RunError (StateM Session)

/-- Adds records to the log. -/
def note (records : List LogRecord) : Step Unit :=
  modify fun s => { s with log := s.log ++ records }

/-- Puts a file into the tree. -/
def writeFile (l : Location) (i : Item) (failure : Obstacle → RunError) : Step Unit := do
  match (← get).tree.place l i with
  | .ok tree => modify fun s => { s with tree }
  | .error o => throw (failure o)

/-- The result of a fallible function. -/
def check {ε α : Type} (failure : ε → RunError) (r : Except ε α) : Step α :=
  match r with
  | .ok a => pure a
  | .error e => throw (failure e)

/-- Loads the bundles of the classpath. -/
def loadClasspath (s : Settings) : Step Classpath := do
  let (log, result) := Classpath.load (← get).tree s.classpath
  note log
  check .bundle result

/-- Loads the alias sources: the given ones, and those of the bundles if they are asked for. -/
def loadAliases (s : Settings) (c : Classpath) (given : List String) : Step (List TagAlias) := do
  let found := if s.seek then c.aliasSources else []
  if s.seek then
    note [⟨.debug, "alias sources found in bundles", [("count", .count found.length)]⟩]
  let (log, result) := Alias.load (Classpath.openSource (← get).tree c) (given ++ found)
  note log
  check .aliasSource result

/-- Decides the import path of the sources. -/
def settleModule (around : Surroundings) (s : Settings) (sourceRoot : Location) : Step String := do
  let settled ← check .module
    (Module.settle (← get).tree sourceRoot s.module around.faults around.unwritable)
  modify fun st => { st with tree := settled.tree }
  if settled.created then note [.debug "go.mod created" [("module", settled.importPath)]]
  return settled.importPath

/-- The structure of an earlier run. -/
def readStructure (t : Tree) (path : String) : Except PreloadError Structure :=
  match t.read path with
  | .error .isDirectory => .error (.undecoded .unreadable)
  | .error e => .error (.unopened path e)
  | .ok text =>
    match Structure.decode text with
    | .ok s => .ok s
    | .error e => .error (.undecoded e)

/-- Loads the structures of earlier runs. -/
def preloadAll (g : Generator) : List String → Step Generator
  | [] => pure g
  | path :: rest => do
    let s ← check (.preload path) (readStructure (← get).tree path)
    let before := g.log.length
    let g := g.preload s
    note (g.log.drop before)
    preloadAll g rest

/-- A generator for the settings. -/
def newGenerator (s : Settings) (c : Classpath) (importPath : String) : Except OptionsError Generator :=
  Generator.new c.provider {
    package := s.package
    importPath := Text.joinPath [importPath, s.package]
    runtimePath := Text.joinPath [importPath, runtimeDir]
    sourceRoot := s.sourceRoot
    referenceType := s.referenceType
    noContainer := s.noContainer }

/-- Generates builders; the structure errors are those that did not end the run. -/
def generateBuilders (around : Surroundings) (g : Generator) (aliases : List TagAlias)
    (defaults : List String) : Step (Generator × List StructureError) := do
  let before := g.log.length
  let (outcome, g) := g.generate aliases defaults around.cancelled
  note (g.log.drop before)
  match outcome with
  | .done => return (g, [])
  | .failed errors => return (g, errors)
  | .cancelled => throw .cancelled
  | .crashed c => throw (.crashed c)

/-- Writes one generated file: laid out, or as it is when it is no source of the language. -/
def writeSource (sourceRoot : Location) (f : SourceFile) (faults : GenerationFaults) :
    Step GenerationFaults := do
  let target := below sourceRoot f.path
  match (← get).tree.place target (.file (f.formatted?.getD f.raw)) with
  | .error o =>
    return { faults with unwritten := faults.unwritten ++ [f.path ++ ": " ++ o.message] }
  | .ok tree =>
    modify fun s => { s with tree }
    return if f.formatted?.isSome then faults
      else { faults with malformed := faults.malformed ++ [f.path] }

/-- Writes all generated files. -/
def writeSources (sourceRoot : Location) : List SourceFile → GenerationFaults → Step GenerationFaults
  | [], faults => pure faults
  | f :: rest, faults => do writeSources sourceRoot rest (← writeSource sourceRoot f faults)

/-- Copies the runtime package. -/
def copyRuntime (dir : Location) : List (String × String) → Step Unit
  | [] => pure ()
  | (name, text) :: rest => do
    writeFile (dir ++ [name]) (.file text) (.runtime name)
    copyRuntime dir rest

/-- The entries of the archive: the sources in the order of a walk, and the structure. -/
def archiveEntries (t : Tree) (sourceRoot structureFile : Location) : List (String × String) :=
  let content (l : Location) : String := ((t.item? l).bind fun i => i.content.toOption).getD ""
  (t.filesBelow sourceRoot).map (fun l => (Text.join "/" l, content (sourceRoot ++ l))) ++
    [(Structure.fileName, content structureFile)]

/-- Builds the sources with the external command. -/
def buildSources (around : Surroundings) : Step Unit := do
  modify fun s => { s with commands := s.commands ++ [buildCommand] }
  if !around.builds then throw .build

/-- All of a run behind its settings. -/
def generateLibrary (around : Surroundings) (s : Settings) (aliasFiles : List String) : Step Unit := do
  let out := (← get).tree.absolute s.out
  let sourceRoot := out ++ [sourceDir]
  let c ← loadClasspath s
  let aliases ← loadAliases s c aliasFiles
  let importPath ← settleModule around s sourceRoot
  let g ← check .options (newGenerator s c importPath)
  let ownRuntime := g.runtime
  let g ← preloadAll g s.schema
  let (g, errors) ← generateBuilders around g aliases (if s.defaultAliases then c.definitions else [])
  let faults ← writeSources sourceRoot g.outputs { undeclared := errors }
  if g.runtime = ownRuntime then copyRuntime (sourceRoot ++ [runtimeDir]) Library.sources
  else
    note [.ofTexts .info "using runtime of preloaded library" [("runtime", g.runtime)]]
  let structureText := Item.file g.library.encode
  let structureFile := below out Structure.fileName
  writeFile structureFile structureText .structureFile
  let report : Report := ⟨sourceRoot, g.outputs.length, aliases.length, none⟩
  modify fun st => { st with report := some report }
  if !faults.isEmpty then throw (.generation faults)
  if s.compile then
    buildSources around
    writeFile (below (out ++ [resultDir]) Structure.fileName) structureText .structureFile
  if s.jar then
    let target := below out archiveName
    modify fun st => { st with report := some { report with archive := some target } }
    let entries := archiveEntries (← get).tree sourceRoot structureFile
    writeFile target (.archive entries) .archive

/-! ## The command -/

/-- The records that tell what a run has achieved. -/
def Report.records (r : Report) : List LogRecord :=
  ⟨.info, "generated", [("files", .count r.files), ("aliases", .count r.aliases),
    ("src", .text (locationText r.sourceRoot))]⟩ ::
  (match r.archive with
    | some l => [.ofTexts .info "packaged" [("archive", locationText l)]]
    | none => [])

/-- The end of a run. -/
structure Outcome where
  tree : Tree
  /-- The lines of the log. -/
  lines : List String := []
  commands : List String := []
  /-- Whether the command tells how to call it. -/
  usage : Bool := false
  error : Option RunError := none

/-- The outcome of a call that does not begin a run. -/
def refuse (t : Tree) (e : RunError) : Outcome := { tree := t, usage := e.isUsage, error := some e }

/-- Runs the generator with checked settings. -/
def runSettings (around : Surroundings) (t : Tree) (s : Settings) (threshold : Log.Threshold)
    (aliasFiles : List String) : Outcome :=
  let (result, st) := (generateLibrary around s aliasFiles).run.run { tree := t }
  let records := st.log ++ st.report.elim [] Report.records
  { tree := st.tree
    lines := (records.filter fun r => threshold.admits r.level).map Log.recordLine
    commands := st.commands
    error := match result with
      | .ok _ => none
      | .error e => some e }

/-- The configuration file that the arguments name. -/
def configFile (a : Arguments) : String :=
  match a.value? "config" with
  | some (.text s) => s
  | _ => ""

/-- Runs the command with its arguments. -/
def run (around : Surroundings) (t : Tree) (arguments : List String) : Outcome :=
  match parseArguments (commandFlags ++ [helpFlag]) arguments with
  | .error e => refuse t (.arguments e)
  | .ok a =>
    if a.value? "help" = some (.switch true) then { tree := t, usage := true }
    else
      match Config.load t around.environment (configFile a) a with
      | .error e => refuse t (.load e)
      | .ok s =>
        match s.check, Log.Threshold.ofName s.logLevel with
        | .error e, _ => refuse t (.settings e)
        | _, .error m => refuse t (.logLevel m)
        | _, .ok threshold => runSettings around t s threshold a.positional

end TaskBuilders.Command
