import TaskBuilders.Command.Flag
import TaskBuilders.Config.Settings
import TaskBuilders.Config.Value
import TaskBuilders.Dict
import TaskBuilders.Files.Tree
import TaskBuilders.Yaml.Reader

/-!
# Loading settings

Each source of settings overrides those before it: built-in values, a configuration file, variables of
the environment, and flags.
-/

namespace TaskBuilders.Config

open Command (Arguments FlagValue)

/-- The reasons why settings cannot be loaded. -/
inductive LoadError where
  | file (name : String)
  | decode
deriving Repr, DecidableEq

/-- The text of a reason. -/
def LoadError.message : LoadError → String
  | file name => "error reading config file " ++ name
  | decode => "unable to decode config"

/-- What the names of variables begin with. -/
def variableLead : String := "TASKDSL_"

/-- The names of configuration files that are looked for when none is given. -/
def defaultFiles : List String := ["taskdsl.yaml", "taskdsl.yml"]

/-- The built-in values. -/
def defaultValues : Dict Value :=
  Dict.ofList [("package", .text "dslgen"), ("module", .text "taskdsl.local/generated"),
    ("reference_type", .text "taskdef.Reference"), ("log_level", .text "info"), ("seek", .bool false),
    ("default_aliases", .bool false), ("compile", .bool false), ("jar", .bool false)]

/-- Values in which those of a later source take the place of earlier ones. -/
def override (values : Dict Value) (later : List (String × Value)) : Dict Value :=
  later.foldl (fun d (k, v) => d.insert k v) values

/-! ## Sources -/

/-- The configuration file: the given one, or the first default file that is there. -/
def findFile (t : Files.Tree) (explicit : String) : String :=
  if explicit ≠ "" then explicit
  else (defaultFiles.find? fun f => (t.stat f).toOption.isSome).getD ""

/-- The values of a configuration text: a mapping, or nothing at all. -/
def fileValues? (text : String) : Option (List (String × Value)) := do
  match ← Yaml.parseFirst text with
  | none => some []
  | some node =>
    if node.isNull then some []
    else (← node.fields?).mapM fun (k, v) => (Value.ofNode? (v.depth + 1) v).map (k, ·)

/-- The values of a configuration file. No name stands for no file. -/
def readFile (t : Files.Tree) (name : String) : Except LoadError (List (String × Value)) :=
  if name = "" then .ok []
  else
    match t.read name with
    | .error _ => .error (.file name)
    | .ok text => (fileValues? text).elim (.error (.file name)) .ok

/-- The values of variables. -/
def variableValues (environment : List (String × String)) : List (String × Value) :=
  environment.filterMap fun (k, v) =>
    let key := Text.lowercase (Text.dropLeading variableLead k)
    if Text.hasLeading variableLead k && key ≠ "" then some (key, .text v) else none

/-- The value of a flag. -/
def ofFlag : FlagValue → Value
  | .switch b => .bool b
  | .text s => .text s
  | .list items => .list (items.map .text)

/-- The values of the flags that were set; the one that names the configuration file is no setting. -/
def flagValues (a : Arguments) : List (String × Value) :=
  (a.set.filter (·.1 ≠ "config")).map fun (name, v) =>
    (String.ofList (name.toList.map fun c => if c = '-' then '_' else c), ofFlag v)

/-! ## Decoding -/

/-- The value under a key, or else under a key that differs in the case of letters only. -/
def valueOf (values : Dict Value) (key : String) : Value :=
  match values.get? key with
  | some v => v
  | none =>
    match values.entries.find? fun e => Text.lowercase e.1 = Text.lowercase key with
    | some (_, v) => v
    | none => .null

/-- The parts of texts between separators, trimmed; blank ones are dropped. -/
def splitAll (sep : Char) (texts : List String) : List String :=
  ((texts.flatMap (Text.splitAtChar sep)).map Text.trim).filter (· ≠ "")

/-- Settings from their values. -/
def decode? (values : Dict Value) (file : String) : Option Settings := do
  let text (key : String) : Option String := (valueOf values key).text?
  let flag (key : String) : Option Bool := (valueOf values key).bool?
  let texts (key : String) : Option (List String) := (valueOf values key).texts?
  some {
    classpath := splitAll ':' (← texts "classpath")
    out := ← text "out"
    seek := ← flag "seek"
    defaultAliases := ← flag "default_aliases"
    compile := ← flag "compile"
    jar := ← flag "jar"
    schema := splitAll ':' (← texts "schema")
    package := ← text "package"
    module := ← text "module"
    sourceRoot := ← text "source_prefix"
    referenceType := ← text "reference_type"
    noContainer := splitAll ',' (← texts "no_container")
    logLevel := ← text "log_level"
    file }

/-- Loads the settings of a run. -/
def load (t : Files.Tree) (environment : List (String × String)) (explicit : String)
    (arguments : Arguments) : Except LoadError Settings :=
  let file := findFile t explicit
  match readFile t file with
  | .error e => .error e
  | .ok fromFile =>
    let values := override (override (override defaultValues fromFile) (variableValues environment))
      (flagValues arguments)
    (decode? values file).elim (.error .decode) .ok

end TaskBuilders.Config
