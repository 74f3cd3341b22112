import TaskBuilders.Naming.Identifier
import TaskBuilders.Text.Blank
import TaskBuilders.Text.Quoted

/-!
# Settings of a run
-/

namespace TaskBuilders.Config

/-- The settings of a run of the generator. `file` is the configuration file that was read. -/
structure Settings where
  classpath : List String := []
  out : String := ""
  seek : Bool := false
  defaultAliases : Bool := false
  compile : Bool := false
  jar : Bool := false
  schema : List String := []
  package : String := ""
  module : String := ""
  sourceRoot : String := ""
  referenceType : String := ""
  noContainer : List String := []
  logLevel : String := ""
  file : String := ""
deriving Repr, DecidableEq

/-- Settings that a run cannot do with. -/
inductive SettingsError where
  | missingOutDir
  | invalidPackage (name : String)
  | missingModule
deriving Repr, DecidableEq

/-- The text of an error. -/
def SettingsError.message : SettingsError → String
  | missingOutDir => "config: output directory is required"
  | invalidPackage name => "config: invalid package name: " ++ Text.quote name
  | missingModule => "config: module path is required"

/-- Checks what a run cannot do without: an output directory, a package name that is an identifier
other than that of the runtime, and a module path. -/
def Settings.check (s : Settings) : Except SettingsError Unit :=
  if Text.isBlankText s.out then .error .missingOutDir
  else if !Naming.isIdentifier s.package || s.package = "dsl" then
    .error (.invalidPackage s.package)
  else if Text.isBlankText s.module then .error .missingModule
  else .ok ()

end TaskBuilders.Config
