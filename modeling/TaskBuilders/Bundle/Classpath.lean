import TaskBuilders.Bundle.Basic
import TaskBuilders.Text.Blank

/-!
# Classpaths

A list of bundles. The first bundle that knows a definition or has an entry answers for all of them.
-/

namespace TaskBuilders

/-- Bundles in the order in which they are asked. -/
abbrev Classpath := List Bundle

namespace Classpath

open Files (Tree AccessError)

/-- The paths of a list separated by colons; the empty list has none. -/
def splitList (s : String) : List String := if s = "" then [] else Text.splitAtChar ':' s

/-- Opens bundles in order. Blank paths are left out, and missing bundles are reported and skipped;
any other failure ends the loading. -/
def load (t : Tree) : List String → List LogRecord × Except Bundle.OpenError Classpath
  | [] => ([], .ok [])
  | path :: rest =>
    if Text.isBlankText path then load t rest
    else
      match Bundle.atPath t path with
      | .error .missing =>
        let (log, result) := load t rest
        (.warn "bundle not found, skipping" [("bundle", path)] :: log, result)
      | .error e => ([], .error e)
      | .ok b =>
        let (log, result) := load t rest
        let entry : LogRecord := ⟨.debug, "bundle opened",
          [("bundle", .text path), ("definitions", .count b.definitions.length)]⟩
        (entry :: log, result.map (b :: ·))

/-- The declared identifiers of all bundles, each at its first place. -/
def definitions (c : Classpath) : List String := distinct (c.flatMap Bundle.definitions)

/-- The alias sources of all bundles. -/
def aliasSources (c : Classpath) : List String := c.flatMap Bundle.aliasSources

/-- Asks the bundles in order. -/
def provider (c : Classpath) : Provider := .chain (c.map Bundle.provider)

/-- Opens a source from the first bundle that has it, or else from the file tree. -/
def openSource (t : Tree) (c : Classpath) (name : String) : Alias.Opening :=
  match c.findSome? fun b => b.openEntry? t name with
  | some o => o
  | none =>
    match t.read name with
    | .ok text => .content text
    | .error .missing => .missing
    | .error .isDirectory =>
      .unreadable ("read " ++ name ++ ": " ++ AccessError.isDirectory.message)
    | .error e => .failed ("open " ++ name ++ ": " ++ e.message)

end Classpath

end TaskBuilders
