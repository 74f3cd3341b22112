import TaskBuilders.Alias.Basic
import TaskBuilders.Generator.Preload

/-!
# Runs

A run resolves aliases in their order and then gives default aliases to types. Types that cannot be
resolved are skipped.
-/

namespace TaskBuilders.Generator

open Naming

/-- Resolves the type of an alias and writes its builders. -/
def resolveAlias (g : Generator) (a : TagAlias) : Resolution × Generator :=
  match g.resolveClass a.type with
  | (.resolved, g) => (.resolved, g.generateConstructors a.type a.tag a.topLevel)
  | (.unresolved, g) =>
    (.unresolved, g.logging (.debug "alias target not resolvable, skipping"
      [("tag", a.tag), ("type", a.type)]))
  | r => r

/-- The tag of a default alias: the simple name, beginning in lower case. -/
def defaultTag (id : String) : String := lowerFirst (simpleName id)

/-- Gives a type that may stand under the root container a default alias, unless its class has a
builder under that tag. -/
def defaultAlias (g : Generator) (id : String) : Option Crash × Generator :=
  match g.lookup id with
  | (none, g) => (none, g)
  | (some d, g) =>
    if !d.topLevel then (none, g)
    else
      match g.resolveClass id with
      | (.crashed c, g) => (some c, g)
      | (.unresolved, g) => (none, g)
      | (.resolved, g) =>
        match g.resolved.get? id with
        | none => (some .missingTarget, g)
        | some t =>
          if g.library.containsFunction t.className (defaultTag id) then (none, g)
          else (none, g.generateConstructors id (defaultTag id) true)

/-- Gives default aliases to several types. -/
def defaultAliases : List String → Generator → Option Crash × Generator
  | [], g => (none, g)
  | id :: ids, g =>
    match g.defaultAlias id with
    | (none, g) => defaultAliases ids g
    | r => r

/-- Resolves aliases in their order. -/
def resolveAliases : List TagAlias → Generator → Option Crash × Generator
  | [], g => (none, g)
  | a :: rest, g =>
    match g.resolveAlias a with
    | (.crashed c, g) => (some c, g)
    | (_, g) => resolveAliases rest g

/-- When a run is cancelled. It asks before every alias and once more before the default aliases. -/
inductive Cancellation where
  | never
  /-- So many questions are answered in the negative, and all later ones are not. -/
  | after (questions : Nat)
deriving DecidableEq, Repr

namespace Cancellation

/-- A run that is cancelled from the beginning, or never. -/
instance : Coe Bool Cancellation where
  coe cancelled := if cancelled then .after 0 else .never

/-- The aliases that a run comes to. -/
def reached (aliases : List TagAlias) : Cancellation → List TagAlias
  | never => aliases
  | after questions => aliases.take questions

/-- Whether a run with so many aliases ends before its default aliases. -/
def strikes (aliases : Nat) : Cancellation → Bool
  | never => false
  | after questions => questions ≤ aliases

end Cancellation

/-- How a run ends. -/
inductive Outcome where
  | done
  /-- The run was cancelled before an alias or before the default aliases. -/
  | cancelled
  /-- Builders could not be declared. -/
  | failed (errors : List StructureError)
  | crashed (c : Crash)
deriving Repr, DecidableEq

/-- The outcome that the errors of a run make. -/
def outcome (g : Generator) : Outcome := if g.errors.isEmpty then .done else .failed g.errors

/-- A full run: aliases, then default aliases. What it did before it was cancelled stays. -/
def generate (g : Generator) (aliases : List TagAlias) (defaults : List String)
    (cancelled : Cancellation) : Outcome × Generator :=
  match resolveAliases (cancelled.reached aliases) g with
  | (some c, g) => (.crashed c, g)
  | (none, g) =>
    if cancelled.strikes aliases.length then (.cancelled, g)
    else
      match defaultAliases defaults g with
      | (some c, g) => (.crashed c, g)
      | (none, g) => (g.outcome, g)

end TaskBuilders.Generator
