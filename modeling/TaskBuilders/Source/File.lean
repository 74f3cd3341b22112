import TaskBuilders.Naming.ImportTable
import TaskBuilders.Source.Block
import TaskBuilders.Text.Digest

/-!
# Generated files

A file collects blocks and the imports that they need. Its head names the generator, the source and
the digest of the body.
-/

namespace TaskBuilders

open Naming Source Text

/-- A generated file. -/
structure SourceFile where
  /-- The path below the source root. -/
  path : String
  /-- The package name. -/
  package : String
  /-- The import path of the package. -/
  importPath : String
  /-- What the file was generated from. -/
  source : String
  imports : ImportTable
  blocks : List Block
deriving Repr, DecidableEq

namespace SourceFile

/-- A file without blocks. -/
def new (path package importPath source : String) : SourceFile :=
  ⟨path, package, importPath, source, .empty importPath, []⟩

/-- The source of all blocks. -/
def body (f : SourceFile) : String := String.join (f.blocks.map Block.render)

/-- Whether nothing was written. -/
def isEmpty (f : SourceFile) : Bool := f.body = ""

/-- Adds a block. -/
def append (f : SourceFile) (b : Block) : SourceFile := { f with blocks := f.blocks ++ [b] }

/-- The local reference of a qualified name, recording the import it needs. -/
def shorten (f : SourceFile) (qualified : String) : String × SourceFile :=
  let (s, t) := f.imports.shorten qualified
  (s, { f with imports := t })

/-- The line of an import block. -/
def importLine (i : ImportSpec) : String :=
  if i.name = "" then "\t\"" ++ i.path ++ "\"" else "\t" ++ i.name ++ " \"" ++ i.path ++ "\""

/-- The import block, which is left out when nothing is imported. -/
def importLines (specs : List ImportSpec) : List String :=
  if specs.isEmpty then [] else ["", "import ("] ++ specs.map importLine ++ [")"]

/-- What stands before the body. -/
def head (f : SourceFile) : String :=
  unlines (["// Code generated by taskdsl; DO NOT EDIT.",
    "// Source: " ++ f.source,
    "// Source-SHA256: " ++ sha256 f.body,
    "",
    "package " ++ f.package] ++ importLines f.imports.specs ++ [""])

/-- The file before it is laid out. -/
def raw (f : SourceFile) : String := f.head ++ f.body

end SourceFile

end TaskBuilders
