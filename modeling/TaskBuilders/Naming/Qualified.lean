import TaskBuilders.Text.Affix

/-!
# Qualified names

A qualified name is an import path and an identifier with a dot between them. The dot is the last
one, and it counts only behind the last slash: `example.com/x` has no identifier of its own.
-/

namespace TaskBuilders

/-- An import path, empty for builtin names, and the identifier in it. -/
structure QualifiedName where
  package : String
  ident : String
deriving Repr, DecidableEq

namespace QualifiedName

/-- Whether a character ends the search for the dividing dot. -/
def isDivider (c : Char) : Bool := c == '.' || c == '/'

/-- Splits a text at its last dot, unless a slash follows that dot. -/
def parse (s : String) : QualifiedName :=
  let back := s.toList.reverse
  match back.dropWhile (fun c => !isDivider c) with
  | '.' :: path =>
    ⟨String.ofList path.reverse, String.ofList (back.takeWhile (fun c => !isDivider c)).reverse⟩
  | _ => ⟨"", s⟩

/-- Joins path and identifier; without a path only the identifier is written. -/
def render (q : QualifiedName) : String :=
  if q.package = "" then q.ident else q.package ++ "." ++ q.ident

end QualifiedName

/-- The qualified name of `ident` in the package at import path `package`. -/
def qualify (package ident : String) : String := QualifiedName.render ⟨package, ident⟩

/-- The identifier of a qualified name. -/
def identOf (qualified : String) : String := (QualifiedName.parse qualified).ident

/-- The package of a type identifier or of a qualified name. -/
def packageOf (qualified : String) : String := (QualifiedName.parse qualified).package

/-- The last element of a type identifier without the marks `$` of inner types. -/
def simpleName (id : String) : String :=
  String.ofList ((identOf id).toList.filter (· != '$'))

end TaskBuilders
