import TaskBuilders.Definition.Basic
import TaskBuilders.Naming.Qualified
import TaskBuilders.Text.Path
import TaskBuilders.Text.Quoted

/-!
# Descriptions of types

What a registry knows of a host type: its name, its methods and its fields with their tags.
-/

namespace TaskBuilders

mutual

/-- A type as introspection sees it. -/
inductive TypeDescription where
  | basic (name : String)
  /-- The type of references to other instances. -/
  | reference
  | pointer (elem : TypeDescription)
  | slice (elem : TypeDescription)
  | array (length : Nat) (elem : TypeDescription)
  | mapping (key value : TypeDescription)
  /-- A function type, given as it is written. -/
  | func (text : String)
  | interface (methods : List String)
  | struct (fields : List FieldDescription)
  /-- A declared type with the methods that can be called on a pointer to it. -/
  | named (package name : String) (methods : List String) (underlying : TypeDescription)

/-- A field of a struct. Its tag is the text that describes it to the registry. -/
inductive FieldDescription where
  | mk (name : String) (embedded exported : Bool) (tag : Option String) (type : TypeDescription)

end

instance : Inhabited TypeDescription := ⟨.basic "int"⟩

namespace TypeDescription

mutual

/-- A type as it is written in source. -/
def render : TypeDescription → String
  | basic name => name
  | reference => referenceType
  | pointer t => "*" ++ t.render
  | slice t => "[]" ++ t.render
  | array n t => "[" ++ toString n ++ "]" ++ t.render
  | mapping k v => "map[" ++ k.render ++ "]" ++ v.render
  | func text => text
  | interface [] => "interface \x7b\x7d"
  | interface methods =>
    "interface \x7b " ++ Text.join "; " (methods.map (· ++ "()")) ++ " \x7d"
  | struct [] => "struct \x7b\x7d"
  | struct fields => "struct \x7b " ++ Text.join "; " (renderFields fields) ++ " \x7d"
  | named package name _ _ =>
    if package = "" then name else Text.pathBase package ++ "." ++ name

/-- The fields of a struct as they are written in source. -/
def renderFields : List FieldDescription → List String
  | [] => []
  | .mk name embedded _ tag t :: rest =>
    let text := if embedded then t.render else name ++ " " ++ t.render
    let text := match tag with
      | some tag => text ++ " " ++ Text.quote ("dsl:" ++ Text.quote tag)
      | none => text
    text :: renderFields rest

end

/-- The identifier under which a type is registered. -/
def typeId : TypeDescription → String
  | named package name _ _ => qualify package name
  | t => t.render

/-- The declared name of a type; types without one have an empty name. -/
def declaredName : TypeDescription → String
  | basic name => name
  | reference => "Reference"
  | named _ name _ _ => name
  | _ => ""

/-- The type behind all pointers. -/
def behindPointers : TypeDescription → TypeDescription
  | pointer t => t.behindPointers
  | t => t

/-- The type of the elements of slices, arrays and pointers, however deep. -/
def elementType : TypeDescription → TypeDescription
  | pointer t => t.elementType
  | slice t => t.elementType
  | array _ t => t.elementType
  | t => t

/-- The type of an attribute: a pointer stands for what it points at. -/
def attributeType : TypeDescription → String
  | pointer t => t.typeId
  | t => t.typeId

/-- The methods that can be called on a pointer to the type. -/
def methods : TypeDescription → List String
  | named _ _ methods _ => methods
  | _ => []

/-- The methods that an interface asks for. -/
def required? : TypeDescription → Option (List String)
  | interface methods => some methods
  | named _ _ _ (interface methods) => some methods
  | _ => none

/-- Whether a pointer to the type has the methods of an interface. -/
def implements (t : TypeDescription) (methods : List String) : Bool :=
  methods.all t.methods.contains

end TypeDescription

end TaskBuilders
