/-!
# Task definitions

The introspected shape of a component type: its attributes, the nested elements it accepts, the
capabilities it implements and what can be done with its instances.
-/

namespace TaskBuilders

/-- A named attribute and its declared type. -/
structure Attribute where
  name : String
  type : String
deriving Repr, DecidableEq

/-- A child element: the tag it is written with and the type behind the tag. -/
structure NestedElement where
  tag : String
  type : String
deriving Repr, DecidableEq

/-- The shape of one component type. -/
structure TaskDefinition where
  id : String
  attributes : List Attribute := []
  nested : List NestedElement := []
  capabilities : List String := []
  /-- Instances run as tasks on their own. -/
  executable : Bool := false
  /-- Instances host arbitrary nested tasks. -/
  container : Bool := false
  /-- Instances accept character data. -/
  textContainer : Bool := false
  /-- Instances evaluate to a truth value. -/
  condition : Bool := false
  /-- Instances can be referred to by id. -/
  reference : Bool := false
deriving Repr, DecidableEq

/-- The attribute type of references to other instances. -/
def referenceType : String := "taskdef.Reference"

/-- The builtin scalar types, which generated code uses as they are. Strings are none: every
attribute of another type is already written as a string. -/
def primitiveTypes : List String :=
  ["bool", "byte", "rune", "int", "int8", "int16", "int32", "int64", "uint", "uint8", "uint16",
   "uint32", "uint64", "float32", "float64"]

/-- Whether a type is a builtin scalar type. -/
def isPrimitive (type : String) : Bool := primitiveTypes.contains type

/-- The members of a list at their first occurrence. -/
def distinct (xs : List String) : List String :=
  (xs.foldl (fun seen x => if seen.contains x then seen else x :: seen) []).reverse

namespace TaskDefinition

/-- Whether instances may stand directly under the root container. -/
def topLevel (d : TaskDefinition) : Bool := d.executable || d.condition || d.reference

/-- The types of the nested elements, each once, in the order of declaration. -/
def nestedTypes (d : TaskDefinition) : List String := distinct (d.nested.map (·.type))

/-- The names of the flags that are set. -/
def flags (d : TaskDefinition) : List String :=
  [("executable", d.executable), ("container", d.container), ("textContainer", d.textContainer),
   ("condition", d.condition), ("reference", d.reference)].filterMap
    fun f => if f.2 then some f.1 else none

end TaskDefinition

end TaskBuilders
