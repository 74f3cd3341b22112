import TaskBuilders.Dict
import TaskBuilders.Structure.AttributeDescriptor
import TaskBuilders.Text.Letter
import TaskBuilders.Text.Quoted

/-!
# The structure of a builder library

Every generated type and the builders that are callable on it. A structure grows during a run, and
it is stored so that later runs know which builders an earlier library provides. Builders are kept
under their lower-cased tags.
-/

namespace TaskBuilders

open Text

/-- A builder that a class declares. The immediate form is called `builder` and `With`. -/
structure BuilderFunction where
  /-- The tag. -/
  name : String
  /-- The name of the deferred form. -/
  builder : String
  package : String
  /-- The parameters under their lower-cased names; a stored function may have no such table. -/
  attributes : Option (Dict AttributeDescriptor)
  /-- The type that is built. -/
  initReceiver : String

/-- Looks a parameter up, whatever the case of its name. -/
def BuilderFunction.attribute? (f : BuilderFunction) (name : String) :
    Option AttributeDescriptor :=
  f.attributes.bind (·.get? (lowercase name))

/-- A generated type and the builders that are callable on it. -/
structure StructureClass where
  name : String
  /-- The type identifier that the class was generated from; empty for containers and for the types
  that builders run on. -/
  source : String := ""
  /-- The capability; empty but for containers. -/
  capability : String := ""
  traits : List String := []
  /-- The builders under their lower-cased tags. -/
  functions : Dict BuilderFunction := ∅

namespace StructureClass

/-- The builder for a tag, whatever the case of the tag. -/
def function? (c : StructureClass) (tag : String) : Option BuilderFunction :=
  c.functions.get? (lowercase tag)

/-- Whether there is a builder for a tag. -/
def containsFunction (c : StructureClass) (tag : String) : Bool := (c.function? tag).isSome

end StructureClass

/-- Generated types by name. -/
structure Structure where
  /-- The import path of the package that the builders run on. -/
  runtime : String := ""
  classes : Dict StructureClass := ∅

/-- What can be wrong with a change to a structure or with a stored one. -/
inductive StructureError where
  | unknownClass (name : String)
  | duplicateFunction (name tag : String)
  /-- A class is stored under a name that is not its own. -/
  | misplacedClass (name key : String)
  /-- The text is no JSON, or its values have other types than those of a structure. -/
  | unreadable
deriving Repr, DecidableEq

/-- The wording of a structure error. -/
def StructureError.message : StructureError → String
  | .unknownClass name => "schema: unknown class: " ++ name
  | .duplicateFunction name tag => "schema: duplicate function: " ++ name ++ "." ++ tag
  | .misplacedClass name key =>
    "schema: invalid structure: class " ++ quote name ++ " stored under " ++ quote key
  | .unreadable => "decode structure: unreadable"

namespace Structure

/-- The structure without classes. -/
def empty : Structure := {}

/-- Whether a class is registered under a name. -/
def resolves (s : Structure) (name : String) : Bool := s.classes.contains name

/-- The class registered under a name. -/
def class? (s : Structure) (name : String) : Option StructureClass := s.classes.get? name

/-- Adds a class, unless its name is taken. -/
def register (s : Structure) (c : StructureClass) : Structure :=
  { s with classes := s.classes.insertNew c.name c }

/-- The builder for a tag on a class. -/
def function? (s : Structure) (name tag : String) : Option BuilderFunction :=
  (s.class? name).bind (·.function? tag)

/-- Whether a class declares a builder for a tag. Unknown classes declare nothing. -/
def containsFunction (s : Structure) (name tag : String) : Bool := (s.function? name tag).isSome

/-- The parameters of a builder under their lower-cased names; of two with one key the later
counts. -/
def attributeTable (attrs : List AttributeDescriptor) : Dict AttributeDescriptor :=
  Dict.ofList (attrs.map fun a => (lowercase a.name, a))

/-- Declares a builder on a class. -/
def addFunction (s : Structure) (name tag builder package : String)
    (attrs : List AttributeDescriptor) (produced : String) : Except StructureError Structure :=
  match s.class? name with
  | none => .error (.unknownClass name)
  | some c =>
    if c.containsFunction tag then .error (.duplicateFunction name tag)
    else
      let f : BuilderFunction := ⟨tag, builder, package, some (attributeTable attrs), produced⟩
      let c' := { c with functions := c.functions.insert (lowercase tag) f }
      .ok { s with classes := s.classes.insert name c' }

/-- The class generated from a type identifier; of several the one with the least name. -/
def bySource? (s : Structure) (id : String) : Option StructureClass :=
  s.classes.values.find? (·.source == id)

/-- The names of the classes, ascending. -/
def names (s : Structure) : List String := s.classes.keys

/-- The classes under the names that they are stored under, ascending. -/
def listing (s : Structure) : List StructureClass :=
  s.classes.entries.map fun (name, c) => { c with name }

/-- What a class gains from the class of the same name in another structure: the builders it does
not have. -/
def mergeClass (mine theirs : StructureClass) : StructureClass :=
  { mine with functions := mine.functions.union theirs.functions }

/-- Puts the class of another structure into `s`. -/
def adoptClass (s : Structure) (key : String) (theirs : StructureClass) : Structure :=
  match s.class? key with
  | some mine => { s with classes := s.classes.insert key (mergeClass mine theirs) }
  | none => { s with classes := s.classes.insert key theirs }

/-- Adds the classes and builders of another structure that `s` does not have. The classes of the
other structure are met in the order `es`. -/
def mergeInOrder (s other : Structure) (es : List (String × StructureClass)) : Structure :=
  es.foldl (fun acc e => acc.adoptClass e.1 e.2)
    (if s.runtime = "" then { s with runtime := other.runtime } else s)

/-- Merging in the order of the names; any other order has the same effect. -/
def merge (s other : Structure) : Structure := s.mergeInOrder other other.classes.entries

end Structure

end TaskBuilders
