import TaskBuilders.Definition.Provider
import TaskBuilders.Definition.TypeDescription
import TaskBuilders.Text.Letter

/-!
# Registries of host types

A registry provides the definitions of types that are registered with it. Tagged fields of a struct
become attributes or nested elements, the fields of an untagged embedded struct count as its own,
and the registered interfaces that a type implements are its capabilities.
-/

namespace TaskBuilders

open Text

/-- A field of a struct in the terms of task definitions. -/
inductive FieldReading where
  | attribute (a : Attribute)
  | nested (n : NestedElement)

mutual

/-- The readings of a type's fields; only structs have fields. -/
def TypeDescription.readings? : TypeDescription → Option (List FieldReading)
  | .struct fields => some (FieldDescription.readings fields)
  | .reference => some []
  | .named _ _ _ t => t.readings?
  | _ => none

/-- The readings of fields, in their order. A field without a tag, with the tag `-` or without a
public name is passed over; a tag without a name means the lower-cased name of the field. -/
def FieldDescription.readings : List FieldDescription → List FieldReading
  | [] => []
  | .mk name embedded exported tag t :: rest =>
    let here := match t.readings?, tag with
      | some inner, none => if embedded then inner else []
      | some inner, some "" =>
        if embedded then inner else FieldDescription.tagged name exported "" t
      | none, none => []
      | _, some tag => FieldDescription.tagged name exported tag t
    here ++ FieldDescription.readings rest

/-- The reading of a tagged field. -/
def FieldDescription.tagged (name : String) (exported : Bool) (tag : String)
    (t : TypeDescription) : List FieldReading :=
  if tag = "-" || !exported then []
  else
    let (label, options) := cutAtChar ',' tag
    let label := if label = "" then lowercase name else label
    if options = some "nested" then [.nested ⟨label, t.elementType.typeId⟩]
    else [.attribute ⟨label, t.attributeType⟩]

end

/-- Types by identifier, the identifiers in the order of registration, and the interfaces that count
as capabilities. -/
structure Registry where
  types : Dict TypeDescription := ∅
  order : List String := []
  capabilities : List TypeDescription := []

namespace Registry

/-- Registers a type; pointers stand for what they point at. -/
def provide (r : Registry) (t : TypeDescription) : Registry :=
  let t := t.behindPointers
  let id := t.typeId
  { r with
    types := r.types.insert id t
    order := if r.types.contains id then r.order else r.order ++ [id] }

/-- Registers an interface as a capability; no other type is one. -/
def addCapability (r : Registry) (t : TypeDescription) : Except String Registry :=
  match t.required? with
  | some _ => .ok { r with capabilities := r.capabilities ++ [t] }
  | none => .error ("taskdef: capability " ++ t.render ++ " is not an interface")

/-- The definition of a registered type with given fields. -/
def describe (r : Registry) (id : String) (t : TypeDescription) (fields : List FieldReading) :
    TaskDefinition where
  id := id
  attributes := fields.filterMap fun f => match f with
    | .attribute a => some a
    | .nested _ => none
  nested := fields.filterMap fun f => match f with
    | .nested n => some n
    | .attribute _ => none
  capabilities := (r.capabilities.filter fun c => (c.required?.map t.implements).getD false).map
    (·.typeId)
  executable := t.implements ["Execute"]
  container := t.implements ["AddTask"]
  textContainer := t.implements ["AddText"]
  condition := t.implements ["Eval"]
  reference := t.implements ["SetID"]

/-- The answer for an identifier. Looking into a type that is no struct fails. -/
def introspect (r : Registry) (id : String) : Answer :=
  match r.types.get? id with
  | none => .failed (notFound id)
  | some t =>
    match t.readings? with
    | some fields => .found (r.describe id t fields)
    | none =>
      .failed ⟨.registryCrash, notFoundText ++ ": taskdef: panic during introspection"⟩

/-- The registry as a provider. -/
def toProvider (r : Registry) : Provider := .stateless r.order r.introspect

end Registry

end TaskBuilders
