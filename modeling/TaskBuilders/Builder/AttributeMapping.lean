import TaskBuilders.Definition.Basic
import TaskBuilders.Structure.AttributeDescriptor
import TaskBuilders.Text.Affix
import TaskBuilders.Text.Letter

/-!
# From attributes to parameters

A primitive type passes through, a reference named `refid` points at the owning type, a reference
whose name ends in `pathref` points at the path type, and everything else is a string.
-/

namespace TaskBuilders

/-- The types that the mapping depends on. -/
structure Framework where
  /-- The attribute type of references. -/
  referenceType : String
  /-- The qualified type that path references point at. -/
  pathType : String
deriving Repr, DecidableEq

/-- The parameter for an attribute of a definition whose generated type is `owner`. -/
def Attribute.descriptor (a : Attribute) (owner : String) (fw : Framework) :
    AttributeDescriptor :=
  if isPrimitive a.type then ⟨a.name, .primitive, a.type⟩
  else if a.type = fw.referenceType && a.name = "refid" then ⟨a.name, .ownerRef, owner⟩
  else if a.type = fw.referenceType && Text.hasTrailing "pathref" (Text.lowercase a.name) then
    ⟨a.name, .pathRef, fw.pathType⟩
  else ⟨a.name, .string, "string"⟩

/-- The parameters for the attributes of a definition, in the order of declaration. -/
def TaskDefinition.descriptors (d : TaskDefinition) (owner : String) (fw : Framework) :
    List AttributeDescriptor :=
  d.attributes.map (·.descriptor owner fw)

end TaskBuilders
