/-!
# Parameters of builders
-/

namespace TaskBuilders

/-- How an attribute is written in a builder. Descriptors read from a file may carry other texts
than the four that are written. -/
structure AttributeKind where
  text : String
deriving Repr, DecidableEq

namespace AttributeKind

/-- The declared builtin type is passed through. -/
def primitive : AttributeKind := ⟨"primitive"⟩

/-- A typed reference to the owning generated type. -/
def ownerRef : AttributeKind := ⟨"ref-owner"⟩

/-- A typed reference to the path type. -/
def pathRef : AttributeKind := ⟨"ref-path"⟩

/-- Everything else is a string. -/
def string : AttributeKind := ⟨"string"⟩

end AttributeKind

/-- A parameter of a builder. The type is a builtin type, a qualified referenced type or
`string`. -/
structure AttributeDescriptor where
  name : String
  kind : AttributeKind
  type : String
deriving Repr, DecidableEq

end TaskBuilders
