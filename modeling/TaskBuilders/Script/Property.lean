import TaskBuilders.Dict
import TaskBuilders.Script.Value

/-!
# Typed properties

Properties of a project are texts. A typed property reads and writes one of them; a text that is
absent or does not read falls back to the default.
-/

namespace TaskBuilders.Script

open Number

universe u

/-- The user properties of a project. -/
abbrev Properties := Dict String

/-- A typed view of one property. -/
structure Property (α : Type u) where
  name : String
  fallback : Option α
  zero : α
  read : String → Option α
  write : α → String

namespace Property

variable {α : Type u}

/-- The value of a property. -/
def get (p : Property α) (ps : Properties) : α :=
  ((ps.get? p.name).bind p.read).getD (p.fallback.getD p.zero)

/-- Stores a value. -/
def set (p : Property α) (v : α) (ps : Properties) : Properties := ps.insert p.name (p.write v)

/-- Whether the property has a text. -/
def isSet (p : Property α) (ps : Properties) : Bool := ps.contains p.name

/-- A property whose text is its value. -/
def text (name : String) (fallback : Option String) : Property String :=
  ⟨name, fallback, "", some, id⟩

/-- A property with a truth value. -/
def bool (name : String) (fallback : Option Bool) : Property Bool :=
  ⟨name, fallback, false, readBool?, boolText⟩

/-- A property with a 64-bit integer. -/
def int (name : String) (fallback : Option Int) : Property Int :=
  ⟨name, fallback, 0, readInt?, intText⟩

/-- A property with a double. -/
def float (name : String) (fallback : Option Binary64) : Property Binary64 :=
  ⟨name, fallback, Binary64.zero, readFloat?, Binary64.text⟩

end Property

end TaskBuilders.Script
