import TaskBuilders.Number.Format
import TaskBuilders.Number.Reading
import TaskBuilders.Text.Affix

/-!
# Attribute values of build scripts
-/

namespace TaskBuilders.Script

open Number

/-- A value that a script assigns to an attribute. -/
inductive AttributeValue where
  | text (s : String)
  | int (n : Int)
  | bool (b : Bool)
  | float (x : Binary64)
  | list (items : List String)
  | reference (id : String)
  | nothing
deriving Repr, DecidableEq

/-- The kinds of values that can be asked for. -/
inductive ValueKind where
  | text
  | int
  | bool
  | float
deriving Repr, DecidableEq

/-- The text of a truth value. -/
def boolText (b : Bool) : String := if b then "true" else "false"

namespace AttributeValue

/-- The text of a value. A reference shows its id. -/
def display : AttributeValue → String
  | text s => s
  | int n => intText n
  | bool b => boolText b
  | float x => x.text
  | list items => "[" ++ Text.join " " items ++ "]"
  | reference id => id
  | nothing => "<nil>"

/-- Whether a value is of a kind. -/
def hasKind : ValueKind → AttributeValue → Bool
  | .text, text _ => true
  | .int, int _ => true
  | .bool, bool _ => true
  | .float, float _ => true
  | _, _ => false

/-- The value of a kind that stands for an absent one. -/
def zero : ValueKind → AttributeValue
  | .text => text ""
  | .int => int 0
  | .bool => bool false
  | .float => float Binary64.zero

end AttributeValue

end TaskBuilders.Script
