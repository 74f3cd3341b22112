import TaskBuilders.Number.Format
import TaskBuilders.Yaml.Fields

/-!
# Values of settings

Settings come from a document, from the environment and from flags. A setting takes a value of another
kind as long as its meaning is clear: numbers and truth values are texts as well, and a single value is
a list of one item.
-/

namespace TaskBuilders.Config

open Number

/-- A value of a setting. -/
inductive Value where
  | null
  | bool (b : Bool)
  | int (n : Int)
  | float (x : Binary64)
  | text (s : String)
  /-- A date, which no setting takes. -/
  | date
  | list (items : List Value)
  | table (empty : Bool)
deriving Repr, Inhabited

/-- The value of a scalar. -/
def Value.ofScalar : Yaml.ScalarValue → Value
  | .null => .null
  | .bool b => .bool b
  | .int n => .int n
  | .float x => .float x
  | .timestamp _ => .date
  | .merge => .text "<<"
  | .text s => .text s

/-- The value of a node at most `depth` levels deep; nothing when the node cannot be read. Of a table
only its being empty counts, but its entries must be readable. -/
def Value.ofNode? : (depth : Nat) → Yaml.Node → Option Value
  | 0, _ => none
  | _ + 1, .scalar tag plain s => (Yaml.scalarValue? tag plain s).map ofScalar
  | depth + 1, .sequence _ items => (items.mapM (ofNode? depth)).map .list
  | depth + 1, .mapping tag es => do
    let fields ← (Yaml.Node.mapping tag es).fields?
    let _ ← fields.mapM fun f => ofNode? depth f.2
    some (.table fields.isEmpty)
  | _ + 1, .cycle _ => none

/-- The text that a value is. -/
def Value.text? : Value → Option String
  | .null => some ""
  | .bool b => some (if b then "1" else "0")
  | .int n => some (intText n)
  | .float x => some (FloatStyle.plain.write x)
  | .text s => some s
  | .date | .list _ | .table _ => none

/-- Whether a number is zero. -/
def isZero : Binary64 → Bool
  | .finite _ m _ => m == 0
  | _ => false

/-- The truth value that a value is. -/
def Value.bool? : Value → Option Bool
  | .null => some false
  | .bool b => some b
  | .int n => some (n ≠ 0)
  | .float x => some (!isZero x)
  | .text s => if s = "" then some false else readBool? s
  | .date | .list _ | .table _ => none

/-- The list of texts that a value is. -/
def Value.texts? : Value → Option (List String)
  | .null => some []
  | .list items => items.mapM Value.text?
  | .table empty => if empty then some [] else none
  | v => v.text?.map ([·])

end TaskBuilders.Config
