import TaskBuilders.Number.Format

/-!
# Syntax of CUE

The constraint language of descriptors, as far as data needs it: structs, lists, literals, references,
unification and arithmetic.
-/

namespace TaskBuilders.Cue

/-- A decimal fraction, the number `coefficient · 10 ^ exponent` as it was written. -/
structure Decimal where
  coefficient : Int
  exponent : Int
deriving Repr, DecidableEq, Inhabited

/-- The sets of values that have a name. -/
inductive Kind where
  | top
  | bool
  | text
  | bytes
  | number
  | int
  | float
deriving Repr, DecidableEq

/-- The name of a field. Hidden fields and definitions take no part in data. -/
inductive Label where
  | regular (name : String)
  | hidden (name : String)
  | definition (name : String)
deriving Repr, DecidableEq

/-- The operators between two operands, unification apart. -/
inductive Operator where
  | add
  | subtract
  | multiply
  | equal
  | unequal
  | conjunction
  | disjunction
deriving Repr, DecidableEq

/-- The operators in front of an operand. -/
inductive Sign where
  | plus
  | minus
  | not
deriving Repr, DecidableEq

mutual

/-- An expression. A reference carries its position, which tells it from all others. -/
inductive Expr where
  | null
  | bool (b : Bool)
  | int (n : Int)
  | float (x : Decimal)
  | text (s : String)
  | bytes (s : String)
  /-- Texts and expressions between them, joined to one text, or to bytes if `binary`. -/
  | interpolation (binary : Bool) (parts : List Expr)
  | reference (position : Nat) (name : String)
  | selection (base : Expr) (label : Label)
  /-- A list; with `more` it may have further items, all of them of that value. -/
  | list (items : List Expr) (more : Option Expr)
  | struct (declarations : List Declaration)
  | unification (a b : Expr)
  | signed (sign : Sign) (e : Expr)
  | binary (op : Operator) (a b : Expr)

/-- A member of a struct. Only fields with a `plain` label, one without quotes, can be referred to. -/
inductive Declaration where
  | field (label : Label) (plain : Bool) (value : Expr)
  | embedding (e : Expr)
  /-- The mark that further fields may follow. -/
  | more

end

instance : Inhabited Expr := ⟨.null⟩

/-- The label that a name without quotes is. -/
def Label.ofName (name : String) : Label :=
  match name.toList with
  | '#' :: _ => .definition name
  | '_' :: _ => .hidden name
  | _ => .regular name

/-- The kinds that have a name of their own everywhere. -/
def Kind.ofName? : String → Option Kind
  | "_" => some .top
  | "bool" => some .bool
  | "string" => some .text
  | "bytes" => some .bytes
  | "number" => some .number
  | "int" => some .int
  | "float" => some .float
  | _ => none

end TaskBuilders.Cue
