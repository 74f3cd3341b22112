import TaskBuilders.Cue.Syntax
import TaskBuilders.Text.Quoted
import TaskBuilders.Text.Affix

/-!
# Values of CUE

Values form a lattice: a kind stands for all its members, and two values that hold at once are replaced
by their meet.
-/

namespace TaskBuilders.Cue

open Number

/-- A value that an expression stands for. -/
inductive Value where
  | null
  | bool (b : Bool)
  | int (n : Int)
  | float (x : Decimal)
  | text (s : String)
  | bytes (s : String)
  | kind (k : Kind)
  /-- The result of an operation on an operand that is not known. -/
  | unknown
  | list (items : List Value)
  | struct (fields : List (Label × Value))
deriving Repr, Inhabited

namespace Decimal

/-- A coefficient with its exponent lowered by `n`. -/
def lowered (c : Int) (n : Nat) : Int := c * (Nat.pow 10 n : Nat)

/-- Both numbers with the smaller of their exponents. -/
def align (x y : Decimal) : Int × Int × Int :=
  let e := min x.exponent y.exponent
  (lowered x.coefficient (x.exponent - e).toNat, lowered y.coefficient (y.exponent - e).toNat, e)

/-- Whether two decimals are the same number. -/
def same (x y : Decimal) : Bool := let (a, b, _) := align x y; a == b

/-- The sum. -/
def add (x y : Decimal) : Decimal := let (a, b, e) := align x y; ⟨a + b, e⟩

/-- The difference. -/
def sub (x y : Decimal) : Decimal := let (a, b, e) := align x y; ⟨a - b, e⟩

/-- The product. -/
def mul (x y : Decimal) : Decimal := ⟨x.coefficient * y.coefficient, x.exponent + y.exponent⟩

/-- The text of a decimal with all the digits it was written with: an exponent is written when it is
positive or when the first digit stands more than six places behind the point. -/
def text (x : Decimal) : String :=
  let ds := digitsOf x.coefficient.natAbs
  let adjusted : Int := x.exponent + (ds.length : Int) - 1
  let digits :=
    if x.exponent ≤ 0 && -6 ≤ adjusted then positional ⟨ds, (ds.length : Int) + x.exponent⟩
    else
      let part := ds.drop 1
      String.ofList (ds.take 1) ++ (if part.isEmpty then "" else "." ++ String.ofList part) ++ "E" ++
        (if adjusted < 0 then "-" else "+") ++ intText adjusted.natAbs
  if x.coefficient < 0 then "-" ++ digits else digits

end Decimal

/-- The name of a kind. -/
def Kind.name : Kind → String
  | top => "_"
  | bool => "bool"
  | text => "string"
  | bytes => "bytes"
  | number => "number"
  | int => "int"
  | float => "float"

/-- The common members of two kinds. -/
def Kind.meet? : Kind → Kind → Option Kind
  | .top, k => some k
  | k, .top => some k
  | .number, .int => some .int
  | .int, .number => some .int
  | .number, .float => some .float
  | .float, .number => some .float
  | a, b => if a = b then some a else none

/-! ## Literals -/

/-- One character between quotes. -/
def quotedChar (q c : Char) : List Char :=
  if c = q || c = '\\' then ['\\', c]
  else if Text.isPrintable c then [c]
  else
    match Text.Quoted.letterEscape? c with
    | some l => ['\\', l]
    | none =>
      if c.toNat < 0x10000 then '\\' :: 'u' :: Text.hexDigits c.toNat 4
      else '\\' :: 'U' :: Text.hexDigits c.toNat 8

/-- A text between quotes. -/
def quoted (q : Char) (s : String) : String :=
  String.ofList (q :: s.toList.flatMap (quotedChar q) ++ [q])

namespace Value

/-- Whether a value is a member of a kind. -/
def isMember (k : Kind) : Value → Bool
  | null | unknown => k == .top
  | bool _ => k == .top || k == .bool
  | int _ => [Kind.top, .number, .int].contains k
  | float _ => [Kind.top, .number, .float].contains k
  | text _ => k == .top || k == .text
  | bytes _ => k == .top || k == .bytes
  | kind _ | list _ | struct _ => false

/-- The meet of two values that are neither lists nor structs. -/
def meet? : Value → Value → Option Value
  | kind a, kind b => (a.meet? b).map kind
  | unknown, _ => some unknown
  | _, unknown => some unknown
  | kind k, v => if v.isMember k then some v else none
  | v, kind k => if v.isMember k then some v else none
  | null, null => some null
  | bool a, bool b => if a = b then some (bool a) else none
  | int a, int b => if a = b then some (int a) else none
  | float x, float y => if x.same y then some (float x) else none
  | text a, text b => if a = b then some (text a) else none
  | bytes a, bytes b => if a = b then some (bytes a) else none
  | _, _ => none

/-- Whether an operation has to wait for a value. -/
def isOpen : Value → Bool
  | kind _ | unknown => true
  | _ => false

/-- A scalar or kind in writing, with the name of its kind; nothing for lists and structs. -/
def written? : Value → Option (String × String)
  | null => some ("null", "null")
  | bool b => some (if b then "true" else "false", "bool")
  | int n => some (intText n, "int")
  | float x => some (x.text, "float")
  | text s => some (quoted '"' s, "string")
  | bytes s => some (quoted '\'' s, "bytes")
  | kind k => some (k.name, k.name)
  | unknown | list _ | struct _ => none

/-! ## Operations -/

/-- The text of a value inside a string. -/
def interpolated? : Value → Option String
  | bool b => some (if b then "true" else "false")
  | int n => some (intText n)
  | float x => some x.text
  | text s | bytes s => some s
  | _ => none

/-- A number as a decimal. -/
def decimal? : Value → Option Decimal
  | int n => some ⟨n, 0⟩
  | float x => some x
  | _ => none

/-- Whether two scalars of comparable kinds are equal. -/
def equal? : Value → Value → Option Bool
  | null, null => some true
  | null, _ => some false
  | _, null => some false
  | bool a, bool b => some (a == b)
  | text a, text b => some (a == b)
  | bytes a, bytes b => some (a == b)
  | a, b => do some ((← a.decimal?).same (← b.decimal?))

/-- A text repeated. -/
def repeated (s : String) (n : Int) : String := String.join (List.replicate n.toNat s)

/-- The result of an operator on known operands. -/
def operate? : Operator → Value → Value → Option Value
  | .add, text a, text b => some (text (a ++ b))
  | .add, bytes a, bytes b => some (bytes (a ++ b))
  | .add, int a, int b => some (int (a + b))
  | .add, a, b => do some (float ((← a.decimal?).add (← b.decimal?)))
  | .subtract, int a, int b => some (int (a - b))
  | .subtract, a, b => do some (float ((← a.decimal?).sub (← b.decimal?)))
  | .multiply, int a, int b => some (int (a * b))
  | .multiply, text s, int n => if n < 0 then none else some (text (repeated s n))
  | .multiply, int n, text s => if n < 0 then none else some (text (repeated s n))
  | .multiply, a, b => do some (float ((← a.decimal?).mul (← b.decimal?)))
  | .conjunction, bool a, bool b => some (bool (a && b))
  | .disjunction, bool a, bool b => some (bool (a || b))
  | .equal, a, b => (a.equal? b).map bool
  | .unequal, a, b => (a.equal? b).map fun e => bool !e
  | _, _, _ => none

/-- The result of a sign on a known operand. -/
def sign? : Sign → Value → Option Value
  | .not, bool b => some (bool !b)
  | .minus, int n => some (int (-n))
  | .minus, float x => some (float ⟨-x.coefficient, x.exponent⟩)
  | .plus, int n => some (int n)
  | .plus, float x => some (float x)
  | _, _ => none

end Value

end TaskBuilders.Cue
