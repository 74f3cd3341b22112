import TaskBuilders.Number.Binary64

/-!
# The fewest digits that read back

Every decimal between the halfway points to the two neighbours of a double reads back as that double;
the halfway points themselves do so when the significand is even. On the grid of `k` significant
digits only the two points next to the value can be the best ones, so trying `k = 1, 2, …, 17` finds
the fewest digits.
-/

namespace TaskBuilders.Number

/-- Decimal digits with the position of the point: `0.d₁d₂… · 10 ^ point`. -/
structure Decimal where
  digits : List Char
  point : Int
deriving Repr, DecidableEq

/-- The digits of a natural number. -/
def digitsOf (n : Nat) : List Char := Nat.toDigits 10 n

/-- The decimal `c · 10 ^ e`, without trailing zeros. -/
def Decimal.ofScaled (c : Nat) (e : Int) : Decimal :=
  let ds := digitsOf c
  ⟨(ds.reverse.dropWhile (· == '0')).reverse, e + ds.length⟩

/-- The reals that read back as one double, in quarters of its unit. -/
structure ReadingRange where
  low : Nat
  value : Nat
  high : Nat
  closed : Bool
  unit : Int
deriving Repr

/-- The range of `m · 2 ^ e`. Below a power of two the neighbour is half as far away. -/
def ReadingRange.of (m : Nat) (e : Int) : ReadingRange where
  low := if m = Nat.pow 2 52 ∧ -1074 < e then 4 * m - 1 else 4 * m - 2
  value := 4 * m
  high := 4 * m + 2
  closed := m % 2 == 0
  unit := e - 2

/-- The natural number `c · 10 ^ t · 2 ^ s` times a common factor for both exponents. -/
def scaleBy (c : Nat) (t s : Int) : Nat := c * Nat.pow 10 t.toNat * Nat.pow 2 s.toNat

/-- Compares `c · 10 ^ t` with `q · 2 ^ u`. -/
def compareScaled (c : Nat) (t : Int) (q : Nat) (u : Int) : Ordering :=
  compare (scaleBy c t (-u)) (scaleBy q (-t) u)

namespace ReadingRange

/-- Whether `c · 10 ^ t` lies in the range. -/
def holds (r : ReadingRange) (c : Nat) (t : Int) : Bool :=
  match compareScaled c t r.low r.unit, compareScaled c t r.high r.unit with
  | .gt, .lt => true
  | .eq, _ => r.closed
  | _, .eq => r.closed
  | _, _ => false

/-- The whole part of the value divided by `10 ^ t`. -/
def wholePart (r : ReadingRange) (t : Int) : Nat :=
  scaleBy r.value (-t) r.unit / scaleBy 1 t (-r.unit)

/-- The number of digits before the point of the value; not positive for values below one. -/
def magnitude (r : ReadingRange) : Int := ((digitsOf (r.wholePart (-330))).length : Int) - 330

/-- Whether `10 ^ t` times the lower grid point is at least as near as the upper one. -/
def lowerIsNearer (r : ReadingRange) (c : Nat) (t : Int) : Bool :=
  compareScaled (2 * c + 1) t (2 * r.value) r.unit != .lt

/-- The best decimal with `k` digits, if one is in the range. -/
def withDigits? (r : ReadingRange) (k : Nat) : Option Decimal :=
  let t := r.magnitude - k
  let c := r.wholePart t
  match r.holds c t, r.holds (c + 1) t with
  | true, true => some (.ofScaled (if r.lowerIsNearer c t then c else c + 1) t)
  | true, false => some (.ofScaled c t)
  | false, true => some (.ofScaled (c + 1) t)
  | false, false => none

end ReadingRange

/-- The shortest decimal that reads back as `m · 2 ^ e`. -/
def shortest (m : Nat) (e : Int) : Decimal :=
  if m = 0 then ⟨['0'], 1⟩
  else
    let r := ReadingRange.of m e
    ((List.range 17).findSome? fun k => r.withDigits? (k + 1)).getD ⟨['0'], 1⟩

end TaskBuilders.Number
