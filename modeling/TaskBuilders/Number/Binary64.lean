/-!
# Double-precision numbers

A finite number is a whole number of binary units, `± significand · 2 ^ exponent`, with a significand
below `2 ^ 53` and an exponent of at least `-1074`. Rounding a quotient is exact arithmetic on natural
numbers: the nearest number wins, and of two nearest ones that with the even significand.
-/

namespace TaskBuilders.Number

/-- A double-precision number. -/
inductive Binary64 where
  | finite (negative : Bool) (significand : Nat) (exponent : Int)
  | infinite (negative : Bool)
  | nan
deriving Repr, DecidableEq

/-- The quotient rounded to the nearest whole number, halves to the even one. -/
def roundQuotient (n d : Nat) : Nat :=
  let q := n / d
  let r := n % d
  if d < 2 * r || (2 * r == d && q % 2 == 1) then q + 1 else q

/-- The quotient `n / (d · 2 ^ e)` as a numerator and a denominator. -/
def unscale (n d : Nat) (e : Int) : Nat × Nat :=
  if 0 ≤ e then (n, d * Nat.pow 2 e.toNat) else (n * Nat.pow 2 (-e).toNat, d)

namespace Binary64

/-- The number zero. -/
def zero : Binary64 := finite false 0 (-1074)

/-- The exponent at which the whole part of `n / (d · 2 ^ e)` has 53 bits, or the smallest exponent
where that lies below it. -/
def unitExponent (n d : Nat) : Int :=
  let low : Int := (n.log2 : Int) - d.log2 - 53
  let (a, b) := unscale n d low
  max (if Nat.pow 2 53 ≤ a / b then low + 1 else low) (-1074)

/-- The number nearest to `n / d`; nothing when it lies beyond the largest one. -/
def ofRatio? (negative : Bool) (n d : Nat) : Option Binary64 :=
  if n = 0 then some (finite negative 0 (-1074))
  else
    let e := unitExponent n d
    let (a, b) := unscale n d e
    let m := roundQuotient a b
    let (m, e) := if m = Nat.pow 2 53 then (Nat.pow 2 52, e + 1) else (m, e)
    if 971 < e then none else some (finite negative m e)

end Binary64

end TaskBuilders.Number
