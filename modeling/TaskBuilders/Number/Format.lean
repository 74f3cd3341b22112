import TaskBuilders.Number.Shortest

/-!
# Texts of numbers
-/

namespace TaskBuilders.Number

/-- The text of an integer. -/
def intText (n : Int) : String :=
  if n < 0 then "-" ++ String.ofList (digitsOf n.natAbs) else String.ofList (digitsOf n.natAbs)

/-- Digits with a point after the first `point` of them. -/
def positional (d : Decimal) : String :=
  if d.point ≤ 0 then "0." ++ String.ofList (List.replicate (-d.point).toNat '0' ++ d.digits)
  else
    let k := d.point.toNat
    let whole := d.digits.take k ++ List.replicate (k - d.digits.length) '0'
    match d.digits.drop k with
    | [] => String.ofList whole
    | part => String.ofList whole ++ "." ++ String.ofList part

/-- One digit, the others after a point, and an exponent of at least two digits. -/
def exponential (d : Decimal) : String :=
  let e := d.point - 1
  let lead := String.ofList (d.digits.take 1)
  let part := d.digits.drop 1
  let tens := digitsOf e.natAbs
  lead ++ (if part.isEmpty then "" else "." ++ String.ofList part) ++ (if e < 0 then "e-" else "e+") ++
    String.ofList (if tens.length < 2 then '0' :: tens else tens)

/-- How doubles are written: from which decimal exponents on the exponential form is taken. -/
structure FloatStyle where
  exponentialBelow : Option Int
  exponentialFrom : Option Int
deriving Repr

/-- Values are written with an exponent below `10 ^ -4` and from `10 ^ 6` on. -/
def FloatStyle.general : FloatStyle := ⟨some (-4), some 6⟩

/-- No value is written with an exponent. -/
def FloatStyle.plain : FloatStyle := ⟨none, none⟩

/-- The text of a double in a style. -/
def FloatStyle.write (style : FloatStyle) : Binary64 → String
  | .nan => "NaN"
  | .infinite negative => if negative then "-Inf" else "+Inf"
  | .finite negative m e =>
    let d := shortest m e
    let scientific := style.exponentialBelow.any (fun b => d.point - 1 < b) ||
      style.exponentialFrom.any (fun a => a ≤ d.point - 1)
    (if negative then "-" else "") ++ (if scientific then exponential d else positional d)

/-- The text of a double in the general style. -/
def Binary64.text (x : Binary64) : String := FloatStyle.general.write x

end TaskBuilders.Number
