import TaskBuilders.Number.Binary64
import TaskBuilders.Text.Affix

/-!
# Reading numbers and truth values

Integers are decimal with an optional sign and must fit 64 bits. Doubles are decimal, hexadecimal with
a binary exponent, an infinity or not a number; underscores may stand between digits.
-/

namespace TaskBuilders.Number

/-- A decimal digit of ASCII. -/
def isDecimalDigit (c : Char) : Bool := '0' ≤ c && c ≤ '9'

/-- The value of a digit in bases up to 16. -/
def digitValue? (c : Char) : Option Nat :=
  if isDecimalDigit c then some (c.toNat - '0'.toNat)
  else if 'a' ≤ c && c ≤ 'f' then some (c.toNat - 'a'.toNat + 10)
  else if 'A' ≤ c && c ≤ 'F' then some (c.toNat - 'A'.toNat + 10)
  else none

/-- The number written by digits in a base. -/
def ofDigits (base : Nat) (cs : List Char) : Nat :=
  cs.foldl (fun n c => n * base + (digitValue? c).getD 0) 0

/-- Splits an optional sign off; the flag tells a minus. -/
def splitSign : List Char → Bool × List Char
  | '-' :: rest => (true, rest)
  | '+' :: rest => (false, rest)
  | cs => (false, cs)

/-- Whether an integer fits 64 bits. -/
def fitsInt64 (n : Int) : Bool := -((Nat.pow 2 63 : Nat) : Int) ≤ n && n < (Nat.pow 2 63 : Nat)

/-- The integer of an optionally signed decimal text. -/
def readInt? (s : String) : Option Int :=
  let (negative, cs) := splitSign s.toList
  if cs.isEmpty || !cs.all isDecimalDigit then none
  else
    let n : Int := if negative then -(ofDigits 10 cs : Int) else ofDigits 10 cs
    if fitsInt64 n then some n else none

/-- The truth value of a text. -/
def readBool? (s : String) : Option Bool :=
  if ["1", "t", "T", "true", "TRUE", "True"].contains s then some true
  else if ["0", "f", "F", "false", "FALSE", "False"].contains s then some false
  else none

/-! ## Doubles -/

/-- The lower-case form of an ASCII letter. -/
def asciiLower (c : Char) : Char := if 'A' ≤ c && c ≤ 'Z' then Char.ofNat (c.toNat + 32) else c

/-- The infinities and not a number, in any case of letters; the last has no sign. -/
def special? (cs : List Char) : Option Binary64 :=
  let (negative, rest) := splitSign cs
  let word := String.ofList (rest.map asciiLower)
  if word = "inf" || word = "infinity" then some (.infinite negative)
  else if String.ofList (cs.map asciiLower) = "nan" then some .nan
  else none

/-- Whether each underscore stands between two digits or between a base mark and a digit; `after`
tells whether a digit stands before. -/
def underscoresFit (hex : Bool) : (after : Bool) → List Char → Bool
  | _, [] => true
  | after, '_' :: rest =>
    after &&
      match rest with
      | c :: _ => (isDecimalDigit c || (hex && (digitValue? c).isSome)) && underscoresFit hex false rest
      | [] => false
  | _, c :: rest => underscoresFit hex (isDecimalDigit c || (hex && (digitValue? c).isSome)) rest

/-- A mantissa: its digits before and after the point, and what follows. -/
def mantissa (isDigit : Char → Bool) (cs : List Char) : List Char × List Char × List Char :=
  let part (c : Char) : Bool := isDigit c || c == '_'
  let whole := cs.takeWhile part
  match cs.dropWhile part with
  | '.' :: rest => (whole, rest.takeWhile part, rest.dropWhile part)
  | rest => (whole, [], rest)

/-- An exponent after its mark. -/
def exponent? (cs : List Char) : Option Int :=
  let (negative, ds) := splitSign cs
  match ds with
  | d :: _ =>
    if isDecimalDigit d && ds.all (fun c => isDecimalDigit c || c == '_') then
      let n := min (ofDigits 10 (ds.filter isDecimalDigit)) 100000
      some (if negative then -(n : Int) else n)
    else none
  | [] => none

/-- The exponent after a mantissa: absent, or introduced by `mark`. -/
def exponentPart? (mark : Char) (required : Bool) : List Char → Option Int
  | [] => if required then none else some 0
  | c :: rest => if asciiLower c = mark then exponent? rest else none

/-- The double nearest to `digits · base ^ e`. -/
def scaled? (negative : Bool) (digits base : Nat) (e : Int) : Option Binary64 :=
  if 0 ≤ e then Binary64.ofRatio? negative (digits * Nat.pow base e.toNat) 1
  else Binary64.ofRatio? negative digits (Nat.pow base (-e).toNat)

/-- The finite double of a number's text. -/
def finite? (text : List Char) : Option Binary64 := do
  let (negative, cs) := splitSign text
  let (hex, body) := match cs with
    | '0' :: x :: c :: rest => if asciiLower x = 'x' then (true, c :: rest) else (false, cs)
    | _ => (false, cs)
  let isDigit (c : Char) : Bool := if hex then (digitValue? c).isSome else isDecimalDigit c
  let (whole, part, rest) := mantissa isDigit body
  let whole := whole.filter (· != '_')
  let part := part.filter (· != '_')
  if whole.isEmpty && part.isEmpty then none
  let e ← exponentPart? (if hex then 'p' else 'e') hex rest
  if !underscoresFit hex hex body then none
  if hex then scaled? negative (ofDigits 16 (whole ++ part)) 2 (e - 4 * part.length)
  else scaled? negative (ofDigits 10 (whole ++ part)) 10 (e - part.length)

/-- The double that a text stands for; nothing for other texts and for numbers out of range. -/
def readFloat? (s : String) : Option Binary64 :=
  (special? s.toList).or (finite? s.toList)

end TaskBuilders.Number
