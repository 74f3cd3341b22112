import TaskBuilders.Number.Reading
import TaskBuilders.Text.Affix

/-!
# Nodes of YAML

A node carries its tag in the short form, such as `!!str`; a plain scalar without a tag has none, and
its text decides what it stands for.
-/

namespace TaskBuilders.Yaml

/-- A node of a document. -/
inductive Node where
  | scalar (tag : String) (plain : Bool) (text : String)
  | sequence (tag : String) (items : List Node)
  | mapping (tag : String) (entries : List (Node × Node))
  /-- A reference to a node from inside that node. -/
  | cycle (anchor : String)
deriving Repr, Inhabited

/-- What a scalar stands for. -/
inductive ScalarValue where
  | null
  | bool (b : Bool)
  | int (n : Int)
  | float (x : Number.Binary64)
  | timestamp (text : String)
  | merge
  | text (s : String)
deriving Repr, DecidableEq

open Number

/-! ## Plain scalars -/

/-- The base that the beginning of an integer tells, and its digits. -/
def integerBase : List Char → Nat × List Char
  | ['0'] => (10, ['0'])
  | '0' :: c :: rest =>
    match asciiLower c with
    | 'x' => (16, rest)
    | 'o' => (8, rest)
    | 'b' => (2, rest)
    | _ => (8, c :: rest)
  | cs => (10, cs)

/-- The integer of a text with an optional sign and base: 64 bits, signed or not. -/
def integer? (cs : List Char) : Option Int :=
  let (negative, body) := splitSign cs
  let (base, ds) := integerBase body
  if ds.isEmpty || !ds.all (fun c => (digitValue? c).any (· < base)) then none
  else
    let n := ofDigits base ds
    let signed := cs.head? == some '-' || cs.head? == some '+'
    if negative then (if n ≤ Nat.pow 2 63 then some (-(n : Int)) else none)
    else if n < Nat.pow 2 63 || (!signed && n < Nat.pow 2 64) then some n
    else none

/-- Whether a text is a decimal number: digits with an optional point, sign and exponent. -/
def isDecimal (cs : List Char) : Bool :=
  let body := (splitSign cs).2
  let whole := body.takeWhile isDecimalDigit
  let rest := body.dropWhile isDecimalDigit
  let (part, rest) := match rest with
    | '.' :: rest => (some (rest.takeWhile isDecimalDigit), rest.dropWhile isDecimalDigit)
    | _ => (none, rest)
  let wellFormed := if whole.isEmpty then part.any (!·.isEmpty) else true
  let exponent := match rest with
    | [] => true
    | e :: rest =>
      let ds := (splitSign rest).2
      asciiLower e == 'e' && !ds.isEmpty && ds.all isDecimalDigit
  wellFormed && exponent

/-- Digits at the beginning of a text, at least one and at most `most`, as a number in a range. -/
def field? (most low high : Nat) (cs : List Char) : Option (Nat × List Char) :=
  let ds := (cs.take most).takeWhile isDecimalDigit
  let n := ofDigits 10 ds
  if ds.isEmpty || n < low || high < n then none else some (n, cs.drop ds.length)

/-- The rest behind one of the given characters. -/
def behind? (marks : String) : List Char → Option (List Char)
  | [] => none
  | c :: rest => if marks.toList.contains c then some rest else none

/-- The days of a month. -/
def daysIn (year month : Nat) : Nat :=
  if month = 2 then (if year % 4 = 0 ∧ (year % 100 ≠ 0 ∨ year % 400 = 0) then 29 else 28)
  else if [4, 6, 9, 11].contains month then 30
  else 31

/-- Whether a text is a zone: `Z`, or an offset of hours and minutes. -/
def isZone (cs : List Char) : Bool :=
  match cs with
  | ['Z'] => true
  | [s, a, b, ':', c, d] =>
    (s == '+' || s == '-') && [a, b, c, d].all isDecimalDigit &&
      ofDigits 10 [a, b] ≤ 24 && ofDigits 10 [c, d] ≤ 60
  | _ => false

/-- Whether a text is a time of day, followed by a zone if `zoned`. -/
def isTimeOfDay (zoned : Bool) (cs : List Char) : Bool :=
  (do
    let (_, cs) ← field? 2 0 23 cs
    let (_, cs) ← (behind? ":" cs).bind (field? 2 0 59)
    let (_, cs) ← (behind? ":" cs).bind (field? 2 0 59)
    let cs := match cs with
      | p :: d :: rest =>
        if (p == '.' || p == ',') && isDecimalDigit d then rest.dropWhile isDecimalDigit else cs
      | _ => cs
    some (if zoned then isZone cs else cs.isEmpty)).getD false

/-- Whether a text is a date, alone or with a time of day. -/
def isTimestamp (cs : List Char) : Bool :=
  (do
    let year := cs.takeWhile isDecimalDigit
    if year.length ≠ 4 then none
    let (month, cs) ← (behind? "-" (cs.drop 4)).bind (field? 2 1 12)
    let (day, cs) ← (behind? "-" cs).bind (field? 2 1 31)
    if daysIn (ofDigits 10 year) month < day then none
    some (match cs with
      | [] => true
      | 'T' :: rest | 't' :: rest => isTimeOfDay true rest
      | ' ' :: rest => isTimeOfDay false (rest.dropWhile (· == ' '))
      | _ => false)).getD false

/-- The values of words. -/
def wordValue? (s : String) : Option ScalarValue :=
  if ["true", "True", "TRUE"].contains s then some (.bool true)
  else if ["false", "False", "FALSE"].contains s then some (.bool false)
  else if ["", "~", "null", "Null", "NULL"].contains s then some .null
  else if [".nan", ".NaN", ".NAN"].contains s then some (.float .nan)
  else if [".inf", ".Inf", ".INF", "+.inf", "+.Inf", "+.INF"].contains s then
    some (.float (.infinite false))
  else if ["-.inf", "-.Inf", "-.INF"].contains s then some (.float (.infinite true))
  else none

/-- The value of a text that begins like a number. Underscores between digits do not count. -/
def numberValue? (timestamps : Bool) (s : String) : Option ScalarValue :=
  if timestamps && isTimestamp s.toList then some (.timestamp s)
  else
    let cs := s.toList.filter (· != '_')
    match integer? cs with
    | some n => some (.int n)
    | none => if isDecimal cs then (readFloat? (String.ofList cs)).map .float else none

/-- What a plain text stands for; `timestamps` tells whether a date may be one. -/
def plainValue (timestamps : Bool) (s : String) : ScalarValue :=
  let guess : Option ScalarValue :=
    match s.toList.head? with
    | none => some .null
    | some c =>
      if c == '.' then (wordValue? s).or ((readFloat? s).map .float)
      else if c == '+' || c == '-' || isDecimalDigit c then
        (wordValue? s).or (numberValue? timestamps s)
      else if "yYnNtTfFoO~".toList.contains c then wordValue? s
      else none
  guess.getD (.text s)

/-- The short tag of a value. -/
def ScalarValue.tag : ScalarValue → String
  | null => "!!null"
  | bool _ => "!!bool"
  | int _ => "!!int"
  | float _ => "!!float"
  | timestamp _ => "!!timestamp"
  | merge => "!!merge"
  | text _ => "!!str"

/-! ## Tags -/

/-- The beginning of the tags of the standard types. -/
def standardTags : String := "tag:yaml.org,2002:"

/-- The short form of a tag. -/
def shortTag (t : String) : String :=
  if Text.hasLeading standardTags t then "!!" ++ Text.dropLeading standardTags t else t

/-- The double nearest to an integer. -/
def floatOfInt (n : Int) : Option Binary64 := Binary64.ofRatio? (n < 0) n.natAbs 1

/-- What a scalar stands for under its tag; nothing when its text does not fit the tag. -/
def scalarValue? (tag : String) (plain : Bool) (s : String) : Option ScalarValue :=
  if tag = "!!str" || tag = "!!binary" then some (.text s)
  else if tag = "" || tag = "!" then some (if plain then plainValue true s else .text s)
  else if tag = "!!merge" then (if s = "<<" then some .merge else none)
  else
    let v := plainValue (tag = "!!timestamp") s
    if v.tag = tag then some v
    else
      match v, tag with
      | .int n, "!!float" => (floatOfInt n).map .float
      | _, _ => none

namespace Node

/-- The tag of a scalar is that of merge keys. -/
def isMerge : Node → Bool
  | scalar tag _ text => text == "<<" && (tag == "!!merge" || tag == "" || tag == "!")
  | _ => false

/-- Whether a node is a scalar that stands for nothing. -/
def isNull : Node → Bool
  | scalar tag plain text => scalarValue? tag plain text == some .null
  | _ => false

/-- Whether two keys are the same kind of node with the same text. -/
def sameKey : Node → Node → Bool
  | scalar _ _ a, scalar _ _ b => a == b
  | sequence .., sequence .. => true
  | mapping .., mapping .. => true
  | _, _ => false

/-- Whether no two keys are the same. -/
def distinctKeys : List (Node × Node) → Bool
  | [] => true
  | (k, _) :: rest => rest.all (fun e => !sameKey k e.1) && distinctKeys rest

end Node

end TaskBuilders.Yaml
