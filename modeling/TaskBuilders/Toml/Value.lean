import TaskBuilders.Number.Reading
import TaskBuilders.Text.Affix

/-!
# TOML values

Numbers and dates are only delimited, not interpreted: `other` stands for each of them.
-/

namespace TaskBuilders.Toml

/-- A value. The entries of an inline table have dotted keys. -/
inductive Value where
  | text (s : String)
  | bool (b : Bool)
  | other
  | array (items : List Value)
  | table (entries : List (List String × Value))
deriving Repr, Inhabited

/-! ## Characters -/

/-- A blank inside a line. -/
def isBlank (c : Char) : Bool := c == ' ' || c == '\t'

/-- Whether a string or a comment may hold a character, line ends apart. -/
def isAllowed (c : Char) : Bool := c == '\t' || (0x20 ≤ c.toNat && c.toNat ≠ 0x7F)

/-- A character of keys without quotes. -/
def isKeyChar (c : Char) : Bool :=
  ('A' ≤ c && c ≤ 'Z') || ('a' ≤ c && c ≤ 'z') || Number.isDecimalDigit c || c == '-' || c == '_'

/-- Drops blanks. -/
def dropBlank (cs : List Char) : List Char := cs.dropWhile isBlank

/-- Goes behind a line end. -/
def lineEnd? : List Char → Option (List Char)
  | '\n' :: rest => some rest
  | '\r' :: '\n' :: rest => some rest
  | _ => none

/-- Goes behind a comment, to the end of its line. -/
def dropComment? (cs : List Char) : Option (List Char) :=
  match cs.dropWhile isAllowed with
  | [] => some []
  | rest => (lineEnd? rest).map fun _ => rest

/-! ## Strings -/

/-- The character of a one-letter escape. -/
def escaped? (c : Char) : Option Char :=
  match c with
  | '"' => some '"'
  | '\\' => some '\\'
  | 'b' => some (Char.ofNat 8)
  | 'f' => some (Char.ofNat 12)
  | 'n' => some '\n'
  | 'r' => some '\r'
  | 't' => some '\t'
  | 'e' => some (Char.ofNat 27)
  | _ => none

/-- The character with a code point written by hexadecimal digits. -/
def codePoint? (width : Nat) (cs : List Char) : Option Char :=
  let ds := cs.take width
  let n := Number.ofDigits 16 ds
  if ds.length = width && ds.all (fun c => (Number.digitValue? c).isSome) && n.isValidChar then
    some (Char.ofNat n)
  else none

/-- What follows a backslash: the written character and how many characters write it. -/
def escape? : List Char → Option (Char × Nat)
  | 'u' :: rest => (codePoint? 4 rest).map (·, 5)
  | 'U' :: rest => (codePoint? 8 rest).map (·, 9)
  | c :: _ => (escaped? c).map (·, 1)
  | [] => none

/-- Whether only blanks stand before the end of the line. -/
def blankLine (cs : List Char) : Bool := (lineEnd? (dropBlank cs)).isSome

/-- The kinds of strings. -/
structure StringKind where
  quote : Char
  multiline : Bool

/-- Whether backslashes in a string have a meaning. -/
def StringKind.escapes (k : StringKind) : Bool := k.quote == '"'

/-- The quotes at the beginning of a text. -/
def leadingQuotes (q : Char) (cs : List Char) : Nat := (cs.takeWhile (· == q)).length

/-- Reads a string behind its opening quotes. `passed` counts characters that an escape has used, and
`trimming` tells that white space is dropped after a backslash at the end of a line. A string of
several lines may end with up to two quotes of its own before the closing ones. -/
def string? (k : StringKind) : (passed : Nat) → (trimming : Bool) → List Char →
    Option (List Char × List Char)
  | _, _, [] => none
  | passed + 1, trimming, _ :: rest => string? k passed trimming rest
  | 0, trimming, c :: rest =>
    if trimming && (isBlank c || c == '\n' || c == '\r') then string? k 0 true rest
    else if c == k.quote then
      let n := leadingQuotes c (c :: rest)
      if !k.multiline then some ([], rest)
      else if n < 3 then (string? k 0 false rest).map fun (s, r) => (c :: s, r)
      else if 5 < n then none
      else some (List.replicate (n - 3) c, rest.drop (n - 1))
    else if c == '\\' && k.escapes then
      if k.multiline && blankLine rest then string? k 0 true rest
      else
        match escape? rest with
        | none => none
        | some (e, width) => (string? k width false rest).map fun (s, r) => (e :: s, r)
    else if c == '\n' || c == '\r' then
      if k.multiline && (lineEnd? (c :: rest)).isSome then
        (string? k 0 false rest).map fun (s, r) => (c :: s, r)
      else none
    else if isAllowed c then (string? k 0 false rest).map fun (s, r) => (c :: s, r)
    else none

/-- Reads a string at its opening quote; strings of several lines only if `multiline`. -/
def quoted? (multiline : Bool) : List Char → Option (String × List Char)
  | [] => none
  | q :: rest =>
    let result :=
      if multiline && 2 ≤ leadingQuotes q rest then
        let body := rest.drop 2
        string? ⟨q, true⟩ 0 false ((lineEnd? body).getD body)
      else string? ⟨q, false⟩ 0 false rest
    result.map fun (s, r) => (String.ofList s, r)

/-! ## Keys -/

/-- One part of a dotted key. -/
def keyPart? : List Char → Option (String × List Char)
  | [] => none
  | c :: rest =>
    if c == '"' || c == '\'' then quoted? false (c :: rest)
    else if isKeyChar c then
      some (String.ofList ((c :: rest).takeWhile isKeyChar), (c :: rest).dropWhile isKeyChar)
    else none

/-- A dotted key. Each part uses up one unit of `fuel`. -/
def key? : (fuel : Nat) → List Char → Option (List String × List Char)
  | 0, _ => none
  | fuel + 1, cs => do
    let (k, rest) ← keyPart? cs
    match dropBlank rest with
    | '.' :: more =>
      let (ks, rest) ← key? fuel (dropBlank more)
      some (k :: ks, rest)
    | rest => some ([k], rest)

/-! ## Numbers and dates -/

/-- Whether a text begins with `word`, and what follows. -/
def afterWord? (word : String) (cs : List Char) : Option (List Char) :=
  Text.afterLeading? word.toList cs

/-- Goes behind a number. -/
def dropNumber? (cs : List Char) : Option (List Char) :=
  match cs with
  | '0' :: b :: _ :: _ =>
    let digits (base : Nat) : List Char :=
      (cs.drop 2).dropWhile fun c => c == '_' || (Number.digitValue? c).any (· < base)
    if b == '.' || b == 'e' || b == 'E' then decimal cs
    else if b == 'x' then some (digits 16)
    else if b == 'o' then some (digits 8)
    else if b == 'b' then some (digits 2)
    else some (cs.drop 1)
  | _ => decimal cs
where
  /-- Goes behind a decimal number, an infinity or not a number. -/
  decimal (cs : List Char) : Option (List Char) :=
    let inNumber (c : Char) : Bool :=
      Number.isDecimalDigit c || c == '+' || c == '-' || c == '_' || c == '.' || c == 'e' || c == 'E'
    match cs.dropWhile inNumber with
    | 'i' :: rest => afterWord? "nf" rest
    | 'n' :: rest => afterWord? "an" rest
    | rest => if (cs.takeWhile inNumber).isEmpty then none else some rest

/-- Goes behind a date or a time; one blank may stand between the two. -/
def dropDate (spaced : Bool) : List Char → List Char
  | [] => []
  | ' ' :: d :: rest =>
    if !spaced && Number.isDecimalDigit d then dropDate true rest else ' ' :: d :: rest
  | c :: rest =>
    if Number.isDecimalDigit c || "-+.:TtZz".toList.contains c then dropDate spaced rest
    else c :: rest

/-- Whether a text begins like a date or a time. -/
def beginsDate (cs : List Char) : Bool :=
  3 ≤ cs.length &&
    match (cs.take 5).takeWhile Number.isDecimalDigit with
    | [_, _] => cs[2]? == some ':'
    | [_, _, _, _] => cs[4]? == some '-'
    | _ => false

/-! ## Values -/

/-- Goes behind blanks, comments and line ends. Each line uses up one unit of `fuel`. -/
def dropLines? : (fuel : Nat) → List Char → Option (List Char)
  | 0, cs => some cs
  | fuel + 1, cs =>
    match dropBlank cs with
    | '#' :: rest => (dropComment? rest).bind (dropLines? fuel)
    | rest =>
      match rest.head? with
      | some '\n' | some '\r' => (lineEnd? rest).bind (dropLines? fuel)
      | _ => some rest

mutual

/-- Reads a value. Every call uses up one unit of `fuel`. -/
def value? : (fuel : Nat) → List Char → Option (Value × List Char)
  | 0, _ => none
  | fuel + 1, cs =>
    match cs with
    | [] => none
    | '[' :: rest => (items? fuel true rest).map fun (xs, r) => (.array xs, r)
    | '{' :: rest => (entries? fuel true rest).map fun (es, r) => (.table es, r)
    | c :: rest =>
      if c == '"' || c == '\'' then (quoted? true cs).map fun (s, r) => (.text s, r)
      else if c == 't' then (afterWord? "rue" rest).map (.bool true, ·)
      else if c == 'f' then (afterWord? "alse" rest).map (.bool false, ·)
      else if beginsDate cs then some (.other, dropDate false cs)
      else (dropNumber? cs).map (.other, ·)

/-- The items of an array behind its opening bracket. -/
def items? : (fuel : Nat) → (first : Bool) → List Char → Option (List Value × List Char)
  | 0, _, _ => none
  | fuel + 1, first, cs => do
    let item (cs : List Char) : Option (List Value × List Char) := do
      let (v, rest) ← value? fuel cs
      let (vs, rest) ← items? fuel false rest
      some (v :: vs, rest)
    match ← dropLines? cs.length cs with
    | [] => none
    | ']' :: rest => some ([], rest)
    | ',' :: rest =>
      if first then none
      else
        match ← dropLines? rest.length rest with
        | ']' :: rest => some ([], rest)
        | rest => item rest
    | rest => if first then item rest else none

/-- The entries of an inline table behind its opening bracket. -/
def entries? : (fuel : Nat) → (first : Bool) → List Char →
    Option (List (List String × Value) × List Char)
  | 0, _, _ => none
  | fuel + 1, first, cs => do
    let entry (cs : List Char) : Option (List (List String × Value) × List Char) := do
      let (e, rest) ← pair? fuel cs
      let (es, rest) ← entries? fuel false rest
      some (e :: es, rest)
    match dropBlank cs with
    | [] => none
    | '}' :: rest => some ([], rest)
    | ',' :: rest => if first then none else entry (dropBlank rest)
    | rest => if first then entry rest else none

/-- A key with its value. -/
def pair? : (fuel : Nat) → List Char → Option ((List String × Value) × List Char)
  | 0, _ => none
  | fuel + 1, cs => do
    let (k, rest) ← key? (cs.length + 1) cs
    match dropBlank rest with
    | '=' :: rest =>
      let (v, rest) ← value? fuel (dropBlank rest)
      some ((k, v), rest)
    | _ => none

end

end TaskBuilders.Toml
