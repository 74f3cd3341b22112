import TaskBuilders.Cue.Syntax
import TaskBuilders.Number.Reading
import TaskBuilders.Text.Letter

/-!
# Tokens of CUE

A line end after a token that can end an expression stands for a comma. A string with interpolations
comes as several tokens, the tokens of the expressions between them.
-/

namespace TaskBuilders.Cue

open Number

/-- A character of a string, or a line end of the source. -/
inductive Glyph where
  | char (c : Char)
  | lineEnd
deriving Repr, DecidableEq

/-- How a string is quoted: the quote, whether it is written three times, and the number signs around. -/
structure Quotation where
  quote : Char
  multiline : Bool
  hashes : Nat
deriving Repr, DecidableEq

/-- A token. -/
inductive Token where
  | name (position : Nat) (s : String)
  | int (n : Nat)
  | float (x : Decimal)
  /-- A string up to its end or its first interpolation, which `closed` tells apart. -/
  | opening (q : Quotation) (glyphs : List Glyph) (closed : Bool)
  /-- A string behind an interpolation. -/
  | continuation (glyphs : List Glyph) (closed : Bool)
  | mark (s : String)
deriving Repr, DecidableEq

/-! ## Strings -/

namespace Quotation

/-- What opens and closes a string between its number signs. -/
def quotes (q : Quotation) : List Char := List.replicate (if q.multiline then 3 else 1) q.quote

/-- What closes a string. -/
def closer (q : Quotation) : List Char := q.quotes ++ List.replicate q.hashes '#'

/-- The quotation that begins a text, and what follows. -/
def opening? (cs : List Char) : Option (Quotation × List Char) :=
  let hashes := (cs.takeWhile (· == '#')).length
  match cs.drop hashes with
  | a :: rest =>
    if a != '"' && a != '\'' then none
    else
      match rest with
      | b :: c :: more =>
        if a == b && b == c then
          match more with
          | '\n' :: more => some (⟨a, true, hashes⟩, more)
          | '\r' :: '\n' :: more => some (⟨a, true, hashes⟩, more)
          | _ => none
        else some (⟨a, false, hashes⟩, rest)
      | _ => some (⟨a, false, hashes⟩, rest)
  | [] => none

end Quotation

/-- The number of a code written by hexadecimal digits. -/
def code? (width : Nat) (cs : List Char) : Option Nat :=
  let ds := cs.take width
  if ds.length = width && ds.all (fun c => (digitValue? c).isSome) then some (ofDigits 16 ds) else none

/-- A character by its code, and how many characters write it. Codes above the first plane may be
written as a pair of surrogates; `lead` is what stands between such a pair. -/
def coded? (lead : List Char) (width : Nat) (cs : List Char) : Option (Char × Nat) := do
  let n ← code? width cs
  if 0xD800 ≤ n && n < 0xDC00 then
    let rest ← Text.afterLeading? lead (cs.drop width)
    let (low, used) ← match rest with
      | 'u' :: ds => (code? 4 ds).map (·, 5)
      | 'U' :: ds => (code? 8 ds).map (·, 9)
      | _ => none
    if 0xDC00 ≤ low && low < 0xE000 then
      some (Char.ofNat (0x10000 + (n - 0xD800) * 0x400 + (low - 0xDC00)), width + lead.length + used)
    else none
  else if n.isValidChar then some (Char.ofNat n, width)
  else none

/-- The character of a one-letter escape. -/
def escaped? (q : Quotation) (c : Char) : Option Char :=
  match c with
  | 'a' => some (Char.ofNat 7)
  | 'b' => some (Char.ofNat 8)
  | 'f' => some (Char.ofNat 12)
  | 'n' => some '\n'
  | 'r' => some '\r'
  | 't' => some '\t'
  | 'v' => some (Char.ofNat 11)
  | '/' => some '/'
  | '\\' => some '\\'
  | c => if c == q.quote then some c else none

/-- What stands behind a backslash: a character, or nothing for the beginning of an interpolation, and
how many characters write it. -/
def escape? (q : Quotation) (cs : List Char) : Option (Option Char × Nat) :=
  let lead := '\\' :: List.replicate q.hashes '#'
  match cs with
  | '(' :: _ => some (none, 1)
  | 'u' :: rest => (coded? lead 4 rest).map fun (c, n) => (some c, n + 1)
  | 'U' :: rest => (coded? lead 8 rest).map fun (c, n) => (some c, n + 1)
  | c :: _ => (escaped? q c).map fun c => (some c, 1)
  | [] => none

/-- Reads a string up to its end or to an interpolation, which the flag tells apart. `passed` counts
characters that an escape has used. -/
def piece? (q : Quotation) : (passed : Nat) → List Char → Option (List Glyph × Bool × List Char)
  | _, [] => none
  | passed + 1, _ :: rest => piece? q passed rest
  | 0, c :: rest =>
    match Text.afterLeading? q.closer (c :: rest) with
    | some more => some ([], true, more)
    | none =>
      if c == '\n' then
        if q.multiline then (piece? q 0 rest).map fun (gs, e) => (.lineEnd :: gs, e) else none
      else if c == '\r' && rest.head? == some '\n' then piece? q 0 rest
      else if c == '\\' then
        match Text.afterLeading? (List.replicate q.hashes '#') rest with
        | none => (piece? q 0 rest).map fun (gs, e) => (.char c :: gs, e)
        | some behind =>
          match escape? q behind with
          | none => none
          | some (none, _) => some ([], false, behind.drop 1)
          | some (some e, width) =>
            (piece? q (q.hashes + width) rest).map fun (gs, r) => (.char e :: gs, r)
      else (piece? q 0 rest).map fun (gs, e) => (.char c :: gs, e)

/-! ## Names and numbers -/

/-- A character that names may begin with. -/
def isNameStart (c : Char) : Bool := Text.isLetter c || c == '_' || c == '$'

/-- A character of names. -/
def isNameChar (c : Char) : Bool := isNameStart c || Text.isDigit c

/-- The length of the name at the beginning of a text, zero when there is none. -/
def nameLength (cs : List Char) : Nat :=
  let lead := match cs with
    | '_' :: '#' :: _ => 2
    | '#' :: _ => 1
    | _ => 0
  match cs.drop lead with
  | c :: rest => if isNameStart c then lead + 1 + (rest.takeWhile isNameChar).length else 0
  | [] => 0

/-- Digits with underscores between them; nothing when an underscore stands elsewhere. -/
def digitRun? (isDigit : Char → Bool) (cs : List Char) : Option (List Char × List Char) :=
  let run := cs.takeWhile fun c => isDigit c || c == '_'
  let ds := run.filter (· != '_')
  if run.head? == some '_' || run.getLast? == some '_' then none
  else some (ds, cs.drop run.length)

/-- A number in another base behind its mark. -/
def based? (base : Nat) (cs : List Char) : Option (Token × List Char) := do
  let (ds, rest) ← digitRun? (fun c => (digitValue? c).any (· < base)) cs
  if ds.isEmpty then none else some (.int (ofDigits base ds), rest)

/-- An exponent with its mark, zero when there is none. -/
def exponentOf? : List Char → Option (Option Int × List Char)
  | e :: rest =>
    if asciiLower e == 'e' then do
      let signed := rest.head? == some '-' || rest.head? == some '+'
      let (ds, more) ← digitRun? isDecimalDigit (if signed then rest.drop 1 else rest)
      if ds.isEmpty then none
      let n : Int := ofDigits 10 ds
      some (some (if rest.head? == some '-' then -n else n), more)
    else some (none, e :: rest)
  | [] => some (none, [])

/-- A number at the beginning of a text. -/
def number? (cs : List Char) : Option (Token × List Char) :=
  match cs with
  | '0' :: 'x' :: rest | '0' :: 'X' :: rest => based? 16 rest
  | '0' :: 'o' :: rest => based? 8 rest
  | '0' :: 'b' :: rest => based? 2 rest
  | _ => do
    let (whole, rest) ← digitRun? isDecimalDigit cs
    let (part, rest) ← match rest with
      | '.' :: more =>
        if more.head? == some '.' then some (none, rest)
        else (digitRun? isDecimalDigit more).map fun (ds, r) => (some ds, r)
      | _ => some (none, rest)
    let (e, rest) ← exponentOf? rest
    if whole.length > 1 && whole.head? == some '0' then none
    match part, e with
    | none, none => some (.int (ofDigits 10 whole), rest)
    | _, _ =>
      let places := part.getD []
      if whole.isEmpty && places.isEmpty then none
      some (.float ⟨ofDigits 10 (whole ++ places), e.getD 0 - places.length⟩, rest)

/-- The marks of more than one character, the longest first. -/
def longMarks : List String := ["_|_", "...", "&&", "||", "==", "!=", "<=", ">=", "=~", "!~", "<-"]

/-- The mark at the beginning of a text. -/
def mark? (cs : List Char) : Option String :=
  match longMarks.find? fun m => m.toList.isPrefixOf cs with
  | some m => some m
  | none =>
    match cs with
    | c :: _ =>
      if "\x7b\x7d[]():,.+-*/&|!?=<>".toList.contains c then some (String.singleton c) else none
    | [] => none

/-! ## Token streams -/

namespace Token

/-- Whether a line end after a token stands for a comma. -/
def endsExpression : Token → Bool
  | .mark m => [")", "]", "\x7d", "...", "?", "_|_"].contains m
  | .opening _ _ closed | .continuation _ closed => closed
  | _ => true

/-- A comma. -/
def comma : Token := .mark ","

end Token

/-- What the reader of tokens keeps: whether a line end stands for a comma, and the strings around,
each with the parentheses that are open in its interpolation. -/
structure LexState where
  pending : Bool := false
  strings : List (Quotation × Nat) := []

namespace LexState

/-- Goes on behind a token. -/
def after (st : LexState) (t : Token) : LexState :=
  let st := { st with pending := t.endsExpression }
  match t, st.strings with
  | .mark "(", (q, n) :: more => { st with strings := (q, n + 1) :: more }
  | .mark ")", (q, n) :: more => { st with strings := (q, n - 1) :: more }
  | .opening q _ false, strings => { st with strings := (q, 0) :: strings }
  | .continuation _ true, _ :: more => { st with strings := more }
  | _, _ => st

end LexState

/-- The token at the beginning of a text that begins with no blank, and the text behind it. -/
def token? (st : LexState) (cs : List Char) : Option (Token × List Char) :=
  match cs, st.strings with
  | ')' :: rest, (q, 0) :: _ =>
    (piece? q 0 rest).map fun (gs, closed, more) => (.continuation gs closed, more)
  | _, _ =>
    match Quotation.opening? cs with
    | some (q, rest) => (piece? q 0 rest).map fun (gs, closed, more) => (.opening q gs closed, more)
    | none =>
      if (['_', '|', '_'] : List Char).isPrefixOf cs then some (.mark "_|_", cs.drop 3)
      else
        let n := nameLength cs
        if 0 < n then some (.name cs.length (String.ofList (cs.take n)), cs.drop n)
        else
          match cs with
          | c :: d :: _ =>
            if isDecimalDigit c || (c == '.' && isDecimalDigit d) then number? cs
            else (mark? cs).map fun m => (.mark m, cs.drop m.length)
          | [c] =>
            if isDecimalDigit c then number? cs
            else (mark? cs).map fun m => (.mark m, cs.drop m.length)
          | [] => none

/-- The tokens of a text; each step uses up at least one character, which bounds their number. -/
def tokensFrom? : (bound : Nat) → LexState → List Char → Option (List Token)
  | _, st, [] =>
    if !st.strings.isEmpty then none
    else if st.pending then some [.comma]
    else some []
  | 0, _, _ :: _ => none
  | bound + 1, st, c :: rest =>
    if c == '\n' then
      if st.pending then (tokensFrom? bound { st with pending := false } rest).map (.comma :: ·)
      else tokensFrom? bound st rest
    else if c == ' ' || c == '\t' || c == '\r' then tokensFrom? bound st rest
    else if c == '/' && rest.head? == some '/' then
      tokensFrom? bound st (rest.dropWhile (· != '\n'))
    else
      match token? st (c :: rest) with
      | none => none
      | some (t, more) => (tokensFrom? bound (st.after t) more).map (t :: ·)

/-- The tokens of a source. A byte order mark may stand at its beginning only. -/
def tokens? (source : String) : Option (List Token) :=
  let cs := match source.toList with
    | c :: rest => if c.toNat = 0xFEFF then rest else c :: rest
    | [] => []
  if cs.any fun c => c.toNat = 0 || c.toNat = 0xFEFF then none
  else tokensFrom? cs.length {} cs

end TaskBuilders.Cue
