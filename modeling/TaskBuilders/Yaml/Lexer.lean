import TaskBuilders.Yaml.ScalarText

/-!
# Reading tokens

The lexer keeps the indentations of the open block collections and, for each open bracket, the place
where a key without a `?` may have begun. When a `:` follows on the same line, the tokens of the key
are put in front of what was read since.
-/

namespace TaskBuilders.Yaml

/-- A place where a key may have begun. -/
structure KeyStart where
  required : Bool
  token : Nat
  line : Nat
  column : Nat
  index : Nat
deriving Repr

/-- The state of the lexer; the tokens are in reverse, and the head of `keys` belongs to the innermost
bracket. -/
structure Lexer where
  cursor : Cursor
  tokens : List Token := []
  indent : Int := -1
  indents : List Int := []
  keyAllowed : Bool := true
  keys : List (Option KeyStart) := [none]

namespace Lexer

/-- Whether the lexer is inside brackets. -/
def inFlow (l : Lexer) : Bool := 1 < l.keys.length

/-- Appends a token. -/
def push (l : Lexer) (t : Token) : Lexer := { l with tokens := t :: l.tokens }

/-- Puts a token in front of the token with a number. -/
def insert (l : Lexer) (number : Nat) (t : Token) : Lexer :=
  let later := l.tokens.length - number
  { l with tokens := l.tokens.take later ++ t :: l.tokens.drop later }

/-! ## Keys and indentation -/

/-- Gives the innermost possible key up; nothing when there had to be one. -/
def dropKey (l : Lexer) : Option Lexer :=
  match l.keys with
  | some k :: outer => if k.required then none else some { l with keys := none :: outer }
  | _ => some l

/-- Remembers that a key may begin here. -/
def saveKey (l : Lexer) : Option Lexer :=
  if !l.keyAllowed then some l
  else
    l.dropKey.map fun l =>
      let k : KeyStart := {
        required := !l.inFlow && l.indent == (l.cursor.column : Int), token := l.tokens.length
        line := l.cursor.line, column := l.cursor.column, index := l.cursor.index }
      { l with keys := some k :: l.keys.drop 1 }

/-- Whether the key that began at `k` can still end here: it stays on one line and is short. -/
def keyHolds (l : Lexer) (k : KeyStart) : Bool :=
  l.cursor.line ≤ k.line && l.cursor.index ≤ k.index + 1024

/-- Opens a block collection at a column that lies deeper than the current one. -/
def openBlock (l : Lexer) (column : Nat) (number : Nat) (t : Token) : Lexer :=
  if !l.inFlow && l.indent < (column : Int) then
    { l with indent := column, indents := l.indent :: l.indents }.insert number t
  else l

/-- Closes the block collections that lie deeper than a column. -/
def closeBlocks (l : Lexer) (column : Int) : Lexer :=
  if l.inFlow then l else go l l.indents
where
  /-- The loop of `closeBlocks` over the outer indentations. -/
  go (l : Lexer) : List Int → Lexer
    | [] => l
    | i :: rest =>
      if column < l.indent then go { l.push .blockEnd with indent := i, indents := rest } rest else l

/-! ## Blanks and comments -/

/-- Whether only blank lines come before the next comment. -/
def commentFollows : List Char → Bool
  | [] => false
  | c :: rest => if isGap c then commentFollows rest else c == '#'

/-- Goes to the next token. Tabs do not count as indentation. -/
def skipBlanks (l : Lexer) : Lexer := go l.cursor l.keyAllowed false l.cursor.rest
where
  /-- The loop of `skipBlanks`; `comment` tells that the line is a comment. -/
  go (c : Cursor) (keyAllowed comment : Bool) : List Char → Lexer
    | [] => { l with cursor := c, keyAllowed }
    | ch :: rest =>
      if isBreak ch then
        go (c.after ch rest) (keyAllowed || !l.inFlow) (comment && commentFollows rest) rest
      else if comment then go (c.after ch rest) keyAllowed true rest
      else if ch == ' ' || (ch == '\t' && (l.inFlow || !keyAllowed)) ||
          (c.column == 0 && ch.toNat == 0xFEFF) then go (c.after ch rest) keyAllowed false rest
      else if ch == '#' then go (c.after ch rest) keyAllowed true rest
      else { l with cursor := c, keyAllowed }

/-! ## Tags and directives -/

/-- The characters of names at the cursor. -/
def takeName (c : Cursor) : String × Cursor :=
  (String.ofList (c.rest.takeWhile isNameChar), c.skipWhile isNameChar)

/-- Characters of tags. -/
def isTagChar (c : Char) : Bool := isNameChar c || ";/?:@&=+$,.!~*'()[]%".toList.contains c

/-- Two hexadecimal digits as a number. -/
def hexByte? (a b : Char) : Option Nat := do
  some ((← Number.digitValue? a) * 16 + (← Number.digitValue? b))

/-- Replaces escapes in a tag by their characters; only those of ASCII are understood. -/
def unescapeTag : List Char → Option (List Char)
  | [] => some []
  | '%' :: a :: b :: rest => do
    let n ← hexByte? a b
    if 0x80 ≤ n then none
    (unescapeTag rest).map (Char.ofNat n :: ·)
  | c :: rest => if c == '%' then none else (unescapeTag rest).map (c :: ·)

/-- The characters of a tag at the cursor. -/
def takeTag (c : Cursor) : Option (String × Cursor) :=
  (unescapeTag (c.rest.takeWhile isTagChar)).map fun t => (String.ofList t, c.skipWhile isTagChar)

/-- A tag at its `!`: a handle and a suffix. -/
def tagToken (c : Cursor) : Option (Token × Cursor) := do
  let (t, c) ←
    match c.rest with
    | _ :: '<' :: _ => do
      let (uri, c) ← takeTag (c.skip 2)
      if uri = "" || c.rest.head? != some '>' then none
      some (Token.tag "" uri, c.next)
    | _ =>
      let (name, c') := takeName c.next
      if c'.rest.head? == some '!' then do
        let (suffix, c) ← takeTag c'.next
        if suffix = "" then none
        some (Token.tag ("!" ++ name ++ "!") suffix, c)
      else do
        let (suffix, c) ← takeTag c.next
        some (if suffix = "" then Token.tag "" "!" else Token.tag "!" suffix, c)
  if atGap c.rest then some (t, c) else none

/-- A number of a version, at most nine digits. -/
def versionNumber (c : Cursor) : Option (Nat × Cursor) :=
  let ds := c.rest.takeWhile Number.isDecimalDigit
  if ds.isEmpty || 9 < ds.length then none
  else some (Number.ofDigits 10 ds, c.skipWhile Number.isDecimalDigit)

/-- The value of a directive, by its name. -/
def directiveValue (name : String) (c : Cursor) : Option (Token × Cursor) :=
  let c := c.skipWhile isSpace
  match name with
  | "YAML" => do
    let (major, c) ← versionNumber c
    if c.rest.head? != some '.' then none
    let (minor, c) ← versionNumber c.next
    some (.version major minor, c)
  | "TAG" => do
    if c.rest.head? != some '!' then none
    let (handleName, c) := takeName c.next
    let (handle, c) ←
      if c.rest.head? == some '!' then some ("!" ++ handleName ++ "!", c.next)
      else if handleName = "" then some ("!", c)
      else none
    if !(c.rest.head?.any isSpace) then none
    let (lead, c) ← takeTag (c.skipWhile isSpace)
    if lead = "" || !atGap c.rest then none
    some (.tagDirective handle lead, c)
  | _ => none

/-- A directive at its `%`, with the rest of its line. -/
def directiveToken (c : Cursor) : Option (Token × Cursor) := do
  let (name, c) := takeName c.next
  if name = "" || !atGap c.rest then none
  let (t, c) ← directiveValue name c
  let c := c.skipWhile isSpace
  let c := if c.rest.head? == some '#' then c.skipWhile (fun ch => !isBreak ch) else c
  if c.rest.head?.all isBreak then some (t, c.next) else none

/-- The name of an anchor behind its mark. -/
def anchorName (c : Cursor) : Option (String × Cursor) :=
  let (name, c) := takeName c.next
  let ends := atGap c.rest || c.rest.head?.any fun ch =>
    ("?:,]\x7d%@".toList ++ [Char.ofNat 0x60]).contains ch
  if name = "" || !ends then none else some (name, c)

/-! ## Tokens -/

/-- A bracket that opens. -/
def openBracket (l : Lexer) (t : Token) : Option Lexer := do
  let l ← l.saveKey
  some { l.push t with keys := none :: l.keys, keyAllowed := true, cursor := l.cursor.next }

/-- A bracket that closes. -/
def closeBracket (l : Lexer) (t : Token) : Option Lexer := do
  let l ← l.dropKey
  let keys := if l.inFlow then l.keys.drop 1 else l.keys
  some { l.push t with keys, keyAllowed := false, cursor := l.cursor.next }

/-- The mark `-` of an entry. -/
def entryMark (l : Lexer) : Option Lexer := do
  if !l.inFlow && !l.keyAllowed then none
  let l ← (l.openBlock l.cursor.column l.tokens.length .sequenceStart).dropKey
  some { l.push .entry with keyAllowed := true, cursor := l.cursor.next }

/-- The mark `?` of a key. -/
def keyMark (l : Lexer) : Option Lexer := do
  if !l.inFlow && !l.keyAllowed then none
  let l ← (l.openBlock l.cursor.column l.tokens.length .mappingStart).dropKey
  some { l.push .key with keyAllowed := !l.inFlow, cursor := l.cursor.next }

/-- The mark `:` of a value. A key before it on the line gets its tokens now. -/
def valueMark (l : Lexer) : Option Lexer := do
  match l.keys with
  | some k :: outer =>
    if l.keyHolds k then
      let l := (l.insert k.token .key).openBlock k.column k.token .mappingStart
      some { l.push .value with keys := none :: outer, keyAllowed := false, cursor := l.cursor.next }
    else if k.required then none
    else complex { l with keys := none :: outer }
  | _ => complex l
where
  /-- The value of a key that has a mark of its own. -/
  complex (l : Lexer) : Option Lexer :=
    if !l.inFlow && !l.keyAllowed then none
    else
      let l := l.openBlock l.cursor.column l.tokens.length .mappingStart
      some { l.push .value with keyAllowed := !l.inFlow, cursor := l.cursor.next }

/-- A token before which a key may begin, read by `read`. -/
def keyed (l : Lexer) (read : Cursor → Option (Token × Cursor)) : Option Lexer := do
  let l ← l.saveKey
  let (t, c) ← read l.cursor
  some { l.push t with keyAllowed := false, cursor := c }

/-- A plain scalar. -/
def plain (l : Lexer) : Option Lexer := do
  let l ← l.saveKey
  let (text, onNewLine, c) ← plainScalar l.inFlow (l.indent + 1) l.cursor
  some { l.push (.scalar true text) with keyAllowed := onNewLine, cursor := c }

/-- A block scalar. -/
def block (l : Lexer) (folded : Bool) : Option Lexer := do
  let l ← l.dropKey
  let (text, c) ← blockScalar folded l.indent l.cursor
  some { l.push (.scalar false text) with keyAllowed := true, cursor := c }

/-- A token at the beginning of a line that belongs to no block collection. -/
def outside (l : Lexer) (read : Cursor → Option (Token × Cursor)) : Option Lexer := do
  let l ← (l.closeBlocks (-1)).dropKey
  let (t, c) ← read l.cursor
  some { l.push t with keyAllowed := false, cursor := c }

/-- Characters that no plain scalar begins with, unless a rule of their own lets it. -/
def isIndicator (c : Char) : Bool :=
  ("-?:,[]\x7b\x7d#&*!|>'\"%@".toList ++ [Char.ofNat 0x60]).contains c

/-- Whether a plain scalar may begin with `c` before `rest`. -/
def startsPlain (flow : Bool) (c : Char) (rest : List Char) : Bool :=
  (!isGap c && !isIndicator c) || (c == '-' && !(rest.head?.any isSpace)) ||
    (!flow && (c == '?' || c == ':') && !atGap rest)

/-- Reads the next token together with the block starts and ends before it; nothing at a fault. -/
def nextToken (l : Lexer) : Option Lexer :=
  let l := l.skipBlanks
  let l := l.closeBlocks l.cursor.column
  match l.cursor.rest with
  | [] => l.outside fun c => some (.streamEnd, c)
  | c :: rest =>
    if l.cursor.column == 0 && c == '%' then l.outside directiveToken
    else if l.cursor.atMark '-' then l.outside fun c => some (.documentStart, c.skip 3)
    else if l.cursor.atMark '.' then l.outside fun c => some (.documentEnd, c.skip 3)
    else if c == '[' then l.openBracket .openBracket
    else if c == '{' then l.openBracket .openBrace
    else if c == ']' then l.closeBracket .closeBracket
    else if c == '}' then l.closeBracket .closeBrace
    else if c == ',' then
      l.dropKey.map fun l => { l.push .comma with keyAllowed := true, cursor := l.cursor.next }
    else if c == '-' && atGap rest then l.entryMark
    else if c == '?' && (l.inFlow || atGap rest) then l.keyMark
    else if c == ':' && (l.inFlow || atGap rest) then l.valueMark
    else if c == '*' then l.keyed fun c => (anchorName c).map fun (n, c) => (.reference n, c)
    else if c == '&' then l.keyed fun c => (anchorName c).map fun (n, c) => (.anchor n, c)
    else if c == '!' then l.keyed tagToken
    else if c == '|' && !l.inFlow then l.block false
    else if c == '>' && !l.inFlow then l.block true
    else if c == '\'' then
      l.keyed fun c => (singleQuoted c.next).map fun (t, c) => (.scalar false t, c)
    else if c == '"' then
      l.keyed fun c => (doubleQuoted c.next).map fun (t, c) => (.scalar false t, c)
    else if startsPlain l.inFlow c rest then l.plain
    else none

/-- Reads tokens to the end. Every token but the last takes at least one character. -/
def run (l : Lexer) : TokenStream :=
  match l.nextToken with
  | none => ⟨l.tokens.reverse, true⟩
  | some l' =>
    if l'.tokens.head? == some .streamEnd then ⟨l'.tokens.reverse, false⟩
    else if l'.cursor.rest.length < l.cursor.rest.length then run l'
    else ⟨l'.tokens.reverse, true⟩
termination_by l.cursor.rest.length

end Lexer

/-- Drops a byte order mark from the beginning of a text. -/
def dropOrderMark (cs : List Char) : List Char :=
  match cs with
  | c :: rest => if c.toNat == 0xFEFF then rest else cs
  | [] => []

/-- The tokens of a text. A text with control characters is broken from its beginning. -/
def TokenStream.ofText (s : String) : TokenStream :=
  let cs := dropOrderMark s.toList
  if cs.all isAllowed then Lexer.run { cursor := { rest := unifyBreaks cs } } else ⟨[], true⟩

end TaskBuilders.Yaml
