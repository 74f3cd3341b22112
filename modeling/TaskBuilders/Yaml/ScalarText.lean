import TaskBuilders.Number.Reading
import TaskBuilders.Yaml.Token

/-!
# Texts of scalars

A scalar may go over several lines. A single line break between two of its lines is folded into a
blank; of several breaks the first is dropped. Only the literal style keeps its lines.
-/

namespace TaskBuilders.Yaml

/-- A place in a text: what is left, and where that begins. -/
structure Cursor where
  rest : List Char
  line : Nat := 0
  column : Nat := 0
  index : Nat := 0
deriving Repr

namespace Cursor

/-- The cursor behind a character, for what is left then. -/
def after (c : Cursor) (ch : Char) (rest : List Char) : Cursor :=
  if isBreak ch then ⟨rest, c.line + 1, 0, c.index + 1⟩
  else ⟨rest, c.line, c.column + 1, c.index + 1⟩

/-- Goes on behind the characters that satisfy `p`. -/
def skipWhile (p : Char → Bool) (c : Cursor) : Cursor := go c c.rest
where
  /-- The loop of `skipWhile`. -/
  go (c : Cursor) : List Char → Cursor
    | [] => c
    | ch :: rest => if p ch then go (c.after ch rest) rest else c

/-- Goes on behind one character, if there is one. -/
def next (c : Cursor) : Cursor :=
  match c.rest with
  | [] => c
  | ch :: rest => c.after ch rest

/-- Goes on behind `n` characters. -/
def skip (c : Cursor) : Nat → Cursor
  | 0 => c
  | n + 1 => c.next.skip n

/-- Whether the line begins with a mark of documents, `---` or `...`. -/
def atMark (mark : Char) (c : Cursor) : Bool :=
  c.column == 0 &&
    match c.rest with
    | a :: b :: d :: rest => a == mark && b == mark && d == mark && atGap rest
    | _ => false

/-- Whether the line begins with one of the two marks of documents. -/
def atDocumentMark (c : Cursor) : Bool := c.atMark '-' || c.atMark '.'

end Cursor

/-- A text that is being folded, its characters in reverse. -/
structure Folding where
  text : List Char := []
  spaces : List Char := []
  firstBreak : List Char := []
  moreBreaks : List Char := []
  onNewLine : Bool := false

namespace Folding

/-- Adds a space or a tab. On a new line it is indentation. -/
def space (f : Folding) (c : Char) : Folding :=
  if f.onNewLine then f else { f with spaces := c :: f.spaces }

/-- Adds a line break; spaces before it are dropped. -/
def lineBreak (f : Folding) (c : Char) : Folding :=
  if f.onNewLine then { f with moreBreaks := c :: f.moreBreaks }
  else { f with spaces := [], firstBreak := [c], onNewLine := true }

/-- Puts what stands between two words into the text. -/
def join (f : Folding) : Folding :=
  if f.onNewLine then
    let gap :=
      if f.firstBreak = ['\n'] then (if f.moreBreaks.isEmpty then [' '] else f.moreBreaks)
      else f.moreBreaks ++ f.firstBreak
    { text := gap ++ f.text }
  else { f with text := f.spaces ++ f.text, spaces := [] }

/-- Adds a character of a word. -/
def char (f : Folding) (c : Char) : Folding :=
  let f := f.join
  { f with text := c :: f.text }

/-- The text so far. -/
def result (f : Folding) : String := String.ofList f.text.reverse

end Folding

/-! ## Plain scalars -/

/-- A character that ends a plain scalar inside brackets. -/
def isFlowIndicator (c : Char) : Bool :=
  c == ',' || c == '?' || c == '[' || c == ']' || c == '{' || c == '}'

/-- Reads a plain scalar. Outside brackets its further lines are indented by at least `indent`. The
flag tells that the scalar is followed by a line break. -/
def plainScalar (flow : Bool) (indent : Int) (c : Cursor) : Option (String × Bool × Cursor) :=
  go c {} true c.rest
where
  /-- The loop of `plainScalar`; `atWord` tells that no character of the word has been read. -/
  go (c : Cursor) (f : Folding) (atWord : Bool) : List Char → Option (String × Bool × Cursor)
    | [] => some (f.result, f.onNewLine, c)
    | ch :: rest =>
      if isBreak ch then go (c.after ch rest) (f.lineBreak ch) true rest
      else if isSpace ch then
        if f.onNewLine && (c.column : Int) < indent && ch == '\t' then none
        else go (c.after ch rest) (f.space ch) true rest
      else if atWord && ((!flow && f.onNewLine && (c.column : Int) < indent) || c.atDocumentMark ||
          ch == '#') then some (f.result, f.onNewLine, c)
      else if (ch == ':' && atGap rest) || (flow && isFlowIndicator ch) then
        some (f.result, f.onNewLine, c)
      else go (c.after ch rest) (f.char ch) false rest

/-! ## Quoted scalars -/

/-- The character of a one-letter escape. -/
def escaped? (c : Char) : Option Char :=
  match c with
  | '0' => some (Char.ofNat 0)
  | 'a' => some (Char.ofNat 7)
  | 'b' => some (Char.ofNat 8)
  | 't' | '\t' => some '\t'
  | 'n' => some '\n'
  | 'v' => some (Char.ofNat 11)
  | 'f' => some (Char.ofNat 12)
  | 'r' => some '\r'
  | 'e' => some (Char.ofNat 27)
  | ' ' => some ' '
  | '"' => some '"'
  | '\'' => some '\''
  | '\\' => some '\\'
  | 'N' => some (Char.ofNat 0x85)
  | '_' => some (Char.ofNat 0xA0)
  | 'L' => some (Char.ofNat 0x2028)
  | 'P' => some (Char.ofNat 0x2029)
  | _ => none

/-- The number of hexadecimal digits after an escape letter. -/
def escapeWidth? (c : Char) : Option Nat :=
  match c with
  | 'x' => some 2
  | 'u' => some 4
  | 'U' => some 8
  | _ => none

/-- The character with a code point, if it is one. -/
def charOfCode? (n : Nat) : Option Char :=
  if h : n.isValidChar then some (Char.ofNatAux n h) else none

/-- Reads a single-quoted scalar behind its opening quote. -/
def singleQuoted (c : Cursor) : Option (String × Cursor) := go c {} c.rest
where
  /-- The loop of `singleQuoted`. -/
  go (c : Cursor) (f : Folding) : List Char → Option (String × Cursor)
    | [] => none
    | ch :: rest =>
      if isBreak ch then go (c.after ch rest) (f.lineBreak ch) rest
      else if isSpace ch then go (c.after ch rest) (f.space ch) rest
      else if c.atDocumentMark then none
      else if ch == '\'' then
        match rest with
        | '\'' :: rest' => go ((c.after ch rest).after '\'' rest') (f.char '\'') rest'
        | _ => some (f.join.result, c.after ch rest)
      else go (c.after ch rest) (f.char ch) rest

/-- What a backslash in a double-quoted scalar begins. -/
inductive EscapeState where
  | none
  | backslash
  | digits (left code : Nat)

/-- Reads a double-quoted scalar behind its opening quote. -/
def doubleQuoted (c : Cursor) : Option (String × Cursor) := go c {} .none c.rest
where
  /-- The loop of `doubleQuoted`. -/
  go (c : Cursor) (f : Folding) : EscapeState → List Char → Option (String × Cursor)
    | _, [] => none
    | .backslash, ch :: rest =>
      if isBreak ch then go (c.after ch rest) { f.join with onNewLine := true } .none rest
      else
        match escaped? ch, escapeWidth? ch with
        | some e, _ => go (c.after ch rest) (f.char e) .none rest
        | none, some w => go (c.after ch rest) f (.digits w 0) rest
        | none, none => none
    | .digits left code, ch :: rest =>
      match Number.digitValue? ch with
      | none => none
      | some d =>
        let code := code * 16 + d
        if left ≤ 1 then
          match charOfCode? code with
          | some e => go (c.after ch rest) (f.char e) .none rest
          | none => none
        else go (c.after ch rest) f (.digits (left - 1) code) rest
    | .none, ch :: rest =>
      if isBreak ch then go (c.after ch rest) (f.lineBreak ch) .none rest
      else if isSpace ch then go (c.after ch rest) (f.space ch) .none rest
      else if c.atDocumentMark then none
      else if ch == '"' then some (f.join.result, c.after ch rest)
      else if ch == '\\' then go (c.after ch rest) f .backslash rest
      else go (c.after ch rest) (f.char ch) .none rest

/-! ## Block scalars -/

/-- What happens to the line breaks at the end of a block scalar. -/
inductive Chomping where
  | strip
  | clip
  | keep
deriving Repr, DecidableEq

/-- How a block scalar is read: `indent` is nothing while the first line has not shown it. -/
structure BlockState where
  text : List Char := []
  lineEnd : List Char := []
  breaks : List Char := []
  indent : Option Nat
  deepest : Nat := 0
  afterIndented : Bool := false

namespace BlockState

/-- Begins a line with the character `first`. -/
def beginLine (folded : Bool) (s : BlockState) (first : Char) : BlockState :=
  let indented := isSpace first
  let gap :=
    if folded && !s.afterIndented && !indented && s.lineEnd = ['\n'] then
      (if s.breaks.isEmpty then [' '] else [])
    else s.lineEnd
  { s with text := s.breaks ++ gap ++ s.text, lineEnd := [], breaks := [], afterIndented := indented }

/-- The text at the end of the scalar. -/
def finish (chomping : Chomping) (s : BlockState) : String :=
  let text := if chomping = .strip then s.text else s.lineEnd ++ s.text
  String.ofList (if chomping = .keep then s.breaks ++ text else text).reverse

end BlockState

/-- Reads the lines of a block scalar; `least` is the smallest indentation that they can show. -/
def blockLines (folded : Bool) (chomping : Chomping) (least : Nat) (indent : Option Nat) (c : Cursor) :
    Option (String × Cursor) :=
  go c { indent } false c.rest
where
  /-- The loop of `blockLines`; `inLine` tells that the indentation has been passed. -/
  go (c : Cursor) (s : BlockState) (inLine : Bool) : List Char → Option (String × Cursor)
    | [] => some (s.finish chomping, c)
    | ch :: rest =>
      if inLine then
        if isBreak ch then go (c.after ch rest) { s with lineEnd := [ch] } false rest
        else go (c.after ch rest) { s with text := ch :: s.text } true rest
      else
        let inside := s.indent.all (c.column < ·)
        if inside && ch == ' ' then
          go (c.after ch rest) { s with deepest := max s.deepest (c.column + 1) } false rest
        else if inside && ch == '\t' then none
        else if isBreak ch then go (c.after ch rest) { s with breaks := ch :: s.breaks } false rest
        else
          let indent := s.indent.getD (max s.deepest least)
          let s := { s with indent := some indent }
          if c.column = indent then
            let s := s.beginLine folded ch
            go (c.after ch rest) { s with text := ch :: s.text } true rest
          else some (s.finish chomping, c)

/-- The indicators behind the mark of a block scalar: chomping and the depth of indentation, in any
order. -/
def blockIndicators (c : Cursor) : Option (Chomping × Option Nat × Cursor) :=
  let depth (c : Cursor) : Option (Option Nat × Cursor) :=
    match c.rest with
    | ch :: _ =>
      if ch == '0' then none
      else if Number.isDecimalDigit ch then some (Number.digitValue? ch, c.next)
      else some (none, c)
    | [] => some (none, c)
  let chomp (c : Cursor) : Option (Chomping × Cursor) :=
    match c.rest with
    | '+' :: _ => some (.keep, c.next)
    | '-' :: _ => some (.strip, c.next)
    | _ => none
  match chomp c with
  | some (chomping, c) => (depth c).map fun (d, c) => (chomping, d, c)
  | none =>
    (depth c).map fun (d, c') =>
      match d, chomp c' with
      | some _, some (chomping, c'') => (chomping, d, c'')
      | _, _ => (.clip, d, c')

/-- Reads a block scalar at its mark; `indent` is the indentation of what it stands in. -/
def blockScalar (folded : Bool) (indent : Int) (c : Cursor) : Option (String × Cursor) := do
  let (chomping, depth, c) ← blockIndicators c.next
  let c := c.skipWhile isSpace
  let c := if c.rest.head? == some '#' then c.skipWhile (fun ch => !isBreak ch) else c
  if !(c.rest.head?.all isBreak) then none
  let c := c.next
  let base := (max indent 0).toNat
  blockLines folded chomping (max (indent + 1).toNat 1) (depth.map (base + ·)) c

end TaskBuilders.Yaml
