import TaskBuilders.Number.Reading
import TaskBuilders.Text.Affix
import TaskBuilders.Text.Letter

/-!
# Pieces of XML

A text is cut into character data, tags and pieces without content: comments, instructions and
directives. Names keep their namespace mark apart.
-/

namespace TaskBuilders.Xml

/-- A name with the mark of its namespace, empty without one. -/
structure Name where
  space : String
  ident : String
deriving Repr, DecidableEq

/-- A piece of a text. -/
inductive Markup where
  | text (s : String)
  | open (name : Name) (attributes : List (Name × String)) (closed : Bool)
  | close (name : Name)
  | aside
deriving Repr

/-! ## Characters and names -/

/-- Whether a document may hold a character. -/
def isAllowed (c : Char) : Bool :=
  let n := c.toNat
  n == 0x09 || n == 0x0A || n == 0x0D || (0x20 ≤ n && n ≤ 0xD7FF) || (0xE000 ≤ n && n ≤ 0xFFFD) ||
    0x10000 ≤ n

/-- White space between the parts of a tag. -/
def isSpace (c : Char) : Bool := c == ' ' || c == '\t' || c == '\n' || c == '\r'

/-- Drops white space. -/
def dropSpace (cs : List Char) : List Char := cs.dropWhile isSpace

/-- A character that goes on with a name that is being read: anything beyond ASCII does. -/
def continuesName (c : Char) : Bool :=
  0x80 ≤ c.toNat || c.isAlphanum || c == '_' || c == ':' || c == '.' || c == '-'

/-- A character that a name may begin with. -/
def beginsName (c : Char) : Bool := c == '_' || c == ':' || c.isAlpha || Text.isLetter c

/-- A character that a name may hold. -/
def isNameChar (c : Char) : Bool :=
  beginsName c || c == '.' || c == '-' || Text.isDigit c || c.toNat == 0xB7 ||
    (0x300 ≤ c.toNat && c.toNat ≤ 0x36F)

/-- Whether a text is a name. -/
def isName : List Char → Bool
  | [] => false
  | c :: cs => beginsName c && cs.all isNameChar

/-- Splits a name off; the end of the text may not follow it. -/
def plainName? (cs : List Char) : Option (List Char × List Char) :=
  let name := cs.takeWhile continuesName
  let rest := cs.dropWhile continuesName
  if isName name && !rest.isEmpty then some (name, rest) else none

/-- A name with at most one colon; a colon at either end belongs to the name itself. -/
def name? (cs : List Char) : Option (Name × List Char) := do
  let (n, rest) ← plainName? cs
  if 1 < n.count ':' then none
  let space := String.ofList (n.takeWhile (· != ':'))
  let ident := String.ofList ((n.dropWhile (· != ':')).drop 1)
  some (if space = "" || ident = "" then ⟨"", String.ofList n⟩ else ⟨space, ident⟩, rest)

/-! ## References -/

/-- The characters with names of their own. -/
def namedCharacter? (name : List Char) : Option Char :=
  match String.ofList name with
  | "lt" => some '<'
  | "gt" => some '>'
  | "amp" => some '&'
  | "apos" => some '\''
  | "quot" => some '"'
  | _ => none

/-- The character with a number; a surrogate becomes the replacement character. -/
def numberedCharacter? (base : Nat) (ds : List Char) : Option Char :=
  let n := Number.ofDigits base ds
  if ds.isEmpty || 0x10FFFF < n then none
  else some (if n.isValidChar then Char.ofNat n else Char.ofNat 0xFFFD)

/-- The character of a reference, by the text between `&` and `;`. -/
def referenced? (body : List Char) : Option Char :=
  match body with
  | '#' :: 'x' :: ds =>
    if ds.all (fun c => (Number.digitValue? c).isSome) then numberedCharacter? 16 ds else none
  | '#' :: ds => if ds.all Number.isDecimalDigit then numberedCharacter? 10 ds else none
  | name => namedCharacter? name

/-- Writes line ends as line feeds. -/
def unifyLineEnds : List Char → List Char
  | [] => []
  | '\r' :: '\n' :: rest => '\n' :: unifyLineEnds rest
  | c :: rest => (if c == '\r' then '\n' else c) :: unifyLineEnds rest

/-- Replaces references. `pending` is the text of a reference that has begun, in reverse. -/
def resolve? (pending : Option (List Char)) : List Char → Option (List Char)
  | [] => if pending.isSome then none else some []
  | c :: rest =>
    match pending with
    | some back =>
      if c == ';' then do
        let r ← referenced? back.reverse
        (resolve? none rest).map (r :: ·)
      else resolve? (some (c :: back)) rest
    | none => if c == '&' then resolve? (some []) rest else (resolve? none rest).map (c :: ·)

/-- The text of character data; nothing if it holds a faulty reference or a forbidden character. -/
def dataText? (cs : List Char) : Option String := do
  let text ← resolve? none (unifyLineEnds cs)
  if text.all isAllowed then some (String.ofList text) else none

/-! ## Pieces -/

/-- Splits at the first occurrence of a mark, which goes to neither side. -/
def splitAtMark? (mark : List Char) : List Char → Option (List Char × List Char)
  | [] => none
  | c :: rest =>
    match Text.afterLeading? mark (c :: rest) with
    | some after => some ([], after)
    | none => (splitAtMark? mark rest).map fun (before, after) => (c :: before, after)

/-- Character data up to the next tag. The mark `]]>` may not stand in it. -/
def text? (cs : List Char) : Option (Markup × List Char) := do
  let data := cs.takeWhile (· != '<')
  if Text.occursIn "]]>".toList data then none
  some (.text (← dataText? data), cs.dropWhile (· != '<'))

/-- The value of an attribute between its quotes. -/
def attributeValue? : List Char → Option (String × List Char)
  | [] => none
  | q :: rest => do
    if q ≠ '"' && q ≠ '\'' then none
    let data := rest.takeWhile (· != q)
    if data.contains '<' then none
    match rest.dropWhile (· != q) with
    | [] => none
    | _ :: after => some (← dataText? data, after)

/-- The attributes of a start tag and its end; the flag tells a tag that closes itself. Each attribute
uses up one unit of `fuel`. -/
def attributes? : (fuel : Nat) → List Char → Option (List (Name × String) × Bool × List Char)
  | 0, _ => none
  | fuel + 1, cs =>
    match dropSpace cs with
    | '/' :: '>' :: rest => some ([], true, rest)
    | '>' :: rest => some ([], false, rest)
    | cs => do
      let (n, cs) ← name? cs
      match dropSpace cs with
      | '=' :: cs =>
        let (v, cs) ← attributeValue? (dropSpace cs)
        let (more, closed, rest) ← attributes? fuel cs
        some ((n, v) :: more, closed, rest)
      | _ => none

/-- The value that a declaration gives to a parameter; empty without one. -/
def declared (param : String) (cs : List Char) : String :=
  match cs with
  | [] => ""
  | c :: rest =>
    match Text.afterLeading? (param ++ "=").toList (c :: rest) with
    | some (q :: after) =>
      if q = '"' || q = '\'' then
        if after.contains q then String.ofList (after.takeWhile (· != q)) else ""
      else declared param rest
    | _ => declared param rest

/-- Whether the declaration of a document can be obeyed: version 1.0 and the encoding UTF-8. -/
def declarationFits (content : List Char) : Bool :=
  let version := declared "version" content
  let encoding := declared "encoding" content
  (version = "" || version = "1.0") && (encoding = "" || Text.lowercase encoding = "utf-8")

/-- An instruction behind `<?`. -/
def instruction? (cs : List Char) : Option (Markup × List Char) := do
  let (target, cs) ← plainName? cs
  let (content, rest) ← splitAtMark? "?>".toList (dropSpace cs)
  if String.ofList target = "xml" && !declarationFits content then none
  some (.aside, rest)

/-- A comment behind its opening mark; two hyphens can only end it. -/
def comment? (cs : List Char) : Option (Markup × List Char) := do
  let (_, rest) ← splitAtMark? "--".toList cs
  match rest with
  | '>' :: rest => some (.aside, rest)
  | _ => none

/-- How a directive is being read; a comment counts the hyphens before the current character. -/
inductive DirectiveState where
  | plain
  | quoted (q : Char)
  | comment (hyphens : Nat)

/-- Drops a directive to its closing bracket; brackets in it nest, those in quotes and comments do not
count. -/
def dropDirective? : (depth : Nat) → DirectiveState → List Char → Option (List Char)
  | _, _, [] => none
  | depth, .comment hyphens, c :: rest =>
    if c = '-' then dropDirective? depth (.comment (hyphens + 1)) rest
    else if c = '>' && 2 ≤ hyphens then dropDirective? depth .plain rest
    else dropDirective? depth (.comment 0) rest
  | depth, .quoted q, c :: rest => dropDirective? depth (if c = q then .plain else .quoted q) rest
  | depth, .plain, '<' :: '!' :: '-' :: '-' :: rest => dropDirective? depth (.comment 0) rest
  | depth, .plain, c :: rest =>
    if c = '>' then (if depth = 0 then some rest else dropDirective? (depth - 1) .plain rest)
    else if c = '"' || c = '\'' then dropDirective? depth (.quoted c) rest
    else dropDirective? (if c = '<' then depth + 1 else depth) .plain rest

/-- A section of character data behind its opening mark. -/
def section? (cs : List Char) : Option (Markup × List Char) := do
  let (data, rest) ← splitAtMark? "]]>".toList cs
  if data.all isAllowed then some (.text (String.ofList data), rest) else none

/-- The next piece of a text that is not at its end. -/
def next? (cs : List Char) : Option (Markup × List Char) :=
  match cs with
  | '<' :: '/' :: rest => do
    let (n, rest) ← name? rest
    match dropSpace rest with
    | '>' :: rest => some (.close n, rest)
    | _ => none
  | '<' :: '?' :: rest => instruction? rest
  | '<' :: '!' :: '-' :: rest =>
    match rest with
    | '-' :: rest => comment? rest
    | _ => none
  | '<' :: '!' :: '[' :: rest => (Text.afterLeading? "CDATA[".toList rest).bind section?
  | '<' :: '!' :: _ :: rest =>
    (dropDirective? 0 .plain rest).map (.aside, ·)
  | '<' :: rest => do
    let (n, rest) ← name? rest
    let (as, closed, rest) ← attributes? (rest.length + 1) rest
    some (.open n as closed, rest)
  | cs => text? cs

end TaskBuilders.Xml
