import TaskBuilders.Source.File
import TaskBuilders.Source.Grammar
import TaskBuilders.Text.Blank

/-!
# The layout of generated files

Files are laid out the way the standard formatter of their language does it. Generated source is
nearly there: what is left is the order of imports, the alignment of attribute records, one-line
functions that are too long, blank lines and the blanks at the ends of comments.

A file that is no source file has no layout.
-/

namespace TaskBuilders.Source.Layout

open Naming Text

/-! ## Imports -/

/-- The group of an import path: paths without a dot in their first element come first, and those
that begin with `appengine` last. -/
def importGroup (path : String) : Nat :=
  if hasLeading "appengine" path then 2
  else if (path.toList.takeWhile (· != '/')).contains '.' then 1
  else 0

/-- A line of an import block: the name, which may be empty, and the path. -/
def readImport (line : String) : ImportSpec :=
  let cs := line.toList.dropWhile isBlank
  let name := cs.takeWhile (· != '"')
  let path := (cs.drop (name.length + 1)).takeWhile (· != '"')
  ⟨trim (String.ofList name), String.ofList path⟩

/-- Sorts imports by path and then by name. -/
def sortByPath (specs : List ImportSpec) : List ImportSpec :=
  specs.mergeSort fun a b => a.path < b.path || (a.path == b.path && a.name ≤ b.name)

/-- Whether the name of an import is written in ASCII letters; a blank line is put only before
such imports. -/
def hasPlainName (i : ImportSpec) : Bool :=
  i.name.toList.all fun c => c.isAlphanum || c == '_' || c == '.'

/-- Cuts imports into the stretches between blank lines. A stretch begins where the group changes;
once such a place cannot take a blank line, no later one does. -/
def stretches (last : Option Nat) (may : Bool) : List ImportSpec → List (List ImportSpec)
  | [] => [[]]
  | i :: rest =>
    let g := importGroup i.path
    let changes := match last with
      | some l => l != g
      | none => false
    let may' := may && (!changes || hasPlainName i)
    match stretches (some g) may' rest with
    | [] => [[i]]
    | first :: more =>
      if changes && may' then [] :: (i :: first) :: more else (i :: first) :: more

/-- The lines of an import block: groups with a blank line between them, each sorted by path. -/
def layoutImports (specs : List ImportSpec) : List String :=
  let grouped := specs.mergeSort fun a b =>
    importGroup a.path < importGroup b.path ||
      (importGroup a.path == importGroup b.path &&
        (a.path < b.path || (a.path == b.path && a.name ≤ b.name)))
  let blocks := (stretches none true grouped).map fun s =>
    (sortByPath s).map SourceFile.importLine
  (blocks.filter (fun b => !b.isEmpty)).intersperse [""] |>.flatten

/-! ## Comments -/

/-- Whether a line is a comment. -/
def isComment (line : String) : Bool := hasLeading "//" line

/-- Whether a character is a backquote. -/
def isBackquote (c : Char) : Bool := c.toNat = 0x60

/-- Two backquotes and two quotes in a documentation comment are quotation marks; three backquotes
and more stay. `inRun` says that the text goes on with the rest of such a run. -/
def quotationMarks (inRun : Bool) : List Char → List Char
  | [] => []
  | [c] => [c]
  | a :: b :: rest =>
    if isBackquote a && inRun then a :: quotationMarks true (b :: rest)
    else if isBackquote a && isBackquote b then
      if rest.head?.any isBackquote then a :: quotationMarks true (b :: rest)
      else '“' :: quotationMarks false rest
    else if a = '\'' && b = '\'' then '”' :: quotationMarks false rest
    else a :: quotationMarks false (b :: rest)

/-- A comment line without carriage returns and without blanks at its end. -/
def layoutComment (line : String) : String :=
  trimRight (String.ofList (line.toList.filter (· != '\r')))

/-- A line of a documentation comment: one blank stands behind the slashes. -/
def layoutDoc (line : String) : String :=
  let text := (layoutComment line).toList.drop 2
  let text := match text with
    | ' ' :: rest => rest
    | text => text
  if text.isEmpty then "//" else "// " ++ String.ofList (quotationMarks false text)

/-! ## Declarations -/

/-- The keyword that a line at the left margin begins with. -/
def declKeyword? (line : String) : Option String :=
  ["func", "type", "var", "const", "import"].find? fun k =>
    hasLeading (k ++ " ") line || hasLeading (k ++ "(") line

/-- The most bytes that a function on one line has in its head and body. -/
def oneLineLimit : Nat := 99

/-- The most bytes that the head of a function literal on one line has. -/
def literalLimit : Nat := 100

/-- The most bytes that the field type of a struct on one line has. -/
def structLimit : Nat := 29

/-- Cuts characters before the first occurrence of `part`. -/
def cutBefore (part : List Char) : List Char → Option (List Char × List Char)
  | [] => none
  | c :: cs =>
    if part.isPrefixOf (c :: cs) then some ([], c :: cs)
    else (cutBefore part cs).map fun (a, b) => (c :: a, b)

/-- A function on one line whose head and body are too long gets a line for each. -/
def layoutOneLineFunc (line : String) : List String :=
  match cutBefore [' ', '{'] line.toList with
  | some (head, rest) =>
    if hasLeading "func " line && rest.getLast? == some '}' then
      let body := trim (String.ofList ((rest.drop 2).dropLast))
      let head := String.ofList head
      if byteLength head + byteLength body ≤ oneLineLimit then [line]
      else if body = "" then [head ++ " \x7b", "\x7d"]
      else [head ++ " \x7b", "\t" ++ body, "\x7d"]
    else [line]
  | none => [line]

/-- A struct on one line whose field is too long gets a line for it. -/
def layoutOneLineStruct (line : String) : List String :=
  match cutBefore "struct\x7b n ".toList line.toList with
  | some (head, rest) =>
    let type := (rest.drop 10).takeWhile (· != ' ')
    if hasLeading "type " line && byteLength (String.ofList type) > structLimit then
      [String.ofList head ++ "struct \x7b", "\tn " ++ String.ofList type, "\x7d"]
    else [line]
  | none => [line]

/-- A call whose last argument is an empty function literal with a long head gets a line for the
literal's end. -/
def layoutLiteral (line : String) : List String :=
  match cutBefore "func(".toList line.toList with
  | some (head, rest) =>
    match cutBefore " \x7b\x7d)".toList rest with
    | some (literal, _) =>
      if hasLeading "\t" line && byteLength (String.ofList literal) > literalLimit then
        [String.ofList (head ++ literal) ++ " \x7b", "\t\x7d)"]
      else [line]
    | none => [line]
  | none => [line]

/-- The lines of a line that is longer than it may be. -/
def breakLine (line : String) : List String :=
  if hasLeading "func " line then layoutOneLineFunc line
  else if hasLeading "type " line then layoutOneLineStruct line
  else layoutLiteral line

/-! ## Records -/

/-- A field line of a record: its name and its type. -/
def readField (line : String) : String × String :=
  let cs := line.toList.dropWhile isBlank
  (String.ofList (cs.takeWhile (· != ' ')),
    String.ofList ((cs.dropWhile (· != ' ')).dropWhile (· == ' ')))

/-- Field lines with the types in one column, one blank behind the longest name. -/
def alignFields (lines : List String) : List String :=
  let fields := lines.map readField
  let width := fields.foldl (fun w f => max w f.1.length) 0
  fields.map fun (name, type) =>
    "\t" ++ name ++ String.ofList (List.replicate (width + 1 - name.length) ' ') ++ type

/-! ## Files -/

/-- What the lines that are being read belong to. -/
inductive Region where
  | outside
  /-- Inside an import block, with its lines so far. -/
  | imports (lines : List String)
  /-- Inside an attribute record, with its lines so far. -/
  | record (lines : List String)
  /-- Inside the body of another declaration. -/
  | inside
  /-- Comments at the left margin that may turn out to belong to a declaration. -/
  | comments (lines : List String)

/-- A file as far as it is laid out. -/
structure Progress where
  region : Region := .outside
  /-- The lines so far, last first. -/
  back : List String := []
  /-- The keyword of the last declaration. -/
  last : Option String := none

namespace Progress

/-- Adds lines. -/
def put (p : Progress) (lines : List String) : Progress :=
  { p with region := .outside, back := lines.reverse ++ p.back }

/-- Adds a blank line, unless there is one or nothing stands before it. -/
def gap (p : Progress) : Progress :=
  match p.back with
  | [] => p
  | "" :: _ => p
  | _ => { p with back := "" :: p.back }

/-- Begins a declaration with its documentation. A declaration that is documented or of another
kind than the one before stands behind a blank line. -/
def begin (p : Progress) (doc : List String) (keyword line : String) : Progress :=
  let p := if !doc.isEmpty || p.last != some keyword then p.gap else p
  let p := (p.put (doc.map layoutDoc)).put (breakLine line)
  let open' := line.toList.getLast?
  let p := { p with last := some keyword }
  if keyword = "import" && open' == some '(' then { p with region := .imports [] }
  else if keyword = "type" && hasTrailing " struct \x7b" line then { p with region := .record [] }
  else if open' == some '{' || open' == some '(' then { p with region := .inside }
  else p

/-- Reads a line at the left margin behind the comments `doc`. -/
def outer (p : Progress) (doc : List String) (line : String) : Progress :=
  if line = "" then (p.put (doc.map layoutComment)).gap
  else if isComment line then { p with region := .comments (doc ++ [line]) }
  else
    match declKeyword? line with
    | some keyword => p.begin doc keyword line
    | none => { (p.put (doc.map layoutComment)).put [line] with last := some "package" }

/-- Reads a line. -/
def step (p : Progress) (line : String) : Progress :=
  match p.region with
  | .outside => p.outer [] (if isBlankText line then "" else line)
  | .comments lines => p.outer lines (if isBlankText line then "" else line)
  | .imports lines =>
    if line = ")" then p.put (layoutImports (lines.map readImport) ++ [line])
    else { p with region := .imports (lines ++ [line]) }
  | .record lines =>
    if line = "\x7d" then p.put (alignFields lines ++ [line])
    else { p with region := .record (lines ++ [line]) }
  | .inside =>
    if line = "\x7d" || line = ")" then p.put [line]
    else { p.put (breakLine line) with region := .inside }

/-- The laid-out lines; blank ones at the end are dropped. -/
def finish (p : Progress) : List String :=
  let p := match p.region with
    | .comments lines => p.put (lines.map layoutComment)
    | .imports lines => p.put lines
    | .record lines => p.put lines
    | _ => p
  (p.back.dropWhile (· == "")).reverse

end Progress

/-- The layout of a source file, given as its lines. -/
def layoutLines (lines : List String) : List String :=
  (lines.foldl Progress.step ({} : Progress)).finish

/-- Whether a text is a source file. -/
def isSource (text : String) : Bool :=
  match scan text with
  | some ts => Grammar.isFile ts
  | none => false

/-- The layout of a text, when it is a source file. -/
def layout? (text : String) : Option String :=
  if isSource text then some (unlines (layoutLines (splitAtChar '\n' text))) else none

end TaskBuilders.Source.Layout

namespace TaskBuilders.SourceFile

/-- The laid-out file, when its source is well-formed. -/
def formatted? (f : SourceFile) : Option String := Source.Layout.layout? f.raw

end TaskBuilders.SourceFile
