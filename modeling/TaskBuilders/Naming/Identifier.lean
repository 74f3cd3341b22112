import TaskBuilders.Text.Letter

/-!
# Identifiers

Conversions between tags, which may hold any characters, and the identifiers of generated code.
-/

namespace TaskBuilders.Naming

open Text

/-- Characters between the words of a tag. -/
def isWordBreak (c : Char) : Bool :=
  c == '-' || c == '_' || c == '.' || c == ' ' || c == '$' || c == '/'

/-- Lower camel case of the rest of a tag. `started` says that something was written before it,
`upper` that a word break came since the last letter. A digit in front gets an underscore, and
characters that no identifier may hold are dropped. -/
def camelFrom (started upper : Bool) : List Char → List Char
  | [] => []
  | c :: cs =>
    if isWordBreak c then camelFrom started started cs
    else if isWordChar c then
      let c' := if upper then toUpper c else c
      if !started && isDigit c then '_' :: c' :: camelFrom true false cs
      else c' :: camelFrom true false cs
    else camelFrom started upper cs

/-- A tag such as `selector-x` or `path_ref` in lower camel case. -/
def camelCase (s : String) : String := String.ofList (camelFrom false false s.toList)

/-- Changes the first character of a text. -/
def mapFirst (f : Char → Char) (s : String) : String :=
  match s.toList with
  | [] => s
  | c :: cs => String.ofList (f c :: cs)

/-- Upper-cases the first character. -/
def exported (s : String) : String := mapFirst toUpper s

/-- Lower-cases the first character. -/
def lowerFirst (s : String) : String := mapFirst toLower s

/-- Whether an upper-case letter between `prev` and `rest` begins a word: after a lower-case letter
or digit, and after an upper-case letter when a lower-case letter follows. -/
def beginsWord (prev : Char) (rest : List Char) : Bool :=
  isLower prev || isDigit prev ||
    (isUpper prev && match rest with
      | [] => false
      | next :: _ => isLower next)

/-- Snake case of what follows the character `prev`. -/
def snakeFrom (prev : Option Char) : List Char → List Char
  | [] => []
  | c :: cs =>
    let breaks := match prev with
      | none => false
      | some p => isUpper c && beginsWord p cs
    if breaks then '_' :: toLower c :: snakeFrom (some c) cs
    else toLower c :: snakeFrom (some c) cs

/-- An identifier in snake case; acronyms stay in one piece. -/
def snakeCase (s : String) : String := String.ofList (snakeFrom none s.toList)

/-- The words that the generated language reserves. -/
def keywords : List String :=
  ["break", "case", "chan", "const", "continue", "default", "defer", "else", "fallthrough", "for",
   "func", "go", "goto", "if", "import", "interface", "map", "package", "range", "return",
   "select", "struct", "switch", "type", "var"]

/-- Whether a character may stand at the beginning of an identifier. -/
def isIdentStart (c : Char) : Bool := isLetter c || c == '_'

/-- Whether a character may stand inside an identifier. -/
def isIdentPart (c : Char) : Bool := isIdentStart c || isDigit c

/-- Whether the characters have the form of an identifier; keywords have it too. -/
def hasIdentForm : List Char → Bool
  | [] => false
  | c :: cs => isIdentStart c && cs.all isIdentPart

/-- Whether a text is an identifier and no keyword. -/
def isIdentifier (s : String) : Bool := hasIdentForm s.toList && !keywords.contains s

/-- The first elements of the import paths of the standard library. -/
def standardRoots : List String :=
  ["archive", "bufio", "builtin", "bytes", "cmp", "compress", "container", "context", "crypto",
   "database", "debug", "embed", "encoding", "errors", "expvar", "flag", "fmt", "go", "hash",
   "html", "image", "index", "io", "iter", "log", "maps", "math", "mime", "net", "os", "path",
   "plugin", "reflect", "regexp", "runtime", "slices", "sort", "strconv", "strings", "structs",
   "sync", "syscall", "testing", "text", "time", "unicode", "unique", "unsafe", "weak"]

/-- Whether an import path belongs to the standard library: its first element decides. -/
def isStandard (importPath : String) : Bool :=
  standardRoots.contains (String.ofList (importPath.toList.takeWhile (· != '/')))

end TaskBuilders.Naming
