import TaskBuilders.Source.Token
import TaskBuilders.Text.Quoted

/-!
# The grammar of generated source

Whether tokens form a source file. Each rule of the grammar takes the tokens that are left and
returns those behind the phrase it recognises. A rule that looks into itself spends one unit of a
depth that grows with the number of tokens, so no file is cut short.
-/

namespace TaskBuilders.Source.Grammar

open Text

/-- A rule: the tokens behind the phrase, when there is one. -/
abbrev Rule := List Token → Option (List Token)

/-- One given token. -/
def one (t : Token) : Rule
  | [] => none
  | u :: rest => if u = t then some rest else none

/-- An operator or a punctuation mark. -/
def mark (s : String) : Rule := one (.op s)

/-- A keyword. -/
def word (s : String) : Rule := one (.keyword s)

/-- An identifier. -/
def name : Rule
  | .ident _ :: rest => some rest
  | _ => none

/-- Identifiers with commas between them. -/
def nameList : Rule
  | .ident _ :: .op "," :: rest => nameList rest
  | .ident _ :: rest => some rest
  | _ => none

/-- A rule, or nothing. -/
def optional (r : Rule) : Rule := fun ts => some ((r ts).getD ts)

/-- Whether the next token is a given mark. -/
def atMark (s : String) (ts : List Token) : Bool := ts.head? == some (.op s)

/-- Operators between two operands. -/
def binaryOperators : List String :=
  ["+", "-", "*", "/", "%", "&", "|", "^", "<<", ">>", "&^", "&&", "||", "==", "<", ">", "!=",
   "<=", ">="]

/-- Operators before an operand. -/
def unaryOperators : List String := ["+", "-", "!", "^", "*", "&", "~", "<-"]

/-- Operators of assignments. -/
def assignOperators : List String :=
  ["=", ":=", "+=", "-=", "*=", "/=", "%=", "&=", "|=", "^=", "<<=", ">>=", "&^="]

/-- The forms of an entry in a parameter list. -/
inductive ParamForm where
  /-- A name and a type. -/
  | named
  /-- An identifier, which is a type or a name that shares the type of the next entry. -/
  | bare
  /-- A type that is no identifier. -/
  | typed
deriving DecidableEq

/-- Whether entries go together: all are types, or the last of every group is named. -/
def paramsAgree (forms : List ParamForm) : Bool :=
  if forms.contains .named then
    !forms.contains .typed && forms.getLast? == some .named
  else true

mutual

/-- A type. -/
def typeExpr : Nat → Rule
  | 0, _ => none
  | n + 1, ts =>
    match ts with
    | .ident _ :: .op "." :: .ident _ :: rest => typeArgs n rest
    | .ident _ :: rest => typeArgs n rest
    | .op "*" :: rest => typeExpr n rest
    | .op "(" :: rest => typeExpr n rest >>= mark ")"
    | .op "[" :: .op "]" :: rest => typeExpr n rest
    | .op "[" :: .op "..." :: .op "]" :: rest => typeExpr n rest
    | .op "[" :: rest => expr n true rest >>= mark "]" >>= typeExpr n
    | .keyword "struct" :: .op "\x7b" :: rest => fieldList n rest
    | .keyword "interface" :: .op "\x7b" :: rest => elementList n rest
    | .keyword "func" :: rest => signature n rest
    | .keyword "map" :: .op "[" :: rest => typeExpr n rest >>= mark "]" >>= typeExpr n
    | .keyword "chan" :: .op "<-" :: rest => typeExpr n rest
    | .keyword "chan" :: rest => typeExpr n rest
    | .op "<-" :: .keyword "chan" :: rest => typeExpr n rest
    | _ => none

/-- The type arguments behind a type's name, when there are any. -/
def typeArgs : Nat → Rule
  | 0, _ => none
  | n + 1, ts =>
    match ts with
    | .op "[" :: rest =>
      match typeList n rest >>= mark "]" with
      | some rest' => some rest'
      | none => some ts
    | _ => some ts

/-- Types with commas between them. -/
def typeList : Nat → Rule
  | 0, _ => none
  | n + 1, ts =>
    match typeExpr n ts with
    | some (.op "," :: rest) => typeList n rest
    | r => r

/-- Types with bars between them, as in constraints. -/
def typeUnion : Nat → Rule
  | 0, _ => none
  | n + 1, ts => do
    let ts ← optional (mark "~") ts
    match typeExpr n ts with
    | some (.op "|" :: rest) => typeUnion n rest
    | r => r

/-- The fields of a struct up to its closing brace. -/
def fieldList : Nat → Rule
  | 0, _ => none
  | n + 1, ts =>
    match ts with
    | .op "\x7d" :: rest => some rest
    | _ => do
      let ts ← field n ts
      match ts with
      | .op ";" :: rest => fieldList n rest
      | ts => mark "\x7d" ts

/-- A field: names with a type or an embedded type, and a tag. -/
def field : Nat → Rule
  | 0, _ => none
  | n + 1, ts => do
    let ts ← match nameList ts >>= typeExpr n with
      | some rest => some rest
      | none => typeExpr n ts
    match ts with
    | .string _ :: rest => some rest
    | .rawString :: rest => some rest
    | ts => some ts

/-- The elements of an interface up to its closing brace. -/
def elementList : Nat → Rule
  | 0, _ => none
  | n + 1, ts =>
    match ts with
    | .op "\x7d" :: rest => some rest
    | _ => do
      let ts ← match ts with
        | .ident _ :: .op "(" :: rest => signature n (.op "(" :: rest)
        | ts => typeUnion n ts
      match ts with
      | .op ";" :: rest => elementList n rest
      | ts => mark "\x7d" ts

/-- Parameters and results. -/
def signature : Nat → Rule
  | 0, _ => none
  | n + 1, ts => do
    let ts ← params n ts
    if atMark "(" ts then params n ts
    else some ((typeExpr n ts).getD ts)

/-- A parameter list in parentheses. -/
def params : Nat → Rule
  | 0, _ => none
  | n + 1, ts => do
    let ts ← mark "(" ts
    let (forms, ts) ← entries n ts
    if paramsAgree forms then some ts else none

/-- The entries of a parameter list up to its closing parenthesis. -/
def entries : Nat → List Token → Option (List ParamForm × List Token)
  | 0, _ => none
  | n + 1, ts =>
    match ts with
    | .op ")" :: rest => some ([], rest)
    | _ => do
      let (form, ts) ← entry n ts
      match ts with
      | .op "," :: rest =>
        let (forms, rest') ← entries n rest
        some (form :: forms, rest')
      | ts =>
        let rest ← mark ")" ts
        some ([form], rest)

/-- An entry of a parameter list. -/
def entry : Nat → List Token → Option (ParamForm × List Token)
  | 0, _ => none
  | n + 1, ts =>
    let ends (ts : List Token) : Bool := atMark "," ts || atMark ")" ts
    match (name ts >>= optional (mark "...") >>= typeExpr n).filter ends with
    | some rest => some (.named, rest)
    | none =>
      match ts with
      | .ident s :: rest =>
        if ends rest then some (.bare, rest)
        else (typeExpr n (.ident s :: rest)).map fun r => (.typed, r)
      | ts => (optional (mark "...") ts >>= typeExpr n).map fun r => (.typed, r)

/-- Type parameters behind their opening bracket. -/
def typeParams : Nat → Rule
  | 0, _ => none
  | n + 1, ts =>
    match ts with
    | .op "]" :: rest => some rest
    | _ => do
      let ts ← nameList ts >>= typeUnion n
      match ts with
      | .op "," :: rest => typeParams n rest
      | ts => mark "]" ts

/-- An expression. `literals` says whether a brace behind a name opens a composite literal; in the
head of a control statement it opens the body. -/
def expr : Nat → Bool → Rule
  | 0, _, _ => none
  | n + 1, literals, ts => do
    let ts ← unary n literals ts
    match ts with
    | .op s :: rest => if binaryOperators.contains s then expr n literals rest else some ts
    | ts => some ts

/-- Expressions with commas between them. -/
def exprList : Nat → Bool → Rule
  | 0, _, _ => none
  | n + 1, literals, ts => do
    let ts ← expr n literals ts
    match ts with
    | .op "," :: rest => exprList n literals rest
    | ts => some ts

/-- An operand behind its operators. -/
def unary : Nat → Bool → Rule
  | 0, _, _ => none
  | n + 1, literals, ts =>
    match ts with
    | .op s :: rest => if unaryOperators.contains s then unary n literals rest else primary n literals ts
    | ts => primary n literals ts

/-- An operand with its selectors, indices, calls and literals. -/
def primary : Nat → Bool → Rule
  | 0, _, _ => none
  | n + 1, literals, ts =>
    match ts with
    | .number _ :: rest => suffixes n literals false rest
    | .char _ :: rest => suffixes n literals false rest
    | .string _ :: rest => suffixes n literals false rest
    | .rawString :: rest => suffixes n literals false rest
    | .ident _ :: rest => suffixes n literals literals rest
    | .op "(" :: rest =>
      match (expr n true rest >>= mark ")") with
      | some rest' => suffixes n literals false rest'
      | none => typeExpr n rest >>= mark ")" >>= suffixes n literals false
    | .keyword "func" :: rest => do
      let ts ← signature n rest
      if atMark "\x7b" ts then block n ts >>= suffixes n literals false
      else suffixes n literals false ts
    | ts => typeExpr n ts >>= suffixes n literals true

/-- What follows an operand. `composite` says whether a brace opens a composite literal. -/
def suffixes : Nat → Bool → Bool → Rule
  | 0, _, _, _ => none
  | n + 1, literals, composite, ts =>
    match ts with
    | .op "." :: .ident _ :: rest => suffixes n literals composite rest
    | .op "." :: .op "(" :: .keyword "type" :: .op ")" :: rest => suffixes n literals false rest
    | .op "." :: .op "(" :: rest => typeExpr n rest >>= mark ")" >>= suffixes n literals false
    | .op "[" :: rest => index n rest >>= suffixes n literals composite
    | .op "(" :: rest => args n rest >>= suffixes n literals false
    | .op "\x7b" :: rest =>
      if composite then elements n rest >>= suffixes n literals false else some ts
    | ts => some ts

/-- An index, a slice or type arguments, behind the opening bracket. -/
def index : Nat → Rule
  | 0, _ => none
  | n + 1, ts =>
    let bound (ts : List Token) : List Token := (expr n true ts).getD ts
    let sliced : Option (List Token) := do
      let ts ← mark ":" (bound ts)
      let ts := bound ts
      match ts with
      | .op ":" :: rest => mark "]" (bound rest)
      | ts => mark "]" ts
    match sliced with
    | some rest => some rest
    | none =>
      match exprList n true ts >>= mark "]" with
      | some rest => some rest
      | none => typeList n ts >>= mark "]"

/-- The arguments of a call up to the closing parenthesis. -/
def args : Nat → Rule
  | 0, _ => none
  | n + 1, ts =>
    match ts with
    | .op ")" :: rest => some rest
    | _ => do
      let ts ← match expr n true ts with
        | some rest => some rest
        | none => typeExpr n ts
      let ts ← optional (mark "...") ts
      match ts with
      | .op "," :: rest => args n rest
      | ts => mark ")" ts

/-- The elements of a composite literal up to its closing brace. -/
def elements : Nat → Rule
  | 0, _ => none
  | n + 1, ts =>
    match ts with
    | .op "\x7d" :: rest => some rest
    | _ => do
      let ts ← element n ts
      let ts ← match ts with
        | .op ":" :: rest => element n rest
        | ts => some ts
      match ts with
      | .op "," :: rest => elements n rest
      | ts => mark "\x7d" ts

/-- A key or value of a composite literal. -/
def element : Nat → Rule
  | 0, _ => none
  | n + 1, ts =>
    match ts with
    | .op "\x7b" :: rest => elements n rest
    | ts => expr n true ts

/-- Statements in braces. -/
def block : Nat → Rule
  | 0, _ => none
  | n + 1, ts => mark "\x7b" ts >>= stmtList n >>= mark "\x7d"

/-- Statements up to a closing brace or to the next case. -/
def stmtList : Nat → Rule
  | 0, _ => none
  | n + 1, ts =>
    match ts with
    | .op "\x7d" :: _ => some ts
    | .keyword "case" :: _ => some ts
    | .keyword "default" :: _ => some ts
    | .op ";" :: rest => stmtList n rest
    | _ => do
      let ts ← stmt n ts
      match ts with
      | .op ";" :: rest => stmtList n rest
      | .op "\x7d" :: _ => some ts
      | _ => none

/-- A statement. -/
def stmt : Nat → Rule
  | 0, _ => none
  | n + 1, ts =>
    match ts with
    | .keyword "return" :: .op ";" :: rest => some (.op ";" :: rest)
    | .keyword "return" :: .op "\x7d" :: rest => some (.op "\x7d" :: rest)
    | .keyword "return" :: rest => exprList n true rest
    | .keyword "if" :: rest => ifStmt n rest
    | .keyword "for" :: rest => forStmt n rest
    | .keyword "switch" :: rest => do
      let ts ← if atMark "\x7b" rest then some rest else header n rest
      mark "\x7b" ts >>= cases n
    | .keyword "go" :: rest => expr n true rest
    | .keyword "defer" :: rest => expr n true rest
    | .keyword "break" :: rest => optional name rest
    | .keyword "continue" :: rest => optional name rest
    | .keyword "goto" :: rest => name rest
    | .keyword "fallthrough" :: rest => some rest
    | .keyword "var" :: rest => group n (valueSpec n) rest
    | .keyword "const" :: rest => group n (valueSpec n) rest
    | .keyword "type" :: rest => group n (typeSpec n) rest
    | .op "\x7b" :: _ => block n ts
    | .ident _ :: .op ":" :: rest =>
      if atMark "\x7d" rest then some rest else stmt n rest
    | ts => simpleStmt n true ts

/-- An expression, an assignment or a counting statement. -/
def simpleStmt : Nat → Bool → Rule
  | 0, _, _ => none
  | n + 1, literals, ts => do
    let ts ← exprList n literals ts
    match ts with
    | .op "++" :: rest => some rest
    | .op "--" :: rest => some rest
    | .op "<-" :: rest => expr n literals rest
    | .op s :: rest =>
      if assignOperators.contains s then
        match rest with
        | .keyword "range" :: rest => expr n literals rest
        | rest => exprList n literals rest
      else some ts
    | ts => some ts

/-- What stands before the body of a control statement: statements with semicolons between them. -/
def header : Nat → Rule
  | 0, _ => none
  | n + 1, ts =>
    match ts with
    | .op ";" :: rest => header n rest
    | .op "\x7b" :: _ => some ts
    | .keyword "range" :: rest => expr n false rest
    | _ => do
      let ts ← simpleStmt n false ts
      match ts with
      | .op ";" :: rest => header n rest
      | ts => some ts

/-- A conditional statement behind its keyword. -/
def ifStmt : Nat → Rule
  | 0, _ => none
  | n + 1, ts => do
    if atMark "\x7b" ts then none
    else
      let ts ← header n ts >>= block n
      match ts with
      | .keyword "else" :: .keyword "if" :: rest => ifStmt n rest
      | .keyword "else" :: rest => block n rest
      | ts => some ts

/-- A loop behind its keyword. -/
def forStmt : Nat → Rule
  | 0, _ => none
  | n + 1, ts => header n ts >>= block n

/-- The cases of a switch up to its closing brace. -/
def cases : Nat → Rule
  | 0, _ => none
  | n + 1, ts =>
    match ts with
    | .op "\x7d" :: rest => some rest
    | .keyword "case" :: rest =>
      (match exprList n true rest with
        | some r => some r
        | none => typeList n rest) >>= mark ":" >>= stmtList n >>= cases n
    | .keyword "default" :: rest => mark ":" rest >>= stmtList n >>= cases n
    | _ => none

/-- A specification, or several in parentheses. -/
def group : Nat → Rule → Rule
  | 0, _, _ => none
  | n + 1, spec, ts =>
    match ts with
    | .op "(" :: rest => specs n spec rest
    | ts => spec ts

/-- Specifications up to a closing parenthesis. -/
def specs : Nat → Rule → Rule
  | 0, _, _ => none
  | n + 1, spec, ts =>
    match ts with
    | .op ")" :: rest => some rest
    | _ => do
      let ts ← spec ts
      match ts with
      | .op ";" :: rest => specs n spec rest
      | ts => mark ")" ts

/-- A variable or constant: names, a type or values or both. -/
def valueSpec : Nat → Rule
  | 0, _ => none
  | n + 1, ts => do
    let ts ← nameList ts
    match ts with
    | .op "=" :: rest => exprList n true rest
    | ts =>
      let ts ← typeExpr n ts
      match ts with
      | .op "=" :: rest => exprList n true rest
      | ts => some ts

/-- A type declaration behind its keyword. -/
def typeSpec : Nat → Rule
  | 0, _ => none
  | n + 1, ts => do
    let ts ← name ts
    match ts with
    | .op "=" :: rest => typeExpr n rest
    | .op "[" :: rest =>
      match typeParams n rest >>= typeExpr n with
      | some r => some r
      | none => typeExpr n ts
    | ts => typeExpr n ts

end

/-- A function declaration behind its keyword. -/
def funcDecl (n : Nat) : Rule := fun ts => do
  let ts ← if atMark "(" ts then params n ts else some ts
  let ts ← name ts
  let ts ← match ts with
    | .op "[" :: .op "]" :: _ => none
    | .op "[" :: rest => typeParams n rest
    | ts => some ts
  let ts ← signature n ts
  if atMark "\x7b" ts then block n ts else some ts

/-- A declaration other than an import. -/
def decl (n : Nat) : Rule
  | .keyword "func" :: rest => funcDecl n rest
  | .keyword "var" :: rest => group n (valueSpec n) rest
  | .keyword "const" :: rest => group n (valueSpec n) rest
  | .keyword "type" :: rest => group n (typeSpec n) rest
  | _ => none

/-- Characters that an import path may not hold. -/
def illegalInPath : List Char :=
  ['!', '"', '#', '$', '%', '&', '\'', '(', ')', '*', ',', ':', ';', '<', '=', '>', '?', '[', '\\',
   ']', '^', '{', '|', '}', Char.ofNat 0x60, '\uFFFD']

/-- Whether a text is an import path. -/
def isImportPath (s : String) : Bool :=
  s ≠ "" && s.toList.all fun c => isPrintable c && c != ' ' && !illegalInPath.contains c

/-- An import behind its keyword. -/
def importSpec : Rule
  | .string s :: rest => if isImportPath s then some rest else none
  | .ident _ :: .string s :: rest => if isImportPath s then some rest else none
  | .op "." :: .string s :: rest => if isImportPath s then some rest else none
  | _ => none

/-- Import declarations, each with its end. -/
def importDecls : Nat → Rule
  | 0, _ => none
  | n + 1, ts =>
    match ts with
    | .keyword "import" :: rest => group n importSpec rest >>= mark ";" >>= importDecls n
    | ts => some ts

/-- Declarations, each with its end, up to the end of the file. -/
def decls : Nat → List Token → Bool
  | 0, _ => false
  | _ + 1, [] => true
  | n + 1, ts =>
    match decl n ts >>= mark ";" with
    | some rest => decls n rest
    | none => false

/-- Whether tokens are a source file: a package clause, imports and declarations. -/
def isFile (ts : List Token) : Bool :=
  let n := 32 * ts.length + 32
  match word "package" ts >>= name >>= mark ";" >>= importDecls n with
  | some rest => decls n rest
  | none => false

end TaskBuilders.Source.Grammar
