import TaskBuilders.Cue.Token

/-!
# Reading CUE

Descent over the tokens. Every call has less fuel than its caller; a reading of `n` tokens needs no more
than a few calls for each.
-/

namespace TaskBuilders.Cue

/-! ## Strings -/

/-- What follows the indentation of a line. An empty line needs none. -/
def dropIndent? (indent line : List Glyph) : Option (List Glyph) :=
  if line.isEmpty then some []
  else if indent.isPrefixOf line then some (line.drop indent.length)
  else none

/-- Takes the indentation from each line that begins in a piece of a string; `atStart` tells that the
piece begins a line. -/
def dedent? (indent : List Glyph) (atStart : Bool) (gs : List Glyph) : Option (List Glyph) := do
  let (head, lines) := splitLines gs
  let head ← if atStart then dropIndent? indent head else some head
  let lines ← lines.mapM (dropIndent? indent)
  some (List.intercalate [.lineEnd] (head :: lines))
where
  /-- The first line and the others. -/
  splitLines : List Glyph → List Glyph × List (List Glyph)
    | [] => ([], [])
    | .lineEnd :: rest => let (l, ls) := splitLines rest; ([], l :: ls)
    | g :: rest => let (l, ls) := splitLines rest; (g :: l, ls)

/-- The characters of glyphs. -/
def glyphText (gs : List Glyph) : String :=
  String.ofList (gs.map fun
    | .char c => c
    | .lineEnd => '\n')

/-- The pieces of a string as texts. The last line of a string of several lines holds nothing but the
indentation that all its lines have, and takes the line end before it away. -/
def pieceTexts? (q : Quotation) (pieces : List (List Glyph)) : Option (List String) :=
  if !q.multiline then some (pieces.map glyphText)
  else do
    let last ← pieces.getLast?
    let indent := (last.reverse.takeWhile (· != .lineEnd)).reverse
    if !indent.all (fun g => g = .char ' ' || g = .char '\t') then none
    let body := last.take (last.length - indent.length)
    let alone := pieces.length == 1
    if body.isEmpty then (if alone then some [""] else none)
    else
      let pieces := pieces.dropLast ++ [body.dropLast]
      let head ← pieces.head?
      let head ← dedent? indent true head
      let others ← (pieces.drop 1).mapM (dedent? indent false)
      some ((head :: others).map glyphText)

/-! ## Expressions and declarations -/

/-- An operator as it is written: unification or one of the others, with its precedence. -/
def operator? : String → Option (Option Operator × Nat)
  | "&" => some (none, 2)
  | "||" => some (some .disjunction, 3)
  | "&&" => some (some .conjunction, 4)
  | "==" => some (some .equal, 5)
  | "!=" => some (some .unequal, 5)
  | "+" => some (some .add, 6)
  | "-" => some (some .subtract, 6)
  | "*" => some (some .multiply, 7)
  | _ => none

/-- The expression of two operands. -/
def Expr.combine (op : Option Operator) (a b : Expr) : Expr :=
  match op with
  | none => .unification a b
  | some op => .binary op a b

/-- The label at the beginning of tokens, with the tokens behind its colon. -/
def label? : List Token → Option (Label × Bool × List Token)
  | .name _ s :: .mark ":" :: rest => if s == "_" then none else some (.ofName s, true, rest)
  | .opening q gs true :: .mark ":" :: rest =>
    if q.quote != '"' then none
    else
      match pieceTexts? q [gs] with
      | some [s] => some (.regular s, false, rest)
      | _ => none
  | _ => none

/-- The expression of a name. -/
def nameExpr (position : Nat) : String → Expr
  | "null" => .null
  | "true" => .bool true
  | "false" => .bool false
  | s => .reference position s

/-- A string as an expression: its pieces with the expressions between them. -/
def stringExpr? (q : Quotation) (pieces : List (List Glyph)) (between : List Expr) : Option Expr := do
  let binary := q.quote == '\''
  let texts ← pieceTexts? q pieces
  match texts, between with
  | [s], [] => some (if binary then .bytes s else .text s)
  | t :: ts, es =>
    some (.interpolation binary (.text t :: (es.zip ts).flatMap fun (e, s) => [e, .text s]))
  | [], _ => none

mutual

/-- An expression whose operators bind at least as tightly as `level`. -/
def expr? : (fuel level : Nat) → List Token → Option (Expr × List Token)
  | 0, _, _ => none
  | fuel + 1, level, ts =>
    match operand? fuel ts with
    | none => none
    | some (a, rest) => operators? fuel level a rest

/-- The operators and operands behind a left operand. -/
def operators? : (fuel level : Nat) → Expr → List Token → Option (Expr × List Token)
  | 0, _, _, _ => none
  | fuel + 1, level, a, .mark m :: rest =>
    match operator? m with
    | none => some (a, .mark m :: rest)
    | some (op, p) =>
      if p < level then some (a, .mark m :: rest)
      else
        match expr? fuel (p + 1) rest with
        | none => none
        | some (b, rest) => operators? fuel level (.combine op a b) rest
  | _ + 1, _, a, ts => some (a, ts)

/-- An operand with its signs and selections. -/
def operand? : (fuel : Nat) → List Token → Option (Expr × List Token)
  | 0, _ => none
  | fuel + 1, .mark m :: rest =>
    let signed (s : Sign) := (operand? fuel rest).map fun (e, r) => (Expr.signed s e, r)
    match m with
    | "!" => signed .not
    | "-" => signed .minus
    | "+" => signed .plus
    | "(" =>
      match expr? fuel 0 rest with
      | some (e, .mark ")" :: rest) => selections? fuel e rest
      | some (e, .mark "," :: .mark ")" :: rest) => selections? fuel e rest
      | _ => none
    | "[" =>
      match items? fuel rest with
      | none => none
      | some (items, more, rest) => selections? fuel (.list items more) rest
    | "\x7b" =>
      match declarations? fuel rest with
      | some (ds, .mark "\x7d" :: rest) => selections? fuel (.struct ds) rest
      | _ => none
    | _ => none
  | fuel + 1, .name p s :: rest => selections? fuel (nameExpr p s) rest
  | _ + 1, .int n :: rest => some (.int n, rest)
  | _ + 1, .float x :: rest => some (.float x, rest)
  | _ + 1, .opening q gs true :: rest => (stringExpr? q [gs] []).map (·, rest)
  | fuel + 1, .opening q gs false :: rest =>
    match interpolated? fuel rest with
    | none => none
    | some (es, pieces, rest) => (stringExpr? q (gs :: pieces) es).map (·, rest)
  | _ + 1, _ => none

/-- The fields selected from an operand. -/
def selections? : (fuel : Nat) → Expr → List Token → Option (Expr × List Token)
  | 0, _, _ => none
  | fuel + 1, e, .mark "." :: .name _ s :: rest => selections? fuel (.selection e (.ofName s)) rest
  | fuel + 1, e, .mark "." :: .opening q gs true :: rest =>
    match pieceTexts? q [gs] with
    | some [s] => selections? fuel (.selection e (.regular s)) rest
    | _ => none
  | _ + 1, e, ts => some (e, ts)

/-- The expressions and pieces of a string behind the beginning of an interpolation. -/
def interpolated? : (fuel : Nat) → List Token → Option (List Expr × List (List Glyph) × List Token)
  | 0, _ => none
  | fuel + 1, ts =>
    match expr? fuel 0 ts with
    | some (e, .continuation gs true :: rest) => some ([e], [gs], rest)
    | some (e, .continuation gs false :: rest) =>
      (interpolated? fuel rest).map fun (es, pieces, rest) => (e :: es, gs :: pieces, rest)
    | _ => none

/-- The items of a list behind its bracket, and the value of further items. -/
def items? : (fuel : Nat) → List Token → Option (List Expr × Option Expr × List Token)
  | 0, _ => none
  | _ + 1, .mark "]" :: rest => some ([], none, rest)
  | fuel + 1, .mark "..." :: rest =>
    match rest with
    | .mark "]" :: rest | .mark "," :: .mark "]" :: rest => some ([], some (.reference 0 "_"), rest)
    | _ =>
      match expr? fuel 0 rest with
      | some (e, .mark "]" :: rest) | some (e, .mark "," :: .mark "]" :: rest) => some ([], some e, rest)
      | _ => none
  | fuel + 1, ts =>
    match expr? fuel 0 ts with
    | some (e, .mark "]" :: rest) => some ([e], none, rest)
    | some (e, .mark "," :: rest) =>
      (items? fuel rest).map fun (es, more, rest) => (e :: es, more, rest)
    | _ => none

/-- The declarations up to a closing brace or the end. -/
def declarations? : (fuel : Nat) → List Token → Option (List Declaration × List Token)
  | 0, _ => none
  | _ + 1, [] => some ([], [])
  | _ + 1, .mark "\x7d" :: rest => some ([], .mark "\x7d" :: rest)
  | fuel + 1, ts =>
    match declaration? fuel ts with
    | some (d, .mark "," :: rest) => (declarations? fuel rest).map fun (ds, rest) => (d :: ds, rest)
    | some (d, .mark "\x7d" :: rest) => some ([d], .mark "\x7d" :: rest)
    | some (d, []) => some ([d], [])
    | _ => none

/-- One declaration. -/
def declaration? : (fuel : Nat) → List Token → Option (Declaration × List Token)
  | 0, _ => none
  | _ + 1, .mark "..." :: rest => some (.more, rest)
  | fuel + 1, ts =>
    match label? ts with
    | some (l, plain, rest) =>
      match label? rest with
      | some _ => (declaration? fuel rest).map fun (d, rest) => (.field l plain (.struct [d]), rest)
      | none => (expr? fuel 0 rest).map fun (e, rest) => (.field l plain e, rest)
    | none => (expr? fuel 0 ts).map fun (e, rest) => (.embedding e, rest)

end

/-- Goes behind the name of the package, which may stand at the beginning. -/
def dropPackage? : List Token → Option (List Token)
  | .name _ "package" :: .name _ s :: .mark "," :: rest =>
    if s == "_" || s.toList.head? == some '#' then none else some rest
  | .name _ "package" :: _ => none
  | ts => some ts

/-- The struct that a source declares. -/
def parse? (source : String) : Option Expr := do
  let ts ← dropPackage? (← tokens? source)
  match declarations? (8 * ts.length + 8) ts with
  | some (ds, []) => some (.struct ds)
  | _ => none

end TaskBuilders.Cue
