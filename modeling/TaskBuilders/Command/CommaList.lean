import TaskBuilders.Text.Affix

/-!
# Lists separated by commas

A list is one line of items. An item that begins with a double quote ends at the next one that is not
doubled, and may hold commas and line ends.
-/

namespace TaskBuilders.Command

/-- A position in a text: its line, and its byte in that line, both counted from one. -/
structure Position where
  line : Nat := 1
  column : Nat := 1
deriving Repr, DecidableEq

/-- The reasons why a text is no list. -/
inductive ListError where
  | empty
  | bareQuote (start : Nat) (place : Position)
  | strayQuote (start : Nat) (place : Position)
deriving Repr, DecidableEq

/-- Where an error is, on a record that begins on the line `start`. -/
def errorPlace (start : Nat) (p : Position) : String :=
  let place := s!"parse error on line {p.line}, column {p.column}: "
  if start = p.line then place else s!"record on line {start}; " ++ place

/-- The text of a reason. -/
def ListError.message : ListError → String
  | empty => "EOF"
  | bareQuote start p => errorPlace start p ++ "bare \" in non-quoted field"
  | strayQuote start p => errorPlace start p ++ "extraneous or missing \" in quoted-field"

/-- Where a reader of a list stands in an item. -/
inductive ListMode where
  | start
  | bare
  | quoted
  /-- Behind a quote inside a quoted item. -/
  | quoteSeen
deriving Repr, DecidableEq

/-- Line ends without carriage returns; a carriage return at the end of the text goes as well. -/
def plainLineEnds : List Char → List Char
  | [] => []
  | ['\r'] => []
  | '\r' :: '\n' :: rest => '\n' :: plainLineEnds rest
  | c :: rest => c :: plainLineEnds rest

/-- Reads the items up to the end of the line. `done` are the items so far and `item` the characters of
the present one, both backwards. -/
def readItems (start : Nat) : ListMode → Position → (done : List String) → (item : List Char) →
    List Char → Except ListError (List String)
  | .quoted, p, _, _, [] => .error (.strayQuote start p)
  | _, _, done, item, [] => .ok (String.ofList item.reverse :: done).reverse
  | mode, p, done, item, c :: rest =>
    let next : Position := { p with column := p.column + c.utf8Size }
    let finished := String.ofList item.reverse :: done
    match mode, c with
    | .start, '"' => readItems start .quoted next done [] rest
    | .bare, '"' => .error (.bareQuote start p)
    | .quoteSeen, '"' => readItems start .quoted next done ('"' :: item) rest
    | .quoted, '"' => readItems start .quoteSeen next done item rest
    | .quoted, '\n' =>
      let next := if rest.isEmpty then next else ⟨p.line + 1, 1⟩
      readItems start .quoted next done ('\n' :: item) rest
    | .quoted, c => readItems start .quoted next done (c :: item) rest
    | _, ',' => readItems start .start next finished [] rest
    | _, '\n' => .ok finished.reverse
    | .quoteSeen, _ => .error (.strayQuote start { p with column := p.column - 1 })
    | _, c => readItems start .bare next done (c :: item) rest

/-- The items of a text; the empty text has none. Blank lines in front are skipped, and everything behind
the first line is ignored. -/
def readList (s : String) : Except ListError (List String) :=
  if s = "" then .ok []
  else
    let cs := plainLineEnds s.toList
    let blank := (cs.takeWhile (· == '\n')).length
    match cs.drop blank with
    | [] => .error .empty
    | rest => readItems (blank + 1) .start ⟨blank + 1, 1⟩ [] [] rest

end TaskBuilders.Command
