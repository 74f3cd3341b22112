import TaskBuilders.Toml.Value

/-!
# TOML documents

A document is a list of expressions: a key with its value, the header of a table, or the header of a
table in an array. `Outline` watches over the names: no name may be defined twice, and a table that
dotted keys or a value have made may not be reopened.
-/

namespace TaskBuilders.Toml

/-- An expression of a document. -/
inductive Expression where
  | pair (key : List String) (value : Value)
  | table (path : List String)
  | arrayTable (path : List String)
deriving Repr

/-! ## Reading -/

/-- A header at its opening bracket. -/
def header? (cs : List Char) : Option (Expression × List Char) :=
  match cs with
  | '[' :: '[' :: rest => do
    let (k, rest) ← key? (rest.length + 1) (dropBlank rest)
    match dropBlank rest with
    | ']' :: ']' :: rest => some (.arrayTable k, rest)
    | _ => none
  | '[' :: rest => do
    let (k, rest) ← key? (rest.length + 1) (dropBlank rest)
    match dropBlank rest with
    | ']' :: rest => some (.table k, rest)
    | _ => none
  | _ => none

/-- The expression at the beginning of a line. -/
def expression? (cs : List Char) : Option (Expression × List Char) :=
  if cs.head? == some '[' then header? cs
  else (pair? (2 * cs.length + 2) cs).map fun ((k, v), rest) => (.pair k v, rest)

/-- The rest of a line behind its expression. -/
def finishLine? (cs : List Char) : Option (List Char) :=
  match dropBlank cs with
  | [] => some []
  | '#' :: rest => do
    match ← dropComment? rest with
    | [] => some []
    | rest => lineEnd? rest
  | rest => lineEnd? rest

/-- The expressions of a text. Each line uses up one unit of `fuel`. -/
def expressions? : (fuel : Nat) → List Char → Option (List Expression)
  | 0, _ => none
  | fuel + 1, cs =>
    match dropBlank cs with
    | [] => some []
    | c :: rest =>
      if c == '#' || c == '\n' || c == '\r' then do
        expressions? fuel (← finishLine? (c :: rest))
      else do
        let (e, rest) ← expression? (c :: rest)
        (expressions? fuel (← finishLine? rest)).map (e :: ·)

/-- The expressions of a document. -/
def parse? (s : String) : Option (List Expression) := expressions? (s.toList.length + 1) s.toList

/-! ## Names -/

/-- What a name stands for. -/
inductive NameKind where
  | table
  | arrayTable
  | value
deriving Repr, DecidableEq

/-- A name that has been defined: by its path, as what, whether it is closed to further definitions,
and whether a key brought it in. -/
structure Defined where
  path : List String
  kind : NameKind
  closed : Bool
  byKey : Bool
deriving Repr

/-- The names of a document so far, and the table that is open. -/
structure Outline where
  names : List Defined := []
  current : List String := []

namespace Outline

/-- The definition of a path. -/
def find? (o : Outline) (path : List String) : Option Defined := o.names.find? (·.path == path)

/-- Adds a definition. -/
def add (o : Outline) (d : Defined) : Outline := { o with names := o.names ++ [d] }

/-- Changes the definition of a path. -/
def change (o : Outline) (path : List String) (f : Defined → Defined) : Outline :=
  { o with names := o.names.map fun d => if d.path == path then f d else d }

/-- Closes what keys have brought into the open table. -/
def closeCurrent (o : Outline) : Outline :=
  { o with names := o.names.map fun d =>
      if d.byKey && o.current.isPrefixOf d.path && d.path != o.current then { d with closed := true }
      else d }

/-- Walks the tables on the way to the last part of a path. -/
def enterParents (o : Outline) (done : List String) : List String → Option Outline
  | [] => some o
  | [_] => some o
  | k :: rest =>
    let path := done ++ [k]
    match o.find? path with
    | none => (o.add ⟨path, .table, false, false⟩).enterParents path rest
    | some d => if d.kind = .value then none else o.enterParents path rest

/-- Opens a table. -/
def openTable (o : Outline) (path : List String) : Option Outline := do
  let o ← o.closeCurrent.enterParents [] path
  match o.find? path with
  | none => some { o.add ⟨path, .table, true, false⟩ with current := path }
  | some d =>
    if d.kind ≠ .table || d.closed then none
    else some { o.change path ({ · with closed := true }) with current := path }

/-- Opens the next table of an array. -/
def openArrayTable (o : Outline) (path : List String) : Option Outline := do
  let o ← o.closeCurrent.enterParents [] path
  match o.find? path with
  | none => some { o.add ⟨path, .arrayTable, true, false⟩ with current := path }
  | some d =>
    if d.kind ≠ .arrayTable then none
    else
      some { names := o.names.filter fun e => !(path.isPrefixOf e.path && e.path != path)
             current := path }

/-- Defines a dotted key in a table. -/
def defineKey (o : Outline) (done : List String) : List String → Option Outline
  | [] => some (o.change done ({ · with kind := .value }))
  | k :: rest =>
    let path := done ++ [k]
    match o.find? path with
    | none => (o.add ⟨path, .table, false, true⟩).defineKey path rest
    | some d =>
      if rest.isEmpty || d.kind ≠ .table || d.closed then none else o.defineKey path rest

mutual

/-- Whether the inline tables of a value define no name twice. -/
def valueFits : Value → Bool
  | .array items => itemsFit items
  | .table entries => entriesFit {} entries
  | _ => true

/-- Whether the inline tables of an array's items define no name twice. -/
def itemsFit : List Value → Bool
  | [] => true
  | v :: rest => valueFits v && itemsFit rest

/-- Whether the entries of an inline table can be added to an outline. -/
def entriesFit (o : Outline) : List (List String × Value) → Bool
  | [] => true
  | (k, v) :: rest =>
    match o.defineKey [] k with
    | none => false
    | some o => valueFits v && entriesFit o rest

end

/-- Adds a key with its value to the open table. -/
def addPair (o : Outline) (key : List String) (v : Value) : Option Outline := do
  let o ← o.defineKey o.current key
  if valueFits v then some o else none

end Outline

end TaskBuilders.Toml
