import TaskBuilders.Alias.Basic
import TaskBuilders.Alias.PropertyLines
import TaskBuilders.Text.Blank
import TaskBuilders.Text.Letter
import TaskBuilders.Toml.Document
import TaskBuilders.Xml.Element
import TaskBuilders.Yaml.Fields
import TaskBuilders.Yaml.Reader

/-!
# Aliases in four formats

Property lists hold pairs of a tag and a type, which are all for the root container. The other formats
hold entries that may say whether they are.
-/

namespace TaskBuilders.Alias

/-! ## Property lists -/

/-- The aliases of a property list. -/
def ofProperties? (s : String) : Option (List TagAlias) :=
  (PropertyLines.parse? s).map (·.map fun (k, v) => ⟨k, v, true⟩)

/-! ## XML -/

/-- The first of the texts that is not blank, without the blanks around it. -/
def firstText (ss : List String) : String := (ss.map Text.trim).find? (· != "") |>.getD ""

/-- The alias of an element. Elements `typedef` are nested unless they say otherwise. -/
def ofElement (e : Xml.Element) : TagAlias :=
  let value (name : String) : String := (e.attribute? name).getD ""
  let said := value "toplevel"
  { tag := firstText [value "tag", value "name"]
    type := firstText [value "type", value "classname"]
    topLevel := if said = "" then e.name.ident != "typedef" else Text.lowercase said == "true" }

/-- The aliases of an XML document: the elements directly inside its root. -/
def ofXml? (s : String) : Option (List TagAlias) := (Xml.children? s).map (·.map ofElement)

/-! ## YAML -/

/-- The alias of a mapping's fields; entries are for the root unless they say otherwise. -/
def ofFields? : List (String × Yaml.Node) → Option TagAlias
  | [] => some ⟨"", "", true⟩
  | (name, n) :: rest => do
    let a ← ofFields? rest
    match name with
    | "tag" => some { a with tag := ← n.text? }
    | "type" => some { a with type := ← n.text? }
    | "toplevel" => some { a with topLevel := (← n.bool?).getD true }
    | _ => some a

/-- The aliases of a YAML list; empty entries do not count. -/
def ofItems? : List Yaml.Node → Option (List TagAlias)
  | [] => some []
  | n :: rest => do
    let more ← ofItems? rest
    if n.isNull then some more
    else
      let a ← ofFields? (← n.fields?)
      some (a :: more)

/-- The aliases of a YAML text: the list `aliases` of its first document. -/
def ofYaml? (s : String) : Option (List TagAlias) := do
  match ← Yaml.parseFirst s with
  | none => some []
  | some n =>
    if n.isNull then some []
    else
      match (← n.fields?).find? (·.1 == "aliases") with
      | none => some []
      | some (_, .sequence _ items) => ofItems? items
      | some (_, list) => if list.isNull then some [] else none

/-! ## TOML -/

/-- The names that an entry knows, written in any case. -/
inductive EntryField where
  | tag
  | type
  | topLevel

/-- The field of a name. -/
def EntryField.ofName? (name : String) : Option EntryField :=
  match Text.lowercase name with
  | "tag" => some .tag
  | "type" => some .type
  | "toplevel" => some .topLevel
  | _ => none

/-- Gives a field of an entry its value; names that are not known do not count. -/
def assign? (a : TagAlias) (key : List String) (v : Toml.Value) : Option TagAlias :=
  match key with
  | [] => some a
  | k :: rest =>
    match EntryField.ofName? k, v, rest with
    | none, _, _ => some a
    | some .tag, .text s, [] => some { a with tag := s }
    | some .type, .text s, [] => some { a with type := s }
    | some .topLevel, .bool b, [] => some { a with topLevel := b }
    | _, _, _ => none

/-- An entry before it has any fields. -/
def blankEntry : TagAlias := ⟨"", "", true⟩

/-- The alias of an inline table. -/
def ofTable? : Toml.Value → Option TagAlias
  | .table entries => entries.foldlM (fun a (k, v) => assign? a k v) blankEntry
  | _ => none

/-- Where the keys of a TOML document go. -/
inductive TomlScope where
  | root
  | entry
  | field
  | elsewhere
deriving DecidableEq

/-- A TOML document while its aliases are collected. -/
structure TomlState where
  outline : Toml.Outline := {}
  aliases : List TagAlias := []
  scope : TomlScope := .root

namespace TomlState

/-- Whether a name is that of the list of aliases. -/
def isList (name : String) : Bool := Text.lowercase name == "alias"

/-- A key with its value. -/
def pair? (s : TomlState) (key : List String) (v : Toml.Value) : Option TomlState := do
  if s.scope = .elsewhere then some s
  else
    let s := { s with outline := ← s.outline.addPair key v }
    match s.scope with
    | .root =>
      match key with
      | [] => some s
      | k :: rest =>
        if !isList k then some s
        else
          match v, rest with
          | .array items, [] => some { s with aliases := ← items.mapM ofTable? }
          | _, _ => none
    | .entry =>
      match s.aliases.reverse with
      | [] => none
      | last :: before => some { s with aliases := (← assign? last key v) :: before |>.reverse }
    | .field => none
    | .elsewhere => some s

/-- The header of a table. -/
def table? (s : TomlState) (path : List String) : Option TomlState := do
  let s := { s with outline := ← s.outline.openTable path }
  match path with
  | k :: rest =>
    if !isList k then some { s with scope := .elsewhere }
    else if s.aliases.isEmpty then none
    else
      match rest with
      | [] => some { s with scope := .entry }
      | f :: more =>
        match EntryField.ofName? f with
        | none => some { s with scope := .elsewhere }
        | some _ => if more.isEmpty then some { s with scope := .field } else none
  | [] => none

/-- The header of a table in an array. -/
def arrayTable? (s : TomlState) (path : List String) : Option TomlState := do
  let s := { s with outline := ← s.outline.openArrayTable path }
  match path with
  | k :: rest =>
    if !isList k then some { s with scope := .elsewhere }
    else
      match rest with
      | [] => some { s with aliases := s.aliases ++ [blankEntry], scope := .entry }
      | f :: _ =>
        if s.aliases.isEmpty || (EntryField.ofName? f).isSome then none
        else some { s with scope := .elsewhere }
  | [] => none

/-- Takes an expression in. -/
def step? (s : TomlState) : Toml.Expression → Option TomlState
  | .pair key v => s.pair? key v
  | .table path => s.table? path
  | .arrayTable path => s.arrayTable? path

end TomlState

/-- The aliases of a TOML document: its array of tables `alias`. -/
def ofToml? (s : String) : Option (List TagAlias) := do
  let es ← Toml.parse? s
  (es.foldlM TomlState.step? {}).map (·.aliases)

end TaskBuilders.Alias
