import TaskBuilders.Yaml.Lexer
import TaskBuilders.Yaml.Node

/-!
# Reading documents

Nodes are built from tokens. A reference stands for the node that its anchor named last; a reference
to a node that is still being built is a cycle.

A fault among the tokens shows as soon as the reader comes within three tokens of it, so a fault far
behind the first document leaves that document readable.
-/

namespace TaskBuilders.Yaml

/-- What the reader knows: the tokens left, the anchors so far and the tag handles of the document. -/
structure Reader where
  tokens : List Token
  broken : Bool
  anchors : List (String × Option Node) := []
  handles : List (String × String) := []

namespace Reader

/-- The next token. -/
def peek (r : Reader) : Option Token :=
  if r.broken && r.tokens.length < 3 then none else some (r.tokens.headD .streamEnd)

/-- Goes behind the next token. -/
def skip (r : Reader) : Reader := { r with tokens := r.tokens.drop 1 }

/-- Names the node that begins here. -/
def openAnchor (r : Reader) (name : String) : Reader :=
  if name = "" then r else { r with anchors := (name, none) :: r.anchors }

/-- Gives a name its node, unless the name was taken anew inside the node. -/
def closeAnchor (r : Reader) (name : String) (n : Node) : Reader :=
  match r.anchors.find? (·.1 == name) with
  | some (_, none) => { r with anchors := (name, some n) :: r.anchors }
  | _ => r

/-- An empty scalar. -/
def empty : Node := .scalar "" true ""

/-- The full tag of a handle and a suffix. -/
def fullTag? (r : Reader) (handle suffix : String) : Option String :=
  if handle = "" then some suffix
  else (r.handles.find? (·.1 == handle)).map (·.2 ++ suffix)

/-- The anchor and the tag in front of a node, in any order. -/
def properties (r : Reader) : Option (String × String × Reader) := do
  let tagOf (r : Reader) : Option (Option String × Reader) :=
    match r.peek with
    | none => none
    | some (.tag h s) => (r.fullTag? h s).map fun t => (some t, r.skip)
    | some _ => some (none, r)
  let anchorOf (r : Reader) : Option (String × Reader) :=
    match r.peek with
    | none => none
    | some (.anchor a) => some (a, r.skip)
    | some _ => some ("", r)
  let (a, r) ← anchorOf r
  let (t, r) ← tagOf r
  let (a, r) ← if a = "" && t.isSome then anchorOf r else some (a, r)
  some (a, shortTag (t.getD ""), r)

/-- The tag of a scalar node. -/
def scalarTag (tag : String) (plain : Bool) (text : String) : String :=
  if tag ≠ "" && tag ≠ "!" then tag
  else if !plain then "!!str"
  else if text = "<<" then "!!merge"
  else ""

/-- The tag of a collection. -/
def collectionTag (tag standard : String) : String := if tag = "" || tag = "!" then standard else tag

/-- An empty node, which needs an anchor or a tag in front of it. -/
def bare (anchor tag : String) (r : Reader) : Option (Node × Reader) :=
  if anchor = "" && tag = "" then none else some (.scalar (scalarTag tag true "") true "", r)

mutual

/-- Reads a node. Block collections are taken if `block`, and a sequence without indentation of its
own if `indentless`. Every call uses up one unit of `fuel`. -/
def node : (fuel : Nat) → (block indentless : Bool) → Reader → Option (Node × Reader)
  | 0, _, _, _ => none
  | fuel + 1, block, indentless, r => do
    match ← r.peek with
    | .reference a =>
      match r.anchors.find? (·.1 == a) with
      | none => none
      | some (_, some n) => some (n, r.skip)
      | some (_, none) => some (.cycle a, r.skip)
    | _ =>
      let (a, tag, r) ← r.properties
      let r := r.openAnchor a
      let (n, r) ←
        match ← r.peek with
        | .entry =>
          if indentless then do
            let (xs, r) ← indentlessItems fuel r
            some (Node.sequence (collectionTag tag "!!seq") xs, r)
          else bare a tag r
        | .scalar plain text => some (Node.scalar (scalarTag tag plain text) plain text, r.skip)
        | .openBracket => do
          let (xs, r) ← flowItems fuel true r.skip
          some (Node.sequence (collectionTag tag "!!seq") xs, r)
        | .openBrace => do
          let (es, r) ← flowEntries fuel true r.skip
          some (Node.mapping (collectionTag tag "!!map") es, r)
        | .sequenceStart =>
          if block then do
            let (xs, r) ← blockItems fuel r.skip
            some (Node.sequence (collectionTag tag "!!seq") xs, r)
          else bare a tag r
        | .mappingStart =>
          if block then do
            let (es, r) ← blockEntries fuel r.skip
            some (Node.mapping (collectionTag tag "!!map") es, r)
          else bare a tag r
        | _ => bare a tag r
      some (n, r.closeAnchor a n)

/-- The items of a block sequence. -/
def blockItems : (fuel : Nat) → Reader → Option (List Node × Reader)
  | 0, _ => none
  | fuel + 1, r => do
    match ← r.peek with
    | .entry =>
      let r := r.skip
      let t ← r.peek
      let (x, r) ← if t = .entry || t = .blockEnd then some (empty, r) else node fuel true false r
      let (xs, r) ← blockItems fuel r
      some (x :: xs, r)
    | .blockEnd => some ([], r.skip)
    | _ => none

/-- The items of a sequence that is indented like the mapping it stands in. -/
def indentlessItems : (fuel : Nat) → Reader → Option (List Node × Reader)
  | 0, _ => none
  | fuel + 1, r => do
    match ← r.peek with
    | .entry =>
      let r := r.skip
      let t ← r.peek
      let (x, r) ←
        if t = .entry || t = .key || t = .value || t = .blockEnd then some (empty, r)
        else node fuel true false r
      let (xs, r) ← indentlessItems fuel r
      some (x :: xs, r)
    | _ => some ([], r)

/-- The entries of a block mapping. -/
def blockEntries : (fuel : Nat) → Reader → Option (List (Node × Node) × Reader)
  | 0, _ => none
  | fuel + 1, r => do
    match ← r.peek with
    | .key =>
      let r := r.skip
      let t ← r.peek
      let (k, r) ←
        if t = .key || t = .value || t = .blockEnd then some (empty, r) else node fuel true true r
      let (v, r) ← blockValue fuel r
      let (es, r) ← blockEntries fuel r
      some ((k, v) :: es, r)
    | .blockEnd => some ([], r.skip)
    | _ => none

/-- The value of an entry of a block mapping. -/
def blockValue : (fuel : Nat) → Reader → Option (Node × Reader)
  | 0, _ => none
  | fuel + 1, r => do
    match ← r.peek with
    | .value =>
      let r := r.skip
      let t ← r.peek
      if t = .key || t = .value || t = .blockEnd then some (empty, r) else node fuel true true r
    | _ => some (empty, r)

/-- The items between square brackets. A pair among them is a mapping of one entry. -/
def flowItems : (fuel : Nat) → (first : Bool) → Reader → Option (List Node × Reader)
  | 0, _, _ => none
  | fuel + 1, first, r => do
    let t ← r.peek
    if t = .closeBracket then some ([], r.skip)
    else
      let r ← if first then some r else if t = .comma then some r.skip else none
      match ← r.peek with
      | .key =>
        let (e, r) ← flowPair fuel r.skip
        let (xs, r) ← flowItems fuel false r
        some (.mapping "!!map" [e] :: xs, r)
      | .closeBracket => some ([], r.skip)
      | _ =>
        let (x, r) ← node fuel false false r
        let (xs, r) ← flowItems fuel false r
        some (x :: xs, r)

/-- A pair between square brackets, behind the mark of its key. -/
def flowPair : (fuel : Nat) → Reader → Option ((Node × Node) × Reader)
  | 0, _ => none
  | fuel + 1, r => do
    let t ← r.peek
    let (k, r) ←
      if t = .value || t = .comma || t = .closeBracket then some (empty, r.skip)
      else node fuel false false r
    match ← r.peek with
    | .value =>
      let r := r.skip
      let t ← r.peek
      let (v, r) ←
        if t = .comma || t = .closeBracket then some (empty, r) else node fuel false false r
      some ((k, v), r)
    | _ => some ((k, empty), r)

/-- The entries between curly brackets. -/
def flowEntries : (fuel : Nat) → (first : Bool) → Reader → Option (List (Node × Node) × Reader)
  | 0, _, _ => none
  | fuel + 1, first, r => do
    let t ← r.peek
    if t = .closeBrace then some ([], r.skip)
    else
      let r ← if first then some r else if t = .comma then some r.skip else none
      match ← r.peek with
      | .key =>
        let r := r.skip
        let t ← r.peek
        let (k, r) ←
          if t = .value || t = .comma || t = .closeBrace then some (empty, r)
          else node fuel false false r
        let (v, r) ← flowValue fuel r
        let (es, r) ← flowEntries fuel false r
        some ((k, v) :: es, r)
      | .closeBrace => some ([], r.skip)
      | _ =>
        let (k, r) ← node fuel false false r
        let _ ← r.peek
        let (es, r) ← flowEntries fuel false r
        some ((k, empty) :: es, r)

/-- The value of an entry between curly brackets. -/
def flowValue : (fuel : Nat) → Reader → Option (Node × Reader)
  | 0, _ => none
  | fuel + 1, r => do
    match ← r.peek with
    | .value =>
      let r := r.skip
      let t ← r.peek
      if t = .comma || t = .closeBrace then some (empty, r) else node fuel false false r
    | _ => some (empty, r)

end

/-! ## Documents -/

/-- Units of fuel that suffice for the tokens that are left. -/
def fuel (r : Reader) : Nat := 4 * r.tokens.length + 8

/-- Reads the directives in front of a document; the version has to be 1.1. -/
def directives : List Token → Reader → (versioned : Bool) → Option Reader
  | [], r, _ => r.peek.map fun _ => r
  | _ :: rest, r, versioned => do
    match ← r.peek with
    | .version major minor =>
      if versioned || major ≠ 1 || minor ≠ 1 then none else directives rest r.skip true
    | .tagDirective handle lead =>
      if r.handles.any (·.1 == handle) then none
      else directives rest { r.skip with handles := r.handles ++ [(handle, lead)] } versioned
    | _ => some r

/-- The handles that every document knows, behind its own. -/
def withStandardHandles (r : Reader) : Reader :=
  { r with handles := r.handles ++ [("!", "!"), ("!!", standardTags)] }

/-- Goes behind the marks of ended documents. -/
def skipEnds : List Token → Reader → Option Reader
  | [], r => some r
  | _ :: rest, r => do
    match ← r.peek with
    | .documentEnd => skipEnds rest r.skip
    | _ => some r

/-- Goes behind the end of a document. -/
def endDocument (n : Node) (r : Reader) : Option (Node × Reader) := do
  match ← r.peek with
  | .documentEnd => some (n, r.skip)
  | _ => some (n, r)

/-- A document behind its start mark. -/
def content (r : Reader) : Option (Node × Reader) := do
  match ← r.peek with
  | .version .. | .tagDirective .. | .documentStart | .documentEnd | .streamEnd => some (empty, r)
  | _ => node r.fuel true false r

/-- Reads the next document, or nothing at the end of the stream. Only the first document may lack its
start mark. -/
def document (first : Bool) (r : Reader) : Option (Option (Node × Reader)) := do
  let r := { r with handles := [] }
  let r ← if first then some r else skipEnds r.tokens r
  let explicit (r : Reader) : Option (Option (Node × Reader)) := do
    let r ← directives r.tokens r false
    if (← r.peek) ≠ .documentStart then none
    let (n, r) ← content r.withStandardHandles.skip
    (endDocument n r).map some
  match ← r.peek with
  | .streamEnd => some none
  | .version .. | .tagDirective .. | .documentStart => explicit r
  | _ =>
    if first then do
      let (n, r) ← node r.fuel true false r.withStandardHandles
      (endDocument n r).map some
    else none

/-- Reads the documents that are left. -/
def documents : (fuel : Nat) → (first : Bool) → Reader → Option (List Node)
  | 0, _, _ => none
  | fuel + 1, first, r => do
    match ← r.document first with
    | none => some []
    | some (n, r) => (documents fuel false r).map (n :: ·)

/-- A reader at the beginning of a text. -/
def ofText (s : String) : Reader :=
  let stream := TokenStream.ofText s
  { tokens := stream.tokens, broken := stream.broken }

end Reader

/-- The first document of a text, if there is one; nothing at a fault. -/
def parseFirst (s : String) : Option (Option Node) :=
  ((Reader.ofText s).document true).map (·.map (·.1))

/-- All documents of a text; nothing at a fault. -/
def parseAll (s : String) : Option (List Node) :=
  let r := Reader.ofText s
  r.documents (r.tokens.length + 1) true

end TaskBuilders.Yaml
