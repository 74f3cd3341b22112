import TaskBuilders.Cue.Parser
import TaskBuilders.Yaml.Fields
import TaskBuilders.Yaml.Reader

/-!
# YAML documents as expressions

A mapping is a struct whose labels are quoted, so a key that stands twice has both values at once.
-/

namespace TaskBuilders.Cue

open Number

/-- The number of a decimal text with an optional sign; underscores do not count. -/
def decimalOf? (s : String) : Option Decimal :=
  let (negative, cs) := splitSign (s.toList.filter (· != '_'))
  let signed (x : Decimal) : Decimal := if negative then ⟨-x.coefficient, x.exponent⟩ else x
  match number? cs with
  | some (.float x, []) => some (signed x)
  | some (.int n, []) => some (signed ⟨n, 0⟩)
  | _ => none

/-- The expression of a scalar. Dates are texts, and so are digits with a zero in front that are no
octal number. -/
def ofScalar? (tag : String) (plain : Bool) (s : String) : Option Expr :=
  match Yaml.scalarValue? tag plain s with
  | none | some .merge => none
  | some .null => some .null
  | some (.bool b) => some (.bool b)
  | some (.int n) => some (.int n)
  | some (.timestamp t) | some (.text t) => some (.text t)
  | some (.float _) =>
    if s.toList.head? == some '0' && 1 < s.length && s.toList.all isDecimalDigit then some (.text s)
    else (decimalOf? s).map .float

/-- The label of a key. -/
def keyLabel? : Yaml.Node → Option Label
  | .scalar _ _ s => some (.regular s)
  | _ => none

/-- The entries of a mapping under their labels, merged mappings last. -/
def mappingFields? (depth : Nat) (es : List (Yaml.Node × Yaml.Node)) :
    Option (List (Label × Yaml.Node)) := do
  let own ← (es.filter fun e => !e.1.isMerge).mapM fun (k, v) => (keyLabel? k).map (·, v)
  let merged ← (es.filter fun e => e.1.isMerge).mapM fun (_, v) => do
    ((← Yaml.mergedMappings? v).mapM (Yaml.entryFields? depth)).map List.flatten
  let new := merged.flatten.map fun (n, v) => (Label.regular n, v)
  some (own ++ new.filter fun f => !own.any (·.1 == f.1))

/-- The expression of a node that is at most `depth` levels deep. -/
def ofNode? : (depth : Nat) → Yaml.Node → Option Expr
  | 0, _ => none
  | _ + 1, .scalar tag plain s => ofScalar? tag plain s
  | depth + 1, .sequence _ items => (items.mapM (ofNode? depth)).map (.list · none)
  | depth + 1, .mapping _ es => do
    let fields ← mappingFields? (depth + 1) es
    let ds ← fields.mapM fun (l, v) => (ofNode? depth v).map (Declaration.field l false)
    some (.struct ds)
  | _ + 1, .cycle _ => none

/-- The expression of a YAML text with at most one document. -/
def parseYaml? (source : String) : Option Expr := do
  match ← Yaml.parseAll source with
  | [] => some (.struct [])
  | [node] => ofNode? (node.depth + 1) node
  | _ => none

end TaskBuilders.Cue
