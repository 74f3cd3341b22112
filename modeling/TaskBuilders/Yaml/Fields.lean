import TaskBuilders.Yaml.Node

/-!
# Fields of mappings

A mapping is read as named fields. The entries of merged mappings come behind the mapping's own, and a
name that is there already keeps its value.
-/

namespace TaskBuilders.Yaml

/-- The name that a key stands for: nothing for the null key, a fault for keys that are no texts. -/
def fieldName? : Node → Option (Option String)
  | .scalar tag plain text =>
    match scalarValue? tag plain text with
    | none => none
    | some .null => some none
    | some _ => some (some text)
  | _ => none

/-- The entries of a mapping under their names, apart from those with a merge key. -/
def ownFields? : List (Node × Node) → Option (List (String × Node))
  | [] => some []
  | (k, v) :: rest => do
    let fields ← ownFields? rest
    if k.isMerge then some fields
    else
      match ← fieldName? k with
      | none => some fields
      | some name => some ((name, v) :: fields)

/-- Fields of `more` whose names are not among those of `fields`, behind them. -/
def appendNew (fields more : List (String × Node)) : List (String × Node) :=
  fields ++ more.filter fun f => !fields.any (·.1 == f.1)

/-- The mappings that a merge key brings in: one mapping or a sequence of them. -/
def mergedMappings? : Node → Option (List (List (Node × Node)))
  | .mapping _ es => some [es]
  | .sequence _ items => items.mapM fun
    | .mapping _ es => some es
    | _ => none
  | _ => none

/-- The fields of a mapping with those of the mappings merged into it, `depth` levels deep. -/
def entryFields? : (depth : Nat) → List (Node × Node) → Option (List (String × Node))
  | 0, _ => none
  | depth + 1, es => do
    if !Node.distinctKeys es then none
    let own ← ownFields? es
    match es.find? (·.1.isMerge) with
    | none => some own
    | some (_, source) =>
      let merged ← (← mergedMappings? source).mapM (entryFields? depth)
      some (merged.foldl appendNew own)

mutual

/-- How deep a node is nested. -/
def Node.depth : Node → Nat
  | .sequence _ items => itemsDepth items + 1
  | .mapping _ es => entriesDepth es + 1
  | _ => 1

/-- The depth of the deepest item. -/
def itemsDepth : List Node → Nat
  | [] => 0
  | x :: rest => max x.depth (itemsDepth rest)

/-- The depth of the deepest key or value. -/
def entriesDepth : List (Node × Node) → Nat
  | [] => 0
  | (k, v) :: rest => max (max k.depth v.depth) (entriesDepth rest)

end

/-- The fields of a mapping; nothing for other nodes and for mappings with unusable keys. -/
def Node.fields? : Node → Option (List (String × Node))
  | .mapping _ es => entryFields? (entriesDepth es + 1) es
  | _ => none

/-- The text of a scalar: empty for null, a fault for other nodes. -/
def Node.text? : Node → Option String
  | .scalar tag plain text =>
    (scalarValue? tag plain text).map fun
      | .null => ""
      | _ => text
  | _ => none

/-- The truth value of a scalar, also in words such as `yes` and `off`; nothing inside for null. -/
def Node.bool? : Node → Option (Option Bool)
  | .scalar tag plain text =>
    match scalarValue? tag plain text with
    | some .null => some none
    | some (.bool b) => some (some b)
    | some (.text s) =>
      if ["y", "Y", "yes", "Yes", "YES", "on", "On", "ON"].contains s then some (some true)
      else if ["n", "N", "no", "No", "NO", "off", "Off", "OFF"].contains s then some (some false)
      else none
    | _ => none
  | _ => none

end TaskBuilders.Yaml
