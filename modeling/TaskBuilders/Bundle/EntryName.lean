import TaskBuilders.Text.Path

/-!
# Names of descriptors
-/

namespace TaskBuilders.Bundle

/-- Whether an entry of a bundle is a descriptor of task definitions, by the ending of its name. -/
def isDescriptorName (name : String) : Bool :=
  let base := Text.lowercase (Text.pathBase name)
  [".taskdef.cue", ".taskdef.json", ".taskdef.yaml", ".taskdef.yml"].any (Text.hasTrailing · base)

/-- Whether a descriptor is written in YAML, by the ending of its name. -/
def isYamlName (name : String) : Bool :=
  let lower := Text.lowercase name
  Text.hasTrailing ".yaml" lower || Text.hasTrailing ".yml" lower

end TaskBuilders.Bundle
