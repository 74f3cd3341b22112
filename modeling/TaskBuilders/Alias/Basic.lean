/-!
# Aliases
-/

namespace TaskBuilders

/-- A tag for a type. Top-level aliases get a builder on the root container. -/
structure TagAlias where
  tag : String
  type : String
  topLevel : Bool
deriving Repr, DecidableEq

end TaskBuilders
