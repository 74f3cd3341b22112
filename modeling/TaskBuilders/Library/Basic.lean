import TaskBuilders.Library.NodeSource
import TaskBuilders.Library.ProjectSource
import TaskBuilders.Library.PropertySource
import TaskBuilders.Library.ReferenceSource

/-!
# The package that generated builders run on

Its sources have no dependencies of their own, so a generated library is complete with a copy of them.
-/

namespace TaskBuilders.Library

/-- The text of lines. -/
def linesText (lines : List String) : String := String.join (lines.map (· ++ "\n"))

/-- The files of the package by name. -/
def sources : List (String × String) :=
  [("node.go", linesText nodeSource), ("project.go", linesText projectSource),
   ("properties.go", linesText propertiesSource), ("reference.go", linesText referenceSource)]

end TaskBuilders.Library
