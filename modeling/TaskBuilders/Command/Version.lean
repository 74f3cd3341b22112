/-!
# Versions
-/

namespace TaskBuilders.Command

/-- The version of a build without a release. -/
def developmentVersion : String := "dev"

/-- The text that tells the version of a build. -/
def versionText (version commit : String) : String :=
  if version = developmentVersion then developmentVersion ++ " (built from source)"
  else version ++ " (commit: " ++ commit ++ ")"

end TaskBuilders.Command
