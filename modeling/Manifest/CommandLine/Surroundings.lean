/-!
# Surroundings of a run

What a run may look at: environment variables and files. A path is a text whose parts are separated
by slashes.
-/

namespace Manifest.CommandLine

/-- What is found at a path. -/
inductive Entry where
  /-- Nothing. -/
  | missing
  /-- A directory. -/
  | directory
  /-- A file, with its contents if they are text. -/
  | file (contents : Option String)
  deriving DecidableEq, Repr

/-- The surroundings of a run. -/
structure Surroundings where
  /-- The value of an environment variable. -/
  environment : String → Option String
  /-- What is found at a path. -/
  entry : String → Entry

/-- The path of a name in a directory. -/
def joinPath (directory name : String) : String :=
  if directory = "" ∨ directory.toList.getLast? = some '/' then directory ++ name
  else directory ++ "/" ++ name

end Manifest.CommandLine
