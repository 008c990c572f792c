import Manifest.CommandLine.Run

/-!
# The program

Looks at the surroundings, runs the command line in them, and writes what the run ends in.
-/

namespace Manifest.CommandLine

/-- The environment variables that a run looks at. -/
def variableNames : List String :=
  ["PKGMANIFEST_CONFIG", "HOME", "PKGMANIFEST_LOG"]

/-- The paths that a run with these arguments looks at, where `bare` are surroundings without files.
-/
def pathsOf (bare : Surroundings) (arguments : List String) : List String :=
  let given := match readArguments arguments with
    | .ok (.run _ general given) =>
      let path := (options bare {} general given).path
      path :: Kind.all.map fun kind => joinPath path kind.fileName
    | _ => []
  (settingsPath? bare).toList ++ given

/-- The code that the system gives to reading a directory like a file. -/
def directoryCode : UInt32 :=
  21

/-- Looks at what is found at a path. Nothing is found at a path that does not lead anywhere or that
nothing can have. A file that is there but cannot be read has no text. -/
def entryAt (path : String) : IO Entry := do
  match ← (IO.FS.readBinFile path).toBaseIO with
  | .ok bytes => return .file (String.fromUTF8? bytes)
  | .error (.noFileOrDirectory ..) | .error (.invalidArgument ..) => return .missing
  | .error (.inappropriateType _ code _) =>
    return if code = directoryCode then .directory else .missing
  | .error _ => return .file none

/-- Looks at all that a run with these arguments looks at. -/
def surroundingsOf (arguments : List String) : IO Surroundings := do
  let found ← variableNames.filterMapM fun name => do return (← IO.getEnv name).map (name, ·)
  let environment (name : String) := found.lookup name
  let paths := pathsOf ⟨environment, fun _ => .missing⟩ arguments
  let entries ← paths.mapM fun path => do return (path, ← entryAt path)
  return ⟨environment, fun path => (entries.lookup path).getD .missing⟩

end Manifest.CommandLine

open Manifest.CommandLine in
/-- Runs the program. -/
def main (arguments : List String) : IO UInt32 := do
  let outcome := run (← surroundingsOf arguments) arguments
  IO.print outcome.output
  outcome.messages.forM fun message => IO.eprintln message
  return outcome.code.toUInt32
