import Manifest.CommandLine.Surroundings
import Manifest.Failure

/-!
# Finding a manifest

The manifest that a path leads to: the file itself, or the first file in a directory that has the
name of a manifest.
-/

namespace Manifest.CommandLine

/-- Why a run ends early. -/
inductive RunError where
  /-- The settings cannot be read, or are wrong. -/
  | settings (message : String)
  /-- The manifest is not there, or cannot be read. -/
  | unreadable (message : String)
  /-- The manifest cannot be loaded. -/
  | manifest (message : String)
  /-- Strict validation ended at a field. -/
  | validation (message : String)
  deriving DecidableEq, Repr

namespace RunError

/-- What an error says. -/
def message : RunError → String
  | settings text => text
  | unreadable text => "failed to read manifest" ++ text
  | manifest text => "manifest error: " ++ text
  | validation text => "validation error: " ++ text

/-- Whether the characters of a message begin with those of `front`. -/
def startsWith (message front : String) : Bool :=
  front.toList.isPrefixOf message.toList

/-- The exit code that a message stands for, which goes by how it begins. -/
def codeOfMessage (message : String) : Nat :=
  if startsWith message "manifest error:" || startsWith message "failed to read manifest" then 2
  else if startsWith message "validation error:" then 3
  else 1

/-- The exit code of a run that ends in an error. Settings are read before anything is done, and the
message about them is not looked at. -/
def exitCode : RunError → Nat
  | settings _ => 1
  | e => codeOfMessage e.message

end RunError

/-- A manifest that was found. -/
structure Located where
  /-- Its path. -/
  path : String
  /-- Its kind. -/
  kind : Kind
  /-- Its contents, if they are text. -/
  contents : Option String
  deriving DecidableEq, Repr

/-- The file of a kind in a directory. -/
def manifestIn? (surroundings : Surroundings) (directory : String) (kind : Kind) :
    Option Located :=
  let path := joinPath directory kind.fileName
  match surroundings.entry path with
  | .file contents => some ⟨path, kind, contents⟩
  | _ => none

/-- Finds the manifest that a path leads to. A declared kind goes before what the name suggests. -/
def locate (surroundings : Surroundings) (path : String) (declared : Option String) :
    Except RunError Located := do
  let declaredKind ← match declared with
    | none => .ok none
    | some text =>
      match Kind.ofDeclared? text with
      | some kind => .ok (some kind)
      | none => .error (.manifest (Failure.unknownKind text).message)
  match surroundings.entry path with
  | .missing => .error (.unreadable (": " ++ path ++ " does not exist"))
  | .file contents => .ok ⟨path, declaredKind.getD (Kind.ofPath path), contents⟩
  | .directory =>
    let candidates := (declaredKind.map fun kind => [kind]).getD Kind.discoveryOrder
    match candidates.findSome? (manifestIn? surroundings path) with
    | some found => .ok found
    | none => .error (.unreadable (": no manifest file found in " ++ path))

end Manifest.CommandLine
