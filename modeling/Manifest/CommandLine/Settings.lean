import Manifest.Record.Validation
import Manifest.Toml.Document

/-!
# Settings

What a user may set in a configuration file, for all runs.
-/

namespace Manifest.CommandLine

/-- The settings of a user. -/
structure Settings where
  /-- Whether validation is always strict. -/
  strict : Bool := false
  /-- Whether output is always JSON. -/
  json : Bool := false
  deriving DecidableEq, Repr

namespace Settings

/-- The mode of validation that is set. -/
def mode (settings : Settings) : Mode :=
  if settings.strict then .strict else .lenient

/-- Takes over the members of a document. The outcome is the number of characters left at a member
that is not known or at a value that is not a truth value. -/
def ofMembers (settings : Settings) : Toml.Members → Except Nat Settings
  | [] => .ok settings
  | (key, left, node) :: rest =>
    if key.name = "strict" ∨ key.name = "json" then
      match node with
      | .value (.flag b) =>
        let settings :=
          if key.name = "strict" then { settings with strict := b } else { settings with json := b }
        ofMembers settings rest
      | _ => .error (left.getD key.left)
    else .error key.left

/-- Reads settings, or finds the place of what is wrong with them. -/
def read (text : String) : Except Toml.Position Settings :=
  ((Toml.read text.toList).bind (ofMembers {})).mapError fun left =>
    Toml.Position.ofLeft text.toList left

end Settings

end Manifest.CommandLine
