import Manifest.Format.Document
import Manifest.Normal.Fields

/-!
# Platforms and packages

JSON documents that describe development platforms, tools and toolchains. Both may give the page
under `url`. A platform may give its frameworks as an object, whose names are the frameworks.
-/

namespace Manifest.Format

open Json (Members Value)

/-- Reads a manifest of a tool or toolchain. -/
def Package.parse (contents : String) : Except Failure Members :=
  (members .packageJson contents).map fun fields => Normal.fields (rename "url" "homepage" fields)

namespace Platform

/-- The fields with the names of the frameworks in place of an object. -/
def nameFrameworks (fields : Members) : Members :=
  match fields.get? "frameworks" with
  | some (.object frameworks) =>
    fields.insert "frameworks" (Value.strings (frameworks.map fun (name, _) => Text.lower name))
  | _ => fields

/-- Reads a manifest of a platform. -/
def parse (contents : String) : Except Failure Members :=
  (members .platformJson contents).map fun fields =>
    Normal.fields (nameFrameworks (rename "url" "homepage" fields))

end Platform

end Manifest.Format
