import Manifest.Format.Library
import Manifest.Format.Module
import Manifest.Format.Platform
import Manifest.Format.Properties.Basic
import Manifest.Record.Validation

/-!
# Loading a manifest

From the text of a document to a validated record.
-/

namespace Manifest

open Json (Members)

/-- The fields of a document of a kind, in normal form. The address that it was downloaded from only
matters for property lists. -/
def parseAs (kind : Kind) (contents : String) (address : Option String) :
    Except Failure Members :=
  match kind with
  | .libraryJson => Format.Library.parse contents
  | .moduleJson => Format.Module.parse contents
  | .libraryProperties => Format.Properties.parse contents address
  | .platformJson => Format.Platform.parse contents
  | .packageJson => Format.Package.parse contents

/-- The fields of a document of a declared kind, in normal form. -/
def parse (contents declared : String) (address : Option String) : Except Failure Members :=
  match Kind.ofDeclared? declared with
  | none => .error (.unknownKind declared)
  | some kind => parseAs kind contents address

/-- The validated record of a document of a declared kind. -/
def load (contents declared : String) (address : Option String) (mode : Mode) :
    Except Failure Validated :=
  match parse contents declared address with
  | .error e => .error e
  | .ok fields => (validate fields mode).mapError Failure.field

end Manifest
