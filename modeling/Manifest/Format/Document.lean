import Manifest.Failure
import Manifest.Json.Reader

/-!
# Documents of the JSON formats

The members of a document, and the folding of former field names that several formats share.
-/

namespace Manifest.Format

open Json (Members Value)

/-- The members of a document that has to denote an object. -/
def members (kind : Kind) (contents : String) : Except Failure Members :=
  match Json.read contents with
  | .error fault => .error (.malformed kind (.notJson fault))
  | .ok (.object pairs) => .ok (Members.ofPairs pairs)
  | .ok found => .error (.malformed kind (.notObject found))

/-- Whether a member is absent or null. -/
def isUnset (fields : Members) (name : String) : Bool :=
  ((fields.get? name).map Value.isNull).getD true

/-- Moves the member `former` to `name`, unless that one is set already. -/
def rename (former name : String) (fields : Members) : Members :=
  match fields.get? former with
  | none => fields
  | some v =>
    let others := fields.erase former
    if isUnset others name then others.insert name v else others

end Manifest.Format
