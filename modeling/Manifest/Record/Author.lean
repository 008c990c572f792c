import Manifest.Decode.Shape

/-!
# Authors

Who made a package, and who looks after it.
-/

namespace Manifest

open Json (Value Pairs)

/-- An author of a package. -/
structure Author where
  /-- The name. -/
  name : String
  /-- The e-mail address. -/
  email : Option String
  /-- The address of a page. -/
  url : Option String
  /-- Whether the author looks after the package. -/
  maintainer : Bool
  deriving DecidableEq, Repr

namespace Author

/-- Why a member does not fit into an author. -/
def check (name : String) (v : Value) : Option Mismatch :=
  if name = "name" then Decode.mismatch? (Decode.text v)
  else if name = "email" ∨ name = "url" then Decode.mismatch? (Decode.optional Decode.text v)
  else if name = "maintainer" then Decode.mismatch? (Decode.flag v)
  else none

/-- Reads an author from its members. -/
def ofMembers (members : Pairs Value) : Decoded Author := do
  Decode.checked check members
  return {
    name := ← Decode.required "name" Decode.text members
    email := ← Decode.defaulted "email" none (Decode.optional Decode.text) members
    url := ← Decode.defaulted "url" none (Decode.optional Decode.text) members
    maintainer := ← Decode.defaulted "maintainer" false Decode.flag members }

/-- Reads an author from the sequence of its fields. -/
def ofItems (items : List Value) : Decoded Author := do
  let name ← Decode.requiredItem 0 "struct Author with 4 elements" Decode.text items
  let email ← Decode.defaultedItem 1 none (Decode.optional Decode.text) items
  let url ← Decode.defaultedItem 2 none (Decode.optional Decode.text) items
  let maintainer ← Decode.defaultedItem 3 false Decode.flag items
  Decode.noMore 4 items
  return ⟨name, email, url, maintainer⟩

/-- Reads an author. -/
def decode : Value → Decoded Author :=
  Decode.structured "Author" ofMembers ofItems

/-- The author as an object, without what is absent. -/
def toValue (author : Author) : Value :=
  .object (("name", .string author.name) ::
    (author.email.map fun e => ("email", Value.string e)).toList ++
    (author.url.map fun u => ("url", Value.string u)).toList ++
    [("maintainer", .bool author.maintainer)])

end Author

end Manifest
