import Manifest.Decode.Shape

/-!
# Examples

A sample of a package: a directory and the files in it that belong to the sample.
-/

namespace Manifest

open Json (Value Pairs)

/-- An example of a package. -/
structure Example where
  /-- The directory. -/
  base : String
  /-- The files in it. -/
  files : List String
  deriving DecidableEq, Repr

namespace Example

/-- Why a member does not fit into an example. -/
def check (name : String) (v : Value) : Option Mismatch :=
  if name = "base" then Decode.mismatch? (Decode.text v)
  else if name = "files" then Decode.mismatch? (Decode.sequence Decode.text v)
  else none

/-- Reads an example from its members. -/
def ofMembers (members : Pairs Value) : Decoded Example := do
  Decode.checked check members
  return {
    base := ← Decode.required "base" Decode.text members
    files := ← Decode.required "files" (Decode.sequence Decode.text) members }

/-- Reads an example from the sequence of its fields. -/
def ofItems (items : List Value) : Decoded Example := do
  let base ← Decode.requiredItem 0 "struct Example with 2 elements" Decode.text items
  let files ← Decode.requiredItem 1 "struct Example with 2 elements"
    (Decode.sequence Decode.text) items
  Decode.noMore 2 items
  return ⟨base, files⟩

/-- Reads an example. -/
def decode : Value → Decoded Example :=
  Decode.structured "Example" ofMembers ofItems

/-- The example as an object. -/
def toValue (sample : Example) : Value :=
  .object [("base", .string sample.base), ("files", Value.strings sample.files)]

end Example

end Manifest
