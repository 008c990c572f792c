import Manifest.Decode.Shape

/-!
# Repositories

Where the sources of a package are kept.
-/

namespace Manifest

open Json (Value Pairs)

/-- A source repository. -/
structure Repository where
  /-- Its address. -/
  url : String
  /-- Which version control system keeps it. -/
  type : Option String
  /-- Which branch is meant. -/
  branch : Option String
  deriving DecidableEq, Repr

namespace Repository

/-- Why a member does not fit into a repository. -/
def check (name : String) (v : Value) : Option Mismatch :=
  if name = "url" then Decode.mismatch? (Decode.text v)
  else if name = "type" ∨ name = "branch" then Decode.mismatch? (Decode.optional Decode.text v)
  else none

/-- Reads a repository from its members. -/
def ofMembers (members : Pairs Value) : Decoded Repository := do
  Decode.checked check members
  return {
    url := ← Decode.required "url" Decode.text members
    type := ← Decode.defaulted "type" none (Decode.optional Decode.text) members
    branch := ← Decode.defaulted "branch" none (Decode.optional Decode.text) members }

/-- Reads a repository from the sequence of its fields. -/
def ofItems (items : List Value) : Decoded Repository := do
  let url ← Decode.requiredItem 0 "struct Repository with 3 elements" Decode.text items
  let type ← Decode.defaultedItem 1 none (Decode.optional Decode.text) items
  let branch ← Decode.defaultedItem 2 none (Decode.optional Decode.text) items
  Decode.noMore 3 items
  return ⟨url, type, branch⟩

/-- Reads a repository. -/
def decode : Value → Decoded Repository :=
  Decode.structured "Repository" ofMembers ofItems

/-- The repository as an object, without what is absent. -/
def toValue (repository : Repository) : Value :=
  .object (("url", .string repository.url) ::
    (repository.type.map fun t => ("type", Value.string t)).toList ++
    (repository.branch.map fun b => ("branch", Value.string b)).toList)

end Repository

end Manifest
