import Manifest.Decode.Shape

/-!
# Publishing rules

Which files of a package are published. An absent rule and an empty one are different.
-/

namespace Manifest

open Json (Value Pairs)

/-- The publishing rules of a package. -/
structure Export where
  /-- Which files are published. -/
  included : Option (List String)
  /-- Which files are left out. -/
  excluded : Option (List String)
  deriving DecidableEq, Repr

namespace Export

/-- Reads a rule. -/
def rule : Value → Decoded (Option (List String)) :=
  Decode.optional (Decode.sequence Decode.text)

/-- Why a member does not fit into publishing rules. -/
def check (name : String) (v : Value) : Option Mismatch :=
  if name = "include" ∨ name = "exclude" then Decode.mismatch? (rule v) else none

/-- Reads publishing rules from their members. -/
def ofMembers (members : Pairs Value) : Decoded Export := do
  Decode.checked check members
  return {
    included := ← Decode.defaulted "include" none rule members
    excluded := ← Decode.defaulted "exclude" none rule members }

/-- Reads publishing rules from the sequence of their fields. -/
def ofItems (items : List Value) : Decoded Export := do
  let included ← Decode.defaultedItem 0 none rule items
  let excluded ← Decode.defaultedItem 1 none rule items
  Decode.noMore 2 items
  return ⟨included, excluded⟩

/-- Reads publishing rules. -/
def decode : Value → Decoded Export :=
  Decode.structured "Export" ofMembers ofItems

/-- The publishing rules as an object, without what is absent. -/
def toValue (rules : Export) : Value :=
  .object ((rules.included.map fun xs => ("include", Value.strings xs)).toList ++
    (rules.excluded.map fun xs => ("exclude", Value.strings xs)).toList)

end Export

end Manifest
