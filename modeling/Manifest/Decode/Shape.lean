import Manifest.Decode.Mismatch
import Manifest.Json.Members

/-!
# Shapes

Reading typed parts out of JSON values. A part with several fields is written as an object or as the
sequence of its fields in their order. In an object the first member of a wrong type is reported,
before a member that is missing.
-/

namespace Manifest

open Json (Value Pairs)

/-- A part read from a value, or why it cannot be. -/
abbrev Decoded (α : Type) := Except Mismatch α

namespace Decode

variable {α : Type}

/-- Reads a text. -/
def text : Value → Decoded String
  | .string s => .ok s
  | found => .error (.wrongType found "a string")

/-- Reads a truth value. -/
def flag : Value → Decoded Bool
  | .bool b => .ok b
  | found => .error (.wrongType found "a boolean")

/-- Reads a part that null leaves out. -/
def optional (part : Value → Decoded α) : Value → Decoded (Option α)
  | .null => .ok none
  | found => (part found).map some

/-- Reads every item of a list. -/
def each (part : Value → Decoded α) : List Value → Decoded (List α)
  | [] => .ok []
  | v :: vs =>
    match part v with
    | .error e => .error e
    | .ok x => (each part vs).map (x :: ·)

/-- Reads a sequence. -/
def sequence (part : Value → Decoded α) : Value → Decoded (List α)
  | .array items => each part items
  | found => .error (.wrongType found "a sequence")

/-- Reads every value of a list of pairs. -/
def eachMember (part : Value → Decoded α) : Pairs Value → Decoded (Pairs α)
  | [] => .ok []
  | (name, v) :: rest =>
    match part v with
    | .error e => .error e
    | .ok x => (eachMember part rest).map ((name, x) :: ·)

/-- Reads an object whose values all have one shape. -/
def mapping (part : Value → Decoded α) : Value → Decoded (Pairs α)
  | .object members => eachMember part members
  | found => .error (.wrongType found "a map")

/-! ## Parts with several fields -/

/-- Why a value does not have a shape, if it does not. -/
def mismatch? : Decoded α → Option Mismatch
  | .error e => some e
  | .ok _ => none

/-- Reads a part called `title` from its members or from its items. -/
def structured (title : String) (ofMembers : Pairs Value → Decoded α)
    (ofItems : List Value → Decoded α) : Value → Decoded α
  | .object members => ofMembers members
  | .array items => ofItems items
  | found => .error (.wrongType found ("struct " ++ title))

/-- Reports the first member that `check` finds fault with. -/
def checked (check : String → Value → Option Mismatch) (members : Pairs Value) : Decoded Unit :=
  match members.findSome? fun (name, v) => check name v with
  | some e => .error e
  | none => .ok ()

/-- Reads a member that has no default. -/
def required (name : String) (part : Value → Decoded α) (members : Pairs Value) : Decoded α :=
  match members.find? name with
  | some v => part v
  | none => .error (.missingMember name)

/-- Reads a member that has a default. -/
def defaulted (name : String) (absent : α) (part : Value → Decoded α) (members : Pairs Value) :
    Decoded α :=
  match members.find? name with
  | some v => part v
  | none => .ok absent

/-- Reads an item that has no default. -/
def requiredItem (place : Nat) (expected : String) (part : Value → Decoded α)
    (items : List Value) : Decoded α :=
  match items[place]? with
  | some v => part v
  | none => .error (.tooShort place expected)

/-- Reads an item that has a default. -/
def defaultedItem (place : Nat) (absent : α) (part : Value → Decoded α) (items : List Value) :
    Decoded α :=
  match items[place]? with
  | some v => part v
  | none => .ok absent

/-- Reports items behind the last field. -/
def noMore (fields : Nat) (items : List Value) : Decoded Unit :=
  if fields < items.length then .error (.tooLong items.length) else .ok ()

/-! ## Names -/

/-- Reads one of the named alternatives: its name, or an object with that name alone and null. -/
def variant (known : List (String × α)) : Value → Decoded α
  | .string name => pick name
  | .object [(name, content)] =>
    match pick name with
    | .error e => .error e
    | .ok x => if content.isNull then .ok x else .error (.wrongType content "unit")
  | .object _ => .error .notOneMember
  | found => .error (.wrongType found "string or map")
where
  /-- The alternative of a name. -/
  pick (name : String) : Decoded α :=
    match Pairs.find? name known with
    | some x => .ok x
    | none => .error (.unknownVariant name (known.map (·.1)))

end Decode

end Manifest
