import Manifest.Json.Members
import Manifest.Normal.Email
import Manifest.Text.Split

/-!
# Authors

An author is an object, or a text with the name and behind it the address in angle brackets or in
parentheses. Texts that stand for nobody are dropped.
-/

namespace Manifest.Normal

open Json (Value Pairs)

/-- The texts before the first opening bracket and between it and the first closing one, if they
stand in this order. -/
def bracketed? (opening closing : Char) (cs : List Char) : Option (List Char × List Char) :=
  match Text.cut opening cs with
  | none => none
  | some (before, after) =>
    if closing ∈ before then none
    else (Text.cut closing after).map fun (inside, _) => (before, inside)

/-- The name and the bracketed address in a text without blanks at its ends. Angle brackets are
looked for first. -/
def nameAndAddress (cs : List Char) : List Char × Option (List Char) :=
  match bracketed? '<' '>' cs with
  | some (name, address) => (name, some address)
  | none =>
    match bracketed? '(' ')' cs with
    | some (name, address) => (name, some address)
    | none => (cs, none)

/-- A name with or without an address. -/
abbrev Contact := String × Option String

/-- The author that a text names. A blank text, the word "None" and web addresses name nobody, nor
does a text without a name. -/
def contact? (s : String) : Option Contact :=
  let cs := Text.trimmed s.toList
  if cs.isEmpty ∨ cs = "None".toList ∨ Text.occurs "://".toList cs then none
  else
    let (name, address) := nameAndAddress cs
    let name := Text.trimmed name
    if name.isEmpty then none
    else
      let address := (address.map Text.trimmed).filter fun a => !a.isEmpty
      some (String.ofList name, address.map fun a => email (String.ofList a))

/-- The authors that a comma-separated text names. -/
def contacts (s : String) : List Contact :=
  (Text.split ',' s).filterMap contact?

/-- An author as an object. -/
def authorValue (name : String) (address : Option String) (maintainer : Bool) : Value :=
  .object ((address.map fun a => ("email", Value.string a)).toList ++
    [("maintainer", .bool maintainer), ("name", .string name)])

/-- The authors that a comma-separated text names, as objects. -/
def authorsOfText (s : String) (maintainer : Bool) : List Value :=
  (contacts s).map fun (name, address) => authorValue name address maintainer

/-- The normal form of a member of an author. -/
def authorMember (name : String) (v : Value) : Value :=
  match v with
  | .string s =>
    if name = "email" then .string (email s)
    else if name = "name" ∨ name = "url" then .string (Text.trim s)
    else v
  | _ => v

/-- The normal form of one author. -/
def author : Value → Option Value
  | .string s => (contact? s).map fun (name, address) => authorValue name address false
  | .object members =>
    some (.object (Pairs.insertNew "maintainer" (.bool false)
      (members.map fun (name, v) => (name, authorMember name v))))
  | other => some other

/-- The normal form of authors: a sequence, even of one. -/
def authors (v : Value) : Option Value :=
  match v with
  | .null => none
  | .array items => listed items
  | single => listed [single]
where
  /-- The authors among some values, unless there is none. -/
  listed (items : List Value) : Option Value :=
    let found := items.filterMap author
    if found.isEmpty then none else some (.array found)

end Manifest.Normal
