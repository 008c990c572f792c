import Manifest.Toml.Reader

/-!
# Documents of TOML

The tree of tables that the statements of a document build up. A table may be introduced once by a
header, and a key may be given once. A table that dotted keys build up belongs to them alone.
-/

namespace Manifest.Toml

/-- How a table came about. -/
inductive Origin where
  /-- A header introduced it. -/
  | header
  /-- The header of a table within it implied it. -/
  | implied
  /-- Dotted keys build it up. -/
  | dotted
  deriving DecidableEq, Repr

/-- What a key stands for. -/
inductive Node where
  /-- A value. -/
  | value (content : Content)
  /-- A table. -/
  | table (origin : Origin) (members : List (Key × Option Nat × Node))
  /-- A sequence of tables, as its last one. -/
  | tables (last : List (Key × Option Nat × Node))

/-- The members of a table in the order in which they came: the key, the number of characters left
at the value if it has a place of its own, and the value. -/
abbrev Members := List (Key × Option Nat × Node)

namespace Members

/-- The member of a name. -/
def find? (name : String) (members : Members) : Option (Key × Option Nat × Node) :=
  List.find? (fun member => member.1.name == name) members

/-- Without the member of a name. -/
def erase (name : String) (members : Members) : Members :=
  members.filter fun member => member.1.name != name

/-- The members with another value for the member of a name. -/
def replace (name : String) (node : Node) (members : Members) : Members :=
  members.map fun (key, left, old) => (key, left, if key.name == name then node else old)

/-- Changes the table that a path leads to, introducing tables on the way. Dotted keys do not lead
into tables that a header introduced. -/
def descend (byDots : Bool) (change : Origin → Members → Option Members) :
    List Key → Origin → Members → Option Members
  | [], origin, members => change origin members
  | key :: path, _, members =>
    match find? key.name members with
    | none =>
      let origin := if byDots then .dotted else .implied
      (descend byDots change path origin []).map fun inner =>
        members ++ [(key, none, .table origin inner)]
    | some (_, _, .value _) => none
    | some (_, _, .table origin inner) =>
      if byDots && origin == .header then none
      else
        (descend byDots change path origin inner).map fun inner =>
          replace key.name (.table origin inner) members
    | some (_, _, .tables last) =>
      (descend byDots change path .header last).map fun last =>
        replace key.name (.tables last) members

/-- Adds a value that is not there yet. -/
def assign (key : Path) (content : Content) (left : Nat) (origin : Origin) (members : Members) :
    Option Members :=
  descend true (fun origin members =>
    if (origin == .dotted) == key.front.isEmpty ∨ (find? key.last.name members).isSome then none
    else some (members ++ [(key.last, some left, .value content)])) key.front origin members

/-- Introduces a table. -/
def open? (key : Key) (left : Nat) (members : Members) : Option Members :=
  match find? key.name members with
  | none => some (members ++ [(key, some left, .table .header [])])
  -- An implied table may be introduced later, and takes its place among the others then.
  | some (old, _, .table .implied inner) =>
    some (erase key.name members ++ [(old, some left, .table .header inner)])
  | some _ => none

/-- Introduces a table of a sequence. -/
def openItem? (key : Key) (left : Nat) (members : Members) : Option Members :=
  match find? key.name members with
  | none => some (members ++ [(key, some left, .tables [])])
  | some (_, _, .tables _) => some (replace key.name (.tables []) members)
  | some _ => none

end Members

/-- Builds up a document from its statements, where `current` leads to the table that assignments go
to. The outcome is the number of characters left at a statement that does not fit. -/
def build (current : List Key) (root : Members) : List Statement → Except Nat Members
  | [] => .ok root
  | .assign left key content valueLeft :: rest =>
    match Members.descend false (Members.assign key content valueLeft) current .header root with
    | some root => build current root rest
    | none => .error left
  | .table left key :: rest =>
    match Members.descend false (fun _ => Members.open? key.last left) key.front .header root with
    | some root => build (key.front ++ [key.last]) root rest
    | none => .error left
  | .tableItem left key :: rest =>
    match Members.descend false (fun _ => Members.openItem? key.last left) key.front .header
        root with
    | some root => build (key.front ++ [key.last]) root rest
    | none => .error left

/-- Reads a document. The outcome is the number of characters left at a fault. -/
def read (text : List Char) : Except Nat Members :=
  match statements (text.length + 1) (Text.dropByteOrderMark text) with
  | .error e => .error e.left
  | .ok found => build [] [] found

end Manifest.Toml
