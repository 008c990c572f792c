import Manifest.Text.Basic

/-!
# Faults in TOML documents

The place at which a TOML document is found to be wrong.
-/

namespace Manifest.Toml

/-- A refusal: how many characters of the document are left at the place, and whether it stands even
where something else could be read in place of what was refused. -/
structure Refusal where
  /-- The number of characters left. -/
  left : Nat
  /-- Whether the refusal stands. -/
  final : Bool
  deriving DecidableEq, Repr

/-- A place in a document: line and column, both counted from one. -/
structure Position where
  /-- The line. -/
  line : Nat
  /-- The column. -/
  column : Nat
  deriving DecidableEq, Repr

/-- The place where `left` characters of a document remain. Columns count characters, or bytes if
the character at the place is outside ASCII. -/
def Position.ofLeft (document : List Char) (left : Nat) : Position :=
  let before := document.take (document.length - left)
  let line := (before.reverse.takeWhile (· != '\n')).reverse
  let wide := (document.drop (document.length - left)).head?.any fun c => 0x80 ≤ c.toNat
  ⟨before.count '\n' + 1, (if wide then Text.byteCount line else line.length) + 1⟩

/-- What a document with a fault at a place says. -/
def Position.message (place : Position) : String :=
  s!"TOML parse error at line {place.line}, column {place.column}"

end Manifest.Toml
