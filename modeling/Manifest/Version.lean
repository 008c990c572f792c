import Manifest.Text.Basic
import Manifest.Text.Split

/-!
# Semantic versions

Versions of the form `major.minor.patch`, with an optional pre-release part behind a minus and an
optional build part behind a plus. Numbers have no leading zeros and fit into 64 bits.
-/

namespace Manifest

/-- A semantic version. -/
structure Version where
  /-- The major number. -/
  major : Nat
  /-- The minor number. -/
  minor : Nat
  /-- The patch number. -/
  patch : Nat
  /-- The identifiers of the pre-release part. -/
  pre : List String
  /-- The identifiers of the build part. -/
  build : List String
  deriving DecidableEq, Repr

namespace Version

/-- Whether a character may stand in an identifier. -/
def isIdentifierChar (c : Char) : Bool :=
  c.isAlphanum || c == '-'

/-- Digits without a needless zero in front. -/
def isNumeral (cs : List Char) : Bool :=
  !cs.isEmpty && cs.all Char.isDigit && (cs.length == 1 || cs.head? != some '0')

/-- Reads one of the three numbers. -/
def number? (cs : List Char) : Option Nat :=
  if isNumeral cs then (Text.numeral? 10 cs).filter (· < UInt64.size) else none

/-- Whether an identifier may stand in the build part. -/
def isBuildIdentifier (cs : List Char) : Bool :=
  !cs.isEmpty && cs.all isIdentifierChar

/-- Whether an identifier may stand in the pre-release part, where a number has no needless zero. -/
def isPreIdentifier (cs : List Char) : Bool :=
  isBuildIdentifier cs && (!cs.all Char.isDigit || isNumeral cs)

/-- The identifiers between dots, if each is fit to stand there. -/
def identifiers? (fit : List Char → Bool) (cs : List Char) : Option (List String) :=
  let parts := Text.pieces '.' cs
  if parts.all fit then some (parts.map String.ofList) else none

/-- The identifiers behind a mark, none where the mark is absent. -/
def part? (fit : List Char → Bool) : Option (List Char) → Option (List String)
  | none => some []
  | some cs => identifiers? fit cs

/-- The text before the first `mark`, and the text behind it if the mark is there. -/
def cutOff (mark : Char) (cs : List Char) : List Char × Option (List Char) :=
  match Text.cut mark cs with
  | some (before, after) => (before, some after)
  | none => (cs, none)

/-- Reads a version. -/
def ofList? (cs : List Char) : Option Version := do
  let (front, buildText) := cutOff '+' cs
  let (core, preText) := cutOff '-' front
  match Text.pieces '.' core with
  | [major, minor, patch] =>
    return {
      major := ← number? major
      minor := ← number? minor
      patch := ← number? patch
      pre := ← part? isPreIdentifier preText
      build := ← part? isBuildIdentifier buildText }
  | _ => none

/-- Reads a version. -/
def parse? (s : String) : Option Version :=
  ofList? s.toList

/-- Identifiers with dots between them. -/
def dotted (parts : List String) : String :=
  ".".intercalate parts

/-- The text of a version. -/
def text (v : Version) : String :=
  toString v.major ++ "." ++ toString v.minor ++ "." ++ toString v.patch ++
    (if v.pre.isEmpty then "" else "-" ++ dotted v.pre) ++
    (if v.build.isEmpty then "" else "+" ++ dotted v.build)

end Version

end Manifest
