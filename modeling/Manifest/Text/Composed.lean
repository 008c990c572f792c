import Manifest.Text.CompositionData

/-!
# Composed texts

The form of a text in which letters and their marks are composed as far as possible. A text is first
taken apart, then the marks behind each letter are put in the order of their combining classes, and
then the letter takes up one mark after the other.
-/

namespace Manifest.Text

/-- The combining class of a code point. Letters have class zero. -/
def combiningClass (n : Nat) : Nat :=
  match combiningClasses.find? fun (first, last, _) => first ≤ n && n ≤ last with
  | some (_, _, k) => k
  | none => 0

/-! ## Hangul -/

/-- The first of the Hangul syllables. A syllable is composed of a leading consonant, one of 21
vowels and one of 27 trailing consonants or none. -/
def hangulBase : Nat :=
  0xAC00

/-- The parts of a Hangul syllable. -/
def hangulParts? (n : Nat) : Option (List Nat) :=
  if hangulBase ≤ n ∧ n < hangulBase + 19 * 21 * 28 then
    let place := n - hangulBase
    let front := [0x1100 + place / (21 * 28), 0x1161 + place / 28 % 21]
    some (if place % 28 = 0 then front else front ++ [0x11A7 + place % 28])
  else none

/-- The Hangul syllable of two parts, of which the first may be a syllable without a trailing
consonant. -/
def hangulOf? (a b : Nat) : Option Nat :=
  if 0x1100 ≤ a ∧ a < 0x1100 + 19 ∧ 0x1161 ≤ b ∧ b < 0x1161 + 21 then
    some (hangulBase + ((a - 0x1100) * 21 + (b - 0x1161)) * 28)
  else if hangulBase ≤ a ∧ a < hangulBase + 19 * 21 * 28 ∧ (a - hangulBase) % 28 = 0 ∧
      0x11A7 < b ∧ b < 0x11A7 + 28 then
    some (a + (b - 0x11A7))
  else none

/-! ## Taking apart -/

/-- The one character that a character gives way to. -/
def singleReplacement? (n : Nat) : Option Nat :=
  singleReplacements.findSome? fun (first, others) =>
    if first ≤ n then (others.toList[n - first]?).map Char.toNat else none

/-- What a code point is composed of, or gives way to. -/
def parts? (n : Nat) : Option (List Nat) :=
  ((hangulParts? n).or ((singleReplacement? n).map fun m => [m])).or
    ((multipleReplacements.lookup n).or
      ((composites.lookup n).map fun (a, b) => [a, b]))

/-- The last parts of a code point, taken apart `depth` times at most. -/
def apart : Nat → Nat → List Nat
  | 0, n => [n]
  | depth + 1, n =>
    match parts? n with
    | some parts => parts.flatMap (apart depth)
    | none => [n]

/-- How often a character can be taken apart. -/
def partDepth : Nat :=
  4

/-- Puts a code point in front of marks, behind those of a lower class. -/
def insertMark (n : Nat) : List Nat → List Nat
  | [] => [n]
  | m :: rest =>
    if combiningClass m ≠ 0 ∧ combiningClass m < combiningClass n then m :: insertMark n rest
    else n :: m :: rest

/-- Puts the marks behind each letter in the order of their classes, those of one class in the order
in which they stand. -/
def ordered : List Nat → List Nat
  | [] => []
  | n :: rest => if combiningClass n = 0 then n :: ordered rest else insertMark n (ordered rest)

/-! ## Putting together -/

/-- The composed character of two. -/
def composite? (a b : Nat) : Option Nat :=
  (hangulOf? a b).or ((composites.find? fun (_, x, y) => x == a && y == b).map (·.1))

/-- Composes a letter with what follows it, where `kept` are the marks behind it that it could not
take up. A mark of the class of a kept one, or a lower one, cannot be taken up any more. -/
def composeFrom (letter : Nat) (kept : List Nat) : List Nat → List Nat
  | [] => letter :: kept
  | n :: rest =>
    let behind := (kept.getLast?.map combiningClass).getD 0
    let reachable := kept.isEmpty || behind < combiningClass n
    match if reachable then composite? letter n else none with
    | some whole => composeFrom whole kept rest
    | none =>
      if combiningClass n = 0 then letter :: kept ++ composeFrom n [] rest
      else composeFrom letter (kept ++ [n]) rest

/-- Composes a text that is taken apart and ordered. Marks in front of the first letter stay. -/
def compose : List Nat → List Nat
  | [] => []
  | n :: rest => if combiningClass n = 0 then composeFrom n [] rest else n :: compose rest

/-- The composed form of a text. Below U+0300 there is nothing to compose. -/
def composed (cs : List Char) : List Char :=
  if cs.all fun c => c.toNat < 0x300 then cs
  else
    (compose (ordered (cs.flatMap fun c => apart partDepth c.toNat))).map Char.ofNat

end Manifest.Text
