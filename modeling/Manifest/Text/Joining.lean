import Manifest.Text.Composed
import Manifest.Text.JoiningData
import Manifest.Text.Mark

/-!
# Joined letters

Where a joiner has a meaning: behind a sign that takes away the vowel of a letter, or, if it is the
one that separates, between two letters that would be joined without it.
-/

namespace Manifest.Text

/-- The Adlam nasalization mark, which is a letter that is written like a mark. -/
def adlamNasalization : Nat :=
  0x1E94B

/-- Whether a character is passed over when two letters are joined. -/
def isPassedOver (c : Char) : Bool :=
  isNonspacingMark c || c.toNat == adlamNasalization

/-- Whether the first letter is one of `spans`, characters passed over aside. -/
def startsIn (spans : List Span) (cs : List Char) : Bool :=
  match cs.dropWhile isPassedOver with
  | [] => false
  | c :: _ => inSpans c.toNat spans

/-- The combining class of the signs that take away the vowel of the letter before them. -/
def vowelKillerClass : Nat :=
  9

/-- Whether the text `before`, given in reverse, ends in a sign that takes away a vowel. -/
def endsVowelless (before : List Char) : Bool :=
  (before.head?.map fun c => combiningClass c.toNat == vowelKillerClass).getD false

/-- Whether every joiner has a meaning, where `before` is the text before, in reverse. -/
def joinersFit (before : List Char) : List Char → Bool
  | [] => true
  | c :: rest =>
    (!isJoiner c || endsVowelless before ||
      (c == nonJoiner && startsIn joiningNextSpans before && startsIn joiningLastSpans rest)) &&
      joinersFit (c :: before) rest

end Manifest.Text
