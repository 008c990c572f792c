import Manifest.Text.MarkData

/-!
# Marks and joiners

Marks belong to the letter before them. Joiners have no form of their own, and change how the
letters around them are written.
-/

namespace Manifest.Text

/-- The character that keeps the letters around it from being joined. -/
def nonJoiner : Char :=
  '\u200C'

/-- The character that makes the letters around it join. -/
def joiner : Char :=
  '\u200D'

/-- Whether a character joins or separates the letters around it. -/
def isJoiner (c : Char) : Bool :=
  c == nonJoiner || c == joiner

/-- Whether a mark takes up space of its own. -/
def isSpacingMark (c : Char) : Bool :=
  inSpans c.toNat spacingMarkSpans

/-- Whether a character only marks the one before it. -/
def isMark (c : Char) : Bool :=
  !isJoiner c && (inSpans c.toNat graphemeExtendSpans || isSpacingMark c)

/-- Whether a character marks the one before it and takes up no space. -/
def isNonspacingMark (c : Char) : Bool :=
  isMark c && !isSpacingMark c

end Manifest.Text
