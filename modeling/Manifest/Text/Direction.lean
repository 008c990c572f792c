import Manifest.Text.DirectionData
import Manifest.Text.Mark

/-!
# Writing directions

Some letters are written from left to right and some from right to left. Digits, marks and other
characters depend on the letters around them.
-/

namespace Manifest.Text

/-- How a character takes its place in a line. -/
inductive Direction where
  /-- It is written from left to right. -/
  | leftToRight
  /-- It is written from right to left. -/
  | rightToLeft
  /-- It is a digit of a European number. -/
  | europeanDigit
  /-- It belongs to an Arabic number. -/
  | arabicDigit
  /-- It is a mark and goes with the character before it. -/
  | mark
  /-- It takes on the direction of the characters around it. -/
  | neutral
  deriving DecidableEq, Repr

/-- The direction of a character that is not a mark. -/
def letterDirection (c : Char) : Direction :=
  if inSpans c.toNat rightToLeftSpans then .rightToLeft
  else if inSpans c.toNat europeanDigitSpans then .europeanDigit
  else if inSpans c.toNat arabicDigitSpans then .arabicDigit
  else if isJoiner c || inSpans c.toNat neutralSpans then .neutral
  else .leftToRight

/-- The direction of a character. -/
def direction (c : Char) : Direction :=
  if isNonspacingMark c && !inSpans c.toNat leftToRightMarkSpans then .mark else letterDirection c

/-- No character in ASCII is written from right to left. -/
theorem direction_ne_rightToLeft {c : Char} (h : c.toNat < 0x80) :
    direction c ≠ .rightToLeft := by
  have hspans : inSpans c.toNat rightToLeftSpans = false := inSpans_of_lt (by omega)
  unfold direction letterDirection
  rw [hspans]
  repeat' split
  all_goals simp_all

/-- No character in ASCII belongs to an Arabic number. -/
theorem direction_ne_arabicDigit {c : Char} (h : c.toNat < 0x80) :
    direction c ≠ .arabicDigit := by
  have hspans : inSpans c.toNat arabicDigitSpans = false := inSpans_of_lt (by omega)
  unfold direction letterDirection
  rw [hspans]
  repeat' split
  all_goals simp_all

end Manifest.Text
