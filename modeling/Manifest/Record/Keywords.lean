import Manifest.Decode.Shape
import Manifest.Text.Blank
import Manifest.Text.Case
import Manifest.Text.Distinct

/-!
# Keywords

Lower-case words without repetition, in the order in which they first appeared. Two lists of
keywords are equal when they hold the same words.
-/

namespace Manifest

open Json (Value)

/-- The keywords of a package. -/
structure Keywords where
  /-- The words in the order of their first appearance. -/
  words : List String
  deriving DecidableEq, Repr

namespace Keywords

/-- The keywords among some texts: trimmed, lower-cased, without blank ones and repetitions. -/
def collect (texts : List String) : Keywords :=
  ⟨Text.firstSeen ((texts.map fun t => Text.lower (Text.trim t)).filter fun w => w ≠ "")⟩

/-- Whether two lists hold the same words. -/
def equal (x y : Keywords) : Bool :=
  x.words.length == y.words.length && x.words.all y.words.contains

/-- Reads keywords from a sequence of texts. -/
def decode (v : Value) : Decoded Keywords :=
  (Decode.sequence Decode.text v).map collect

/-- The keywords as a sequence of texts. -/
def toValue (keywords : Keywords) : Value :=
  Value.strings keywords.words

end Keywords

end Manifest
