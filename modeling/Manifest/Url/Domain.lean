import Manifest.Url.Label
import Manifest.Url.Punycode

/-!
# Domain names

The normal form of a domain name: in lower case, composed, and in ASCII. Labels with characters
outside ASCII are encoded, and a label that is encoded already has to stand for one in normal form.
-/

namespace Manifest.Url

/-- The mark of a label that stands for one outside ASCII. -/
def encodedMark : List Char :=
  ['x', 'n', '-', '-']

/-- The length of the longest code that a label is read from. -/
def maxCodeLength : Nat :=
  2000

/-- The label outside ASCII in normal form that a code stands for. -/
def decodedLabel? (code : List Char) : Option (List Char) :=
  if isAscii code ∧ code.length ≤ maxCodeLength then
    (Punycode.decode? code).filter fun label => !isAscii label && isNormalLabel label
  else none

/-- The label that is meant, whether it is encoded or not. -/
def meantLabel? (label : List Char) : Option (List Char) :=
  if encodedMark.isPrefixOf label then decodedLabel? (label.drop encodedMark.length)
  else if isAscii label || isNormalLabel label then some label
  else none

/-- A label in ASCII. -/
def asciiLabel (label : List Char) : List Char :=
  if isAscii label then label else encodedMark ++ Punycode.encode label

/-- The normal form of a domain name, if each of its labels has one and they keep to their
directions. -/
def asciiDomain? (cs : List Char) : Option (List Char) :=
  let labels := Text.pieces '.' (Text.composed (cs.flatMap folded))
  ((labels.mapM meantLabel?).filter keepDirections).map fun _ =>
    ['.'].intercalate (labels.map asciiLabel)

end Manifest.Url
