import Manifest.Text.Case
import Manifest.Text.Composed
import Manifest.Text.Direction
import Manifest.Text.Joining
import Manifest.Text.PrintData
import Manifest.Text.Split
import Manifest.Url.DomainData

/-!
# Labels of domain names

The normal form of the characters of a domain name, and which labels are in normal form. If a domain
name has a letter that is written from right to left, each of its labels has to keep to one
direction.
-/

namespace Manifest.Url

open Text (Direction inSpans)

/-! ## Characters -/

/-- What a character stands for by the table. -/
def standIn? (n : Nat) : Option (List Char) :=
  standIns.findSome? fun (first, others) =>
    if first ≤ n then ((Text.split '|' others)[n - first]?).map String.toList else none

/-- Whether a character stays in upper case, which is the only one that its letters once had. -/
def staysUpper (n : Nat) : Bool :=
  0x13A0 ≤ n && n ≤ 0x13F5

/-- What becomes of a character in a domain name, composition aside. -/
def folded (c : Char) : List Char :=
  let n := c.toNat
  if n < 0x80 then [c.toLower]
  else if inSpans n ignoredSpans then []
  else if staysUpper n then [c]
  else (standIn? n).getD (Text.lowerChar c)

/-- Whether a character may stand in a domain name as it is. -/
def isAdmitted (c : Char) : Bool :=
  let n := c.toNat
  n < 0x80 || Text.isJoiner c ||
    (folded c = [c] && !inSpans n Text.unprintableSpans && !inSpans n refusedSpans)

/-! ## Labels -/

/-- Whether a label is in ASCII. -/
def isAscii (label : List Char) : Bool :=
  label.all fun c => c.toNat < 0x80

/-- The length of the longest label outside ASCII. -/
def maxLabelLength : Nat :=
  1000

/-- Whether a label outside ASCII is in normal form. -/
def isNormalLabel (label : List Char) : Bool :=
  label.length ≤ maxLabelLength && label.all isAdmitted && Text.composed label == label &&
    !((label.head?.map Text.isMark).getD false) && Text.joinersFit [] label

/-! ## Directions -/

/-- Whether a label from left to right has nothing from right to left and ends in a letter or a
digit. -/
def keepsRight (directions : List Direction) (last : Direction) : Bool :=
  directions.all (fun d => d != .rightToLeft && d != .arabicDigit) &&
    (last == .leftToRight || last == .europeanDigit)

/-- Whether a label from right to left has nothing from left to right, has digits of one sort and
ends in a letter or a digit. -/
def keepsLeft (directions : List Direction) (last : Direction) : Bool :=
  !directions.contains .leftToRight &&
    !(directions.contains .europeanDigit && directions.contains .arabicDigit) &&
    (last == .rightToLeft || last == .europeanDigit || last == .arabicDigit)

/-- Whether a label starts with a letter and keeps to the direction of that letter. Marks at its end
do not count. -/
def keepsDirection (label : List Char) : Bool :=
  let directions := label.map Text.direction
  match directions.head?, directions.reverse.find? (· != .mark) with
  | some .leftToRight, some last => keepsRight directions last
  | some .rightToLeft, some last => keepsLeft directions last
  | some _, _ => false
  | none, _ => true

/-- Whether a label has a character that is only at home among those from right to left. -/
def runsLeft (label : List Char) : Bool :=
  label.any fun c => Text.direction c == .rightToLeft || Text.direction c == .arabicDigit

/-- A label in ASCII does not run from right to left. -/
theorem runsLeft_of_isAscii {label : List Char} (h : isAscii label) : runsLeft label = false := by
  simp only [runsLeft, List.any_eq_false, Bool.or_eq_true, beq_iff_eq, not_or]
  intro c hc
  have hlt : c.toNat < 0x80 := by simpa using List.all_eq_true.1 h c hc
  exact ⟨Text.direction_ne_rightToLeft hlt, Text.direction_ne_arabicDigit hlt⟩

/-- Whether each of the labels of a domain name keeps to one direction, as far as it has to. -/
def keepDirections (labels : List (List Char)) : Bool :=
  !labels.any runsLeft || labels.all keepsDirection

/-- Labels in ASCII need not keep to a direction. -/
theorem keepDirections_of_isAscii {labels : List (List Char)} (h : ∀ l ∈ labels, isAscii l) :
    keepDirections labels = true := by
  have hany : labels.any runsLeft = false := List.any_eq_false.2 fun l hl => by
    simp [runsLeft_of_isAscii (h l hl)]
  simp [keepDirections, hany]

end Manifest.Url
