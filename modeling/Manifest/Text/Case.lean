import Manifest.Text.CaseData

/-!
# Lower case

Full Unicode lower-casing of a text. Every character maps by itself, with two exceptions: the
dotted capital I becomes two characters, and a capital sigma at the end of a word becomes a final
sigma. A sigma ends a word when a cased letter stands before it and none after it, where characters
that case rules look through do not count.
-/

namespace Manifest.Text

/-- The one code point that `n` maps to in lower case. -/
def lowerCodePoint (n : Nat) : Nat :=
  let run := lowerRuns.find? fun (first, last, step, _) =>
    first ≤ n && n ≤ last && (n - first) % step == 0
  match run with
  | some (first, _, _, target) => target + (n - first)
  | none => n

/-- The lower-case form of a character that stands alone. -/
def lowerChar (c : Char) : List Char :=
  if c = 'İ' then ['i', '\u0307']
  else if c.toNat < 0x80 then [c.toLower]
  else [Char.ofNat (lowerCodePoint c.toNat)]

/-- Whether a character is a letter that has case. -/
def isCased (c : Char) : Bool :=
  inSpans c.toNat casedSpans

/-- Whether case rules look through a character. -/
def isCaseIgnorable (c : Char) : Bool :=
  inSpans c.toNat caseIgnorableSpans

/-- Whether the first character that counts is a cased letter. -/
def startsCased (cs : List Char) : Bool :=
  ((cs.dropWhile isCaseIgnorable).head?.map isCased).getD false

/-- Lower-cases `cs` where `afterCased` tells whether the last character before it that counts is a
cased letter. -/
def lowerFrom (afterCased : Bool) : List Char → List Char
  | [] => []
  | c :: cs =>
    let lowered :=
      if c = 'Σ' then (if afterCased && !startsCased cs then ['ς'] else ['σ']) else lowerChar c
    lowered ++ lowerFrom (if isCaseIgnorable c then afterCased else isCased c) cs

/-- The lower-case form of a text. -/
def lower (s : String) : String :=
  String.ofList (lowerFrom false s.toList)

end Manifest.Text
