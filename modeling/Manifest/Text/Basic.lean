/-!
# Characters and bytes of a text

What is needed of a text wherever one is read: its length in bytes and the mark that may stand in
front of it, the values of its digits, and the spans of code points that properties of its characters
are given by.
-/

namespace Manifest.Text

/-! ## Bytes -/

/-- The length of a text in bytes. -/
def byteCount (cs : List Char) : Nat :=
  cs.foldl (fun n c => n + c.utf8Size) 0

/-- A text without a byte-order mark in front. -/
def dropByteOrderMark : List Char → List Char
  | '\uFEFF' :: rest => rest
  | cs => cs

/-! ## Digits -/

/-- The value of a decimal digit. -/
def decimalDigit? (c : Char) : Option Nat :=
  if '0' ≤ c ∧ c ≤ '9' then some (c.toNat - '0'.toNat) else none

/-- The value of a hexadecimal digit, whose letters may stand in either case. -/
def hexDigit? (c : Char) : Option Nat :=
  if 'a' ≤ c ∧ c ≤ 'f' then some (c.toNat - 'a'.toNat + 10)
  else if 'A' ≤ c ∧ c ≤ 'F' then some (c.toNat - 'A'.toNat + 10)
  else decimalDigit? c

/-- The value of digits in a base up to 16, if each is a digit of it. Without digits it is zero. -/
def numeral? (base : Nat) (cs : List Char) : Option Nat :=
  cs.foldlM (fun n c => ((hexDigit? c).filter (· < base)).map (base * n + ·)) 0

/-! ## Spans of code points

A property of characters is given as a rising list of spans. Membership is decided by one walk that
stops at the first span past the character. -/

/-- The code points from the first number to the second, both included. -/
abbrev Span := Nat × Nat

/-- Whether one of the rising `spans` holds the code point `n`. -/
def inSpans (n : Nat) : List Span → Bool
  | [] => false
  | (first, last) :: rest => if n < first then false else n ≤ last || inSpans n rest

/-- Spans that start past a code point do not hold it. -/
theorem inSpans_of_lt {n first last : Nat} {rest : List Span} (h : n < first) :
    inSpans n ((first, last) :: rest) = false := by
  simp [inSpans, h]

end Manifest.Text
