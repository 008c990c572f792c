import Manifest.Text.Split
import Manifest.Url.Percent

/-!
# Numeric addresses

Reading and writing of four-part and eight-part numeric host addresses.
-/

namespace Manifest.Url

open Text (numeral?)

/-! ## Four parts -/

/-- Reads a part of a four-part address: hexadecimal behind `0x`, octal behind `0`, else decimal. -/
def part? : List Char → Option Nat
  | [] => none
  | '0' :: 'x' :: rest | '0' :: 'X' :: rest => numeral? 16 rest
  | ['0'] => some 0
  | '0' :: rest => numeral? 8 rest
  | cs => numeral? 10 cs

/-- The parts of a host between dots, without an empty part at the end. -/
def dottedParts (cs : List Char) : List (List Char) :=
  let parts := Text.pieces '.' cs
  if parts.getLast? = some [] then parts.dropLast else parts

/-- Whether the last part of a host is a number, so that the host has to be a numeric address. -/
def endsInNumber (cs : List Char) : Bool :=
  match (dottedParts cs).getLast? with
  | none => false
  | some part => (!part.isEmpty && part.all Char.isDigit) || (part? part).isSome

/-- Reads a four-part address. The last part fills all bytes that the parts before it leave. -/
def fourPart? (cs : List Char) : Option Nat := do
  let numbers ← (dottedParts cs).mapM part?
  if 4 < numbers.length then none
  else
    let last ← numbers.getLast?
    let front := numbers.dropLast
    let width := 8 * (4 - front.length)
    if front.all (· ≤ 255) ∧ last < 1 <<< width then
      some (front.foldl (fun n d => 256 * n + d) 0 <<< width + last)
    else none

/-- The text of a four-part address. -/
def fourPartText (n : Nat) : List Char :=
  let part (k : Nat) := Nat.toDigits 10 ((n >>> (8 * k)) % 256)
  part 3 ++ '.' :: part 2 ++ '.' :: part 1 ++ '.' :: part 0

/-! ## Eight parts -/

/-- Reads a group of one to four hexadecimal digits. -/
def group? (cs : List Char) : Option Nat :=
  if cs.isEmpty ∨ 4 < cs.length then none else numeral? 16 cs

/-- Reads a decimal byte without a needless zero. -/
def decimalByte? (cs : List Char) : Option Nat :=
  if cs.isEmpty ∨ (cs.head? = some '0' ∧ 1 < cs.length) then none
  else (numeral? 10 cs).filter (· ≤ 255)

/-- Reads the last groups of an address, where a four-part address stands for two groups. -/
def lastGroups? (cs : List Char) : Option (List Nat) :=
  if cs.contains '.' then
    match (Text.pieces '.' cs).mapM decimalByte? with
    | some [a, b, c, d] => some [256 * a + b, 256 * c + d]
    | _ => none
  else (group? cs).map fun n => [n]

/-- Reads groups between colons, of which the last may be a four-part address if `final` says so. -/
def groups? (final : Bool) (cs : List Char) : Option (List Nat) :=
  if cs.isEmpty then some []
  else do
    let parts := Text.pieces ':' cs
    let front ← parts.dropLast.mapM group?
    let last ← parts.getLast?
    return front ++ (← if final then lastGroups? last else (group? last).map fun n => [n])

/-- The text before and after the first double colon, if there is one. -/
def atDoubleColon? : List Char → Option (List Char × List Char)
  | [] => none
  | ':' :: ':' :: rest => some ([], rest)
  | c :: rest => (atDoubleColon? rest).map fun (before, after) => (c :: before, after)

/-- Reads an eight-part address. A double colon stands for one or more zero groups. -/
def eightPart? (cs : List Char) : Option (List Nat) :=
  match atDoubleColon? cs with
  | none => (groups? true cs).filter fun groups => groups.length == 8
  | some (before, after) => do
    let front ← groups? false before
    let back ← groups? true after
    if front.length + back.length < 8 then
      some (front ++ List.replicate (8 - front.length - back.length) 0 ++ back)
    else none

/-- The number of zeros at the start. -/
def leadingZeros (groups : List Nat) : Nat :=
  (groups.takeWhile (· == 0)).length

/-- The start and the length of the first of the longest runs of zeros, counted from `start`. -/
def longestZeros (start : Nat) : List Nat → Nat × Nat
  | [] => (start, 0)
  | g :: rest =>
    let here := leadingZeros (g :: rest)
    let later := longestZeros (start + 1) rest
    if later.2 ≤ here then (start, here) else later

/-- Groups with colons between them. -/
def groupsText (groups : List Nat) : List Char :=
  [':'].intercalate (groups.map (Nat.toDigits 16))

/-- The text of an eight-part address, with the first longest run of two or more zeros left out. -/
def eightPartText (groups : List Nat) : List Char :=
  let (start, length) := longestZeros 0 groups
  if length < 2 then groupsText groups
  else groupsText (groups.take start) ++ [':', ':'] ++ groupsText (groups.drop (start + length))

end Manifest.Url
