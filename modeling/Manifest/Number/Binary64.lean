/-!
# Binary64 numbers

Finite 64-bit binary numbers as exact integers: a mantissa below `2^53` and a number of doublings of
the unit `2^-1074`. Rounding is to the nearest number, a tie to the even mantissa, and every
operation is its exact result rounded once.
-/

namespace Manifest

/-- The number `mantissa * 2^doublings * 2^-1074`, negated if `negative` says so. The mantissa is at
least `2^52` unless there are no doublings. Zero has a sign. -/
structure Binary64 where
  /-- Whether the sign is a minus. -/
  negative : Bool
  /-- The integer that is scaled. -/
  mantissa : Nat
  /-- How often the unit is doubled. -/
  doublings : Nat
  deriving DecidableEq, Repr

namespace Binary64

/-- The number of doublings that makes the unit out of one. -/
def unitScale : Nat :=
  1074

/-- The least mantissa of a number that is doubled. -/
def leastNormal : Nat :=
  1 <<< 52

/-- Positive zero. -/
def zero : Binary64 :=
  ⟨false, 0, 0⟩

/-- Whether a number is a zero of either sign. -/
def isZero (x : Binary64) : Bool :=
  x.mantissa == 0

/-- Numeric equality: the two zeros are equal. -/
def equal (x y : Binary64) : Bool :=
  x == y || (x.isZero && y.isZero)

/-- The magnitude in units. -/
def units (x : Binary64) : Nat :=
  x.mantissa <<< x.doublings

/-- The quotient `num / den` to the nearest integer, a tie to the even one. -/
def divideEven (num den : Nat) : Nat :=
  let quotient := num / den
  let twice := 2 * (num % den)
  if den < twice || (twice == den && quotient % 2 == 1) then quotient + 1 else quotient

/-- The positive number nearest to `num / den` units, unless it is past the largest one. -/
def ofUnits? (num den : Nat) : Option Binary64 :=
  let doublings := Nat.log2 (num / den) + 1 - 53
  let mantissa := divideEven num (den <<< doublings)
  let (mantissa, doublings) :=
    if mantissa == 2 * leastNormal then (leastNormal, doublings + 1) else (mantissa, doublings)
  if 2045 < doublings then none else some ⟨false, mantissa, doublings⟩

/-- The number nearest to an integer. -/
def ofNat? (n : Nat) : Option Binary64 :=
  ofUnits? (n <<< unitScale) 1

/-- The magnitude of the product, rounded. -/
def mul? (x y : Binary64) : Option Binary64 :=
  ofUnits? (x.units * y.units) (1 <<< unitScale)

/-- The magnitude of the quotient, rounded. -/
def div? (x y : Binary64) : Option Binary64 :=
  ofUnits? (x.units <<< unitScale) y.units

/-- Ten to the power `n`, rounded. -/
def powTen? (n : Nat) : Option Binary64 :=
  ofNat? (Nat.pow 10 n)

/-- The largest decimal exponent of a power of ten in range. -/
def largestPower : Nat :=
  308

/-- Divides `times` times by the largest power of ten, stopping at zero. -/
def divideDown : Nat → Binary64 → Option Binary64
  | 0, x => some x
  | times + 1, x =>
    if x.isZero then some x
    else ((powTen? largestPower).bind x.div?).bind (divideDown times)

/-- `significand * 10^exponent` by one rounded multiplication or division with a rounded power of
ten. Below the smallest power in reach, rounded divisions by the largest power come first. The
answer is `none` when the number is past the largest one. -/
def ofDecimal? (significand : Nat) (exponent : Int) : Option Binary64 :=
  (ofNat? significand).bind fun x =>
    if 0 ≤ exponent then
      if exponent.toNat ≤ largestPower then (powTen? exponent.toNat).bind x.mul?
      else if x.isZero then some x
      else none
    else
      let times := ((-exponent).toNat - 1) / largestPower
      (divideDown times x).bind fun y =>
        (powTen? ((-exponent).toNat - times * largestPower)).bind y.div?

end Binary64

end Manifest
