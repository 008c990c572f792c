import Manifest.Number.Binary64

/-!
# Shortest decimal digits

The fewest decimal digits that read back as a given binary number, and among those the digits
nearest to it.
-/

namespace Manifest.Binary64

/-- The floor of the decimal logarithm of `num / den`, for positive arguments. -/
def decimalExponent (num den : Nat) : Int :=
  if den ≤ num then ((Nat.toDigits 10 (num / den)).length : Int) - 1
  else -((Nat.toDigits 10 (den / num)).length : Int)

/-- The rationals that round to one binary number: all from `low` to `high` over `den`, ends
included when `closed` says so, with the number itself at `value`. -/
structure Rounding where
  /-- The lower end. -/
  low : Nat
  /-- The number. -/
  value : Nat
  /-- The upper end. -/
  high : Nat
  /-- The common denominator. -/
  den : Nat
  /-- Whether the ends round to the number too. -/
  closed : Bool

/-- What rounds to the magnitude of `x`. Below a power of two the numbers lie twice as close. -/
def rounding (x : Binary64) : Rounding :=
  let step := 1 <<< x.doublings
  let below := if x.mantissa == leastNormal && 0 < x.doublings then step else 2 * step
  let value := 4 * x.mantissa * step
  ⟨value - below, value, value + 2 * step, 4 <<< unitScale, x.mantissa % 2 == 0⟩

namespace Rounding

/-- Whether `num / den` rounds to the number. -/
def holds (r : Rounding) (num den : Nat) : Bool :=
  let spot := num * r.den
  let low := r.low * den
  let high := r.high * den
  if r.closed then low ≤ spot && spot ≤ high else low < spot && spot < high

/-- The multiple of ten to the power `exponent` that rounds to the number and lies nearest to it, a
tie going to the even multiple. -/
def onGrid? (r : Rounding) (exponent : Int) : Option Nat :=
  let up := Nat.pow 10 exponent.toNat
  let down := Nat.pow 10 (-exponent).toNat
  let scaled := r.value * down
  let cell := r.den * up
  let below := scaled / cell
  let above := below + 1
  let rest := 2 * (scaled % cell)
  match r.holds (below * up) down, r.holds (above * up) down with
  | true, true =>
    some (if rest < cell || (rest == cell && below % 2 == 0) then below else above)
  | true, false => some below
  | false, true => some above
  | false, false => none

end Rounding

/-- Moves trailing zeros of `digits` into the exponent. -/
def dropZeros (digits : Nat) (exponent : Int) : Nat × Int :=
  if h : 0 < digits ∧ digits % 10 = 0 then dropZeros (digits / 10) (exponent + 1)
  else (digits, exponent)
termination_by digits
decreasing_by omega

/-- An integer without trailing zeros and a power of ten whose product is the shortest decimal that
reads back as the magnitude of `x`. Zero is `0 * 10^0`. -/
def shortest (x : Binary64) : Nat × Int :=
  if x.isZero then (0, 0)
  else
    let r := x.rounding
    let leading := decimalExponent r.value r.den
    let found := (List.range 17).findSome? fun (n : Nat) =>
      let exponent := leading - n
      (r.onGrid? exponent).map (·, exponent)
    match found with
    | some (digits, exponent) => dropZeros digits exponent
    | none => (0, 0)

/-- The text of a number: positional when the leading digit stands from the fifth decimal place to
the sixteenth integer place, and with a signed exponent otherwise. A point or an exponent is always
written. -/
def text (x : Binary64) : List Char :=
  let (significand, exponent) := x.shortest
  let digits := Nat.toDigits 10 significand
  let point : Int := digits.length + exponent
  let body :=
    if 0 ≤ exponent && point ≤ 16 then
      digits ++ List.replicate exponent.toNat '0' ++ ['.', '0']
    else if 0 < point && point ≤ 16 then
      digits.take point.toNat ++ ['.'] ++ digits.drop point.toNat
    else if -5 < point && point ≤ 0 then
      ['0', '.'] ++ List.replicate (-point).toNat '0' ++ digits
    else
      let fraction := digits.drop 1
      let sign := if point - 1 < 0 then '-' else '+'
      digits.take 1 ++ (if fraction.isEmpty then [] else '.' :: fraction) ++
        ['e', sign] ++ Nat.toDigits 10 (point - 1).natAbs
  if x.negative then '-' :: body else body

end Manifest.Binary64
