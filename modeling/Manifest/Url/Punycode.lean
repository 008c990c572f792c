/-!
# Punycode

Labels of hosts outside ASCII, written in ASCII. The characters outside ASCII are put in by rising
code point, each at a distance from the one before it. The distances are written in digits of base
36 with thresholds that adapt to the distances so far, so that no mark has to stand between them.
-/

namespace Manifest.Url.Punycode

/-! ## Distances -/

/-- The digits in the order of their values. -/
def digits : List Char :=
  "abcdefghijklmnopqrstuvwxyz0123456789".toList

/-- The digit of a value. -/
def digit (n : Nat) : Char :=
  digits.getD n '9'

/-- The value of a digit in either case. -/
def digitValue? (c : Char) : Option Nat :=
  digits.idxOf? c.toLower

/-- The least digit at a place, counted from one, behind which another digit follows. -/
def threshold (bias place : Nat) : Nat :=
  max 1 (min 26 (36 * place - bias))

theorem threshold_pos (bias place : Nat) : 0 < threshold bias place := by
  unfold threshold
  omega

/-- Divides a distance by 35 until it is small. The outcome is the quotient and 36 for each
division. -/
def scaleDown (distance : Nat) : Nat × Nat :=
  if 455 < distance then
    let (quotient, steps) := scaleDown (distance / 35)
    (quotient, steps + 36)
  else (distance, 0)
termination_by distance
decreasing_by omega

/-- The bias behind a distance, where `count` characters are there by now. -/
def adapt (first : Bool) (count distance : Nat) : Nat :=
  let damped := if first then distance / 700 else distance / 2
  let (quotient, steps) := scaleDown (damped + damped / count)
  steps + 36 * quotient / (quotient + 38)

/-- The bias before the first distance. -/
def startBias : Nat :=
  72

/-- The digits of a distance from a place on, the least one first. -/
def distanceDigits (bias place distance : Nat) : List Char :=
  let least := threshold bias place
  if distance < least then [digit distance]
  else
    digit (least + (distance - least) % (36 - least)) ::
      distanceDigits bias (place + 1) ((distance - least) / (36 - least))
termination_by distance
decreasing_by
  have := threshold_pos bias place
  exact Nat.lt_of_le_of_lt (Nat.div_le_self _ _) (by omega)

/-- The digits of distances, where `count` characters are there before the first one is put in. -/
def written (first : Bool) (bias count : Nat) : List Nat → List Char
  | [] => []
  | distance :: rest =>
    distanceDigits bias 1 distance ++
      written false (adapt first (count + 1) distance) (count + 1) rest

/-- Reads a distance from a place on, where a digit counts `weight` times. -/
def distance? (bias place weight : Nat) : List Char → Option (Nat × List Char)
  | [] => none
  | c :: rest =>
    match digitValue? c with
    | none => none
    | some d =>
      let least := threshold bias place
      if d < least then some (d * weight, rest)
      else
        (distance? bias (place + 1) (weight * (36 - least)) rest).map fun (n, rest) =>
          (d * weight + n, rest)

theorem length_of_distance? {bias place weight n : Nat} {cs rest : List Char}
    (h : distance? bias place weight cs = some (n, rest)) : rest.length < cs.length := by
  induction cs generalizing place weight n rest with
  | nil => simp [distance?] at h
  | cons c cs ih =>
    simp only [distance?] at h
    split at h
    · simp at h
    · split at h
      · simp only [Option.some.injEq, Prod.mk.injEq] at h
        simp [← h.2]
      · obtain ⟨⟨m, behind⟩, hm, heq⟩ := Option.map_eq_some_iff.1 h
        simp only [Prod.mk.injEq] at heq
        have := ih hm
        rw [← heq.2, List.length_cons]
        omega

/-- Reads distances, where `count` characters are there before the first one is put in. -/
def distances? (first : Bool) (bias count : Nat) (cs : List Char) : Option (List Nat) :=
  if cs.isEmpty then some []
  else
    match _h : distance? bias 1 1 cs with
    | none => none
    | some (distance, rest) =>
      (distances? false (adapt first (count + 1) distance) (count + 1) rest).map (distance :: ·)
termination_by cs.length
decreasing_by exact length_of_distance? _h

/-! ## Labels -/

/-- Passes over a label while `point` is put in. The outcome is the distances at which that is done,
the first one `gap` longer, and the gap behind the last of them. -/
def passOver (point : Nat) : Nat → List Char → List Nat × Nat
  | gap, [] => ([], gap)
  | gap, c :: cs =>
    if c.toNat < point then passOver point (gap + 1) cs
    else if c.toNat = point then
      let (found, behind) := passOver point 0 cs
      (gap :: found, behind)
    else passOver point gap cs

/-- The distances at which rising code points are put in. `next` is the least one that is not passed
yet, and `count` characters are there. -/
def distances (label : List Char) (next count gap : Nat) : List Nat → List Nat
  | [] => []
  | point :: points =>
    let (found, behind) := passOver point (gap + (point - next) * (count + 1)) label
    found ++ distances label (point + 1) (count + found.length) (behind + 1) points

/-- The label in ASCII. -/
def encode (label : List Char) : List Char :=
  let basic := label.filter fun c => c.toNat < 0x80
  let points := ((label.map Char.toNat).filter (0x80 ≤ ·)).mergeSort.eraseDups
  basic ++ (if basic.isEmpty then [] else ['-']) ++
    written true startBias basic.length (distances label 0x80 basic.length 0 points)

/-- Puts in a character at each distance. `point` is the code point put in last and `place` the
place behind it. -/
def putIn (point place : Nat) (label : List Char) : List Nat → Option (List Char)
  | [] => some label
  | distance :: rest =>
    let count := label.length + 1
    let point := point + (place + distance) / count
    let place := (place + distance) % count
    if point < 0xD800 ∨ (0xDFFF < point ∧ point < 0x110000) then
      putIn point (place + 1) (label.insertIdx place (Char.ofNat point)) rest
    else none

/-- The label that a text in ASCII stands for. No hyphen stands behind an empty row of characters in
ASCII. -/
def decode? (cs : List Char) : Option (List Char) :=
  let coded := (cs.reverse.takeWhile (· != '-')).reverse
  let basic := cs.take (cs.length - coded.length - 1)
  if basic.isEmpty && cs.contains '-' then none
  else (distances? true startBias basic.length coded).bind (putIn 0x80 0 basic)

end Manifest.Url.Punycode
