import Manifest.Text.Blank

/-!
# E-mail addresses

An address may be written with the word "at", in any letter case and between blanks, in place of the
at sign.
-/

namespace Manifest.Normal

/-- What follows if the text starts with blanks, the word "at" and blanks again. -/
def afterAtWord? (cs : List Char) : Option (List Char) :=
  match cs, Text.trimStart cs with
  | c :: _, a :: t :: d :: rest =>
    if Text.isBlank c ∧ (a = 'a' ∨ a = 'A') ∧ (t = 't' ∨ t = 'T') ∧ Text.isBlank d then
      some (Text.trimStart rest)
    else none
  | _, _ => none

theorem length_trimStart_le (cs : List Char) : (Text.trimStart cs).length ≤ cs.length :=
  (List.dropWhile_sublist _).length_le

theorem length_of_afterAtWord? {cs rest : List Char} (h : afterAtWord? cs = some rest) :
    rest.length < cs.length := by
  unfold afterAtWord? at h
  split at h
  case h_1 c tail a t d behind htrim =>
    split at h
    · have h₁ := length_trimStart_le (c :: tail)
      have h₂ := length_trimStart_le behind
      rw [htrim] at h₁
      simp only [Option.some.injEq] at h
      simp only [List.length_cons] at h₁ ⊢
      rw [← h]
      omega
    · simp at h
  · simp at h

/-- Replaces every word "at" between blanks, with these blanks, by an at sign, from left to right.
-/
def atSigns (cs : List Char) : List Char :=
  match h : afterAtWord? cs with
  | some rest =>
    have := length_of_afterAtWord? h
    '@' :: atSigns rest
  | none =>
    match cs with
    | [] => []
    | c :: tail => c :: atSigns tail
termination_by cs.length

/-- The address in its usual form, without blanks at its ends. -/
def email (s : String) : String :=
  String.ofList (atSigns (Text.trimmed s.toList))

end Manifest.Normal
