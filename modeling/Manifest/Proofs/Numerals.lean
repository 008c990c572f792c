import Manifest.Text.Basic

/-!
# Decimal numerals

The value of digits is read from them (`numeral?_of_isDigit`), and digits that do not start with a
needless zero are the ones that their value is written with (`toDigits_ofDigitChars`).
-/

namespace Manifest.Text

/-- A digit lies between zero and nine. -/
theorem toNat_of_isDigit {c : Char} (h : c.isDigit) : 48 ≤ c.toNat ∧ c.toNat ≤ 57 := by
  obtain ⟨hlow, hhigh⟩ := Bool.and_eq_true_iff.1 h
  exact ⟨UInt32.le_iff_toNat_le.1 (of_decide_eq_true hlow),
    UInt32.le_iff_toNat_le.1 (of_decide_eq_true hhigh)⟩

/-- The value of a digit is written with this digit. -/
theorem toDigits_of_isDigit {c : Char} (h : c.isDigit) : Nat.toDigits 10 (c.toNat - 48) = [c] := by
  have hrange := toNat_of_isDigit h
  have hself : Nat.digitChar (c.toNat - 48) = c := by
    apply Char.toNat_inj.1
    rw [Nat.toNat_digitChar_of_lt_ten (by omega)]
    omega
  rw [Nat.toDigits_of_lt_base (by omega), hself]

/-- The value of a decimal digit is its distance from zero. -/
theorem decimalDigit?_of_isDigit {c : Char} (h : c.isDigit) :
    decimalDigit? c = some (c.toNat - 48) := by
  obtain ⟨hlow, hhigh⟩ := toNat_of_isDigit h
  exact if_pos ⟨UInt32.le_iff_toNat_le.2 hlow, UInt32.le_iff_toNat_le.2 hhigh⟩

/-- So is its value as a hexadecimal digit. -/
theorem hexDigit?_of_isDigit {c : Char} (h : c.isDigit) : hexDigit? c = some (c.toNat - 48) := by
  obtain ⟨-, hhigh⟩ := toNat_of_isDigit h
  have hletter : ∀ first last : Char, 57 < first.toNat → ¬ (first ≤ c ∧ c ≤ last) := by
    intro first last hfirst hrange
    have hle : first.toNat ≤ c.toNat := UInt32.le_iff_toNat_le.1 hrange.1
    omega
  unfold hexDigit?
  rw [if_neg (hletter 'a' 'f' (by decide)), if_neg (hletter 'A' 'F' (by decide))]
  exact decimalDigit?_of_isDigit h

/-- Digits behind a number make no smaller one with it. -/
theorem le_ofDigitChars (cs : List Char) (n : Nat) : n ≤ Nat.ofDigitChars 10 cs n := by
  rw [Nat.ofDigitChars_eq_ofDigitChars_zero]
  exact Nat.le_add_right_of_le (Nat.le_mul_of_pos_left n (Nat.pow_pos (by decide)))

/-- Digits are read as the number that they are the digits of, behind the one in front. -/
theorem foldlM_of_isDigit {cs : List Char} (h : ∀ c ∈ cs, c.isDigit) (n : Nat) :
    cs.foldlM (fun n c => ((hexDigit? c).filter (· < 10)).map (10 * n + ·)) n =
      some (Nat.ofDigitChars 10 cs n) := by
  induction cs generalizing n with
  | nil => rfl
  | cons c cs ih =>
    obtain ⟨hc, hcs⟩ := List.forall_mem_cons.1 h
    have hrange := toNat_of_isDigit hc
    have hdigit : (hexDigit? c).filter (· < 10) = some (c.toNat - 48) := by
      rw [hexDigit?_of_isDigit hc]
      exact Option.filter_some_pos (decide_eq_true (by omega))
    rw [List.foldlM_cons, hdigit, Nat.ofDigitChars_cons]
    exact ih hcs _

/-- Digits are read as the number that they are the digits of. -/
theorem numeral?_of_isDigit {cs : List Char} (h : ∀ c ∈ cs, c.isDigit) :
    numeral? 10 cs = some (Nat.ofDigitChars 10 cs 0) :=
  foldlM_of_isDigit h 0

/-- The digits of a number are digits. -/
theorem isDigit_of_mem_toDigits {n : Nat} {c : Char} (h : c ∈ Nat.toDigits 10 n) : c.isDigit :=
  Nat.isDigit_of_mem_toDigits (by decide) (by decide) h

/-- A number is written with a digit in front, which is zero only for zero. -/
theorem exists_toDigits (n : Nat) :
    ∃ c cs, Nat.toDigits 10 n = c :: cs ∧ (c = '0' → n = 0) := by
  induction n using Nat.strongRecOn with
  | ind n ih =>
    rcases Nat.lt_or_ge n 10 with hlt | hge
    · refine ⟨n.digitChar, [], Nat.toDigits_of_lt_base hlt, fun hzero => ?_⟩
      have hvalue := Nat.toNat_digitChar_of_lt_ten hlt
      rw [hzero] at hvalue
      exact (Nat.add_left_cancel hvalue).symm
    · obtain ⟨c, cs, hfront, hzero⟩ := ih (n / 10) (by omega)
      refine ⟨c, cs ++ [(n % 10).digitChar], ?_, fun hc => ?_⟩
      · rw [Nat.toDigits_of_base_le (by decide) hge, hfront, List.cons_append]
      · have hsmall := hzero hc
        omega

/-- No character but a digit stands among the digits of a number. -/
theorem count_toDigits {c : Char} (h : c.isDigit = false) (n : Nat) :
    (Nat.toDigits 10 n).count c = 0 :=
  List.count_eq_zero.2 fun hmem => absurd (isDigit_of_mem_toDigits hmem) (by simp [h])

/-- A number is read from its digits. -/
theorem numeral?_toDigits (n : Nat) : numeral? 10 (Nat.toDigits 10 n) = some n :=
  (numeral?_of_isDigit fun _ => isDigit_of_mem_toDigits).trans
    (congrArg some Nat.ofDigitChars_ten_toDigits)

/-- Digits behind a positive number are the last digits of the number that they make with it. -/
theorem toDigits_append {cs : List Char} (h : ∀ c ∈ cs, c.isDigit) {n : Nat} (hn : 0 < n) :
    Nat.toDigits 10 n ++ cs = Nat.toDigits 10 (Nat.ofDigitChars 10 cs n) := by
  induction cs generalizing n with
  | nil => rw [List.append_nil, Nat.ofDigitChars_nil]
  | cons c cs ih =>
    obtain ⟨hc, hcs⟩ := List.forall_mem_cons.1 h
    have hrange := toNat_of_isDigit hc
    calc Nat.toDigits 10 n ++ c :: cs
        = (Nat.toDigits 10 n ++ Nat.toDigits 10 (c.toNat - 48)) ++ cs := by
          rw [toDigits_of_isDigit hc, List.append_assoc, List.singleton_append]
      _ = Nat.toDigits 10 (10 * n + (c.toNat - 48)) ++ cs := by
          rw [Nat.toDigits_append_toDigits (by decide) hn (by omega)]
      _ = Nat.toDigits 10 (Nat.ofDigitChars 10 (c :: cs) n) := by
          rw [ih hcs (by omega), Nat.ofDigitChars_cons]
          rfl

/-- Digits of which the first is not zero are those that their value is written with. -/
theorem toDigits_ofDigitChars {c : Char} {cs : List Char} (hc : c.isDigit) (hzero : c ≠ '0')
    (hcs : ∀ d ∈ cs, d.isDigit) :
    Nat.toDigits 10 (Nat.ofDigitChars 10 (c :: cs) 0) = c :: cs := by
  have hrange := toNat_of_isDigit hc
  have hpositive : 0 < c.toNat - 48 := by
    have hne : c.toNat ≠ 48 := fun heq => hzero (Char.toNat_inj.1 heq)
    omega
  rw [Nat.ofDigitChars_cons, Nat.mul_zero, Nat.zero_add]
  show Nat.toDigits 10 (Nat.ofDigitChars 10 cs (c.toNat - 48)) = c :: cs
  rw [← toDigits_append hcs hpositive, toDigits_of_isDigit hc, List.singleton_append]

end Manifest.Text
