import Manifest.Proofs.Trimming
import Manifest.Text.Case

/-!
# Lower-casing twice, and around blanks

Lower-casing changes nothing the second time (`lower_lower`), it does not matter whether a text is
trimmed before or after it (`trim_lower`), and only the empty text becomes empty
(`lower_eq_empty_iff`).

All three rest on the table of case runs: no code point that a run maps to is one that a run maps,
and neither is ever a blank. The kernel checks this on sets of code points that are the bits of one
number each. From it every character that lower-casing gives is `IsLower`, and blank exactly when
the character that it comes from is (`lowerChar_spec`).
-/

namespace Manifest.Text

/-! ## The table of case runs -/

/-- The code points at a run's distances, counted from `start`. -/
def pointsFrom (start : Nat) (run : Nat × Nat × Nat × Nat) : List Nat :=
  List.range' start ((run.2.1 - run.1) / run.2.2.1 + 1) run.2.2.1

/-- The code points that the table maps. -/
def mappedPoints : List Nat :=
  lowerRuns.flatMap fun run => pointsFrom run.1 run

/-- The code points that the table maps to. -/
def reachedPoints : List Nat :=
  lowerRuns.flatMap fun run => pointsFrom run.2.2.2 run

/-- The code points of the blanks. -/
def blankPoints : List Nat :=
  [0x9, 0xA, 0xB, 0xC, 0xD, 0x20, 0x85, 0xA0, 0x1680, 0x2000, 0x2001, 0x2002, 0x2003, 0x2004,
    0x2005, 0x2006, 0x2007, 0x2008, 0x2009, 0x200A, 0x2028, 0x2029, 0x202F, 0x205F, 0x3000]

/-- The blanks are the characters of these code points. -/
theorem isBlank_iff_mem {c : Char} : isBlank c ↔ c.toNat ∈ blankPoints := by
  simp only [isBlank, blankPoints, List.mem_cons, List.not_mem_nil, or_false, Bool.or_eq_true,
    Bool.and_eq_true, decide_eq_true_eq, beq_iff_eq]
  omega

/-- A code point at a distance from the start of its run stands as far behind `start` there. -/
theorem mem_pointsFrom {first last step target n : Nat} (start : Nat) (hle : n ≤ last)
    (hstep : (n - first) % step = 0) :
    start + (n - first) ∈ pointsFrom start (first, last, step, target) := by
  refine List.mem_range'.2 ⟨(n - first) / step, ?_, ?_⟩
  · have hdiv : (n - first) / step ≤ (last - first) / step := Nat.div_le_div_right (by omega)
    exact Nat.lt_succ_of_le hdiv
  · rw [Nat.mul_div_cancel' (Nat.dvd_of_mod_eq_zero hstep)]

/-- A code point that the table changes is one that it maps, to one that it reaches. -/
theorem mem_of_lowerCodePoint_ne {n : Nat} (h : lowerCodePoint n ≠ n) :
    n ∈ mappedPoints ∧ lowerCodePoint n ∈ reachedPoints := by
  unfold lowerCodePoint at h ⊢
  dsimp only at h ⊢
  split at h
  case h_2 => exact absurd rfl h
  case h_1 first last step target hfind =>
    have hrun := List.mem_of_find?_eq_some hfind
    have hmaps := List.find?_some hfind
    simp only [Bool.and_eq_true, decide_eq_true_eq, beq_iff_eq] at hmaps
    obtain ⟨⟨hge, hle⟩, hstep⟩ := hmaps
    refine ⟨List.mem_flatMap.2 ⟨_, hrun, ?_⟩,
      List.mem_flatMap.2 ⟨_, hrun, mem_pointsFrom target hle hstep⟩⟩
    have hself : first + (n - first) ∈ pointsFrom first (first, last, step, target) :=
      mem_pointsFrom first hle hstep
    rwa [Nat.add_sub_cancel' hge] at hself

/-- A set of code points as the bits of a number. -/
def bits (points : List Nat) : Nat :=
  points.foldr (fun n mask => mask ||| 1 <<< n) 0

/-- The bits that are set are those of the code points. -/
theorem testBit_bits (points : List Nat) (n : Nat) : (bits points).testBit n ↔ n ∈ points := by
  induction points with
  | nil => simp [bits]
  | cons m rest ih =>
    have hcons : bits (m :: rest) = bits rest ||| 1 <<< m := rfl
    rw [hcons, Nat.testBit_or, Bool.or_eq_true, ih, Nat.shiftLeft_eq, Nat.one_mul,
      Nat.testBit_two_pow]
    simp [or_comm, eq_comm]

/-- Sets of code points without a common bit have no common member. -/
theorem not_mem_of_bits {xs ys : List Nat} (h : bits xs &&& bits ys = 0) {n : Nat} (hx : n ∈ xs) :
    n ∉ ys := by
  intro hy
  have hbit : (bits xs &&& bits ys).testBit n := by
    rw [Nat.testBit_and, (testBit_bits xs n).2 hx, (testBit_bits ys n).2 hy]
    rfl
  rw [h, Nat.zero_testBit] at hbit
  exact absurd hbit (by decide)

/-- The table does not map what it maps to. -/
theorem not_mapped_of_reached {n : Nat} (h : n ∈ reachedPoints) : n ∉ mappedPoints :=
  not_mem_of_bits (by decide +kernel) h

/-- The table maps no blank. -/
theorem not_mapped_of_blank {n : Nat} (h : n ∈ blankPoints) : n ∉ mappedPoints :=
  not_mem_of_bits (by decide +kernel) h

/-- The table maps nothing to a blank. -/
theorem not_reached_of_blank {n : Nat} (h : n ∈ blankPoints) : n ∉ reachedPoints :=
  not_mem_of_bits (by decide +kernel) h

/-- The table maps to characters only, and never to the dotted capital I. -/
theorem reachedPoints_valid : ∀ n ∈ reachedPoints, n.isValidChar ∧ n ≠ 0x130 := by
  decide +kernel

/-- A code point that the table maps to stays as it is. -/
theorem lowerCodePoint_of_reached {n : Nat} (h : n ∈ reachedPoints) : lowerCodePoint n = n := by
  by_contra hne
  exact not_mapped_of_reached h (mem_of_lowerCodePoint_ne hne).1

/-! ## Characters -/

/-- The code point of the character that a code point denotes. -/
theorem toNat_ofNat {n : Nat} (h : n.isValidChar) : (Char.ofNat n).toNat = n := by
  have hchar : Char.ofNat n = Char.ofNatAux n h := dif_pos h
  rw [hchar]
  rfl

/-- Lower-casing leaves the character as it is, wherever it stands. -/
def IsLower (c : Char) : Prop :=
  c ≠ 'Σ' ∧ lowerChar c = [c]

instance (c : Char) : Decidable (IsLower c) :=
  inferInstanceAs (Decidable (_ ∧ _))

/-- ASCII letters in lower case, and the other characters of ASCII, stay as they are. -/
theorem isLower_toLower {c : Char} (h : c.toNat < 0x80) :
    IsLower c.toLower ∧ isBlank c.toLower = isBlank c := by
  have hall : ∀ n < 0x80, IsLower (Char.ofNat n).toLower ∧
      isBlank (Char.ofNat n).toLower = isBlank (Char.ofNat n) := by decide +kernel
  simpa using hall c.toNat h

/-- A character that the table does not change is `IsLower`, the two with rules of their own
aside. -/
theorem isLower_of_unchanged {c : Char} (hsigma : c ≠ 'Σ') (hdotted : c ≠ 'İ')
    (h : lowerCodePoint c.toNat = c.toNat) : IsLower c := by
  refine ⟨hsigma, ?_⟩
  by_cases hascii : c.toNat < 0x80
  · have hcapital : ∀ n ∈ List.range' 0x41 26, lowerCodePoint n ≠ n := by decide +kernel
    have hother : ∀ n < 0x80, n ∉ List.range' 0x41 26 →
        (Char.ofNat n).toLower = Char.ofNat n := by decide +kernel
    have hlow : c.toLower = c := by
      simpa using hother c.toNat hascii fun hmem => hcapital _ hmem h
    simp [lowerChar, hdotted, hascii, hlow]
  · simp [lowerChar, hdotted, hascii, h]

/-- What the table gives for a character is `IsLower`, and blank if the character is. -/
theorem isLower_ofNat {c : Char} (hsigma : c ≠ 'Σ') (hdotted : c ≠ 'İ') :
    IsLower (Char.ofNat (lowerCodePoint c.toNat)) ∧
      isBlank (Char.ofNat (lowerCodePoint c.toNat)) = isBlank c := by
  by_cases hsame : lowerCodePoint c.toNat = c.toNat
  · rw [hsame, Char.ofNat_toNat]
    exact ⟨isLower_of_unchanged hsigma hdotted hsame, rfl⟩
  obtain ⟨hmapped, hreached⟩ := mem_of_lowerCodePoint_ne hsame
  generalize lowerCodePoint c.toNat = m at hreached
  obtain ⟨hvalid, hnotdotted⟩ := reachedPoints_valid m hreached
  have hm := toNat_ofNat hvalid
  constructor
  · apply isLower_of_unchanged
    · intro hd
      have hpoint : m = 0x3A3 := by rw [← hm, hd]; rfl
      have hfixed := lowerCodePoint_of_reached hreached
      rw [hpoint] at hfixed
      exact absurd hfixed (by decide +kernel)
    · intro hd
      exact hnotdotted (by rw [← hm, hd]; rfl)
    · rw [hm]
      exact lowerCodePoint_of_reached hreached
  · -- Neither the character nor what it maps to is blank.
    rw [Bool.eq_iff_iff, isBlank_iff_mem, isBlank_iff_mem, hm]
    exact iff_of_false (fun h => not_reached_of_blank h hreached) fun h =>
      not_mapped_of_blank h hmapped

/-- The lower-case form of a character that stands alone is not empty. Its characters are `IsLower`,
and blank if the character is. -/
theorem lowerChar_spec {c : Char} (hsigma : c ≠ 'Σ') :
    lowerChar c ≠ [] ∧ ∀ d ∈ lowerChar c, IsLower d ∧ isBlank d = isBlank c := by
  unfold lowerChar
  split
  case isTrue h =>
    subst h
    refine ⟨List.cons_ne_nil _ _, List.forall_mem_cons.2 ⟨?_, List.forall_mem_singleton.2 ?_⟩⟩
    · decide +kernel
    · decide +kernel
  case isFalse hdotted =>
    split
    case isTrue hascii => simpa using isLower_toLower hascii
    case isFalse => simpa using isLower_ofNat hsigma hdotted

/-- A blank stays as it is, has no case, and is not looked through. -/
theorem blank_spec {c : Char} (h : isBlank c) :
    IsLower c ∧ isCased c = false ∧ isCaseIgnorable c = false := by
  have hall : ∀ n ∈ blankPoints, IsLower (Char.ofNat n) ∧ isCased (Char.ofNat n) = false ∧
      isCaseIgnorable (Char.ofNat n) = false := by decide +kernel
  simpa using hall c.toNat (isBlank_iff_mem.1 h)

/-! ## Texts -/

/-- Lower-casing a text puts something in the place of its first character, whose own characters are
`IsLower` and blank if the first character is, and goes on behind it. -/
theorem lowerFrom_cons (afterCased : Bool) (c : Char) (cs : List Char) :
    ∃ lowered next, lowerFrom afterCased (c :: cs) = lowered ++ lowerFrom next cs ∧
      lowered ≠ [] ∧ ∀ d ∈ lowered, IsLower d ∧ isBlank d = isBlank c := by
  refine ⟨_, _, rfl, ?_⟩
  split
  case isTrue h =>
    -- Either form of the small sigma is `IsLower`.
    subst h
    split <;> exact ⟨List.cons_ne_nil _ _, List.forall_mem_singleton.2 (by decide +kernel)⟩
  case isFalse h => exact lowerChar_spec h

/-- Lower-casing gives characters that are `IsLower`. -/
theorem isLower_of_mem_lowerFrom {afterCased : Bool} {cs : List Char} {d : Char}
    (h : d ∈ lowerFrom afterCased cs) : IsLower d := by
  induction cs generalizing afterCased with
  | nil => exact absurd h List.not_mem_nil
  | cons c cs ih =>
    obtain ⟨lowered, next, heq, -, hlowered⟩ := lowerFrom_cons afterCased c cs
    rw [heq] at h
    rcases List.mem_append.1 h with h | h
    · exact (hlowered d h).1
    · exact ih h

/-- Characters that are `IsLower` in front of a text are in front of its lower-case form. -/
theorem lowerFrom_isLower_append {front : List Char} (h : ∀ c ∈ front, IsLower c)
    (afterCased : Bool) (cs : List Char) :
    ∃ next, lowerFrom afterCased (front ++ cs) = front ++ lowerFrom next cs := by
  induction front generalizing afterCased with
  | nil => exact ⟨afterCased, rfl⟩
  | cons c front ih =>
    obtain ⟨hsigma, hself⟩ := h c List.mem_cons_self
    obtain ⟨next, hrest⟩ := ih (fun d hd => h d (List.mem_cons_of_mem c hd))
      (if isCaseIgnorable c then afterCased else isCased c)
    refine ⟨next, ?_⟩
    rw [List.cons_append, lowerFrom, if_neg hsigma, hself, hrest]
    rfl

/-- A text of characters that are `IsLower` stays as it is. -/
theorem lowerFrom_of_isLower {cs : List Char} (h : ∀ c ∈ cs, IsLower c) (afterCased : Bool) :
    lowerFrom afterCased cs = cs := by
  obtain ⟨next, hnext⟩ := lowerFrom_isLower_append h afterCased []
  simpa [lowerFrom] using hnext

/-- Lower-casing a text twice is lower-casing it once. -/
@[simp] theorem lower_lower (s : String) : lower (lower s) = lower s := by
  rw [lower, lower, String.toList_ofList,
    lowerFrom_of_isLower fun _ hd => isLower_of_mem_lowerFrom hd]

/-- Only the empty text becomes empty. -/
theorem lowerFrom_eq_nil_iff {afterCased : Bool} {cs : List Char} :
    lowerFrom afterCased cs = [] ↔ cs = [] := by
  cases cs with
  | nil => simp [lowerFrom]
  | cons c cs =>
    obtain ⟨lowered, next, heq, hne, -⟩ := lowerFrom_cons afterCased c cs
    simp [heq, hne]

/-- Only the empty text becomes empty. -/
@[simp] theorem lower_eq_empty_iff {s : String} : lower s = "" ↔ s = "" := by
  rw [lower, String.ofList_eq_empty_iff, lowerFrom_eq_nil_iff, String.toList_eq_nil_iff]

/-- Blanks in front of a text are in front of its lower-case form. -/
theorem lowerFrom_blank_append {ws : List Char} (h : ∀ c ∈ ws, isBlank c) (cs : List Char) :
    lowerFrom false (ws ++ cs) = ws ++ lowerFrom false cs := by
  induction ws with
  | nil => rfl
  | cons w ws ih =>
    obtain ⟨⟨hsigma, hself⟩, hcased, hseen⟩ := blank_spec (h w List.mem_cons_self)
    rw [List.cons_append, lowerFrom, if_neg hsigma, hself, hcased, hseen]
    simp [ih fun d hd => h d (List.mem_cons_of_mem w hd)]

/-- Blanks behind a text do not make it start with a cased letter. -/
theorem startsCased_append_blank {ws : List Char} (h : ∀ c ∈ ws, isBlank c) (cs : List Char) :
    startsCased (cs ++ ws) = startsCased cs := by
  induction cs with
  | nil =>
    cases ws with
    | nil => rfl
    | cons w ws =>
      obtain ⟨-, hcased, hseen⟩ := blank_spec (h w List.mem_cons_self)
      simp [startsCased, hseen, hcased]
  | cons c cs ih =>
    unfold startsCased at ih ⊢
    cases hc : isCaseIgnorable c with
    | true => simpa [hc] using ih
    | false => simp [hc]

/-- Blanks behind a text are behind its lower-case form. -/
theorem lowerFrom_append_blank {ws : List Char} (h : ∀ c ∈ ws, isBlank c) (afterCased : Bool)
    (cs : List Char) : lowerFrom afterCased (cs ++ ws) = lowerFrom afterCased cs ++ ws := by
  induction cs generalizing afterCased with
  | nil => exact lowerFrom_of_isLower (fun c hc => (blank_spec (h c hc)).1) afterCased
  | cons c cs ih =>
    rw [List.cons_append, lowerFrom, lowerFrom, startsCased_append_blank h, ih]
    simp only [List.append_assoc]

/-- What stands for the last character of a text stands at the end of its lower-case form. -/
theorem lowerFrom_concat (afterCased : Bool) (cs : List Char) (c : Char) :
    ∃ front lowered, lowerFrom afterCased (cs ++ [c]) = front ++ lowered ∧ lowered ≠ [] ∧
      ∀ d ∈ lowered, isBlank d = isBlank c := by
  induction cs generalizing afterCased with
  | nil =>
    obtain ⟨lowered, next, heq, hne, hlowered⟩ := lowerFrom_cons afterCased c []
    exact ⟨[], lowered, by simpa [lowerFrom] using heq, hne, fun d hd => (hlowered d hd).2⟩
  | cons b cs ih =>
    obtain ⟨first, next, heq, -, -⟩ := lowerFrom_cons afterCased b (cs ++ [c])
    obtain ⟨front, lowered, hrest, hne, hlowered⟩ := ih next
    exact ⟨first ++ front, lowered, by rw [List.cons_append, heq, hrest, List.append_assoc], hne,
      hlowered⟩

/-- The lower-case form of a text without blanks at its ends has none there. -/
theorem IsTrimmed.lowerFrom {cs : List Char} (h : IsTrimmed cs) (afterCased : Bool) :
    IsTrimmed (lowerFrom afterCased cs) := by
  constructor
  · cases cs with
    | nil => simp [Text.lowerFrom]
    | cons c cs =>
      obtain ⟨lowered, next, heq, hne, hlowered⟩ := lowerFrom_cons afterCased c cs
      obtain ⟨d, more, rfl⟩ := List.exists_cons_of_ne_nil hne
      have hd : isBlank d = false := by
        rw [(hlowered d List.mem_cons_self).2, h.head c rfl]
      simp [heq, hd]
  · rcases List.eq_nil_or_concat cs with rfl | ⟨front, c, rfl⟩
    · simp [Text.lowerFrom]
    · have hc : isBlank c = false := h.last c (by simp)
      obtain ⟨before, lowered, heq, hne, hlowered⟩ := lowerFrom_concat afterCased front c
      obtain ⟨more, d, rfl⟩ := (List.eq_nil_or_concat lowered).resolve_left hne
      have hd : isBlank d = false := by rw [hlowered d (by simp), hc]
      simp [heq, hd]

/-- The trimmed form of the lower-case form is the lower-case form of the trimmed form. -/
theorem trimmed_lowerFrom (cs : List Char) :
    trimmed (lowerFrom false cs) = lowerFrom false (trimmed cs) := by
  obtain ⟨ws, vs, hws, hvs, hcs⟩ := exists_trimmed cs
  calc trimmed (lowerFrom false cs)
      = trimmed (lowerFrom false (ws ++ trimmed cs ++ vs)) := by rw [← hcs]
    _ = trimmed (ws ++ lowerFrom false (trimmed cs) ++ vs) := by
      rw [lowerFrom_append_blank hvs, lowerFrom_blank_append hws]
    _ = lowerFrom false (trimmed cs) :=
      trimmed_append_of_blank hws hvs ((isTrimmed_trimmed cs).lowerFrom false)

/-- Trimming and lower-casing may change places. -/
theorem trim_lower (s : String) : trim (lower s) = lower (trim s) := by
  rw [trim, lower, String.toList_ofList, trimmed_lowerFrom, lower, toList_trim]

/-- The lower-case form of a proper text is proper. -/
theorem IsProper.lower {s : String} (h : IsProper s) : IsProper (lower s) :=
  ⟨fun hempty => h.1 (lower_eq_empty_iff.1 hempty), by rw [trim_lower, h.2]⟩

/-- Only an asterisk becomes an asterisk. -/
theorem eq_asterisk_of_lowerChar {c : Char} (h : lowerChar c = ['*']) : c = '*' := by
  unfold lowerChar at h
  split at h
  case isTrue => exact absurd h (by decide)
  case isFalse =>
    split at h
    case isTrue hascii =>
      have hall : ∀ n < 0x80, [(Char.ofNat n).toLower] = ['*'] → Char.ofNat n = '*' := by
        decide +kernel
      simpa using hall c.toNat hascii (by simpa using h)
    case isFalse =>
      by_cases hsame : lowerCodePoint c.toNat = c.toNat
      · simpa [hsame] using h
      · have hreached := (mem_of_lowerCodePoint_ne hsame).2
        obtain ⟨hvalid, -⟩ := reachedPoints_valid _ hreached
        have hpoint : lowerCodePoint c.toNat = 0x2A := by
          rw [← toNat_ofNat hvalid, (List.cons.inj h).1]
          rfl
        rw [hpoint] at hreached
        exact absurd hreached (by decide +kernel)

/-- Only a lone asterisk becomes one. -/
theorem lower_eq_asterisk_iff {s : String} : lower s = "*" ↔ s = "*" := by
  constructor
  · intro h
    have hlist : lowerFrom false s.toList = ['*'] := by
      rw [← String.toList_ofList (l := lowerFrom false s.toList), ← lower, h]
      rfl
    cases hs : s.toList with
    | nil =>
      rw [hs] at hlist
      exact absurd hlist (by decide)
    | cons c cs =>
      rw [hs] at hlist
      obtain ⟨lowered, next, heq, hne, -⟩ := lowerFrom_cons false c cs
      have hbehind : lowerFrom next cs = [] := by
        obtain ⟨d, more, rfl⟩ := List.exists_cons_of_ne_nil hne
        rw [heq, List.cons_append] at hlist
        exact (List.append_eq_nil_iff.1 (List.cons.inj hlist).2).2
      obtain rfl := lowerFrom_eq_nil_iff.1 hbehind
      have hc : c = '*' := by
        by_cases hsigma : c = 'Σ'
        · rw [hsigma] at hlist
          exact absurd hlist (by decide +kernel)
        · rw [lowerFrom, if_neg hsigma] at hlist
          exact eq_asterisk_of_lowerChar (by simpa [lowerFrom] using hlist)
      rw [hc] at hs
      exact String.toList_inj.1 hs
  · rintro rfl
    decide +kernel

end Manifest.Text
