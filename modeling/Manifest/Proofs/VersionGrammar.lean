import Mathlib.Algebra.Group.Nat.Defs
import Manifest.Proofs.Cutting
import Manifest.Proofs.Numerals
import Manifest.Proofs.Trimming
import Manifest.Version

/-!
# The grammar of versions

A semantic version is three numerals with dots between them, behind a hyphen the identifiers of a
pre-release, and behind a plus sign those of a build, where each of the latter two may be left out.
`Spells` is this grammar, together with the parts of the version that a text spells. Reading follows
it exactly (`parse?_eq_some_iff`), and the parts that are read, put together again, are the text
(`Spells.text_eq`).

A version consists of identifier characters, dots and plus signs (`Spells.isVersionChar`). In
particular it has no blanks, so that it is its own trimmed form.
-/

namespace Manifest

namespace Version

open Text (isBlank pieces)

/-! ## The grammar -/

/-- A numeral: zero, or digits of which the first is another one. -/
inductive IsNumeral : List Char → Prop
  /-- Zero. -/
  | zero : IsNumeral ['0']
  /-- Digits of a positive number. -/
  | positive {first : Char} {rest : List Char} (hfirst : first.isDigit) (hzero : first ≠ '0')
      (hrest : ∀ c ∈ rest, c.isDigit) : IsNumeral (first :: rest)

/-- The numeral of a number that fits into 64 bits. -/
structure Denotes (cs : List Char) (n : Nat) : Prop where
  /-- It is a numeral. -/
  numeral : IsNumeral cs
  /-- The number is the value of its digits. -/
  value : Nat.ofDigitChars 10 cs 0 = n
  /-- The number fits. -/
  fits : n < 2 ^ 64

/-- An identifier: letters and digits of ASCII and hyphens, one of them at least. -/
structure IsIdentifier (cs : List Char) : Prop where
  /-- There is a character. -/
  nonempty : cs ≠ []
  /-- Every character is a letter, a digit or a hyphen. -/
  chars : ∀ c ∈ cs, c.isAlphanum ∨ c = '-'

/-- An identifier of a pre-release: a numeral, or an identifier that is not made of digits only. -/
inductive IsPreIdentifier : List Char → Prop
  /-- A numeral. -/
  | numeral {cs : List Char} (h : IsNumeral cs) : IsPreIdentifier cs
  /-- An identifier with a character that is no digit. -/
  | word {cs : List Char} (h : IsIdentifier cs) (hword : ∃ c ∈ cs, ¬ c.isDigit) :
      IsPreIdentifier cs

/-- Identifiers with dots between them, if there are any. -/
def joined? (parts : List String) : Option (List Char) :=
  if parts.isEmpty then none else some (dotted parts).toList

/-- What may be left out, with a mark in front of it. -/
def marked (mark : Char) : Option (List Char) → List Char
  | none => []
  | some cs => mark :: cs

/-- The text is a semantic version, and these are its parts. -/
inductive Spells : List Char → Version → Prop
  /-- The parts in their order. -/
  | parts {major minor patch : List Char} {v : Version} (hmajor : Denotes major v.major)
      (hminor : Denotes minor v.minor) (hpatch : Denotes patch v.patch)
      (hpre : ∀ p ∈ v.pre, IsPreIdentifier p.toList)
      (hbuild : ∀ b ∈ v.build, IsIdentifier b.toList) :
      Spells (major ++ '.' :: (minor ++ '.' :: patch) ++ marked '-' (joined? v.pre) ++
        marked '+' (joined? v.build)) v

/-- The text is a semantic version whose numbers fit into 64 bits. -/
def IsSemantic (s : String) : Prop :=
  ∃ v, Spells s.toList v

/-! ## Numerals and identifiers are read as the grammar says -/

/-- A numeral is told by its first digit. -/
theorem isNumeral_iff {cs : List Char} : isNumeral cs ↔ IsNumeral cs := by
  constructor
  · intro h
    simp only [isNumeral, Bool.and_eq_true, Bool.or_eq_true, List.all_eq_true, beq_iff_eq,
      bne_iff_ne, Bool.not_eq_true'] at h
    obtain ⟨⟨hne, hdigits⟩, hfirst⟩ := h
    cases cs with
    | nil => exact absurd hne (by simp)
    | cons first rest =>
      obtain ⟨hdigit, hrest⟩ := List.forall_mem_cons.1 hdigits
      by_cases hzero : first = '0'
      · subst hzero
        have hlen : rest.length = 0 := by simpa using hfirst
        rw [List.length_eq_zero_iff.1 hlen]
        exact .zero
      · exact .positive hdigit hzero hrest
  · intro h
    cases h with
    | zero => decide
    | positive hfirst hzero hrest => simp [isNumeral, hfirst, hzero, List.all_eq_true.2 hrest]

/-- A numeral consists of digits. -/
theorem IsNumeral.isDigit {cs : List Char} (h : IsNumeral cs) : ∀ c ∈ cs, c.isDigit := by
  cases h with
  | zero => exact List.forall_mem_singleton.2 rfl
  | positive hfirst _ hrest => exact List.forall_mem_cons.2 ⟨hfirst, hrest⟩

/-- A numeral is how its value is written. -/
theorem IsNumeral.toDigits_value {cs : List Char} (h : IsNumeral cs) :
    Nat.toDigits 10 (Nat.ofDigitChars 10 cs 0) = cs := by
  cases h with
  | zero => decide
  | positive hfirst hzero hrest => exact Text.toDigits_ofDigitChars hfirst hzero hrest

/-- One of the three numbers is read from its numeral. -/
theorem number?_eq_some_iff {cs : List Char} {n : Nat} : number? cs = some n ↔ Denotes cs n := by
  unfold number?
  by_cases hnumeral : isNumeral cs
  · have hcs := isNumeral_iff.1 hnumeral
    rw [if_pos hnumeral, Text.numeral?_of_isDigit hcs.isDigit, Option.filter_eq_some_iff]
    constructor
    · rintro ⟨hvalue, hfits⟩
      exact ⟨hcs, Option.some.inj hvalue, of_decide_eq_true hfits⟩
    · rintro ⟨-, hvalue, hfits⟩
      exact ⟨congrArg some hvalue, decide_eq_true hfits⟩
  · rw [if_neg hnumeral]
    refine iff_of_false (by simp) fun h => ?_
    exact hnumeral (isNumeral_iff.2 h.numeral)

/-- The characters of the numeral of a number are its digits. -/
theorem Denotes.toDigits_eq {cs : List Char} {n : Nat} (h : Denotes cs n) :
    Nat.toDigits 10 n = cs := by
  rw [← h.value, h.numeral.toDigits_value]

/-- No numeral has this character, which is no digit. -/
theorem Denotes.notMem {cs : List Char} {n : Nat} (h : Denotes cs n) {c : Char}
    (hc : c.isDigit = false) : c ∉ cs :=
  fun hmem => absurd (h.numeral.isDigit c hmem) (by simp [hc])

/-- The identifiers of a build are those of the grammar. -/
theorem isBuildIdentifier_iff {cs : List Char} : isBuildIdentifier cs ↔ IsIdentifier cs := by
  simp only [isBuildIdentifier, Bool.and_eq_true, Bool.not_eq_true', List.all_eq_true,
    isIdentifierChar, Bool.or_eq_true, beq_iff_eq, List.isEmpty_eq_false_iff]
  exact ⟨fun h => ⟨h.1, h.2⟩, fun h => ⟨h.nonempty, h.chars⟩⟩

/-- A numeral is an identifier. -/
theorem IsNumeral.isIdentifier {cs : List Char} (h : IsNumeral cs) : IsIdentifier cs where
  nonempty := by cases h <;> simp
  chars c hc := .inl (Bool.or_eq_true_iff.2 (.inr (h.isDigit c hc)))

/-- The identifiers of a pre-release are identifiers. -/
theorem IsPreIdentifier.isIdentifier {cs : List Char} (h : IsPreIdentifier cs) :
    IsIdentifier cs := by
  cases h with
  | numeral h => exact h.isIdentifier
  | word h => exact h

/-- The identifiers of a pre-release are those of the grammar. -/
theorem isPreIdentifier_iff {cs : List Char} : isPreIdentifier cs ↔ IsPreIdentifier cs := by
  simp only [isPreIdentifier, Bool.and_eq_true, Bool.or_eq_true, Bool.not_eq_true',
    isBuildIdentifier_iff, isNumeral_iff, List.all_eq_false]
  constructor
  · rintro ⟨hidentifier, hword | hnumeral⟩
    · exact .word hidentifier hword
    · exact .numeral hnumeral
  · intro h
    refine ⟨h.isIdentifier, ?_⟩
    cases h with
    | numeral h => exact .inr h
    | word _ hword => exact .inl hword

/-- An identifier has no dot and no plus sign. -/
theorem IsIdentifier.notMem {cs : List Char} (h : IsIdentifier cs) :
    '.' ∉ cs ∧ '+' ∉ cs :=
  ⟨fun hmem => absurd (h.chars _ hmem) (by decide), fun hmem => absurd (h.chars _ hmem) (by decide)⟩

/-! ## Versions are read as the grammar says -/

/-- The characters of identifiers with dots between them. -/
theorem toList_dotted (parts : List String) :
    (dotted parts).toList = ['.'].intercalate (parts.map String.toList) := by
  rw [dotted, String.toList_intercalate]
  rfl

/-- Identifiers are read from what joins them with dots. -/
theorem identifiers?_eq_some_iff {fit : List Char → Bool} (hfit : ∀ cs, fit cs → IsIdentifier cs)
    {cs : List Char} {parts : List String} :
    identifiers? fit cs = some parts ↔
      parts ≠ [] ∧ cs = (dotted parts).toList ∧ ∀ p ∈ parts, fit p.toList := by
  unfold identifiers?
  dsimp only
  rw [toList_dotted]
  constructor
  · intro h
    split at h
    case isFalse => exact absurd h (by simp)
    case isTrue hall =>
      obtain rfl := Option.some.inj h
      have hpieces : ((pieces '.' cs).map String.ofList).map String.toList = pieces '.' cs := by
        simp
      refine ⟨by simpa using Text.pieces_ne_nil '.' cs, ?_, ?_⟩
      · rw [hpieces, Text.intercalate_pieces]
      · intro p hp
        obtain ⟨piece, hpiece, rfl⟩ := List.mem_map.1 hp
        rw [String.toList_ofList]
        exact List.all_eq_true.1 hall piece hpiece
  · rintro ⟨hne, hcs, hparts⟩
    have hpieces : pieces '.' cs = parts.map String.toList := by
      refine Text.pieces_eq_iff.2 ⟨by simpa using hne, fun text htext => ?_, hcs⟩
      obtain ⟨p, hp, rfl⟩ := List.mem_map.1 htext
      exact (hfit _ (hparts p hp)).notMem.1
    have hall : (parts.map String.toList).all fit :=
      List.all_eq_true.2 fun text htext => by
        obtain ⟨p, hp, rfl⟩ := List.mem_map.1 htext
        exact hparts p hp
    rw [hpieces, if_pos hall]
    simp

/-- The identifiers of a part are read from what joins them, and there are none if the part is left
out. -/
theorem part?_eq_some_iff {fit : List Char → Bool} (hfit : ∀ cs, fit cs → IsIdentifier cs)
    {text : Option (List Char)} {parts : List String} :
    part? fit text = some parts ↔ text = joined? parts ∧ ∀ p ∈ parts, fit p.toList := by
  unfold joined?
  cases text with
  | none =>
    cases parts with
    | nil => simp [part?]
    | cons p rest => simp [part?]
  | some cs =>
    rw [part?, identifiers?_eq_some_iff hfit]
    cases parts with
    | nil => simp
    | cons p rest => simp

/-- A part has no characters but its mark, dots and those of its identifiers. -/
theorem mem_marked {mark c : Char} {parts : List String} (h : c ∈ marked mark (joined? parts)) :
    c = mark ∨ c = '.' ∨ ∃ p ∈ parts, c ∈ p.toList := by
  unfold joined? at h
  split at h
  · exact absurd h List.not_mem_nil
  · rcases List.mem_cons.1 h with hmark | h
    · exact .inl hmark
    · rw [toList_dotted] at h
      rcases Text.mem_of_mem_intercalate h with hdot | ⟨text, htext, hc⟩
      · exact .inr (.inl hdot)
      · obtain ⟨p, hp, rfl⟩ := List.mem_map.1 htext
        exact .inr (.inr ⟨p, hp, hc⟩)

/-- A text is cut off at the first mark in it. -/
theorem cutOff_eq_iff {mark : Char} {cs front : List Char} {text : Option (List Char)} :
    cutOff mark cs = (front, text) ↔ mark ∉ front ∧ cs = front ++ marked mark text := by
  unfold cutOff
  constructor
  · intro h
    cases hcut : Text.cut mark cs with
    | none =>
      rw [hcut] at h
      obtain ⟨rfl, rfl⟩ := Prod.mk.inj h
      exact ⟨Text.notMem_of_cut_eq_none hcut, (List.append_nil cs).symm⟩
    | some sides =>
      obtain ⟨before, after⟩ := sides
      rw [hcut] at h
      obtain ⟨rfl, rfl⟩ := Prod.mk.inj h
      exact ⟨Text.notMem_of_cut hcut, Text.eq_append_of_cut hcut⟩
  · rintro ⟨hfront, rfl⟩
    cases text with
    | none => rw [marked, List.append_nil, Text.cut_of_notMem hfront]
    | some cs => rw [marked, Text.cut_append hfront]

/-- Three texts without dots are the pieces of the text that joins them with dots. -/
theorem pieces_eq_three_iff {core major minor patch : List Char} :
    pieces '.' core = [major, minor, patch] ↔
      ('.' ∉ major ∧ '.' ∉ minor ∧ '.' ∉ patch) ∧
        core = major ++ '.' :: (minor ++ '.' :: patch) := by
  rw [Text.pieces_eq_iff]
  simp [List.intercalate_cons_cons]

/-- A version is read from the texts that spell it, and from no other ones. -/
theorem ofList?_eq_some_iff {cs : List Char} {v : Version} :
    ofList? cs = some v ↔ Spells cs v := by
  have hpre : ∀ cs, isPreIdentifier cs → IsIdentifier cs := fun _ h =>
    (isPreIdentifier_iff.1 h).isIdentifier
  have hbuild : ∀ cs, isBuildIdentifier cs → IsIdentifier cs := fun _ => isBuildIdentifier_iff.1
  constructor
  · intro h
    obtain ⟨front, buildText, hplus⟩ : ∃ front text, cutOff '+' cs = (front, text) := ⟨_, _, rfl⟩
    obtain ⟨core, preText, hhyphen⟩ : ∃ core text, cutOff '-' front = (core, text) := ⟨_, _, rfl⟩
    simp only [ofList?, hplus, hhyphen] at h
    split at h
    case h_2 => exact absurd h (by simp)
    case h_1 major minor patch hpieces =>
      simp only [Option.pure_def, Option.bind_eq_bind, Option.bind_eq_some_iff, number?_eq_some_iff,
        part?_eq_some_iff hpre, part?_eq_some_iff hbuild] at h
      obtain ⟨x, hx, y, hy, z, hz, pre, ⟨rfl, hpres⟩, build, ⟨rfl, hbuilds⟩, hv⟩ := h
      obtain ⟨-, rfl⟩ := cutOff_eq_iff.1 hplus
      obtain ⟨-, rfl⟩ := cutOff_eq_iff.1 hhyphen
      obtain ⟨-, rfl⟩ := pieces_eq_three_iff.1 hpieces
      obtain rfl := Option.some.inj hv
      exact .parts (v := ⟨x, y, z, pre, build⟩) hx hy hz
        (fun p hp => isPreIdentifier_iff.1 (hpres p hp))
        (fun b hb => isBuildIdentifier_iff.1 (hbuilds b hb))
  · rintro ⟨hmajor, hminor, hpatch, hpres, hbuilds⟩
    rename_i major minor patch
    have hpieces := pieces_eq_three_iff.2
      ⟨⟨hmajor.notMem rfl, hminor.notMem rfl, hpatch.notMem rfl⟩, rfl⟩
    -- The numerals have neither mark, and identifiers have no plus sign.
    have hhyphen : '-' ∉ major ++ '.' :: (minor ++ '.' :: patch) := by
      simp [hmajor.notMem, hminor.notMem, hpatch.notMem]
    have hplus : '+' ∉ major ++ '.' :: (minor ++ '.' :: patch) ++ marked '-' (joined? v.pre) := by
      have hpart : '+' ∉ marked '-' (joined? v.pre) := by
        intro hmem
        rcases mem_marked hmem with hmark | hdot | ⟨p, hp, hmem⟩
        · exact absurd hmark (by decide)
        · exact absurd hdot (by decide)
        · exact (hpres p hp).isIdentifier.notMem.2 hmem
      simp [hmajor.notMem, hminor.notMem, hpatch.notMem, hpart]
    simp only [ofList?, cutOff_eq_iff.2 ⟨hplus, rfl⟩, cutOff_eq_iff.2 ⟨hhyphen, rfl⟩, hpieces,
      number?_eq_some_iff.2 hmajor, number?_eq_some_iff.2 hminor, number?_eq_some_iff.2 hpatch,
      (part?_eq_some_iff hpre).2 ⟨rfl, fun p hp => isPreIdentifier_iff.2 (hpres p hp)⟩,
      (part?_eq_some_iff hbuild).2 ⟨rfl, fun b hb => isBuildIdentifier_iff.2 (hbuilds b hb)⟩]
    rfl

/-- A version is read from the texts that spell it, and from no other ones. -/
theorem parse?_eq_some_iff {s : String} {v : Version} :
    parse? s = some v ↔ Spells s.toList v :=
  ofList?_eq_some_iff

/-- The texts that are read as a version are the semantic versions. -/
theorem isSome_parse?_iff {s : String} : (parse? s).isSome ↔ IsSemantic s := by
  rw [Option.isSome_iff_exists]
  exact exists_congr fun _ => parse?_eq_some_iff

instance (s : String) : Decidable (IsSemantic s) :=
  decidable_of_iff _ isSome_parse?_iff

/-! ## Versions are written as they were read -/

/-- The digits of a number are the characters of its text. -/
theorem toList_toString (n : Nat) : (toString n).toList = Nat.toDigits 10 n := by
  rw [Nat.toString_eq_repr, Nat.toList_repr]

/-- A part is written with its mark in front, and not at all if there are no identifiers. -/
theorem toList_marked (mark : String) {c : Char} (h : mark.toList = [c]) (parts : List String) :
    (if parts.isEmpty then "" else mark ++ dotted parts).toList = marked c (joined? parts) := by
  unfold joined?
  split
  · rfl
  · rw [String.toList_append, h]
    rfl

/-- The parts of a version, put together, are the text that spells it. -/
theorem Spells.text_eq {s : String} {v : Version} (h : Spells s.toList v) : v.text = s := by
  rw [← String.toList_inj]
  generalize s.toList = cs at h
  obtain ⟨hmajor, hminor, hpatch, -, -⟩ := h
  have hdot : ".".toList = ['.'] := rfl
  have hpre := toList_marked "-" (c := '-') rfl v.pre
  have hbuild := toList_marked "+" (c := '+') rfl v.build
  simp only [text, String.toList_append, toList_toString, hmajor.toDigits_eq, hminor.toDigits_eq,
    hpatch.toDigits_eq, hdot, hpre, hbuild, List.append_assoc, List.cons_append, List.nil_append]

/-! ## Characters of versions -/

/-- A character of a version. A minus is an identifier character. -/
def isVersionChar (c : Char) : Bool :=
  isIdentifierChar c || c == '.' || c == '+'

/-- Versions have no blanks. -/
theorem isBlank_of_isVersionChar {c : Char} (h : isVersionChar c) : isBlank c = false := by
  simp only [isVersionChar, isIdentifierChar, Bool.or_eq_true, beq_iff_eq] at h
  rcases h with ((halnum | rfl) | rfl) | rfl
  · -- Letters and digits are printable ASCII, where the space is the only blank.
    have hrange : 0x21 ≤ c.toNat ∧ c.toNat < 0x80 := by
      change ((decide (c.val ≥ 'A'.val ∧ c.val ≤ 'Z'.val) ||
          (decide (c.val ≥ 'a'.val) && decide (c.val ≤ 'z'.val))) ||
          (decide (c.val ≥ '0'.val) && decide (c.val ≤ '9'.val))) = true at halnum
      simp only [Bool.or_eq_true, Bool.and_eq_true, decide_eq_true_eq, ge_iff_le,
        UInt32.le_iff_toNat_le] at halnum
      have hval : c.toNat = c.val.toNat := rfl
      have hends : 'A'.val.toNat = 65 ∧ 'Z'.val.toNat = 90 ∧ 'a'.val.toNat = 97 ∧
          'z'.val.toNat = 122 ∧ '0'.val.toNat = 48 ∧ '9'.val.toNat = 57 := by decide
      omega
    simp only [isBlank, Bool.or_eq_false_iff, Bool.and_eq_false_iff, decide_eq_false_iff_not,
      beq_eq_false_iff_ne]
    omega
  · decide
  · decide
  · decide

/-- The characters of identifiers are characters of versions. -/
theorem IsIdentifier.isVersionChar {cs : List Char} (h : IsIdentifier cs) :
    ∀ c ∈ cs, isVersionChar c := by
  intro c hc
  rcases h.chars c hc with halnum | rfl
  · simp [Version.isVersionChar, isIdentifierChar, halnum]
  · decide

/-- The characters of a part and its mark are characters of versions if the mark is one. -/
theorem isVersionChar_of_mem_marked (mark : Char) (hmark : isVersionChar mark)
    {parts : List String} (h : ∀ p ∈ parts, IsIdentifier p.toList) :
    ∀ c ∈ marked mark (joined? parts), isVersionChar c := by
  intro c hc
  rcases mem_marked hc with rfl | rfl | ⟨p, hp, hc⟩
  · exact hmark
  · decide
  · exact (h p hp).isVersionChar c hc

/-- A version consists of characters of versions. -/
theorem Spells.isVersionChar {cs : List Char} {v : Version} (h : Spells cs v) :
    ∀ c ∈ cs, isVersionChar c := by
  obtain ⟨hmajor, hminor, hpatch, hpre, hbuild⟩ := h
  have hnumber : ∀ {cs n}, Denotes cs n → ∀ c ∈ cs, Version.isVersionChar c := fun h =>
    h.numeral.isIdentifier.isVersionChar
  have hpre := isVersionChar_of_mem_marked '-' (by decide) fun p hp => (hpre p hp).isIdentifier
  have hbuild := isVersionChar_of_mem_marked '+' (by decide) hbuild
  have hdot : Version.isVersionChar '.' := by decide
  simp only [List.forall_mem_append, List.forall_mem_cons]
  exact ⟨⟨⟨hnumber hmajor, hdot, hnumber hminor, hdot, hnumber hpatch⟩, hpre⟩, hbuild⟩

/-- A text that is read as a version has no blanks at its ends. -/
theorem trim_of_parse? {s : String} (h : (parse? s).isSome) : Text.trim s = s := by
  obtain ⟨v, hspells⟩ := isSome_parse?_iff.1 h
  have hsolid : Text.Solid s.toList := fun c hc =>
    isBlank_of_isVersionChar (hspells.isVersionChar c hc)
  exact hsolid.trim_eq

/-- A version has two dots. -/
theorem Spells.two_le_count {cs : List Char} {v : Version} (h : Spells cs v) :
    2 ≤ cs.count '.' := by
  cases h with
  | parts => simp only [List.count_append, List.count_cons_self]; omega

end Version

end Manifest
