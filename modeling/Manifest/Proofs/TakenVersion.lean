import Manifest.Proofs.FieldAccount

/-!
# The version of a record

The value of the version is taken exactly as it is written, blanks at its ends aside, or not at all
(`validateLeniently_takesVersion`). The parts that a version has are the text again when they are
put together, and the error about a value that is refused tells it as it was given.

Only a text is ever taken, although the text of any other value is put to the same test. This goes
by the dots: a version has two of them, and no number is written with more than one
(`Number.count_dot_written`). Sequences and objects start with characters that no version has.
-/

namespace Manifest

/-! ## No value but a text is a version -/

/-- Binary numbers are written with one dot at most. -/
theorem Binary64.count_dot_text (x : Binary64) : x.text.count '.' ≤ 1 := by
  have hdigits : ∀ n, (Nat.toDigits 10 n).count '.' = 0 := Text.count_toDigits rfl
  have hzeros : ∀ n, (List.replicate n '0').count '.' = 0 := fun n =>
    List.count_eq_zero.2 fun hmem => absurd (List.eq_of_mem_replicate hmem) (by decide)
  unfold Binary64.text
  generalize x.shortest = decimal
  obtain ⟨significand, exponent⟩ := decimal
  dsimp only
  have htake : ∀ k, ((Nat.toDigits 10 significand).take k).count '.' = 0 := fun k =>
    Nat.le_zero.1 (((List.take_sublist k _).count_le '.').trans (hdigits _).le)
  have hdrop : ∀ k, ((Nat.toDigits 10 significand).drop k).count '.' = 0 := fun k =>
    Nat.le_zero.1 (((List.drop_sublist k _).count_le '.').trans (hdigits _).le)
  -- The sign, the mark of the exponent and the zeros add no dot to that between the digits.
  split_ifs <;> simp [hdigits, hzeros, htake, hdrop, -List.drop_one]

namespace Json

/-- Integers are written without a dot. -/
theorem Number.count_dot_integer (n : Int) : (integer n).written.count '.' = 0 := by
  show (toString n).toList.count '.' = 0
  rw [Int.toString_eq_repr, Int.repr_eq_if]
  split
  · rw [Nat.toList_repr, Text.count_toDigits rfl]
  · rw [String.toList_append, Nat.toList_repr, List.count_append, Text.count_toDigits rfl]
    rfl

/-- Numbers are written with one dot at most. -/
theorem Number.count_dot_written (n : Number) : n.written.count '.' ≤ 1 := by
  cases n with
  | integer n => exact (count_dot_integer n).trans_le (Nat.zero_le 1)
  | binary x => exact x.count_dot_text

/-- Numbers are written with a character at least. -/
theorem Number.written_ne_nil (n : Number) : n.written ≠ [] := by
  cases n with
  | integer n =>
    show (toString n).toList ≠ []
    rw [Int.toString_eq_repr, Int.repr_eq_if]
    split <;> simp [Nat.toDigits_ne_nil]
  | binary x =>
    show x.text ≠ []
    unfold Binary64.text
    dsimp only
    split_ifs <;> simp

/-- Values are written with a character at least. -/
theorem Value.compact_ne_empty (v : Value) : v.compact ≠ "" := by
  rw [compact, Ne, String.ofList_eq_empty_iff]
  cases v with
  | null => decide
  | bool b => cases b <;> decide
  | number n => exact n.written_ne_nil
  | string | array | object => exact List.cons_ne_nil _ _

end Json

/-- The text of a value that is no string is not a version. -/
theorem Version.not_isSemantic_compact {v : Json.Value} (h : v.text? = none) :
    ¬ IsSemantic v.compact := by
  rintro ⟨version, hspells⟩
  rw [Json.Value.compact, String.toList_ofList] at hspells
  have hfew : ¬ v.written.count '.' ≤ 1 := by
    have htwo := hspells.two_le_count
    omega
  have hchars := hspells.isVersionChar
  cases v with
  | string s => exact absurd h (by simp [Json.Value.text?])
  | null => exact hfew (by decide)
  | bool b => cases b <;> exact hfew (by decide)
  | number n => exact hfew n.count_dot_written
  -- Brackets and braces are no characters of versions.
  | array items => exact absurd (hchars '[' List.mem_cons_self) (by decide)
  | object members => exact absurd (hchars '\x7b' List.mem_cons_self) (by decide)

/-! ## The version of a record -/

open Json (Members Value)
open Text (isBlankText trim)

/-- A text is read as a version if it is one without the blanks at its ends. -/
theorem Field.semanticVersion_string (s : String) :
    semanticVersion (.string s) =
      if isBlankText s then .error (.missing .version)
      else if Version.IsSemantic (trim s) then .ok (trim s)
      else .error (.notSemantic (trim s)) := by
  simp only [semanticVersion, versionText, Text.trim_eq_empty_iff, Version.isSome_parse?_iff]

/-- A value that is no text is not read as a version. -/
theorem Field.semanticVersion_of_text?_eq_none {v : Value} (h : v.text? = none) :
    semanticVersion v = .error (.notSemantic v.compact) := by
  have htext : versionText v = v.compact := by
    cases v with
    | string s => exact absurd h (by simp [Value.text?])
    | _ => rfl
  simp only [semanticVersion, htext, if_neg v.compact_ne_empty, Version.isSome_parse?_iff,
    if_neg (Version.not_isSemantic_compact h)]

/-- A version is read from the texts of semantic versions, blanks at their ends aside, and from
nothing else. -/
theorem Field.semanticVersion_eq_ok_iff {v : Value} {c : String} :
    semanticVersion v = .ok c ↔ ∃ s, v = .string s ∧ Version.IsSemantic (trim s) ∧ c = trim s := by
  cases v with
  | string s =>
    rw [semanticVersion_string]
    have hblank : Version.IsSemantic (trim s) → ¬ isBlankText s := by
      intro hversion hblank
      rw [Text.trim_eq_empty_iff.2 hblank] at hversion
      exact absurd hversion (by decide)
    constructor
    · intro h
      split_ifs at h with _ hversion
      exact ⟨s, rfl, hversion, (Except.ok.inj h).symm⟩
    · rintro ⟨t, ht, hversion, rfl⟩
      obtain rfl := Value.string.inj ht
      rw [if_neg (hblank hversion), if_pos hversion]
  | _ =>
    rw [semanticVersion_of_text?_eq_none rfl]
    refine iff_of_false (by simp) ?_
    rintro ⟨s, hs, -⟩
    exact absurd hs nofun

/-- What became of the value of a version: it is taken as it is written, or an error says why it is
not. -/
structure Validated.TakesVersion (found : Validated) (v : Value) : Prop where
  /-- There is a version exactly if the value is the text of one, blanks at its ends aside. -/
  isSome_iff : found.record.version.isSome ↔ ∃ s, v = .string s ∧ Version.IsSemantic (trim s)
  /-- The version is this text. It has parts, which are the text again when they are put together. -/
  taken : ∀ s, v = .string s → Version.IsSemantic (trim s) →
    found.record.version = some (trim s) ∧ found.errorsAbout .version = [] ∧
      ∃ version, found.record.semver = some version ∧
        Version.Spells (trim s).toList version ∧ version.text = trim s
  /-- A blank text is a missing version. -/
  blank : ∀ s, v = .string s → isBlankText s → found.errorsAbout .version = [.missing .version]
  /-- Any other text is told in the error, without the blanks at its ends. -/
  refused : ∀ s, v = .string s → ¬ isBlankText s → ¬ Version.IsSemantic (trim s) →
    found.errorsAbout .version = [.notSemantic (trim s)]
  /-- Any other value is told in the error as it is written. -/
  other : v.text? = none → found.errorsAbout .version = [.notSemantic v.compact]

/-- Lenient validation takes a version exactly as it is written or refuses it, and only a text is
ever taken. -/
theorem validateLeniently_takesVersion {members : Members} {v : Value}
    (hget : members.get? "version" = some v) (hnull : v ≠ .null) :
    (validateLeniently members).TakesVersion v := by
  have htaken : ∀ {c}, Field.semanticVersion v = .ok c →
      (validateLeniently members).record.version = some c ∧
        (validateLeniently members).errorsAbout .version = [] :=
    validateLeniently_of_read_ok (f := .version) (by decide) hget hnull
  have hrefused : ∀ {e}, Field.semanticVersion v = .error e →
      (validateLeniently members).record.version = none ∧
        (validateLeniently members).errorsAbout .version = [e] :=
    validateLeniently_of_read_error (f := .version) hget hnull
  constructor
  case isSome_iff =>
    cases hread : Field.semanticVersion v with
    | ok c =>
      obtain ⟨s, hv, hversion, -⟩ := Field.semanticVersion_eq_ok_iff.1 hread
      rw [(htaken hread).1]
      exact iff_of_true rfl ⟨s, hv, hversion⟩
    | error e =>
      rw [(hrefused hread).1]
      refine iff_of_false (by simp) ?_
      rintro ⟨s, hv, hversion⟩
      have hok := Field.semanticVersion_eq_ok_iff.2 ⟨s, hv, hversion, rfl⟩
      exact absurd (hread.symm.trans hok) (by simp)
  case taken =>
    intro s hv hversion
    obtain ⟨hrecord, herrors⟩ := htaken (Field.semanticVersion_eq_ok_iff.2 ⟨s, hv, hversion, rfl⟩)
    obtain ⟨version, hspells⟩ := hversion
    refine ⟨hrecord, herrors, version, ?_, hspells, hspells.text_eq⟩
    rw [Record.semver, hrecord, Option.bind_some]
    exact Version.parse?_eq_some_iff.2 hspells
  case blank =>
    rintro s rfl hblank
    have hread : Field.semanticVersion (.string s) = .error (.missing .version) := by
      rw [Field.semanticVersion_string, if_pos hblank]
    exact (hrefused hread).2
  case refused =>
    rintro s rfl hblank hversion
    have hread : Field.semanticVersion (.string s) = .error (.notSemantic (trim s)) := by
      rw [Field.semanticVersion_string, if_neg hblank, if_neg hversion]
    exact (hrefused hread).2
  case other =>
    intro htext
    exact (hrefused (Field.semanticVersion_of_text?_eq_none htext)).2

/-- A version with a pre-release and a build, whose last identifier has zeros in front. -/
def releaseCandidate : Members :=
  Members.ofPairs [("version", .string " 1.0.0-rc.1+b.007\n")]

/-- It is taken without the blanks, zeros and all. -/
theorem validateLeniently_takesVersion_releaseCandidate :
    releaseCandidate.get? "version" = some (.string " 1.0.0-rc.1+b.007\n") ∧
      (validateLeniently releaseCandidate).record.version = some "1.0.0-rc.1+b.007" ∧
      (validateLeniently releaseCandidate).record.semver =
        some ⟨1, 0, 0, ["rc", "1"], ["b", "007"]⟩ := by
  have hget : releaseCandidate.get? "version" = some (.string " 1.0.0-rc.1+b.007\n") := rfl
  have htrim : trim " 1.0.0-rc.1+b.007\n" = "1.0.0-rc.1+b.007" := by decide
  have hparts : Version.parse? "1.0.0-rc.1+b.007" =
      some ⟨1, 0, 0, ["rc", "1"], ["b", "007"]⟩ := by decide
  have hversion : Version.IsSemantic (trim " 1.0.0-rc.1+b.007\n") := by
    rw [htrim]
    exact ⟨_, Version.parse?_eq_some_iff.1 hparts⟩
  obtain ⟨hrecord, -⟩ := (validateLeniently_takesVersion hget nofun).taken _ rfl hversion
  rw [htrim] at hrecord
  exact ⟨hget, hrecord, by rw [Record.semver, hrecord, Option.bind_some, hparts]⟩

end Manifest
