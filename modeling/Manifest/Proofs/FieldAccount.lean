import Manifest.Proofs.Survey

/-!
# Accounting for every field

Lenient validation deals with each field exactly once (`validateLeniently_accounts`). A field without
a value is absent, and reported as missing if it is mandatory. A field with a value is present and
no error names it, or it is absent and a single error names it. Only the page can be absent without
an error, and it is so exactly if it is the address of the repository.
-/

namespace Manifest

open Json (Members Value)
open Text (trim)

/-! ## What becomes of one field -/

namespace Validated

variable (found : Validated) (f : Field)

/-- The errors that name a field. -/
def errorsAbout : List FieldError :=
  found.errors.filter fun e => e.field = f

/-- The field is present, and no error names it. -/
def Holds : Prop :=
  (found.record.get f).isSome ∧ found.errorsAbout f = []

/-- The field is absent, and exactly one error names it. -/
def Refuses : Prop :=
  found.record.get f = none ∧ ∃ e, found.errorsAbout f = [e]

/-- The field is absent, and no error names it. -/
def Drops : Prop :=
  found.record.get f = none ∧ found.errorsAbout f = []

end Validated

/-- The value is a text that is not blank and, without the blanks at its ends, the address of the
record's repository. -/
def Record.RepeatsRepository (r : Record) (v : Value) : Prop :=
  ∃ s source, v = .string s ∧ trim s ≠ "" ∧ r.repository = some source ∧ trim s = source.url

/-- What was found accounts for the value that a field has among the members. -/
structure Validated.Accounts (found : Validated) (members : Members) (f : Field) : Prop where
  /-- A field without a value is absent, which is an error if it is mandatory. -/
  unset : members.get? f.label = none ∨ members.get? f.label = some .null →
    found.record.get f = none ∧ found.errorsAbout f = if f.isMandatory then [.missing f] else []
  /-- A field with a value is present, refused or dropped, and dropped only as a page that is the
  repository. -/
  set : ∀ v, members.get? f.label = some v → v ≠ .null →
    (found.Holds f ∨ found.Refuses f ∨ found.Drops f) ∧
      (found.Drops f ↔ f = .homepage ∧ found.record.RepeatsRepository v)

namespace Validation

variable {members : Members}

/-- The errors of different fields that name one of them are the error of that field. -/
theorem filter_errors {f : Field} {fs : List Field} (hmem : f ∈ fs) (hnodup : fs.Nodup) :
    (errors members fs).filter (fun e => e.field = f) = (error? members f).toList := by
  -- Errors of other fields name these, so none of them is kept.
  have hother : ∀ gs : List Field, f ∉ gs →
      (errors members gs).filter (fun e => e.field = f) = [] := by
    intro gs hnot
    refine List.filter_eq_nil_iff.2 fun e he hf => ?_
    obtain ⟨g, hg, herror⟩ := List.mem_filterMap.1 he
    rw [field_of_error? herror, decide_eq_true_eq] at hf
    exact hnot (hf ▸ hg)
  obtain ⟨before, behind, rfl⟩ := List.append_of_mem hmem
  obtain ⟨-, hbehind, hdisjoint⟩ := List.nodup_append.1 hnodup
  have hbefore : f ∉ before := fun h => hdisjoint f h f List.mem_cons_self rfl
  have hsplit : errors members (before ++ f :: behind) =
      errors members before ++ ((error? members f).toList ++ errors members behind) := by
    unfold errors
    rw [List.filterMap_append, List.filterMap_cons]
    cases error? members f <;> rfl
  rw [hsplit, List.filter_append, List.filter_append, hother before hbefore,
    hother behind (List.nodup_cons.1 hbehind).1, List.nil_append, List.append_nil]
  cases herror : error? members f with
  | none => rfl
  | some e => simp [field_of_error? herror]

/-- The page is the repository if both are there and the page is its address. -/
theorem repeatsRepository_iff {r : Record} : repeatsRepository r ↔
    ∃ page source, r.homepage = some page ∧ r.repository = some source ∧ page = source.url := by
  unfold repeatsRepository
  split
  case h_1 page source hpage hsource => simp [hpage, hsource]
  case h_2 hnot =>
    constructor
    · intro h
      exact absurd h (by simp)
    · rintro ⟨page, source, hpage, hsource, -⟩
      exact absurd hsource (hnot page source hpage)

/-- The page that dropping leaves is absent if it was before or if it is the repository. -/
theorem homepage_dropRepeatedHomepage_eq_none_iff {r : Record} :
    (dropRepeatedHomepage r).homepage = none ↔ r.homepage = none ∨ repeatsRepository r := by
  unfold dropRepeatedHomepage
  split
  case isTrue hrepeats => simp [hrepeats]
  case isFalse hother => simp [hother]

/-- Which page dropping leaves depends on the page and the repository alone. -/
theorem homepage_dropRepeatedHomepage_congr {r s : Record} (hpage : r.homepage = s.homepage)
    (hsource : r.repository = s.repository) :
    (dropRepeatedHomepage r).homepage = (dropRepeatedHomepage s).homepage := by
  have hrepeats : repeatsRepository r = repeatsRepository s := by
    unfold repeatsRepository
    rw [hpage, hsource]
  unfold dropRepeatedHomepage
  rw [hrepeats]
  split
  case isTrue => rfl
  case isFalse => exact hpage

end Validation

section

variable (members : Members)

/-- The error of a field is the only one that names it. -/
theorem errorsAbout_validateLeniently (f : Field) :
    (validateLeniently members).errorsAbout f = (Validation.error? members f).toList := by
  unfold Validated.errorsAbout
  rw [validateLeniently_eq]
  exact Validation.filter_errors f.mem_checkOrder Field.nodup_checkOrder

variable {members}

/-- A field without content is absent from the record. -/
theorem get_validateLeniently_of_none {f : Field} (h : Validation.content? members f = none) :
    (validateLeniently members).record.get f = none := by
  cases hget : (validateLeniently members).record.get f with
  | none => rfl
  | some c => exact absurd (h.symm.trans (content?_of_get hget)) (by simp)

/-- A field whose value is refused is absent, and its error is the only one that names it. -/
theorem refuses_of_outcome {f : Field} {e : FieldError}
    (h : Validation.outcome members f = .error e) : (validateLeniently members).Refuses f := by
  have hcontent : Validation.content? members f = none := by
    unfold Validation.content?
    rw [h]
  have herror := Validation.error?_eq_some_iff.2 h
  refine ⟨get_validateLeniently_of_none hcontent, e, ?_⟩
  rw [errorsAbout_validateLeniently, herror]
  rfl

/-- No error names a field whose value is read. -/
theorem errorsAbout_of_outcome {f : Field} {content : Option f.Content}
    (h : Validation.outcome members f = .ok content) :
    (validateLeniently members).errorsAbout f = [] := by
  have herror : Validation.error? members f = none := by
    unfold Validation.error?
    rw [h]
  rw [errorsAbout_validateLeniently, herror]
  rfl

/-- A field other than the page gets what is read from its value, and no error names it. -/
theorem validateLeniently_of_read_ok {f : Field} {v : Value} {c : f.Content}
    (hf : f ≠ .homepage) (hget : members.get? f.label = some v) (hnull : v ≠ .null)
    (hread : f.read v = .ok c) :
    (validateLeniently members).record.get f = some c ∧
      (validateLeniently members).errorsAbout f = [] := by
  have houtcome := Validation.outcome_of_some hget hnull
  rw [hread] at houtcome
  refine ⟨?_, errorsAbout_of_outcome houtcome⟩
  rw [get_validateLeniently_of_ne members hf]
  exact Validation.content?_eq_some_iff.2 houtcome

/-- A field whose value is not read is absent, and the error about it is the only one. -/
theorem validateLeniently_of_read_error {f : Field} {v : Value} {e : FieldError}
    (hget : members.get? f.label = some v) (hnull : v ≠ .null) (hread : f.read v = .error e) :
    (validateLeniently members).record.get f = none ∧
      (validateLeniently members).errorsAbout f = [e] := by
  have houtcome := Validation.outcome_of_some hget hnull
  rw [hread] at houtcome
  refine ⟨(refuses_of_outcome houtcome).1, ?_⟩
  rw [errorsAbout_validateLeniently, Validation.error?_eq_some_iff.2 houtcome]
  rfl

/-- A page that was read is dropped exactly if it is the address of the repository. -/
theorem homepage_eq_none_iff {page : String}
    (h : Validation.content? members .homepage = some page) :
    (validateLeniently members).record.homepage = none ↔
      ∃ source, (validateLeniently members).record.repository = some source ∧
        page = source.url := by
  have hrepository : (validateLeniently members).record.repository =
      (Validation.fill members {} Field.checkOrder).repository := by
    rw [validateLeniently_eq]
    exact Validation.get_dropRepeatedHomepage_of_ne _ (f := .repository) (by decide)
  have hpage : (Validation.fill members {} Field.checkOrder).homepage = some page :=
    (Validation.get_fill_checkOrder members .homepage).trans h
  have hdropped : (validateLeniently members).record.homepage =
      (Validation.dropRepeatedHomepage
        (Validation.fill members {} Field.checkOrder)).homepage := by
    rw [validateLeniently_eq]
  rw [hdropped, Validation.homepage_dropRepeatedHomepage_eq_none_iff,
    Validation.repeatsRepository_iff, hrepository, hpage]
  simp [and_comm]

/-- A field with a value is accounted for. -/
theorem validateLeniently_set {f : Field} {v : Value} (hget : members.get? f.label = some v)
    (hnull : v ≠ .null) :
    ((validateLeniently members).Holds f ∨ (validateLeniently members).Refuses f ∨
        (validateLeniently members).Drops f) ∧
      ((validateLeniently members).Drops f ↔
        f = .homepage ∧ (validateLeniently members).record.RepeatsRepository v) := by
  have houtcome := Validation.outcome_of_some hget hnull
  cases hread : f.read v with
  | error e =>
    rw [hread] at houtcome
    have hrefuses := refuses_of_outcome houtcome
    refine ⟨.inr (.inl hrefuses), fun hdrops => ?_, ?_⟩
    · obtain ⟨-, other, hother⟩ := hrefuses
      exact absurd (hdrops.2.symm.trans hother) (by simp)
    · -- A text that is not blank is read as a page.
      rintro ⟨rfl, s, source, rfl, hne, -⟩
      have hok : Field.text .homepage (.string s) = .ok (trim s) :=
        Field.text_eq_ok_iff.2 ⟨s, rfl, hne, rfl⟩
      exact absurd (hread.symm.trans hok) (by simp)
  | ok c =>
    rw [hread] at houtcome
    have herrors := errorsAbout_of_outcome houtcome
    have hcontent := Validation.content?_eq_some_iff.2 houtcome
    have hdrops : (validateLeniently members).Drops f ↔
        f = .homepage ∧ (validateLeniently members).record.RepeatsRepository v := by
      by_cases hf : f = .homepage
      · subst hf
        obtain ⟨s, rfl, hne, rfl⟩ := Field.text_eq_ok_iff.1 hread
        have hnone := homepage_eq_none_iff hcontent
        constructor
        · rintro ⟨habsent, -⟩
          obtain ⟨source, hsource, hurl⟩ := hnone.1 habsent
          exact ⟨rfl, s, source, rfl, hne, hsource, hurl⟩
        · rintro ⟨-, t, source, ht, -, hsource, hurl⟩
          obtain rfl := Value.string.inj ht
          exact ⟨hnone.2 ⟨source, hsource, hurl⟩, herrors⟩
      · refine ⟨fun h => ?_, fun h => absurd h.1 hf⟩
        have habsent := h.1
        rw [get_validateLeniently_of_ne members hf, hcontent] at habsent
        exact absurd habsent (by simp)
    refine ⟨?_, hdrops⟩
    cases hrecord : (validateLeniently members).record.get f with
    | some other => exact .inl ⟨by rw [hrecord]; rfl, herrors⟩
    | none => exact .inr (.inr ⟨hrecord, herrors⟩)

/-- A field without a value is accounted for. -/
theorem validateLeniently_unset {f : Field}
    (h : members.get? f.label = none ∨ members.get? f.label = some .null) :
    (validateLeniently members).record.get f = none ∧
      (validateLeniently members).errorsAbout f =
        if f.isMandatory then [.missing f] else [] := by
  have houtcome := Validation.outcome_of_unset h
  rw [errorsAbout_validateLeniently]
  unfold Validation.error?
  cases hmandatory : f.isMandatory with
  | true =>
    rw [hmandatory, if_pos rfl] at houtcome
    exact ⟨(refuses_of_outcome houtcome).1, by rw [houtcome]; rfl⟩
  | false =>
    rw [hmandatory, if_neg Bool.false_ne_true] at houtcome
    have hcontent : Validation.content? members f = none := by
      unfold Validation.content?
      rw [houtcome]
    exact ⟨get_validateLeniently_of_none hcontent, by rw [houtcome]; rfl⟩

end

/-- Lenient validation accounts for every field, and its errors name fields in the order in which
these are checked, none of them twice. -/
theorem validateLeniently_accounts (members : Members) :
    (∀ f, (validateLeniently members).Accounts members f) ∧
      ((validateLeniently members).errors.map FieldError.field).Sublist Field.checkOrder ∧
      ((validateLeniently members).errors.map FieldError.field).Nodup := by
  have hsublist : ((validateLeniently members).errors.map FieldError.field).Sublist
      Field.checkOrder := by
    rw [map_field_validateLeniently]
    exact List.filter_sublist
  refine ⟨fun f => ⟨validateLeniently_unset, fun v => validateLeniently_set⟩, hsublist, ?_⟩
  exact hsublist.nodup Field.nodup_checkOrder

end Manifest
