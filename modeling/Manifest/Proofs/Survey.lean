import Manifest.Proofs.Readers
import Manifest.Record.Validation

/-!
# What validation ends in

Validation reads the fields one after the other into a record, and may stop at an error. What it
ends in can be said without going through the fields in order: the errors are those of the single
fields in the order of the fields, the record has the content of every field that has no error
(`get_fill`), and validation fails with the first error that its mode stops at (`validate_eq`).
-/

namespace Manifest

open Json (Members Value)

namespace Validation

variable (members : Members)

/-! ## Single fields -/

/-- The content that a field gets, none where its value is absent or has an error. -/
def content? (f : Field) : Option f.Content :=
  match outcome members f with
  | .ok content => content
  | .error _ => none

/-- The error of a field. -/
def error? (f : Field) : Option FieldError :=
  match outcome members f with
  | .ok _ => none
  | .error e => some e

variable {members}

/-- The content of a field is what reading it gives. -/
theorem content?_eq_some_iff {f : Field} {c : f.Content} :
    content? members f = some c ↔ outcome members f = .ok (some c) := by
  unfold content?
  cases outcome members f <;> simp

/-- The error of a field is the one that reading it gives. -/
theorem error?_eq_some_iff {f : Field} {e : FieldError} :
    error? members f = some e ↔ outcome members f = .error e := by
  unfold error?
  cases outcome members f <;> simp

/-- A field that is absent or null has no content, which is an error if it is mandatory. -/
theorem outcome_of_unset {f : Field}
    (h : members.get? f.label = none ∨ members.get? f.label = some .null) :
    outcome members f = if f.isMandatory then .error (.missing f) else .ok none := by
  unfold outcome
  rcases h with h | h <;> rw [h]

/-- A field with a value that is not null is read from it. -/
theorem outcome_of_some {f : Field} {v : Value} (h : members.get? f.label = some v)
    (hnull : v ≠ .null) : outcome members f = (f.read v).map some := by
  unfold outcome
  rw [h]
  cases v with
  | null => exact absurd rfl hnull
  | _ => rfl

variable (members)

/-- A field gets sound content, or has an error that names it. -/
theorem meets_outcome (f : Field) :
    f.Meets (fun content => ∀ c, content = some c → f.Sound c) (outcome members f) := by
  have habsent : f.Meets (fun content => ∀ c, content = some c → f.Sound c)
      (if f.isMandatory then .error (.missing f) else .ok none) := by
    split
    · rfl
    · intro c hc
      exact absurd hc (by simp)
  unfold outcome
  split
  · exact habsent
  · exact habsent
  · next v _ _ =>
    refine (f.meets_read v).map fun content hcontent c hc => ?_
    rw [← Option.some.inj hc]
    exact hcontent

variable {members}

/-- The content of a field is sound. -/
theorem sound_of_content? {f : Field} {c : f.Content} (h : content? members f = some c) :
    f.Sound c := by
  have hmeets := meets_outcome members f
  rw [content?_eq_some_iff.1 h] at hmeets
  exact hmeets c rfl

/-- The error of a field names it. -/
theorem field_of_error? {f : Field} {e : FieldError} (h : error? members f = some e) :
    e.field = f := by
  have hmeets := meets_outcome members f
  rw [error?_eq_some_iff.1 h] at hmeets
  exact hmeets

/-! ## Several fields -/

variable (members)

/-- The errors of some fields. -/
def errors (fs : List Field) : List FieldError :=
  fs.filterMap (error? members)

/-- A record after the contents of some fields were put into it. -/
def fill : Record → List Field → Record
  | r, [] => r
  | r, f :: rest =>
    match outcome members f with
    | .ok content => fill (r.set f content) rest
    | .error _ => fill r rest

/-- A survey fails with the first error that its mode stops at. If there is none, it adds all
contents and all errors to what was found before. -/
theorem survey_eq (mode : Mode) (found : Validated) (fs : List Field) :
    survey mode members found fs =
      match (errors members fs).find? mode.stopsAt with
      | some e => .error e
      | none => .ok ⟨fill members found.record fs, found.errors ++ errors members fs⟩ := by
  -- What was found before is arbitrary, for each field adds to it.
  induction fs generalizing found with
  | nil => simp [survey, errors, fill]
  | cons f rest ih =>
    cases hout : outcome members f with
    | ok content =>
      have herrors : errors members (f :: rest) = errors members rest := by
        simp [errors, error?, hout]
      rw [survey, hout]
      dsimp only
      rw [ih, herrors, fill, hout]
    | error e =>
      have herrors : errors members (f :: rest) = e :: errors members rest := by
        simp [errors, error?, hout]
      rw [survey, hout]
      dsimp only
      -- The error is the first one, at which the mode stops or not.
      rw [herrors, fill, hout, List.find?_cons]
      cases hstop : mode.stopsAt e with
      | true => rfl
      | false =>
        rw [ih]
        simp only [Bool.false_eq_true, if_false, List.append_assoc, List.singleton_append]

variable {members}

/-- The errors of some fields name those fields that have one, in their order. -/
theorem map_field_errors (fs : List Field) :
    (errors members fs).map FieldError.field = fs.filter fun f => (error? members f).isSome := by
  induction fs with
  | nil => rfl
  | cons f rest ih =>
    cases herror : error? members f with
    | none => simpa [errors, herror] using ih
    | some e => simpa [errors, herror, field_of_error? herror] using ih

/-- Fields that are not put into a record stay as they are. -/
theorem get_fill_of_notMem {r : Record} {f : Field} {fs : List Field} (h : f ∉ fs) :
    (fill members r fs).get f = r.get f := by
  induction fs generalizing r with
  | nil => rfl
  | cons g rest ih =>
    obtain ⟨hne, hrest⟩ := List.ne_and_not_mem_of_not_mem_cons h
    rw [fill]
    split
    · rw [ih hrest, Record.get_set_of_ne _ _ hne]
    · exact ih hrest

/-- Fields that are put into a record where they are absent have their own content. -/
theorem get_fill {r : Record} {f : Field} {fs : List Field} (hmem : f ∈ fs) (hnodup : fs.Nodup)
    (habsent : r.get f = none) : (fill members r fs).get f = content? members f := by
  induction fs generalizing r with
  | nil => exact absurd hmem List.not_mem_nil
  | cons g rest ih =>
    obtain ⟨hnot, hrest⟩ := List.nodup_cons.1 hnodup
    rw [fill]
    by_cases hfg : f = g
    · -- Later fields are other ones, so what is put in here stays.
      subst hfg
      unfold content?
      cases outcome members f with
      | ok content => rw [get_fill_of_notMem hnot, Record.get_set_self]
      | error e => rw [get_fill_of_notMem hnot, habsent]
    · have hin : f ∈ rest := (List.mem_cons.1 hmem).resolve_left hfg
      split
      · exact ih hin hrest (by rw [Record.get_set_of_ne _ _ hfg, habsent])
      · exact ih hin hrest habsent

end Validation

/-! ## All fields -/

/-- Every field is checked. -/
theorem Field.mem_checkOrder (f : Field) : f ∈ checkOrder := by
  cases f <;> decide

/-- No field is checked twice. -/
theorem Field.nodup_checkOrder : checkOrder.Nodup := by
  decide

/-- An error ends strict validation if it is about a mandatory field. -/
theorem Mode.strict_stopsAt (e : FieldError) : strict.stopsAt e = e.field.isMandatory := by
  cases e <;> rfl

/-- Reading every field gives each of them its own content. -/
theorem Validation.get_fill_checkOrder (members : Members) (f : Field) :
    (fill members {} Field.checkOrder).get f = content? members f := by
  have habsent : Record.get {} f = none := by cases f <;> rfl
  exact get_fill f.mem_checkOrder Field.nodup_checkOrder habsent

/-- Lenient validation collects what there is in every field. -/
theorem validateLeniently_eq (members : Members) :
    validateLeniently members =
      ⟨Validation.dropRepeatedHomepage (Validation.fill members {} Field.checkOrder),
        Validation.errors members Field.checkOrder⟩ := by
  have hnone : (Validation.errors members Field.checkOrder).find? Mode.lenient.stopsAt = none :=
    List.find?_eq_none.2 fun e _ => Bool.false_ne_true
  unfold validateLeniently validate
  rw [Validation.survey_eq, hnone]
  rfl

/-- Validation in any mode is lenient validation, except that it fails with the first error that the
mode stops at. -/
theorem validate_eq (members : Members) (mode : Mode) :
    validate members mode =
      match (validateLeniently members).errors.find? mode.stopsAt with
      | some e => .error e
      | none => .ok (validateLeniently members) := by
  rw [validateLeniently_eq]
  unfold validate
  rw [Validation.survey_eq]
  cases (Validation.errors members Field.checkOrder).find? mode.stopsAt <;> rfl

/-- Validation that succeeds ends in what lenient validation ends in. -/
theorem eq_validateLeniently {members : Members} {mode : Mode} {found : Validated}
    (h : validate members mode = .ok found) : found = validateLeniently members := by
  rw [validate_eq] at h
  split at h
  · exact absurd h (by simp)
  · exact (Except.ok.inj h).symm

/-- Lenient validation never fails. -/
theorem validate_lenient (members : Members) :
    validate members .lenient = .ok (validateLeniently members) := by
  have hnone : (validateLeniently members).errors.find? Mode.lenient.stopsAt = none :=
    List.find?_eq_none.2 fun e _ => Bool.false_ne_true
  rw [validate_eq, hnone]

namespace Validation

/-- Only the page of a record can be dropped. -/
theorem get_dropRepeatedHomepage_of_ne (r : Record) {f : Field} (h : f ≠ .homepage) :
    (dropRepeatedHomepage r).get f = r.get f := by
  unfold dropRepeatedHomepage
  split
  · exact Record.get_set_of_ne r (f := .homepage) none h
  · rfl

/-- What is left after dropping a page was there before. -/
theorem get_of_get_dropRepeatedHomepage {r : Record} {f : Field} {c : f.Content}
    (h : (dropRepeatedHomepage r).get f = some c) : r.get f = some c := by
  by_cases hf : f = .homepage
  · subst hf
    unfold dropRepeatedHomepage at h
    split at h
    · exact absurd h (by simp [Record.get])
    · exact h
  · rw [← get_dropRepeatedHomepage_of_ne r hf]
    exact h

end Validation

/-- What lenient validation puts into a field is the content of that field. -/
theorem content?_of_get {members : Members} {f : Field} {c : f.Content}
    (h : (validateLeniently members).record.get f = some c) :
    Validation.content? members f = some c := by
  rw [validateLeniently_eq] at h
  rw [← Validation.get_fill_checkOrder]
  exact Validation.get_of_get_dropRepeatedHomepage h

/-- A field that is present was read from its value. -/
theorem exists_of_get {members : Members} {f : Field} {c : f.Content}
    (h : (validateLeniently members).record.get f = some c) :
    ∃ v, members.get? f.label = some v ∧ f.read v = .ok c := by
  have houtcome := Validation.content?_eq_some_iff.1 (content?_of_get h)
  by_cases hunset : members.get? f.label = none ∨ members.get? f.label = some .null
  · rw [Validation.outcome_of_unset hunset] at houtcome
    split at houtcome <;> exact absurd houtcome (by simp)
  · obtain ⟨hnone, hnull⟩ := not_or.1 hunset
    obtain ⟨v, hv⟩ := Option.ne_none_iff_exists'.1 hnone
    rw [Validation.outcome_of_some hv fun h => hnull (h ▸ hv)] at houtcome
    obtain ⟨d, hread, hsome⟩ := Decode.map_eq_ok_iff.1 houtcome
    rw [← Option.some.inj hsome]
    exact ⟨v, hv, hread⟩

/-- Every field but the page ends up with its own content. -/
theorem get_validateLeniently_of_ne (members : Members) {f : Field} (h : f ≠ .homepage) :
    (validateLeniently members).record.get f = Validation.content? members f := by
  rw [validateLeniently_eq]
  exact (Validation.get_dropRepeatedHomepage_of_ne _ h).trans
    (Validation.get_fill_checkOrder members f)

/-- The errors of lenient validation name those fields that have one, in the order of the fields. -/
theorem map_field_validateLeniently (members : Members) :
    (validateLeniently members).errors.map FieldError.field =
      Field.checkOrder.filter fun f => (Validation.error? members f).isSome := by
  rw [validateLeniently_eq]
  exact Validation.map_field_errors Field.checkOrder

end Manifest
