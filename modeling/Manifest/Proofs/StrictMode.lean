import Manifest.Proofs.Loading

/-!
# Strict validation as a part of lenient validation

Mandatory fields are checked before all others. So if there is an error about a mandatory field at
all, then the first error is one, and strict validation fails exactly with the first error of
lenient validation. This carries over to loading, where a document that cannot be parsed fails in
both modes alike.
-/

namespace Manifest

open Json (Members)

/-! ## The order of the errors -/

/-- Errors about mandatory fields stand before all others. -/
def MandatoryFirst (errors : List FieldError) : Prop :=
  errors.Pairwise fun x y => y.field.isMandatory → x.field.isMandatory

/-- The first error that ends strict validation is the first one of all or none. -/
theorem MandatoryFirst.find?_stopsAt {errors : List FieldError} (h : MandatoryFirst errors) :
    errors.find? Mode.strict.stopsAt = errors.head?.filter fun e => e.field.isMandatory := by
  cases errors with
  | nil => rfl
  | cons first rest =>
    obtain ⟨hfirst, -⟩ := List.pairwise_cons.1 h
    rw [List.find?_cons, Mode.strict_stopsAt, List.head?_cons, Option.filter_some]
    cases hmandatory : first.field.isMandatory with
    | true => rfl
    | false =>
      -- A later error about a mandatory field would have to stand before the first one.
      refine List.find?_eq_none.2 fun e he hstop => ?_
      rw [Mode.strict_stopsAt] at hstop
      exact absurd (hfirst e he hstop) (by simp [hmandatory])

/-- Lenient validation reports errors about mandatory fields before all others. -/
theorem mandatoryFirst_errors (members : Members) :
    MandatoryFirst (validateLeniently members).errors := by
  have horder : Field.checkOrder.Pairwise fun f g => g.isMandatory → f.isMandatory := by
    decide
  -- The errors name some of the fields, in the order in which these are checked.
  have hsublist : ((validateLeniently members).errors.map FieldError.field).Sublist
      Field.checkOrder := by
    rw [map_field_validateLeniently]
    exact List.filter_sublist
  exact List.pairwise_map.1 (horder.sublist hsublist)

/-- Lenient validation cut at its first error, if that is about a mandatory field. -/
def Validated.cut (found : Validated) : Except FieldError Validated :=
  match found.errors with
  | [] => .ok found
  | first :: _ => if first.field.isMandatory then .error first else .ok found

/-- What is cut fails with the first error, and only if that is about a mandatory field. -/
theorem Validated.cut_eq_error_iff {found : Validated} {e : FieldError} :
    found.cut = .error e ↔ found.errors.head? = some e ∧ e.field.isMandatory := by
  unfold cut
  cases found.errors with
  | nil => simp
  | cons first rest =>
    rw [List.head?_cons, Option.some.injEq]
    dsimp only
    split
    case isTrue hmandatory =>
      constructor
      · intro h
        obtain rfl := Except.error.inj h
        exact ⟨rfl, hmandatory⟩
      · rintro ⟨rfl, -⟩
        rfl
    case isFalse hoptional =>
      constructor
      · intro h
        exact absurd h (by simp)
      · rintro ⟨rfl, hmandatory⟩
        exact absurd hmandatory hoptional

/-- Strict validation is lenient validation, cut. -/
theorem validate_strict (members : Members) :
    validate members .strict = (validateLeniently members).cut := by
  rw [validate_eq, (mandatoryFirst_errors members).find?_stopsAt]
  unfold Validated.cut
  cases (validateLeniently members).errors with
  | nil => rfl
  | cons first rest =>
    rw [List.head?_cons, Option.filter_some]
    cases hmandatory : first.field.isMandatory with
    | true => simp only [if_true, hmandatory]
    | false => simp only [Bool.false_eq_true, if_false, hmandatory]

/-! ## Failures of parsing -/

/-- Mapping a result keeps every error and adds none. -/
theorem map_eq_error_iff {ε α β : Type} {x : Except ε α} {f : α → β} {e : ε} :
    x.map f = .error e ↔ x = .error e := by
  cases x <;> simp [Except.map]

/-- A document that is no object is malformed. -/
theorem Format.members_ne_field (kind : Kind) (contents : String) (e : FieldError) :
    Format.members kind contents ≠ .error (.field e) := by
  unfold Format.members
  split <;> simp

/-- Parsing does not fail with an error about a field. -/
theorem parse_ne_field (contents declared : String) (address : Option String) (e : FieldError) :
    parse contents declared address ≠ .error (.field e) := by
  unfold parse
  split
  case h_1 => simp
  case h_2 kind _ =>
    cases kind with
    | libraryProperties =>
      intro h
      have hplatforms := map_eq_error_iff.1 h
      unfold Format.Properties.platforms at hplatforms
      split at hplatforms
      · exact absurd hplatforms (by simp)
      · split at hplatforms <;> exact absurd hplatforms (by simp)
    | _ =>
      intro h
      exact Format.members_ne_field _ contents e (map_eq_error_iff.1 h)

/-! ## Loading -/

section

variable {contents declared : String} {address : Option String}

/-- Lenient loading fails exactly if parsing does. -/
theorem load_lenient_eq_error_iff {failure : Failure} :
    load contents declared address .lenient = .error failure ↔
      parse contents declared address = .error failure := by
  constructor
  · intro h
    cases hparse : parse contents declared address with
    | error other =>
      rw [load_of_parse_error _ hparse] at h
      rw [Except.error.inj h]
    | ok fields =>
      rw [load_of_parse_ok _ hparse, validate_lenient] at h
      exact absurd h (by simp [Except.mapError])
  · exact load_of_parse_error .lenient

/-- Strict loading fails at a field exactly if the first error of lenient validation is about a
mandatory one. -/
theorem load_strict_eq_field_iff {e : FieldError} :
    load contents declared address .strict = .error (.field e) ↔
      ∃ fields, parse contents declared address = .ok fields ∧
        (validateLeniently fields).errors.head? = some e ∧ e.field.isMandatory := by
  constructor
  · intro h
    cases hparse : parse contents declared address with
    | error other =>
      rw [load_of_parse_error _ hparse] at h
      rw [Except.error.inj h] at hparse
      exact absurd hparse (parse_ne_field contents declared address e)
    | ok fields =>
      rw [load_of_parse_ok _ hparse, validate_strict] at h
      cases hcut : (validateLeniently fields).cut with
      | ok found =>
        rw [hcut] at h
        exact absurd h (by simp [Except.mapError])
      | error cause =>
        rw [hcut] at h
        obtain rfl := Failure.field.inj (Except.error.inj h)
        exact ⟨fields, rfl, Validated.cut_eq_error_iff.1 hcut⟩
  · rintro ⟨fields, hparse, hfirst⟩
    rw [load_of_parse_ok _ hparse, validate_strict, Validated.cut_eq_error_iff.2 hfirst]
    rfl

end

/-- Strict validation is lenient validation cut at its first error, if that is about a mandatory
field, and lenient validation reports such errors before all others. Loading leniently fails exactly
with the failures of parsing, which are failures of strict loading too. Apart from them strict
loading fails exactly with the first error of lenient validation, if that is about a mandatory
field. -/
theorem strict_cuts_lenient (members : Members) (contents declared : String)
    (address : Option String) :
    (validate members .lenient = .ok (validateLeniently members) ∧
      validate members .strict = (validateLeniently members).cut ∧
      MandatoryFirst (validateLeniently members).errors) ∧
    (∀ failure, (load contents declared address .lenient = .error failure ↔
        parse contents declared address = .error failure) ∧
      (parse contents declared address = .error failure →
        load contents declared address .strict = .error failure)) ∧
    ∀ e, load contents declared address .strict = .error (.field e) ↔
      ∃ fields, parse contents declared address = .ok fields ∧
        (validateLeniently fields).errors.head? = some e ∧ e.field.isMandatory :=
  ⟨⟨validate_lenient members, validate_strict members, mandatoryFirst_errors members⟩,
    fun _ => ⟨load_lenient_eq_error_iff, load_of_parse_error .strict⟩,
    fun _ => load_strict_eq_field_iff⟩

end Manifest
