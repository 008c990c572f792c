import Manifest.Load
import Manifest.Proofs.Decoding
import Manifest.Proofs.NormalForm
import Manifest.Proofs.Survey

/-!
# What loading ends in

A document is loaded by parsing it into fields, which is always the normal form of some fields
(`exists_fields_of_parse`), and by validating these. A field of the record that loading ends in was
therefore read from a value that a normal form gave (`exists_of_get_fields`).
-/

namespace Manifest

open Json (Members Value)

section

variable {contents declared : String} {address : Option String}

/-- A document that cannot be parsed cannot be loaded in any mode. -/
theorem load_of_parse_error {failure : Failure} (mode : Mode)
    (h : parse contents declared address = .error failure) :
    load contents declared address mode = .error failure := by
  unfold load
  rw [h]

/-- A document that can be parsed is loaded by validating its fields. -/
theorem load_of_parse_ok {fields : Members} (mode : Mode)
    (h : parse contents declared address = .ok fields) :
    load contents declared address mode = (validate fields mode).mapError Failure.field := by
  unfold load
  rw [h]

/-- Whatever the kind of a document, parsing it ends in fields in their normal form. -/
theorem exists_fields_of_parse {fields : Members}
    (h : parse contents declared address = .ok fields) : ∃ raw, fields = Normal.fields raw := by
  unfold parse at h
  split at h
  case h_1 => exact absurd h (by simp)
  case h_2 kind _ =>
    cases kind with
    | libraryJson | moduleJson | platformJson | packageJson =>
      obtain ⟨raw, -, rfl⟩ := Decode.map_eq_ok_iff.1 h
      exact ⟨_, rfl⟩
    | libraryProperties =>
      obtain ⟨platforms, -, rfl⟩ := Decode.map_eq_ok_iff.1 h
      exact ⟨_, rfl⟩

/-- Loading that succeeds ends in what lenient validation of the parsed fields ends in. -/
theorem exists_fields_of_load {mode : Mode} {found : Validated}
    (h : load contents declared address mode = .ok found) :
    ∃ raw, parse contents declared address = .ok (Normal.fields raw) ∧
      found = validateLeniently (Normal.fields raw) := by
  cases hparse : parse contents declared address with
  | error failure =>
    rw [load_of_parse_error mode hparse] at h
    exact absurd h (by simp)
  | ok fields =>
    obtain ⟨raw, rfl⟩ := exists_fields_of_parse hparse
    rw [load_of_parse_ok mode hparse] at h
    exact ⟨raw, rfl, eq_validateLeniently (Decode.mapError_eq_ok_iff.1 h)⟩

end

/-- A field that is present after normalizing was read from the normal form of its value. -/
theorem exists_of_get_fields {raw : Members} {f : Field} {c : f.Content}
    (h : (validateLeniently (Normal.fields raw)).record.get f = some c) :
    ∃ v w, raw.get? f.label = some v ∧ Normal.normalForm f.label v = some w ∧ f.read w = .ok c := by
  obtain ⟨w, hw, hread⟩ := exists_of_get h
  obtain ⟨v, hv, hnormal⟩ := Normal.exists_of_get?_fields hw
  exact ⟨v, w, hv, hnormal, hread⟩

end Manifest
