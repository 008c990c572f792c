import Manifest.Proofs.SoundRecord
import Manifest.Proofs.UnsetMembers

/-!
# Fields by themselves

Validation reads all fields into one record, and yet what becomes of a field is decided by its own
value alone. The page is the one exception: it is left out where it is the address of the repository,
so the repository has a say in it (`Field.sources`). Members that agree on what decides over a field
get the same content and the same errors for it, whatever else they hold (`fields_by_themselves`).

What a field ends up with can be told without the fields before it (`get_validateLeniently_of_ne`,
`errorsAbout_validateLeniently`), so that only the page needs a look at what follows the reading.
-/

namespace Manifest

open Json (Members Value)

/-- The fields whose values decide over a field: itself, and the repository in the case of the page. -/
def Field.sources : Field → List Field
  | .homepage => [.homepage, .repository]
  | f => [f]

/-- Every field has a say in what becomes of itself. -/
theorem Field.mem_sources_self (f : Field) : f ∈ f.sources := by
  cases f <;> exact List.mem_cons_self

/-- Only the repository has a say in what becomes of another field, and only in the page. -/
theorem Field.eq_of_mem_sources {f g : Field} (h : g ∈ f.sources) :
    g = f ∨ (f = .homepage ∧ g = .repository) := by
  cases f
  case homepage =>
    rcases List.mem_cons.1 h with hpage | hrepository
    · exact .inl hpage
    · exact .inr ⟨rfl, List.mem_singleton.1 hrepository⟩
  all_goals exact .inl (List.mem_singleton.1 h)

/-- Both results have the same content for a field, and the same errors name it. -/
structure Validated.SameAbout (found other : Validated) (f : Field) : Prop where
  /-- The content is the same. -/
  content : found.record.get f = other.record.get f
  /-- The errors are the same. -/
  errors : found.errorsAbout f = other.errorsAbout f

/-- Validating one of the members gives the same for a field as validating the other. -/
structure ValidateAlike (x y : Members) (f : Field) : Prop where
  /-- It does leniently. -/
  lenient : (validateLeniently x).SameAbout (validateLeniently y) f
  /-- It does strictly, if both are accepted. -/
  strict : ∀ found other, validate x .strict = .ok found → validate y .strict = .ok other →
    found.SameAbout other f

/-- What reads the same for all that decides over a field ends up the same. -/
theorem Validated.sameAbout_of_outcome {x y : Members} {f : Field}
    (h : ∀ g ∈ f.sources, Validation.outcome x g = Validation.outcome y g) :
    (validateLeniently x).SameAbout (validateLeniently y) f := by
  have hcontent : ∀ g ∈ f.sources, Validation.content? x g = Validation.content? y g := by
    intro g hg
    unfold Validation.content?
    rw [h g hg]
  have herror : Validation.error? x f = Validation.error? y f := by
    unfold Validation.error?
    rw [h f f.mem_sources_self]
  constructor
  case errors => rw [errorsAbout_validateLeniently, errorsAbout_validateLeniently, herror]
  case content =>
    by_cases hf : f = .homepage
    · -- Both the page and the repository were read the same before the page is dropped or not.
      subst hf
      have hfill : ∀ g ∈ Field.sources .homepage,
          (Validation.fill x {} Field.checkOrder).get g =
            (Validation.fill y {} Field.checkOrder).get g := by
        intro g hg
        rw [Validation.get_fill_checkOrder, Validation.get_fill_checkOrder, hcontent g hg]
      have hpage := hfill .homepage (by decide)
      have hrepository := hfill .repository (by decide)
      rw [validateLeniently_eq, validateLeniently_eq]
      exact Validation.homepage_dropRepeatedHomepage_congr hpage hrepository
    · rw [get_validateLeniently_of_ne x hf, get_validateLeniently_of_ne y hf,
        hcontent f f.mem_sources_self]

/-- Members that agree on all that decides over a field validate alike in it. -/
theorem ValidateAlike.of_get? {x y : Members} {f : Field}
    (h : ∀ g ∈ f.sources, x.get? g.label = y.get? g.label) : ValidateAlike x y f := by
  have hlenient : (validateLeniently x).SameAbout (validateLeniently y) f :=
    Validated.sameAbout_of_outcome fun g hg =>
      Validation.outcome_congr (Members.given?_congr (h g hg))
  refine ⟨hlenient, fun found other hfound hother => ?_⟩
  -- What is accepted strictly is what lenient validation ends in.
  rw [eq_validateLeniently hfound, eq_validateLeniently hother]
  exact hlenient

/-- Fields are validated by themselves. Members with the same value for a field, and in the case of
the page with the same repository, validate alike in this field. So a change of one member changes
the part of the field of that name at most, and the page too if it is the repository. -/
theorem fields_by_themselves (x y : Members) :
    (∀ f, x.get? f.label = y.get? f.label →
      (f = .homepage → x.get? "repository" = y.get? "repository") → ValidateAlike x y f) ∧
    (∀ key, (∀ name, name ≠ key → x.get? name = y.get? name) →
      ∀ f, f.label ≠ key → (f = .homepage → key ≠ "repository") → ValidateAlike x y f) := by
  have hagree : ∀ f, x.get? f.label = y.get? f.label →
      (f = .homepage → x.get? "repository" = y.get? "repository") → ValidateAlike x y f := by
    intro f hself hrepository
    refine .of_get? fun g hg => ?_
    rcases Field.eq_of_mem_sources hg with rfl | ⟨hpage, rfl⟩
    · exact hself
    · exact hrepository hpage
  refine ⟨hagree, fun key hothers f hkey hpage => ?_⟩
  exact hagree f (hothers f.label hkey) fun hf => hothers "repository" (hpage hf).symm

set_option maxRecDepth 8000 in
/-- Another name leaves a page dropped that is the repository. -/
theorem fields_by_themselves_otherName :
    ∃ found other, validate repeatedPage .strict = .ok found ∧
      validate (repeatedPage.insert "name" (.string "Bus")) .strict = .ok other ∧
      found.record.name = some "Wire" ∧ other.record.name = some "Bus" ∧
      found.SameAbout other .homepage := by
  have hothers : ∀ name, name ≠ "name" →
      repeatedPage.get? name = (repeatedPage.insert "name" (.string "Bus")).get? name :=
    fun name hname => (Members.get?_insert_of_ne repeatedPage _ hname.symm).symm
  have halike := (fields_by_themselves repeatedPage (repeatedPage.insert "name" (.string "Bus"))).2
    "name" hothers .homepage (by decide) fun _ => by decide
  have hname : (validate repeatedPage .strict).map (·.record.name) = .ok (some "Wire") := rfl
  have hother : (validate (repeatedPage.insert "name" (.string "Bus")) .strict).map
      (·.record.name) = .ok (some "Bus") := rfl
  obtain ⟨found, hfound, hfoundname⟩ := Decode.map_eq_ok_iff.1 hname
  obtain ⟨other, hotherfound, hothername⟩ := Decode.map_eq_ok_iff.1 hother
  exact ⟨found, other, hfound, hotherfound, hfoundname, hothername,
    halike.strict found other hfound hotherfound⟩

end Manifest
