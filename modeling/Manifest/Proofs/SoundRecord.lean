import Manifest.Proofs.Survey

/-!
# What every record satisfies

The record that validation ends in is sound, whatever the members were and in whatever mode they
were validated: the content of each field is sound by itself (`Field.Sound`), and the page is not
the repository.
-/

namespace Manifest

open Json (Members Value)

/-- What the fields of a record satisfy. -/
structure Record.Sound (r : Record) : Prop where
  /-- Each field that is present has sound content. -/
  contents : ∀ f c, r.get f = some c → f.Sound c
  /-- The page is not the address of the repository. -/
  homepage_ne : ∀ page source, r.homepage = some page → r.repository = some source →
    page ≠ source.url

namespace Validation

/-- A page that is left after dropping is not the repository. -/
theorem homepage_ne_of_dropRepeatedHomepage {r : Record} {page : String} {source : Repository}
    (hpage : (dropRepeatedHomepage r).homepage = some page)
    (hsource : (dropRepeatedHomepage r).repository = some source) : page ≠ source.url := by
  unfold dropRepeatedHomepage at hpage hsource
  split at hpage
  case isTrue => exact absurd hpage (by simp)
  case isFalse hother =>
    rw [if_neg hother] at hsource
    intro heq
    refine hother ?_
    unfold repeatsRepository
    rw [hpage, hsource, heq]
    exact beq_self_eq_true source.url

end Validation

/-- Validation ends in a sound record in every mode. -/
theorem sound_of_validate {members : Members} {mode : Mode} {found : Validated}
    (h : validate members mode = .ok found) : found.record.Sound := by
  obtain rfl := eq_validateLeniently h
  constructor
  · intro f c hc
    exact Validation.sound_of_content? (content?_of_get hc)
  · intro page source hpage hsource
    rw [validateLeniently_eq] at hpage hsource
    exact Validation.homepage_ne_of_dropRepeatedHomepage hpage hsource

/-- Members with repeated keywords, an author given as a sequence, a platform with blanks at its
ends, a licence of the wrong type, and a page that is the repository. -/
def repeatedPage : Members :=
  Members.ofPairs
    [("name", .string " Wire "), ("version", .string "1.2.3-rc.1"), ("description", .string "I2C"),
      ("keywords", Value.strings ["B", " b ", "a", ""]),
      ("authors", .array [.array [.string "Ada", .null], .object [("name", .string "Bo")]]),
      ("homepage", .string " https://a.b/c "), ("repository", .array [.string "https://a.b/c"]),
      ("license", .bool true), ("platforms", Value.strings [" avr "])]

set_option maxRecDepth 8000 in
/-- Such members give a sound record, which has no page. -/
theorem sound_of_validate_repeatedPage :
    ∃ found, validate repeatedPage .strict = .ok found ∧ found.record.homepage = none ∧
      found.record.Sound := by
  have hvalidate : validate repeatedPage .strict = .ok
      ⟨{ name := some "Wire"
         version := some "1.2.3-rc.1"
         description := some "I2C"
         repository := some ⟨"https://a.b/c", none, none⟩
         keywords := some ⟨["b", "a"]⟩
         platforms := some ["avr"]
         authors := some [⟨"Ada", none, none, false⟩, ⟨"Bo", none, none, false⟩] },
        [.invalid .license (.notText (.bool true))]⟩ := rfl
  exact ⟨_, hvalidate, rfl, sound_of_validate hvalidate⟩

end Manifest
