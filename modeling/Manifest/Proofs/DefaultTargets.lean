import Manifest.Proofs.JsonFormats
import Manifest.Proofs.LoadedTargets
import Manifest.Proofs.PropertyFields

/-!
# Targets by default

Modules and property lists that do not say which platforms and frameworks they are for have targets
by default, so that a record that loading ends in has targets, or there is an error about them. With
property lists this is so whatever they say. A module has targets by default only if nothing is given,
while a list without names that is given is removed by its normal form. Exactly then the record has no
targets, and there is no error about them (`load_defaultTargets`).
-/

namespace Manifest

open Json (Members Value)
open Text (IsProper)

/-- A document gives a list of names, and there is no name in it. -/
def NamesNone (document : Members) (name : String) : Prop :=
  ∃ v, document.get? name = some v ∧ Normal.tokens? v = some []

/-- What was found tells about a list of names: there is a name, or an error about the field. -/
def Validated.Tells (found : Validated) (f : Field) (names? : Option (List String)) : Prop :=
  (∃ names, names? = some names ∧ names ≠ []) ∨ ∃ e ∈ found.errors, e.field = f

/-! ## Normal forms -/

namespace Normal

/-- Target names are null only if they were. -/
theorem targets_ne_null {resolve : String → String} {v : Value} (h : v ≠ .null) :
    targets resolve v ≠ some .null := by
  unfold targets
  split
  · simpa using h
  · dsimp only
    split
    · simp [Value.strings]
    · simp [present?, Value.strings]

/-- Target names with a default are given after normalizing, unless the document gives a list without
names. -/
theorem given?_fields_of_default {resolve : String → String} {name default : String}
    {members document : Members} (hnormal : normalForm name = targets resolve)
    (hproper : IsProper default)
    (hget : members.get? name = some ((document.given? name).getD (Value.strings [default]))) :
    (fields members).given? name ≠ none ↔ ¬ NamesNone document name := by
  have hdefault : tokens? (Value.strings [default]) = some [default] :=
    tokens?_strings fun t ht => List.mem_singleton.1 ht ▸ hproper
  rw [not_iff_not, Members.given?_eq_none_iff, get?_fields, hget, Option.bind_some, hnormal]
  cases hgiven : document.given? name with
  | none =>
    -- The default has a name, and null is no list.
    rw [Option.getD_none, targets_eq_none_iff, hdefault]
    refine iff_of_false ?_ ?_
    · simp [targets_ne_null (show Value.strings [default] ≠ .null by simp [Value.strings])]
    · rintro ⟨v, hv, htokens⟩
      rcases Members.given?_eq_none_iff.1 hgiven with hnone | hnull
      · exact absurd (hv.symm.trans hnone) (by simp)
      · obtain rfl := Option.some.inj (hv.symm.trans hnull)
        exact absurd htokens (by simp [tokens?])
  | some v =>
    obtain ⟨hv, hnull⟩ := Members.given?_eq_some_iff.1 hgiven
    rw [Option.getD_some, or_iff_left (targets_ne_null hnull), targets_eq_none_iff]
    constructor
    · exact fun htokens => ⟨v, hv, htokens⟩
    · rintro ⟨w, hw, htokens⟩
      obtain rfl := Option.some.inj (hv.symm.trans hw)
      exact htokens

end Normal

/-! ## Records -/

/-- An optional field other than the page is present, or an error names it, exactly if it is given. -/
theorem isSome_get_or_error_iff {members : Members} {f : Field} (hpage : f ≠ .homepage)
    (hoptional : f.isMandatory = false) :
    ((validateLeniently members).record.get f).isSome ∨
        (∃ e ∈ (validateLeniently members).errors, e.field = f) ↔
      members.given? f.label ≠ none := by
  have herrors : (∃ e ∈ (validateLeniently members).errors, e.field = f) ↔
      (validateLeniently members).errorsAbout f ≠ [] := by
    simp [Validated.errorsAbout, List.filter_eq_nil_iff]
  rw [herrors]
  constructor
  · intro htold hnone
    obtain ⟨habsent, hquiet⟩ := validateLeniently_unset (Members.given?_eq_none_iff.1 hnone)
    rw [hoptional] at hquiet
    rcases htold with hsome | hnamed
    · exact absurd hsome (by simp [habsent])
    · exact hnamed hquiet
  · intro hgiven
    obtain ⟨v, hv⟩ := Option.ne_none_iff_exists'.1 hgiven
    obtain ⟨hget, hnull⟩ := Members.given?_eq_some_iff.1 hv
    obtain ⟨hholds | ⟨-, e, herror⟩ | hdrops, hpages⟩ := validateLeniently_set hget hnull
    · exact .inl hholds.1
    · exact .inr (by simp [herror])
    · exact absurd (hpages.1 hdrops).1 hpage

/-- Targets of a record are not an empty list. -/
theorem exists_targets_iff {former : List String} {names? : Option (List String)}
    (h : ∀ names, names? = some names → IsTargets former names) :
    (∃ names, names? = some names ∧ names ≠ []) ↔ names?.isSome := by
  rw [Option.isSome_iff_exists]
  constructor
  · rintro ⟨names, hnames, -⟩
    exact ⟨names, hnames⟩
  · rintro ⟨names, hnames⟩
    exact ⟨names, hnames, (h names hnames).ne_nil⟩

/-- Validation tells about the targets in a field exactly if they are given. -/
theorem tells_iff {members : Members} {f : Field} {former : List String}
    (names? : Record → Option (List String)) (hpage : f ≠ .homepage)
    (hoptional : f.isMandatory = false) (hsame : ∀ r, (names? r).isSome = (r.get f).isSome)
    (htargets : ∀ names, names? (validateLeniently members).record = some names →
      IsTargets former names) :
    (validateLeniently members).Tells f (names? (validateLeniently members).record) ↔
      members.given? f.label ≠ none := by
  unfold Validated.Tells
  rw [exists_targets_iff htargets, hsame]
  exact isSome_get_or_error_iff hpage hoptional

/-! ## Modules and property lists -/

namespace Format.Module

/-- Modules that do not say so are for all platforms. -/
theorem get?_ofDocument_platforms (document : Members) :
    (ofDocument document).get? "platforms" =
      some ((document.given? "platforms").getD (Value.strings ["*"])) := by
  rw [get?_ofDocument_of_ne (by decide), withDefaults, Members.get?_insertNew, if_neg (by decide),
    Members.get?_insertNew, if_neg (by decide), Members.get?_insertNew, if_pos rfl,
    get?_withLicense_of_ne (by decide), get?_taken, if_pos (by decide)]

/-- Modules that do not say so are for the framework of their world. -/
theorem get?_ofDocument_frameworks (document : Members) :
    (ofDocument document).get? "frameworks" =
      some ((document.given? "frameworks").getD (Value.strings ["mbed"])) := by
  rw [get?_ofDocument_of_ne (by decide), withDefaults, Members.get?_insertNew, if_neg (by decide),
    Members.get?_insertNew, if_pos rfl, Members.get?_insertNew, if_neg (by decide),
    get?_withLicense_of_ne (by decide), get?_taken, if_pos (by decide)]

/-- Loading tells about the targets of a module unless it gives lists without names. -/
theorem tells_targets_iff (document : Members) :
    let found := validateLeniently (Normal.fields (ofDocument document))
    (found.Tells .platforms found.record.platforms ↔ ¬ NamesNone document "platforms") ∧
      (found.Tells .frameworks found.record.frameworks ↔ ¬ NamesNone document "frameworks") := by
  have hcanonical := canonicalTargets_of_fields (ofDocument document)
  have hplatform : Normal.normalForm "platforms" = Normal.targets Normal.platform := rfl
  have hplatforms :=
    Normal.given?_fields_of_default hplatform (by decide) (get?_ofDocument_platforms document)
  have hframework : Normal.normalForm "frameworks" = Normal.targets id := rfl
  have hframeworks :=
    Normal.given?_fields_of_default hframework (by decide) (get?_ofDocument_frameworks document)
  -- What is said about the fields is all that is needed, and they are long to unfold.
  generalize Normal.fields (ofDocument document) = fields at hcanonical hplatforms hframeworks ⊢
  intro found
  rw [← hplatforms, ← hframeworks]
  constructor
  · exact tells_iff Record.platforms (by decide) rfl (fun _ => rfl) hcanonical.platforms
  · exact tells_iff Record.frameworks (by decide) rfl (fun _ => rfl) hcanonical.frameworks

end Format.Module

/-- Loading a property list tells about its targets, whatever the list says. -/
theorem Format.Properties.tells_targets {properties : Json.Pairs String} {found : Value}
    (hproper : ProperValues properties) (hplatforms : platforms properties = .ok found)
    (address : Option String) :
    let found := validateLeniently (Normal.fields
      (ofProperties properties (address.bind Remote.ofAddress?) found))
    found.Tells .platforms found.record.platforms ∧
      found.Tells .frameworks found.record.frameworks := by
  have hsome := fun f => isSome_get_of_value? (f := f) address hproper hplatforms
  have hcanonical := canonicalTargets_of_fields
    (ofProperties properties (address.bind Remote.ofAddress?) found)
  constructor
  · refine .inl ((exists_targets_iff hcanonical.platforms).2 ?_)
    exact hsome .platforms (by decide) (by decide) rfl
  · refine .inl ((exists_targets_iff hcanonical.frameworks).2 ?_)
    exact hsome .frameworks (by decide) (by decide) rfl

/-- When a property list was loaded, it has platforms and frameworks, or there are errors about these.
So it is with a module, exactly if it gives no list of them without a name. -/
theorem load_defaultTargets {contents declared : String} {address : Option String} {mode : Mode}
    {found : Validated} (h : load contents declared address mode = .ok found) :
    (Kind.ofDeclared? declared = some .libraryProperties →
        found.Tells .platforms found.record.platforms ∧
          found.Tells .frameworks found.record.frameworks) ∧
      (Kind.ofDeclared? declared = some .moduleJson →
        ∃ document, Format.members .moduleJson contents = .ok document ∧
          (found.Tells .platforms found.record.platforms ↔ ¬ NamesNone document "platforms") ∧
          (found.Tells .frameworks found.record.frameworks ↔
            ¬ NamesNone document "frameworks")) := by
  obtain ⟨raw, hparse, rfl⟩ := exists_fields_of_load h
  constructor
  · intro hdeclared
    rw [parse_propertyList hdeclared] at hparse
    obtain ⟨platforms, hplatforms, hfields⟩ := Decode.map_eq_ok_iff.1 hparse
    rw [← hfields]
    exact Format.Properties.tells_targets (Format.Properties.properValues_read contents) hplatforms
      address
  · intro hdeclared
    unfold parse at hparse
    rw [hdeclared] at hparse
    obtain ⟨document, hmembers, hfields⟩ := Decode.map_eq_ok_iff.1 hparse
    rw [← hfields]
    exact ⟨document, hmembers, Format.Module.tells_targets_iff document⟩

/-- A module whose platforms are null. -/
def nullPlatforms : String :=
  "\x7b\"name\": \"m\", \"platforms\": null, \"frameworks\": [\" \", \"RTOS\"]\x7d"

set_option maxRecDepth 8000 in
/-- It is for all platforms and for the framework that it gives. A property list whose architectures
are blank has targets too. -/
theorem load_defaultTargets_nullPlatforms :
    (∃ found, load nullPlatforms "module-json" none .lenient = .ok found ∧
        found.record.platforms = some ["*"] ∧ found.record.frameworks = some ["rtos"] ∧
        found.Tells .platforms found.record.platforms ∧
        found.Tells .frameworks found.record.frameworks) ∧
      ∃ found, load "architectures= , \n" "library-properties" none .lenient = .ok found ∧
        found.Tells .platforms found.record.platforms ∧
        found.Tells .frameworks found.record.frameworks := by
  constructor
  · have hdeclared : Kind.ofDeclared? "module-json" = some .moduleJson := rfl
    have hread : Json.read nullPlatforms = .ok (Members.ofPairs [("name", .string "m"),
        ("platforms", .null), ("frameworks", Value.strings [" ", "RTOS"])]).toValue := by
      cbv
    have hload : load nullPlatforms "module-json" none .lenient = .ok
        ⟨{ name := some "m"
           platforms := some ["*"]
           frameworks := some ["rtos"]
           exportRules := some ⟨none, some Format.Module.defaultExclude⟩ },
          [.missing .version, .missing .description, .missing .keywords, .missing .authors]⟩ := by
      rw [load_of_read hdeclared (by decide) hread]
      with_unfolding_all rfl
    obtain ⟨document, hmembers, hplatforms, hframeworks⟩ :=
      (load_defaultTargets hload).2 hdeclared
    obtain rfl := Except.ok.inj ((Format.members_of_read hread .moduleJson).symm.trans hmembers)
    refine ⟨_, hload, rfl, rfl, hplatforms.2 ?_, hframeworks.2 ?_⟩
    · rintro ⟨v, hv, htokens⟩
      obtain rfl : Value.null = v := Option.some.inj hv
      exact absurd htokens (by simp [Normal.tokens?])
    · rintro ⟨v, hv, htokens⟩
      obtain rfl : Value.strings [" ", "RTOS"] = v := Option.some.inj hv
      have hone : Normal.tokens? (Value.strings [" ", "RTOS"]) = some ["RTOS"] := rfl
      exact absurd (hone.symm.trans htokens) (by simp)
  · have hload : load "architectures= , \n" "library-properties" none .lenient = .ok
        ⟨{ keywords := some ⟨["uncategorized"]⟩
           platforms := some ["*"]
           frameworks := some ["arduino"]
           exportRules := some ⟨none, some Format.Properties.defaultExclude⟩ },
          [.missing .name, .missing .version, .missing .description, .missing .authors]⟩ := rfl
    have hdeclared : Kind.ofDeclared? "library-properties" = some .libraryProperties := by
      decide
    exact ⟨_, hload, (load_defaultTargets hload).1 hdeclared⟩

/-- A module whose platforms are blank. -/
def blankPlatforms : String :=
  "\x7b\"name\": \"m\", \"version\": \"1.0.0\", \"description\": \"D\", \"keywords\": [\"k\"], " ++
    "\"authors\": [\x7b\"name\": \"A\"\x7d], \"platforms\": \"\"\x7d"

set_option maxRecDepth 8000 in
/-- It is loaded without platforms, and without any error. -/
theorem load_blankPlatforms :
    ∃ found, load blankPlatforms "module-json" none .lenient = .ok found ∧
      found.record.platforms = none ∧ found.errors = [] ∧
      ¬ found.Tells .platforms found.record.platforms := by
  have hread : Json.read blankPlatforms = .ok (Members.ofPairs [("name", .string "m"),
      ("version", .string "1.0.0"), ("description", .string "D"), ("keywords", Value.strings ["k"]),
      ("authors", .array [.object [("name", .string "A")]]), ("platforms", .string "")]).toValue := by
    cbv
  have hload : load blankPlatforms "module-json" none .lenient = .ok
      ⟨{ name := some "m"
         version := some "1.0.0"
         description := some "D"
         keywords := some ⟨["k"]⟩
         authors := some [⟨"A", none, none, false⟩]
         frameworks := some ["mbed"]
         exportRules := some ⟨none, some Format.Module.defaultExclude⟩ }, []⟩ := by
    have hdeclared : Kind.ofDeclared? "module-json" = some .moduleJson := rfl
    rw [load_of_read hdeclared (by decide) hread]
    with_unfolding_all rfl
  refine ⟨_, hload, rfl, rfl, ?_⟩
  rintro (⟨names, hnames, -⟩ | ⟨e, he, -⟩)
  · exact absurd hnames (by simp)
  · exact absurd he List.not_mem_nil

end Manifest
