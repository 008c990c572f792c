import Manifest.Proofs.JsonFormats
import Manifest.Proofs.KeptContent

/-!
# Target lists of loaded records

The platforms and frameworks of a record that loading ends in are the wildcard alone or distinct
names without it, and no platform has a former name. The host systems are distinct names too. All
names are in lower case and without blanks at their ends (`canonicalTargets_of_load`).

Normalizing leaves a value of an unexpected shape as it is, so what it gives need not be such a list.
But then the value is not a sequence of strings, and validation refuses it: what is read as texts
has tokens (`Field.tokens?_of_texts`).
-/

namespace Manifest

open Json (Members Value)
open Text (lower)
open Manifest.Normal (SettledBy wildcard)

/-! ## What the lists satisfy -/

/-- A list of names, of which none is one of the `former` ones: the wildcard alone, or distinct names
in lower case without it. -/
structure IsTargets (former names : List String) : Prop where
  /-- There is a name. -/
  ne_nil : names ≠ []
  /-- It is the wildcard, or all names are settled and none of them is the wildcard or a former
  name. -/
  names : names = [wildcard] ∨
    SettledBy lower names ∧ wildcard ∉ names ∧ ∀ t ∈ names, t ∉ former

/-- What the target lists of a record satisfy. -/
structure Record.CanonicalTargets (r : Record) : Prop where
  /-- No platform has a former name. -/
  platforms : ∀ names, r.platforms = some names →
    IsTargets (Normal.platformAliases.map (·.1)) names
  /-- Frameworks have no former names. -/
  frameworks : ∀ names, r.frameworks = some names → IsTargets [] names
  /-- Host systems are distinct names in lower case. -/
  system : ∀ names, r.system = some names → SettledBy lower names

namespace Normal

/-- A former name of a platform is mapped to another name. -/
theorem platform_ne_of_former {token : String} (h : token ∈ platformAliases.map (·.1)) :
    platform token ≠ token := by
  have hall : ∀ former ∈ platformAliases.map (·.1), platform former ≠ former := by decide
  exact hall token h

/-- A name that lower-casing and aliases leave as it is is in lower case and not a former name. -/
theorem lower_of_platform_lower {t : String} (h : platform (lower t) = t) :
    lower t = t ∧ t ∉ platformAliases.map (·.1) := by
  have hlower : lower t = t := by
    rcases platform_cases (lower t) with hself | ⟨entry, hentry, heq⟩
    · exact hself.symm.trans h
    · obtain ⟨-, hsettled, -⟩ := platformAliases_settled entry hentry
      rw [← h, heq, hsettled]
  refine ⟨hlower, fun hformer => platform_ne_of_former hformer ?_⟩
  rwa [hlower] at h

/-- Names that are settled by their aliases are settled, and none is a former name. -/
theorem settled_of_platforms {names : List String}
    (h : SettledBy (fun t => platform (lower t)) names) :
    SettledBy lower names ∧ ∀ t ∈ names, t ∉ platformAliases.map (·.1) :=
  ⟨⟨h.proper, fun t ht => (lower_of_platform_lower (h.fixed t ht)).1, h.nodup⟩,
    fun t ht => (lower_of_platform_lower (h.fixed t ht)).2⟩

/-- A list of platforms has no former names. -/
theorem TargetList.isTargets_platform {names : List String} (h : TargetList platform names) :
    IsTargets (platformAliases.map (·.1)) names := by
  refine ⟨h.ne_nil, h.names.imp_right ?_⟩
  rintro ⟨hsettled, hwild⟩
  obtain ⟨hlower, hformer⟩ := settled_of_platforms hsettled
  exact ⟨hlower, hwild, hformer⟩

/-- A list of names without aliases. -/
theorem TargetList.isTargets_id {names : List String} (h : TargetList id names) :
    IsTargets [] names := by
  refine ⟨h.ne_nil, h.names.imp_right ?_⟩
  rintro ⟨hsettled, hwild⟩
  exact ⟨hsettled, hwild, fun _ _ => List.not_mem_nil⟩

end Normal

/-! ## Reading a normal form as texts -/

namespace Field

variable {f : Field} {v w : Value} {names : List String}

/-- The normal form of target names is a list of targets if it is read as texts. -/
theorem targetList_of_texts {resolve : String → String} (hresolve : Normal.Resolves resolve)
    (hw : Normal.targets resolve v = some w) (hread : texts f w = .ok names) :
    Normal.TargetList resolve names := by
  cases htokens : Normal.tokens? v with
  | none =>
    -- The value was left as it is, but what is read as texts has tokens.
    have hself := Normal.targets_of_none htokens resolve
    obtain rfl := Option.some.inj (hself.symm.trans hw)
    exact absurd (htokens.symm.trans (tokens?_of_texts hread)) (by simp)
  | some tokens =>
    obtain ⟨targets, rfl, htargets⟩ := Normal.targetList_of_targets hresolve htokens hw
    obtain rfl := Except.ok.inj ((texts_of_proper htargets.proper).symm.trans hread)
    exact htargets

/-- The normal form of host systems is settled if it is read as texts. -/
theorem settledBy_of_texts (hw : Normal.system v = some w) (hread : texts f w = .ok names) :
    SettledBy lower names := by
  cases htokens : Normal.tokens? v with
  | none =>
    have hself := Normal.system_of_none htokens
    obtain rfl := Option.some.inj (hself.symm.trans hw)
    exact absurd (htokens.symm.trans (tokens?_of_texts hread)) (by simp)
  | some tokens =>
    obtain ⟨systems, rfl, hsystems⟩ := Normal.settledBy_of_system htokens hw
    obtain rfl := Except.ok.inj ((texts_of_proper hsystems.proper).symm.trans hread)
    exact hsystems

end Field

/-- Fields in normal form validate to a record whose target lists are canonical. -/
theorem canonicalTargets_of_fields (raw : Members) :
    (validateLeniently (Normal.fields raw)).record.CanonicalTargets := by
  constructor
  · intro names hnames
    obtain ⟨v, w, -, hw, hread⟩ := exists_of_get_fields (f := .platforms) hnames
    exact (Field.targetList_of_texts Normal.resolves_platform hw hread).isTargets_platform
  · intro names hnames
    obtain ⟨v, w, -, hw, hread⟩ := exists_of_get_fields (f := .frameworks) hnames
    exact (Field.targetList_of_texts Normal.resolves_id hw hread).isTargets_id
  · intro names hnames
    obtain ⟨v, w, -, hw, hread⟩ := exists_of_get_fields (f := .system) hnames
    exact Field.settledBy_of_texts hw hread

/-- Loading in any mode a document of any kind ends in a record whose target lists are
canonical. -/
theorem canonicalTargets_of_load {contents declared : String} {address : Option String}
    {mode : Mode} {found : Validated} (h : load contents declared address mode = .ok found) :
    found.record.CanonicalTargets := by
  obtain ⟨raw, -, rfl⟩ := exists_fields_of_load h
  exact canonicalTargets_of_fields raw

/-- A package with former names of platforms, one of which two of them share, with a wildcard among
its frameworks and with a repeated host system. -/
def formerNames : String :=
  "\x7b\"name\": \"P\", \"version\": \"1.0.0\", \"platforms\": \" AVR,Samd,sam , x\", " ++
    "\"frameworks\": [\"Arduino\", \"*\"], \"system\": [\"Linux\", \"linux\"]\x7d"

/-- Loading it ends in canonical target lists. -/
theorem canonicalTargets_of_load_formerNames :
    ∃ found, load formerNames "package-json" none .lenient = .ok found ∧
      found.record.platforms = some ["atmelavr", "atmelsam", "x"] ∧
      found.record.frameworks = some ["*"] ∧ found.record.system = some ["linux"] ∧
      found.record.CanonicalTargets := by
  have hread : Json.read formerNames = .ok (Members.ofPairs
      [("name", .string "P"), ("version", .string "1.0.0"), ("platforms", .string " AVR,Samd,sam , x"),
        ("frameworks", Value.strings ["Arduino", "*"]),
        ("system", Value.strings ["Linux", "linux"])]).toValue := by
    cbv
  have hdeclared : Kind.ofDeclared? "package-json" = some .packageJson := by
    decide +kernel
  have hload : load formerNames "package-json" none .lenient = .ok
      ⟨{ name := some "P"
         version := some "1.0.0"
         platforms := some ["atmelavr", "atmelsam", "x"]
         frameworks := some ["*"]
         system := some ["linux"] },
        [.missing .description, .missing .keywords, .missing .authors]⟩ := by
    rw [load_of_read hdeclared (by decide) hread]
    rfl
  exact ⟨_, hload, rfl, rfl, rfl, canonicalTargets_of_load hload⟩

end Manifest
