import Manifest.Proofs.PropertyFields

/-!
# Particle targets

Libraries for Particle targets are not supported, and a property list that has one of these among its
architectures is refused. The architectures are looked at as they are written, but platforms are
stored in lower case. So an architecture that becomes a Particle target only in lower case is not
refused. It gets among the platforms, unless all platforms are meant (`parse_particleTargets`).
-/

namespace Manifest

open Json (Members Pairs Value)
open Text (lower trim)
open Manifest.Normal (wildcard)

namespace Format.Properties

/-- The name is that of a Particle target. -/
def IsParticle (name : String) : Prop :=
  "particle-".toList <+: name.toList

instance (name : String) : Decidable (IsParticle name) :=
  inferInstanceAs (Decidable (_ <+: _))

/-- The architectures that properties name, between commas and without blanks at their ends. -/
def architectures (properties : Pairs String) : List String :=
  ((properties.find? "architectures").map fun value => (Text.split ',' value).map trim).getD []

/-- No architecture is written as a Particle target, but one of them is stored as one. -/
structure Disguised (properties : Pairs String) : Prop where
  /-- None is one as it is written. -/
  written : ∀ name ∈ architectures properties, ¬ IsParticle name
  /-- Some is one in lower case. -/
  stored : ∃ name ∈ architectures properties, IsParticle (lower name)

/-! ## Names in lower case and behind aliases -/

/-- A Particle target stays one in lower case. -/
theorem IsParticle.lower {name : String} (h : IsParticle name) : IsParticle (lower name) := by
  obtain ⟨rest, hrest⟩ := h
  have hfront : ∀ c ∈ "particle-".toList, Text.IsLower c :=
    List.forall_iff_forall_mem.1 (by decide)
  obtain ⟨next, hnext⟩ := Text.lowerFrom_isLower_append hfront false rest
  have hlower : (Text.lower name).toList = Text.lowerFrom false name.toList :=
    String.toList_ofList
  exact ⟨Text.lowerFrom next rest, by rw [hlower, ← hrest, hnext]⟩

/-- No platform that has a former name is a Particle target, and no former name is one. -/
theorem not_isParticle_platformAliases :
    ∀ entry ∈ Normal.platformAliases, ¬ IsParticle entry.1 ∧ ¬ IsParticle entry.2 := by
  decide

/-- Aliases make no Particle targets, and keep those that there are. -/
theorem isParticle_platform_iff {token : String} :
    IsParticle (Normal.platform token) ↔ IsParticle token := by
  constructor
  · intro h
    rcases Normal.platform_cases token with hself | ⟨entry, hentry, htarget⟩
    · rwa [hself] at h
    · rw [htarget] at h
      exact absurd h (not_isParticle_platformAliases entry hentry).2
  · intro h
    have hnone : Normal.platformAliases.lookup token = none := by
      refine List.lookup_eq_none_iff.2 fun entry hentry => ?_
      simp only [bne_iff_ne, ne_eq]
      rintro rfl
      exact (not_isParticle_platformAliases entry hentry).1 h
    rwa [Normal.platform, hnone]

/-! ## What is refused and what is stored -/

/-- The platforms that tokens are stored as have a Particle target among them, exactly if a token is
one in lower case and none is the wildcard. -/
theorem exists_isParticle_iff {v : Value} {tokens names : List String}
    (htokens : Normal.tokens? v = some tokens)
    (hnames : Normal.platforms v = some (Value.strings names)) :
    (∃ name ∈ names, IsParticle name) ↔
      wildcard ∉ tokens ∧ ∃ token ∈ tokens, IsParticle (lower token) := by
  rw [Normal.platforms, Normal.targets_of_tokens? (fun _ => Normal.platform_lower_eq_wildcard_iff)
    htokens] at hnames
  split at hnames
  case isTrue hwild =>
    obtain rfl := Normal.strings_injective (Option.some.inj hnames)
    have hnot : ¬ IsParticle wildcard := by decide
    simp [hwild, hnot]
  case isFalse hwild =>
    obtain ⟨-, hseen⟩ := Normal.present?_eq_some_iff.1 hnames
    obtain rfl := Normal.strings_injective hseen
    simp [hwild, Text.mem_firstSeen, isParticle_platform_iff]

section

variable {properties : Pairs String}

/-- The platforms are refused for an architecture that is a Particle target as it is written. -/
theorem exists_of_platforms_eq_error {failure : Failure} (h : platforms properties = .error failure) :
    ∃ name ∈ architectures properties, IsParticle name ∧ failure = .unsupportedPlatform name := by
  unfold platforms at h
  split at h
  case h_1 => exact absurd h (by simp)
  case h_2 value hvalue =>
    split at h
    case h_2 => exact absurd h (by simp)
    case h_1 name hname =>
      have hmem := List.mem_of_find?_eq_some hname
      have hparticle := List.find?_some hname
      refine ⟨name, ?_, List.isPrefixOf_iff_prefix.1 hparticle, (Except.error.inj h).symm⟩
      rwa [architectures, hvalue]

/-- The tokens of a text are the architectures in it that are not blank, so there is the same wildcard
and the same Particle target among them. -/
theorem tokens?_architectures (value : String) :
    ∃ tokens, Normal.tokens? (.string value) = some tokens ∧
      (wildcard ∈ tokens ↔ wildcard ∈ (Text.split ',' value).map trim) ∧
      ((∃ token ∈ tokens, IsParticle (lower token)) ↔
        ∃ name ∈ (Text.split ',' value).map trim, IsParticle (lower name)) := by
  refine ⟨_, rfl, ?_, ?_⟩
  · rw [Normal.nonBlank, List.mem_filter]
    exact and_iff_left (by decide)
  · have hempty : ¬ IsParticle (lower "") := by decide
    constructor
    · rintro ⟨token, htoken, hparticle⟩
      exact ⟨token, (List.mem_filter.1 htoken).1, hparticle⟩
    · rintro ⟨name, hname, hparticle⟩
      have hne : name ≠ "" := by
        rintro rfl
        exact hempty hparticle
      exact ⟨name, List.mem_filter.2 ⟨hname, decide_eq_true hne⟩, hparticle⟩

/-- Platforms that are not refused are a list of targets. No architecture is a Particle target as it
is written, and a platform is one exactly if an architecture is one in lower case and none is the
wildcard. -/
theorem exists_of_platforms_eq_ok {found : Value} (h : platforms properties = .ok found) :
    (∀ name ∈ architectures properties, ¬ IsParticle name) ∧
      ∃ names, found = Value.strings names ∧ Normal.TargetList Normal.platform names ∧
        ((∃ name ∈ names, IsParticle name) ↔ wildcard ∉ architectures properties ∧
          ∃ name ∈ architectures properties, IsParticle (lower name)) := by
  have hall : Normal.TargetList Normal.platform [wildcard] := ⟨List.cons_ne_nil _ _, .inl rfl⟩
  have hnot : ¬ ∃ name ∈ [wildcard], IsParticle name := by decide
  unfold platforms at h
  split at h
  case h_1 hnone =>
    have hempty : architectures properties = [] := by rw [architectures, hnone]; rfl
    rw [hempty]
    refine ⟨List.forall_mem_nil _, [wildcard], (Except.ok.inj h).symm, hall, iff_of_false hnot ?_⟩
    rintro ⟨-, name, hname, -⟩
    exact absurd hname List.not_mem_nil
  case h_2 value hvalue =>
    have hnamed : architectures properties = (Text.split ',' value).map trim := by
      rw [architectures, hvalue]
      rfl
    obtain ⟨tokens, htokens, hwild, hparticle⟩ := tokens?_architectures value
    rw [hnamed, ← hwild, ← hparticle]
    split at h
    case h_1 => exact absurd h (by simp)
    case h_2 hfind =>
      obtain rfl := Except.ok.inj h
      refine ⟨fun name hname hwritten => ?_, ?_⟩
      · exact List.find?_eq_none.1 hfind name hname (List.isPrefixOf_iff_prefix.2 hwritten)
      cases hnormal : Normal.platforms (.string value) with
      | none =>
        -- There are no tokens, and all platforms are meant.
        obtain rfl := Option.some.inj (htokens.symm.trans (Normal.targets_eq_none_iff.1 hnormal))
        refine ⟨[wildcard], rfl, hall, iff_of_false hnot ?_⟩
        rintro ⟨-, token, htoken, -⟩
        exact absurd htoken List.not_mem_nil
      | some stored =>
        obtain ⟨names, rfl, hnames⟩ :=
          Normal.targetList_of_targets Normal.resolves_platform htokens hnormal
        exact ⟨names, rfl, hnames, exists_isParticle_iff htokens hnormal⟩

end

end Format.Properties

open Format.Properties (Disguised IsParticle architectures read)

/-- Parsing a property list fails exactly if an architecture is a Particle target as it is written,
wherever the list was found, and the failure names such an architecture. To ask for one in lower case
is the same unless all of them are disguised, and only then is a Particle target among the platforms
of a list that can be parsed, which a wildcard keeps from being so. -/
theorem parse_particleTargets {declared : String}
    (hdeclared : Kind.ofDeclared? declared = some .libraryProperties) (contents : String)
    (address : Option String) :
    ((∃ failure, parse contents declared address = .error failure) ↔
        ∃ name ∈ architectures (read contents), IsParticle name) ∧
      (∀ failure, parse contents declared address = .error failure →
        ∃ name ∈ architectures (read contents), IsParticle name ∧
          failure = .unsupportedPlatform name) ∧
      (((∃ failure, parse contents declared address = .error failure) ↔
          ∃ name ∈ architectures (read contents), IsParticle (lower name)) ↔
        ¬ Disguised (read contents)) ∧
      ∀ fields, parse contents declared address = .ok fields →
        ∃ names, fields.get? "platforms" = some (Value.strings names) ∧
          ((∃ name ∈ names, IsParticle name) ↔
            Disguised (read contents) ∧ wildcard ∉ architectures (read contents)) := by
  have hparse := parse_propertyList hdeclared contents address
  have hrefused : ∀ failure, parse contents declared address = .error failure →
      ∃ name ∈ architectures (read contents), IsParticle name ∧
        failure = .unsupportedPlatform name := by
    intro failure hfailure
    rw [hparse] at hfailure
    exact Format.Properties.exists_of_platforms_eq_error (map_eq_error_iff.1 hfailure)
  have hfails : (∃ failure, parse contents declared address = .error failure) ↔
      ∃ name ∈ architectures (read contents), IsParticle name := by
    constructor
    · rintro ⟨failure, hfailure⟩
      obtain ⟨name, hname, hparticle, -⟩ := hrefused failure hfailure
      exact ⟨name, hname, hparticle⟩
    · rintro ⟨name, hname, hparticle⟩
      cases hplatforms : Format.Properties.platforms (read contents) with
      | error failure => exact ⟨failure, by rw [hparse, hplatforms]; rfl⟩
      | ok found =>
        obtain ⟨hwritten, -⟩ := Format.Properties.exists_of_platforms_eq_ok hplatforms
        exact absurd hparticle (hwritten name hname)
  refine ⟨hfails, hrefused, ?_, fun fields hfields => ?_⟩
  · -- What is written as a Particle target is stored as one, so only the converse can fail.
    rw [hfails]
    constructor
    · intro hsame hdisguised
      obtain ⟨name, hname, hparticle⟩ := hsame.2 hdisguised.stored
      exact hdisguised.written name hname hparticle
    · intro hopen
      refine ⟨fun ⟨name, hname, hparticle⟩ => ⟨name, hname, hparticle.lower⟩, fun hstored => ?_⟩
      by_contra hnone
      exact hopen ⟨fun name hname hparticle => hnone ⟨name, hname, hparticle⟩, hstored⟩
  · rw [hparse] at hfields
    obtain ⟨found, hplatforms, rfl⟩ := Decode.map_eq_ok_iff.1 hfields
    obtain ⟨hwritten, names, rfl, hnames, hparticle⟩ :=
      Format.Properties.exists_of_platforms_eq_ok hplatforms
    refine ⟨names, ?_, ?_⟩
    · have hget : (Format.Properties.ofProperties (read contents)
          (address.bind Format.Properties.Remote.ofAddress?) (Value.strings names)).get? "platforms" =
            some (Value.strings names) := Format.Properties.get?_ofProperties _ _ _ .platforms
      rw [Normal.get?_fields, hget]
      exact Normal.targets_of_targetList Normal.resolves_platform hnames
    · rw [hparticle, and_comm]
      exact and_congr_left' ⟨fun hstored => ⟨hwritten, hstored⟩, Disguised.stored⟩

/-- A property list whose last entry about architectures has a Particle target. -/
def particleProperties : String :=
  "architectures = avr\nname = Blink\narchitectures = sam, particle-photon , Particle-Core\n"

set_option maxRecDepth 8000 in
/-- It is refused for the one that is written as such. -/
theorem parse_particleTargets_particleProperties :
    Kind.ofDeclared? "library.properties" = some .libraryProperties ∧
      architectures (read particleProperties) = ["sam", "particle-photon", "Particle-Core"] ∧
      parse particleProperties "library.properties" none =
        .error (.unsupportedPlatform "particle-photon") := by
  have hdeclared : Kind.ofDeclared? "library.properties" = some .libraryProperties := by
    decide
  have hnames : architectures (read particleProperties) =
      ["sam", "particle-photon", "Particle-Core"] := by
    decide
  obtain ⟨hfails, hrefused, -⟩ := parse_particleTargets hdeclared particleProperties none
  obtain ⟨failure, hfailure⟩ := hfails.2 ⟨"particle-photon", by simp [hnames], by decide⟩
  obtain ⟨name, hname, hparticle, rfl⟩ := hrefused failure hfailure
  refine ⟨hdeclared, hnames, ?_⟩
  -- The others are not written as Particle targets.
  have hothers : ¬ IsParticle "sam" ∧ ¬ IsParticle "Particle-Core" := by decide
  simp only [hnames, List.mem_cons, List.not_mem_nil, or_false] at hname
  rcases hname with rfl | rfl | rfl
  · exact absurd hparticle hothers.1
  · exact hfailure
  · exact absurd hparticle hothers.2

/-- A property list with a Particle target that is not written in lower case. -/
def disguisedProperties : String :=
  "architectures=Particle-photon\n"

set_option maxRecDepth 8000 in
/-- It is parsed, and the Particle target is among its platforms. -/
theorem parse_disguisedProperties :
    ∃ fields, parse disguisedProperties "library-properties" none = .ok fields ∧
      (∃ name ∈ architectures (read disguisedProperties), IsParticle (lower name)) ∧
      ∃ names, fields.get? "platforms" = some (Value.strings names) ∧
        ∃ name ∈ names, IsParticle name := by
  have hnames : architectures (read disguisedProperties) = ["Particle-photon"] := by
    decide
  have hplatforms : (parse disguisedProperties "library-properties" none).map
      (·.get? "platforms") = .ok (some (Value.strings ["particle-photon"])) := rfl
  obtain ⟨fields, hparse, hget⟩ := Decode.map_eq_ok_iff.1 hplatforms
  refine ⟨fields, hparse, ⟨"Particle-photon", by simp [hnames], by decide⟩, _, hget,
    "particle-photon", List.mem_singleton_self _, by decide⟩

end Manifest
