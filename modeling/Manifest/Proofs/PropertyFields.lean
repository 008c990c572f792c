import Manifest.Load
import Manifest.Proofs.KeptContent
import Manifest.Proofs.Loading
import Manifest.Proofs.StrictMode

/-!
# Fields of property lists

Every field that is made of a property list is one that validation takes: its normal form can be read
as the field's content (`Format.Properties.takes_of_value?`). Only a version need not be one. So the
errors about a property list are that its name, version, description or authors are missing, or that
the version is not semantic (`errors_of_propertyList`).

What the fields are made of are texts without blanks at their ends: the values of properties
(`Format.Properties.properValues_read`), and the names of contacts, which stay so while maintainers
are merged into the authors one after the other (`Format.Properties.named_foldl_addMaintainer`).
-/

namespace Manifest

open Json (Members Pairs Value)
open Text (IsProper isBlankText lower trim)

/-- A text is blank if both parts of it are. -/
theorem Text.isBlankText_append (s t : String) :
    isBlankText (s ++ t) = (isBlankText s && isBlankText t) := by
  unfold isBlankText
  rw [String.toList_append, List.all_append]

/-! ## Authors who are named -/

/-- An author has a proper name, and an address in its usual form or none. -/
structure Author.Named (a : Author) : Prop where
  /-- The name is not empty and has no blanks at its ends. -/
  name : IsProper a.name
  /-- The address is in its usual form, if there is one. -/
  address : a.email.map Normal.email = a.email

/-- Objects of authors who are named are in normal form. -/
theorem Normal.authors_of_named {people : List Author} (hne : people ≠ [])
    (h : ∀ a ∈ people, a.Named) :
    authors (.array (people.map fun a => authorValue a.name a.email a.maintainer)) =
      some (.array (people.map fun a => authorValue a.name a.email a.maintainer)) := by
  refine listed_of_settled (fun v hv => ?_) (by simpa using hne)
  obtain ⟨a, ha, rfl⟩ := List.mem_map.1 hv
  exact author_authorValue a.maintainer (h a ha).name (h a ha).address

/-! ## Fields that are taken -/

/-- The normal form of the value can be read as the content of the field. -/
def Field.Takes (f : Field) (v : Value) : Prop :=
  ∃ w c, Normal.normalForm f.label v = some w ∧ w ≠ .null ∧ f.read w = .ok c

section

variable {members : Members} {f : Field}

/-- A field with a value that it takes gets content. -/
theorem Validation.exists_outcome_of_takes {v : Value} (hget : members.get? f.label = some v)
    (h : f.Takes v) : ∃ c, outcome (Normal.fields members) f = .ok (some c) := by
  obtain ⟨w, c, hnormal, hnull, hread⟩ := h
  have hw : (Normal.fields members).get? f.label = some w := by
    rw [Normal.get?_fields, hget]
    exact hnormal
  refine ⟨c, ?_⟩
  rw [outcome_of_some hw hnull, hread]
  rfl

/-- A field that is absent has no content, which is an error if it is mandatory. -/
theorem Validation.outcome_of_absent (hget : members.get? f.label = none) :
    outcome (Normal.fields members) f =
      if f.isMandatory then .error (.missing f) else .ok none := by
  refine outcome_of_unset (.inl ?_)
  rw [Normal.get?_fields, hget]
  rfl

end

namespace Field

/-- A field without a normal form takes what it can read. -/
theorem takes_of_read {f : Field} (hf : f.label ∉ Normal.transforms.map (·.1)) {v : Value}
    (hnull : v ≠ .null) {c : f.Content} (h : f.read v = .ok c) : f.Takes v :=
  ⟨v, c, Normal.normalForm_of_not_mem hf v, hnull, h⟩

/-- A text that is not blank is read. -/
theorem text_of_not_blank {f : Field} {s : String} (h : ¬ isBlankText s) :
    text f (.string s) = .ok (trim s) :=
  text_eq_ok_iff.2 ⟨s, rfl, fun hempty => h (Text.trim_eq_empty_iff.1 hempty), rfl⟩

/-- A keyword is taken. -/
theorem takes_keyword {s : String} (h : IsProper s) : keywords.Takes (Value.strings [s]) := by
  have hproper : ∀ w ∈ [lower s], IsProper w := List.forall_mem_singleton.2 h.lower
  have htokens : Normal.tokens? (Value.strings [s]) = some [s] :=
    Normal.tokens?_strings (List.forall_mem_singleton.2 h)
  have hnormal : Normal.keywords (Value.strings [s]) = some (Value.strings [lower s]) := by
    simp only [Normal.keywords, htokens]
    rfl
  have hsound : Keywords.Sound ⟨[lower s]⟩ :=
    ⟨hproper, List.forall_mem_singleton.2 (Text.lower_lower s), List.nodup_singleton _⟩
  have hread : keywordList (Keywords.toValue ⟨[lower s]⟩) = .ok ⟨[lower s]⟩ :=
    keywordList_toValue (List.cons_ne_nil _ _) hsound
  exact ⟨_, ⟨[lower s]⟩, hnormal, by simp [Value.strings], hread⟩

/-- A list of targets is taken as platforms. -/
theorem takes_platforms {names : List String} (h : Normal.TargetList Normal.platform names) :
    platforms.Takes (Value.strings names) :=
  ⟨_, names, Normal.targets_of_targetList Normal.resolves_platform h, by simp [Value.strings],
    texts_of_proper h.proper⟩

/-- A list of targets is taken as frameworks. -/
theorem takes_frameworks {names : List String} (h : Normal.TargetList id names) :
    frameworks.Takes (Value.strings names) :=
  ⟨_, names, Normal.targets_of_targetList Normal.resolves_id h, by simp [Value.strings],
    texts_of_proper h.proper⟩

/-- A git repository is taken if its address is not blank. -/
theorem takes_gitRepository {url : String} (h : ¬ isBlankText url) :
    repository.Takes (Normal.gitRepository url) := by
  have hnormal : Normal.repository (Normal.gitRepository url) =
      some (Normal.gitRepository (trim url)) := by
    simp [Normal.gitRepository, Normal.repository, Normal.repositoryMember, Normal.lacksGitType,
      Pairs.find?, Value.isNull]
  have htrim : ¬ isBlankText (trim url) := fun hblank => h (Text.isBlankText_trim_iff.1 hblank)
  have hdecode : Repository.decode (Normal.gitRepository (trim url)) =
      .ok ⟨trim url, some "git", none⟩ := rfl
  have hread : sourceRepository (Normal.gitRepository (trim url)) =
      .ok ⟨trim url, some "git", none⟩ :=
    sourceRepository_eq_ok_iff.2 ⟨hdecode, htrim⟩
  exact ⟨_, ⟨trim url, some "git", none⟩, hnormal, by simp [Normal.gitRepository], hread⟩

/-- Publishing rules are taken that have a list of what to leave out and perhaps a text for what to
publish. -/
theorem takes_exportRules (excluded : List String) (included : Option String) :
    exportRules.Takes (.object (("exclude", Value.strings excluded) ::
      (included.map fun d => ("include", Value.string d)).toList)) := by
  let rules : Export := ⟨included.map fun d => [trim d], some excluded⟩
  have hnormal : Normal.exportRules (.object (("exclude", Value.strings excluded) ::
      (included.map fun d => ("include", Value.string d)).toList)) = some rules.toValue.arranged := by
    rw [Export.arranged_toValue]
    cases included <;> rfl
  have hobject : rules.toValue.arranged ≠ .null := by
    rw [Export.arranged_toValue]
    simp
  exact ⟨_, rules, hnormal, hobject, shaped_eq_ok_iff.2 rules.decode_arranged⟩

/-- Objects of authors who are named are read as these authors, without pages. -/
theorem authorList_of_named {people : List Author} (hne : people ≠ [])
    (h : ∀ a ∈ people, a.Named) :
    authorList (.array (people.map fun a =>
      Normal.authorValue a.name a.email a.maintainer)) =
        .ok (people.map fun a => { a with url := none }) := by
  have hdecode : List.Forall₂ (fun item a => Author.decode item = .ok a)
      (people.map fun a => Normal.authorValue a.name a.email a.maintainer)
      (people.map fun a => { a with url := none }) := by
    rw [List.forall₂_map_left_iff, List.forall₂_map_right_iff]
    refine List.forall₂_same.2 fun a _ => ?_
    cases a.email <;> rfl
  refine authorList_eq_ok_iff.2 ⟨⟨_, rfl, hdecode⟩, by simpa using hne, fun b hb => ?_⟩
  obtain ⟨a, ha, rfl⟩ := List.mem_map.1 hb
  exact Text.not_isBlankText_of_isProper (h a ha).name

/-- Authors who are named are taken. -/
theorem takes_authors {people : List Author} (hne : people ≠ []) (h : ∀ a ∈ people, a.Named) :
    authors.Takes (.array (people.map fun a =>
      Normal.authorValue a.name a.email a.maintainer)) :=
  ⟨_, _, Normal.authors_of_named hne h, by simp, authorList_of_named hne h⟩

end Field

namespace Format.Properties

/-! ## Texts that properties consist of -/

/-- Every value of the properties is a proper text. -/
def ProperValues (properties : Pairs String) : Prop :=
  ∀ key value, properties.find? key = some value → IsProper value

/-- The value in a line is a proper text. -/
theorem isProper_of_entry? {line : List Char} {key value : String}
    (h : entry? line = some (key, value)) : IsProper value := by
  unfold entry? at h
  split at h
  · exact absurd h (by simp)
  · next front behind _ =>
    dsimp only at h
    split at h
    · exact absurd h (by simp)
    · rename_i hblank
      obtain ⟨-, rfl⟩ := Prod.mk.inj (Option.some.inj h)
      have hne : Text.trimmed behind ≠ [] := by
        intro hnil
        simp [hnil] at hblank
      exact ⟨by simpa using hne, by simp [trim]⟩

/-- Entries of proper texts that are added to properties of proper texts leave such properties. -/
theorem properValues_foldl_insert {found : List (String × String)}
    (h : ∀ entry ∈ found, IsProper entry.2) {properties : Pairs String}
    (hproper : ProperValues properties) :
    ProperValues (found.foldl (fun properties (key, value) => properties.insert key value)
      properties) := by
  induction found generalizing properties with
  | nil => exact hproper
  | cons entry rest ih =>
    obtain ⟨hentry, hrest⟩ := List.forall_mem_cons.1 h
    refine ih hrest fun key value hget => ?_
    by_cases hkey : entry.1 = key
    · subst hkey
      rw [Pairs.find?_insert_self] at hget
      rwa [← Option.some.inj hget]
    · rw [Pairs.find?_insert_of_ne _ _ hkey] at hget
      exact hproper key value hget

/-- The properties that a text gives are proper texts. -/
theorem properValues_read (contents : String) : ProperValues (read contents) := by
  refine properValues_foldl_insert (fun entry hentry => ?_) nofun
  obtain ⟨line, -, hline⟩ := List.mem_filterMap.1 hentry
  exact isProper_of_entry? hline

/-! ## Authors and maintainers -/

/-- The contacts that a property names are those of authors who are named. -/
theorem named_of_mem_contacts {properties : Pairs String} {key : String}
    {contact : Normal.Contact} (h : contact ∈ contacts properties key) (page : Option String)
    (maintainer : Bool) : Author.Named ⟨contact.1, contact.2, page, maintainer⟩ := by
  unfold contacts at h
  cases hget : properties.find? key with
  | none =>
    rw [hget] at h
    exact absurd h List.not_mem_nil
  | some value =>
    rw [hget] at h
    obtain ⟨piece, -, hpiece⟩ := List.mem_filterMap.1 h
    obtain ⟨hname, haddress⟩ := Normal.contact?_spec hpiece
    exact ⟨hname, haddress⟩

/-- Authors stay named when a maintainer is merged into them. -/
theorem named_addMaintainer {people : List Author} (h : ∀ a ∈ people, a.Named)
    {contact : Normal.Contact} (hcontact : Author.Named ⟨contact.1, contact.2, none, true⟩) :
    ∀ a ∈ addMaintainer people contact, a.Named := by
  unfold addMaintainer
  split
  · intro b hb
    obtain ⟨a, ha, rfl⟩ := List.mem_map.1 hb
    split
    · refine ⟨(h a ha).name, ?_⟩
      -- The address is the author's own, or else that of the maintainer.
      have hown := (h a ha).address
      cases haddress : a.email with
      | none => exact hcontact.address
      | some e => rwa [haddress] at hown
    · exact h a ha
  · intro b hb
    rcases List.mem_append.1 hb with hold | hnew
    · exact h b hold
    · rwa [List.mem_singleton.1 hnew]

/-- Authors stay named when maintainers are merged into them one after the other. -/
theorem named_foldl_addMaintainer {found : List Normal.Contact}
    (hfound : ∀ contact ∈ found, Author.Named ⟨contact.1, contact.2, none, true⟩)
    {people : List Author} (h : ∀ a ∈ people, a.Named) :
    ∀ a ∈ found.foldl addMaintainer people, a.Named := by
  induction found generalizing people with
  | nil => exact h
  | cons contact rest ih =>
    obtain ⟨hcontact, hrest⟩ := List.forall_mem_cons.1 hfound
    exact ih hrest (named_addMaintainer h hcontact)

/-- The authors and maintainers are named. -/
theorem named_authors (properties : Pairs String) : ∀ a ∈ authors properties, a.Named := by
  refine named_foldl_addMaintainer (fun _ hcontact => named_of_mem_contacts hcontact none true)
    fun a ha => ?_
  obtain ⟨contact, hcontact, rfl⟩ := List.mem_map.1 ha
  exact named_of_mem_contacts hcontact none false

/-! ## Other fields -/

/-- The description that a text gives is not blank. -/
theorem not_isBlankText_of_description? {properties : Pairs String}
    (hproper : ProperValues properties) {s : String} (h : description? properties = some s) :
    ¬ isBlankText s := by
  have hvalue : ∀ key value, properties.find? key = some value → ¬ isBlankText value :=
    fun key value hget => Text.not_isBlankText_of_isProper (hproper key value hget)
  unfold description? at h
  split at h
  · exact absurd h (by simp)
  · next front hfront _ =>
    rw [← Option.some.inj h]
    exact hvalue _ _ hfront
  · next behind _ hbehind =>
    rw [← Option.some.inj h]
    exact hvalue _ _ hbehind
  · next front behind hfront hbehind =>
    have hnot := hvalue _ _ hbehind
    split at h
    · rw [← Option.some.inj h]
      exact hvalue _ _ hfront
    · rw [← Option.some.inj h, Text.isBlankText_append]
      simp [hnot]

/-- The address of the repository that a document was found in is not blank. -/
theorem Remote.not_isBlankText_of_ofAddress? {address : String} {place : Remote}
    (h : ofAddress? address = some place) : ¬ isBlankText place.repository := by
  -- Whatever the site, the scheme and a colon come first.
  have hhub : isBlankText "://github.com/" = false := by decide
  have hsite : isBlankText "://" = false := by decide
  unfold ofAddress? at h
  split at h
  · exact absurd h (by simp)
  · dsimp only at h
    split at h
    · unfold onHub? at h
      split at h
      · rw [← Option.some.inj h]
        simp [Text.isBlankText_append, hhub]
      · exact absurd h (by simp)
    · unfold onSite? at h
      dsimp only at h
      split at h
      · exact absurd h (by simp)
      · rw [← Option.some.inj h]
        simp [Text.isBlankText_append, hsite]

/-- The repository is a git repository at an address that is not blank. -/
theorem exists_of_repository? {properties : Pairs String} (hproper : ProperValues properties)
    {address : Option String} {v : Value}
    (h : repository? properties (address.bind Remote.ofAddress?) = some v) :
    ∃ url, v = Normal.gitRepository url ∧ ¬ isBlankText url := by
  unfold repository? at h
  split at h
  · next place hplace =>
    obtain ⟨a, -, ha⟩ := Option.bind_eq_some_iff.1 hplace
    exact ⟨_, (Option.some.inj h).symm, Remote.not_isBlankText_of_ofAddress? ha⟩
  · obtain ⟨url, hurl, rfl⟩ := Option.map_eq_some_iff.1 h
    obtain ⟨hget, -⟩ := Option.filter_eq_some_iff.1 hurl
    exact ⟨url, rfl, Text.not_isBlankText_of_isProper (hproper _ _ hget)⟩

/-- The platforms are a list of targets. -/
theorem exists_of_platforms {properties : Pairs String} {v : Value}
    (h : platforms properties = .ok v) :
    ∃ names, v = Value.strings names ∧ Normal.TargetList Normal.platform names := by
  have hwildcard : Normal.TargetList Normal.platform [Normal.wildcard] :=
    ⟨List.cons_ne_nil _ _, .inl rfl⟩
  unfold platforms at h
  split at h
  · exact ⟨_, (Except.ok.inj h).symm, hwildcard⟩
  · next architectures _ =>
    split at h
    · exact absurd h (by simp)
    · obtain rfl := Except.ok.inj h
      cases hnormal : Normal.platforms (.string architectures) with
      | none => exact ⟨_, rfl, hwildcard⟩
      | some w => exact Normal.targetList_of_targets Normal.resolves_platform rfl hnormal

/-- The platforms are refused only if one of them is not supported. -/
theorem exists_of_platforms_error {properties : Pairs String} {failure : Failure}
    (h : platforms properties = .error failure) :
    ∃ target, failure = .unsupportedPlatform target := by
  unfold platforms at h
  split at h
  · exact absurd h (by simp)
  · split at h
    · next target _ => exact ⟨target, (Except.error.inj h).symm⟩
    · exact absurd h (by simp)

/-! ## All fields -/

section

variable (properties : Pairs String) (remote : Option Remote) (platforms : Value)

/-- The value that is made of the properties for a field. -/
def value? : Field → Option Value
  | .name => (properties.find? "name").map Value.string
  | .version => (properties.find? "version").map Value.string
  | .description => (description? properties).map Value.string
  | .keywords => some (Value.strings [(properties.find? "category").getD defaultCategory])
  | .authors => authorsValue? properties
  | .homepage => (homepage? properties).map Value.string
  | .repository => repository? properties remote
  | .platforms => some platforms
  | .frameworks => some (Value.strings ["arduino"])
  | .exportRules => some (exportRules remote)
  | .title | .license | .examples | .system | .engines | .packages => none

/-- The fields are those that are made of the properties. -/
theorem get?_ofProperties (f : Field) :
    (ofProperties properties remote platforms).get? f.label =
      value? properties remote platforms f := by
  unfold ofProperties
  cases f <;> simp [Field.label, value?, Members.get?_insertSome, Members.get?_insert]

end

section

variable {properties : Pairs String} {address : Option String} {found v : Value} {f : Field}

/-- Every field but the version takes the value that is made of the properties for it. -/
theorem takes_of_value? (hproper : ProperValues properties)
    (hplatforms : platforms properties = .ok found) (hf : f ≠ .version)
    (h : value? properties (address.bind Remote.ofAddress?) found f = some v) : f.Takes v := by
  have htext : ∀ key value, properties.find? key = some value → ¬ isBlankText value :=
    fun key value hget => Text.not_isBlankText_of_isProper (hproper key value hget)
  cases f with
  | name =>
    obtain ⟨s, hs, rfl⟩ := Option.map_eq_some_iff.1 h
    exact Field.takes_of_read (by decide) (by simp) (Field.text_of_not_blank (htext _ _ hs))
  | version => exact absurd rfl hf
  | description =>
    obtain ⟨s, hs, rfl⟩ := Option.map_eq_some_iff.1 h
    exact Field.takes_of_read (by decide) (by simp)
      (Field.text_of_not_blank (not_isBlankText_of_description? hproper hs))
  | keywords =>
    obtain rfl := Option.some.inj h
    cases hcategory : properties.find? "category" with
    | none => exact Field.takes_keyword (by decide)
    | some category => exact Field.takes_keyword (hproper _ _ hcategory)
  | authors =>
    unfold value? authorsValue? at h
    dsimp only at h
    split at h
    · exact absurd h (by simp)
    · rename_i hempty
      rw [← Option.some.inj h]
      exact Field.takes_authors (by simpa using hempty) (named_authors properties)
  | homepage =>
    obtain ⟨s, hs, rfl⟩ := Option.map_eq_some_iff.1 h
    obtain ⟨hget, -⟩ := Option.filter_eq_some_iff.1 hs
    exact Field.takes_of_read (by decide) (by simp) (Field.text_of_not_blank (htext _ _ hget))
  | repository =>
    obtain ⟨url, rfl, hurl⟩ := exists_of_repository? hproper h
    exact Field.takes_gitRepository hurl
  | platforms =>
    obtain rfl := Option.some.inj h
    obtain ⟨names, rfl, hnames⟩ := exists_of_platforms hplatforms
    exact Field.takes_platforms hnames
  | frameworks =>
    obtain rfl := Option.some.inj h
    have hsettled : Normal.SettledBy (fun t => id (lower t)) ["arduino"] :=
      ⟨by decide, by decide, by decide⟩
    exact Field.takes_frameworks ⟨List.cons_ne_nil _ _, .inr ⟨hsettled, by decide⟩⟩
  | exportRules =>
    obtain rfl := Option.some.inj h
    exact Field.takes_exportRules _ _
  | title | license | examples | system | engines | packages => exact absurd h (by simp [value?])

/-- What can be wrong with a property list: a field that is not there, or a version that is none. -/
inductive Shortcoming : FieldError → Prop where
  /-- It does not say what the library is called. -/
  | name : Shortcoming (.missing .name)
  /-- It does not say which version it is. -/
  | version : Shortcoming (.missing .version)
  /-- What it says is not a semantic version. -/
  | notSemantic (s : String) : Shortcoming (.notSemantic s)
  /-- It does not say what the library is for. -/
  | description : Shortcoming (.missing .description)
  /-- It does not say who made the library. -/
  | authors : Shortcoming (.missing .authors)

/-- The version of a property list is missing or not semantic if there is an error about it. -/
theorem shortcoming_of_semanticVersion {s : String} {e : FieldError}
    (h : Field.semanticVersion (.string s) = .error e) : Shortcoming e := by
  unfold Field.semanticVersion at h
  dsimp only at h
  split at h
  · rw [← Except.error.inj h]
    exact .version
  · split at h
    · exact absurd h (by simp)
    · rw [← Except.error.inj h]
      exact .notSemantic _

variable (hproper : ProperValues properties) (hplatforms : platforms properties = .ok found)

include hproper hplatforms

/-- Each field gets content, or none if that is no error, or an error that a property list can
have. -/
theorem shortcoming_of_outcome {e : FieldError}
    (h : Validation.outcome (Normal.fields
      (ofProperties properties (address.bind Remote.ofAddress?) found)) f = .error e) :
    Shortcoming e := by
  have hget := get?_ofProperties properties (address.bind Remote.ofAddress?) found f
  cases hvalue : value? properties (address.bind Remote.ofAddress?) found f with
  | none =>
    rw [hvalue] at hget
    rw [Validation.outcome_of_absent hget] at h
    cases f with
    | name => exact Except.error.inj h ▸ .name
    | version => exact Except.error.inj h ▸ .version
    | description => exact Except.error.inj h ▸ .description
    | authors => exact Except.error.inj h ▸ .authors
    | keywords => exact absurd hvalue (by simp [value?])
    | _ => exact absurd h (by simp [Field.isMandatory])
  | some v =>
    rw [hvalue] at hget
    by_cases hf : f = .version
    · subst hf
      obtain ⟨s, -, rfl⟩ := Option.map_eq_some_iff.1 hvalue
      -- The version is the one field that may be refused, as a text that is no semantic version.
      have hstring : (Normal.fields (ofProperties properties (address.bind Remote.ofAddress?)
          found)).get? Field.version.label = some (.string s) := by
        have hfree : Field.version.label ∉ Normal.transforms.map (·.1) := by decide
        rw [Normal.get?_fields, hget]
        exact Normal.normalForm_of_not_mem hfree _
      rw [Validation.outcome_of_some hstring (by simp)] at h
      exact shortcoming_of_semanticVersion (map_eq_error_iff.1 h)
    · obtain ⟨c, hc⟩ := Validation.exists_outcome_of_takes hget
        (takes_of_value? hproper hplatforms hf hvalue)
      rw [hc] at h
      exact absurd h (by simp)

variable (address) in
/-- The record has every field that is always made of the properties. -/
theorem isSome_get_of_value? (hf : f ≠ .version) (hpage : f ≠ .homepage)
    (h : (value? properties (address.bind Remote.ofAddress?) found f).isSome) :
    ((validateLeniently (Normal.fields
      (ofProperties properties (address.bind Remote.ofAddress?) found))).record.get f).isSome := by
  obtain ⟨v, hv⟩ := Option.isSome_iff_exists.1 h
  have hget := get?_ofProperties properties (address.bind Remote.ofAddress?) found f
  obtain ⟨c, hc⟩ := Validation.exists_outcome_of_takes (hget.trans hv)
    (takes_of_value? hproper hplatforms hf hv)
  rw [get_validateLeniently_of_ne _ hpage, Validation.content?_eq_some_iff.2 hc]
  rfl

end

end Format.Properties

open Format.Properties (Shortcoming)

/-- A property list is parsed by normalizing what is made of its properties. -/
theorem parse_propertyList {declared : String}
    (hdeclared : Kind.ofDeclared? declared = some .libraryProperties) (contents : String)
    (address : Option String) :
    parse contents declared address =
      (Format.Properties.platforms (Format.Properties.read contents)).map fun found =>
        Normal.fields (Format.Properties.ofProperties (Format.Properties.read contents)
          (address.bind Format.Properties.Remote.ofAddress?) found) := by
  unfold parse
  rw [hdeclared]
  rfl

/-- An error that is collected is what some field ended in. -/
theorem exists_outcome_of_mem_errors {members : Members} {e : FieldError}
    (h : e ∈ (validateLeniently members).errors) :
    ∃ f, Validation.outcome members f = .error e := by
  rw [validateLeniently_eq] at h
  obtain ⟨f, -, hf⟩ := List.mem_filterMap.1 h
  exact ⟨f, Validation.error?_eq_some_iff.1 hf⟩

/-- A property list that can be parsed has no shortcomings but that its name, version, description or
authors are missing or the version is not semantic, and its record always has keywords, platforms,
frameworks and publishing rules. So loading it strictly fails only for such a shortcoming, or for a
platform that is not supported. -/
theorem errors_of_propertyList {contents declared : String} {address : Option String}
    (hdeclared : Kind.ofDeclared? declared = some .libraryProperties) :
    (∀ fields, parse contents declared address = .ok fields →
      (∀ e ∈ (validateLeniently fields).errors, Shortcoming e) ∧
        (validateLeniently fields).record.keywords.isSome ∧
        (validateLeniently fields).record.platforms.isSome ∧
        (validateLeniently fields).record.frameworks.isSome ∧
        (validateLeniently fields).record.exportRules.isSome) ∧
      ∀ failure, load contents declared address .strict = .error failure →
        (∃ e, failure = .field e ∧ Shortcoming e) ∨
          ∃ target, failure = .unsupportedPlatform target := by
  have hproper := Format.Properties.properValues_read contents
  have herrors : ∀ fields, parse contents declared address = .ok fields →
      ∀ e ∈ (validateLeniently fields).errors, Shortcoming e := by
    intro fields hparse e he
    rw [parse_propertyList hdeclared] at hparse
    obtain ⟨found, hplatforms, rfl⟩ := Decode.map_eq_ok_iff.1 hparse
    obtain ⟨f, hf⟩ := exists_outcome_of_mem_errors he
    exact Format.Properties.shortcoming_of_outcome hproper hplatforms hf
  refine ⟨fun fields hparse => ⟨herrors fields hparse, ?_⟩, fun failure hfail => ?_⟩
  · rw [parse_propertyList hdeclared] at hparse
    obtain ⟨found, hplatforms, rfl⟩ := Decode.map_eq_ok_iff.1 hparse
    have hsome := fun f =>
      Format.Properties.isSome_get_of_value? (f := f) address hproper hplatforms
    exact ⟨hsome .keywords (by decide) (by decide) rfl, hsome .platforms (by decide) (by decide) rfl,
      hsome .frameworks (by decide) (by decide) rfl, hsome .exportRules (by decide) (by decide) rfl⟩
  -- Parsing fails at a platform only, and strict validation at one of the errors above.
  · cases hparse : parse contents declared address with
    | error other =>
      rw [load_of_parse_error .strict hparse] at hfail
      rw [← Except.error.inj hfail]
      rw [parse_propertyList hdeclared] at hparse
      exact .inr (Format.Properties.exists_of_platforms_error (map_eq_error_iff.1 hparse))
    | ok fields =>
      rw [load_of_parse_ok .strict hparse, validate_eq] at hfail
      split at hfail
      · next e he =>
        exact .inl ⟨e, (Except.error.inj hfail).symm,
          herrors fields hparse e (List.mem_of_find?_eq_some he)⟩
      · exact absurd hfail (by simp [Except.mapError])

/-- A property list without a name and without authors, whose version is not semantic. -/
def namelessProperties : String :=
  "version = 1.x\n# The rest\nsentence = Reads sensors\ncategory = Sensors\n"

set_option maxRecDepth 8000 in
/-- These are its three shortcomings, and strict loading fails at the first of them. -/
theorem errors_of_propertyList_nameless :
    ∃ fields, parse namelessProperties "library.properties" none = .ok fields ∧
      (validateLeniently fields).errors =
        [.missing .name, .notSemantic "1.x", .missing .authors] ∧
      (∀ e ∈ (validateLeniently fields).errors, Shortcoming e) ∧
      (validateLeniently fields).record.keywords.isSome ∧
      ∃ e, load namelessProperties "library.properties" none .strict = .error (.field e) ∧
        Shortcoming e := by
  have hload : load namelessProperties "library.properties" none .lenient =
      .ok ⟨{ description := some "Reads sensors"
             keywords := some ⟨["sensors"]⟩
             platforms := some ["*"]
             frameworks := some ["arduino"]
             exportRules := some ⟨none, some Format.Properties.defaultExclude⟩ },
        [.missing .name, .notSemantic "1.x", .missing .authors]⟩ := rfl
  have hstrict : load namelessProperties "library.properties" none .strict =
      .error (.field (.missing .name)) := rfl
  obtain ⟨raw, hparse, hfound⟩ := exists_fields_of_load hload
  have hdeclared : Kind.ofDeclared? "library.properties" = some .libraryProperties := by
    decide +kernel
  obtain ⟨herrors, hkeywords, -⟩ := (errors_of_propertyList hdeclared).1 _ hparse
  refine ⟨_, hparse, (congrArg Validated.errors hfound).symm, herrors, hkeywords, _, hstrict, ?_⟩
  rcases (errors_of_propertyList hdeclared).2 _ hstrict with ⟨e, he, hshort⟩ | ⟨target, htarget⟩
  · rwa [Failure.field.inj he]
  · exact absurd htarget (by simp)

end Manifest
