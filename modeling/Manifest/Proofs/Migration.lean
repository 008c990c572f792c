import Manifest.Proofs.JsonFormats
import Manifest.Proofs.LoadedParts
import Manifest.Proofs.LoadedTargets
import Manifest.Proofs.PropertyFields

/-!
# Reading a record as a native library

A record that was made of a property list can be kept as a native library from then on: its text can
be read, and loading this or any other text of the same value gives the same record, where mandatory
fields that it does not have are missing (`load_reread_of_propertyList`).

What a record is written as has none of the former names that the native format replaces, so these
leave it as it is. Nor does normalizing change it if the record is settled (`Record.Settled`), that
is, if each of its fields is one that normalizing gives. The record of a property list is, for its
authors and its repository are made as objects and it has no host systems.
-/

namespace Manifest

open Json (Members Pairs Value)
open Text (IsProper lower trim)
open Manifest.Normal (SettledBy TargetList wildcard)

/-! ## Parts that normalizing leaves as they are -/

namespace Normal

/-- A canonical author is written as an object in normal form. -/
theorem author_arranged {a : Author} (h : a.Canonical) :
    author a.toValue.arranged = some a.toValue.arranged := by
  obtain ⟨name, address, page, maintainer⟩ := a
  obtain ⟨⟨-, hname⟩, hurl, hemail⟩ := h
  have hpage : ∀ u, page = some u → trim u = u := hurl
  have haddress : ∀ e, address = some e → email e = e := fun e he =>
    email_of_usual (hemail e he).1 (hemail e he).2
  have harranged : Value.arranged (Author.toValue ⟨name, address, page, maintainer⟩) =
      .object ((address.map fun e => ("email", Value.string e)).toList ++
        [("maintainer", .bool maintainer), ("name", .string name)] ++
        (page.map fun u => ("url", Value.string u)).toList) := by
    cases address <;> cases page <;> rfl
  have htrim : trim name = name := hname
  rw [harranged]
  -- Each text is its own normal form, and whether they maintain the package is said.
  cases address <;> cases page <;>
    simp_all [author, authorMember, Pairs.insertNew, Pairs.find?]

/-- A canonical repository is written as an object in normal form. -/
theorem repository_arranged {source : Repository} (h : source.Canonical) :
    repository source.toValue.arranged = some source.toValue.arranged := by
  obtain ⟨url, type, branch⟩ := source
  have hurl : trim url = url := h.url
  have htype : isGitRemote url → type.isSome := h.type
  have harranged : Value.arranged (Repository.toValue ⟨url, type, branch⟩) =
      .object ((branch.map fun b => ("branch", Value.string b)).toList ++
        (type.map fun t => ("type", Value.string t)).toList ++ [("url", .string url)]) := by
    cases type <;> cases branch <;> rfl
  rw [harranged]
  -- The address is trimmed, and the type is there if it would be inferred.
  cases type <;> cases branch <;>
    simp_all [repository, repositoryMember, lacksGitType, Pairs.find?, Value.isNull, Value.text?]

/-- Publishing rules are written as an object in normal form. -/
theorem exportRules_arranged (rules : Export) :
    exportRules rules.toValue.arranged = some rules.toValue.arranged := by
  rw [Export.arranged_toValue]
  obtain ⟨included, excluded⟩ := rules
  cases included <;> cases excluded <;> rfl

/-- Host systems that are settled are in normal form, unless they are the wildcard. -/
theorem system_of_settled {names : List String} (h : SettledBy lower names)
    (hwild : names ≠ [wildcard]) : system (Value.strings names) = some (Value.strings names) := by
  simp only [system, h.tokens?_eq, h.map_eq, hwild, if_false, h.firstSeen_eq]

end Normal

namespace Field

/-- The content of a field is one that normalizing gives. -/
def Settled : (f : Field) → f.Content → Prop
  | .keywords, found => found.words ≠ [] ∧ found.Sound
  | .platforms, names => TargetList Normal.platform names
  | .frameworks, names => TargetList id names
  | .authors, people => people ≠ [] ∧ ∀ a ∈ people, a.Canonical
  | .repository, source => source.Canonical
  | .system, names => SettledBy lower names ∧ names ≠ [wildcard]
  | .name, _ | .version, _ | .description, _ | .title, _ | .homepage, _ | .license, _
  | .exportRules, _ | .examples, _ | .engines, _ | .packages, _ => True

/-- What settled content is written as is in normal form. -/
theorem normalForm_arranged {f : Field} {c : f.Content} (h : f.Settled c) :
    Normal.normalForm f.label (Record.encode f c).arranged =
      some (Record.encode f c).arranged := by
  cases f with
  | keywords =>
    have hsettled : SettledBy lower c.words := ⟨h.2.proper, h.2.lower, h.2.nodup⟩
    rw [Record.encode, Keywords.toValue, Value.arranged_strings]
    exact (Normal.keywords_of_settled hsettled).trans (Normal.present?_eq_some_iff.2 ⟨h.1, rfl⟩)
  | platforms =>
    rw [Record.encode, Value.arranged_strings]
    exact Normal.targets_of_targetList Normal.resolves_platform h
  | frameworks =>
    rw [Record.encode, Value.arranged_strings]
    exact Normal.targets_of_targetList Normal.resolves_id h
  | authors =>
    rw [arranged_encode_authors]
    refine Normal.listed_of_settled (fun v hv => ?_) (by simpa using h.1)
    obtain ⟨a, ha, rfl⟩ := List.mem_map.1 hv
    exact Normal.author_arranged (h.2 a ha)
  | repository => exact Normal.repository_arranged h
  | exportRules => exact Normal.exportRules_arranged c
  | system =>
    rw [Record.encode, Value.arranged_strings]
    exact Normal.system_of_settled h.1 h.2
  | _ => exact Normal.normalForm_of_not_mem (by decide) _

end Field

/-! ## Records that normalizing leaves as they are -/

namespace Record

/-- Every field that is present has settled content. -/
def Settled (r : Record) : Prop :=
  ∀ f c, r.get f = some c → f.Settled c

/-- A record is read back without members that are no fields. -/
theorem get?_reread_of_not_label (r : Record) {name : String} (h : ∀ f : Field, f.label ≠ name) :
    r.reread.get? name = none := by
  have hnames := r.map_fst_arrangedPairs_sublist Field.writeOrder
  rw [reread_eq, Members.get?_ofPairs (hnames.nodup Field.nodup_labels_writeOrder)]
  refine Pairs.find?_of_notMem fun hmem => ?_
  obtain ⟨f, -, hf⟩ := List.mem_map.1 (hnames.mem hmem)
  exact h f hf

/-- Normalizing changes nothing about what a settled record is read back as. -/
theorem fields_reread {r : Record} (h : r.Settled) : Normal.fields r.reread = r.reread := by
  refine Members.ext_get? fun name => ?_
  rw [Normal.get?_fields]
  -- Only fields are written, so that there are no members of other names.
  by_cases hname : ∃ f : Field, f.label = name
  · obtain ⟨f, rfl⟩ := hname
    rw [get?_reread]
    unfold value?
    cases hget : r.get f with
    | none => rfl
    | some c => exact Field.normalForm_arranged (h f c hget)
  · rw [get?_reread_of_not_label r (not_exists.1 hname)]
    rfl

end Record

/-- Members without former names stay as they are. -/
theorem Format.Library.folded_of_none {document : Members} (hurl : document.get? "url" = none)
    (hinclude : document.get? "include" = none) (hexclude : document.get? "exclude" = none) :
    folded document = document := by
  have hpage : foldUrl document = document := by
    unfold foldUrl
    rw [hurl]
  have hrule : ∀ name, document.get? name = none → foldRule document name = document := by
    intro name hname
    unfold foldRule
    rw [hname]
  rw [folded_eq, hpage, hrule _ hinclude, hrule _ hexclude]

/-- A sound and settled record with its maps in order is loaded from what it was written as, and
mandatory fields that it does not have are missing. -/
theorem Record.load_of_settled {r : Record} (hsound : r.Sound) (hordered : r.Ordered)
    (hsettled : r.Settled) {text declared : String}
    (hdeclared : Kind.ofDeclared? declared = some .libraryJson)
    (htext : Json.read text = .ok r.toValue.arranged) (address : Option String) :
    load text declared address .lenient = .ok ⟨r, r.missing⟩ := by
  have hnone : ∀ name ∈ ["url", "include", "exclude"], r.reread.get? name = none := by
    intro name hname
    refine r.get?_reread_of_not_label fun f hf => ?_
    subst hf
    revert hname
    cases f <;> decide
  have hfolded : Format.fieldsOf r.reread .libraryJson = r.reread :=
    Format.Library.folded_of_none (hnone _ (by simp)) (hnone _ (by simp)) (hnone _ (by simp))
  rw [← r.toValue_reread] at htext
  rw [load_of_read hdeclared (by decide) htext, hfolded, fields_reread hsettled, validate_lenient,
    validateLeniently_of_sound hsound hordered]
  rfl

/-! ## Records of property lists -/

/-- What is not there before normalizing is not there after validation. -/
theorem get_eq_none_of_fields {raw : Members} {f : Field} (h : raw.get? f.label = none) :
    (validateLeniently (Normal.fields raw)).record.get f = none := by
  refine Option.eq_none_iff_forall_ne_some.2 fun c hc => ?_
  obtain ⟨v, -, hv, -⟩ := exists_of_get_fields hc
  exact absurd (h.symm.trans hv) (by simp)

/-- A record without examples, engines and packages has its maps in order. -/
theorem Record.ordered_of_none {r : Record} (hexamples : r.get .examples = none)
    (hengines : r.get .engines = none) (hpackages : r.get .packages = none) : r.Ordered := by
  intro f c hc
  cases f with
  | examples => exact absurd (hexamples.symm.trans hc) (by simp)
  | engines => exact absurd (hengines.symm.trans hc) (by simp)
  | packages => exact absurd (hpackages.symm.trans hc) (by simp)
  | _ => trivial

/-- Fields without host systems validate to a settled record if it is canonical. -/
theorem settled_of_fields {raw : Members}
    (hcanonical : (validateLeniently (Normal.fields raw)).record.Canonical)
    (hsystem : raw.get? "system" = none) :
    (validateLeniently (Normal.fields raw)).record.Settled := by
  intro f c hget
  have hsound : f.Sound c := Validation.sound_of_content? (content?_of_get hget)
  obtain ⟨v, w, hraw, hw, hread⟩ := exists_of_get_fields hget
  cases f with
  | keywords => exact hsound
  | platforms => exact Field.targetList_of_texts Normal.resolves_platform hw hread
  | frameworks => exact Field.targetList_of_texts Normal.resolves_id hw hread
  | authors => exact ⟨hsound.1, hcanonical.authors c hget⟩
  | repository => exact hcanonical.repository c hget
  | system => exact absurd (hsystem.symm.trans hraw) (by simp)
  | _ => trivial

namespace Format.Properties

/-- No author and no repository of a property list is written as the sequence of its fields. -/
theorem sequencesCanonical_ofProperties {properties : Pairs String}
    (hproper : ProperValues properties) (address : Option String) (found : Value) (r : Record) :
    r.SequencesCanonical (Normal.fields
      (ofProperties properties (address.bind Remote.ofAddress?) found)) := by
  have hvalue : ∀ f : Field, (Normal.fields
      (ofProperties properties (address.bind Remote.ofAddress?) found)).get? f.label =
        (value? properties (address.bind Remote.ofAddress?) found f).bind
          (Normal.normalForm f.label) := by
    intro f
    rw [Normal.get?_fields, get?_ofProperties]
  refine Record.sequencesCanonical_of_none (fun items parts hget hmem => ?_) fun parts hget => ?_
  · obtain ⟨v, hv, hnormal⟩ := Option.bind_eq_some_iff.1 ((hvalue .authors).symm.trans hget)
    unfold value? authorsValue? at hv
    dsimp only at hv
    split at hv
    · exact absurd hv (by simp)
    · rename_i hempty
      obtain rfl := Option.some.inj hv
      have hself := Normal.authors_of_named (by simpa using hempty) (named_authors properties)
      obtain rfl := Value.array.inj (Option.some.inj (hself.symm.trans hnormal))
      obtain ⟨a, -, ha⟩ := List.mem_map.1 hmem
      exact absurd ha (by simp [Normal.authorValue])
  · obtain ⟨v, hv, hnormal⟩ := Option.bind_eq_some_iff.1 ((hvalue .repository).symm.trans hget)
    obtain ⟨url, rfl, -⟩ := exists_of_repository? hproper hv
    exact absurd (Option.some.inj hnormal) (by simp)

end Format.Properties

/-- A record that a property list was loaded to can be loaded as a native library from what it was
written as, whatever address either was downloaded from. Its text is read back as the record with its
members in order. Every text that is read so gives the same record, and the errors are that the
mandatory fields are missing that it does not have. -/
theorem load_reread_of_propertyList {contents declared : String} {address : Option String}
    {found : Validated} (hdeclared : Kind.ofDeclared? declared = some .libraryProperties)
    (hload : load contents declared address .lenient = .ok found) :
    Json.read found.record.toValue.pretty = .ok found.record.toValue.arranged ∧
      ∀ {text declared' : String}, Kind.ofDeclared? declared' = some .libraryJson →
        Json.read text = .ok found.record.toValue.arranged → ∀ address' : Option String,
          load text declared' address' .lenient = .ok ⟨found.record, found.record.missing⟩ := by
  obtain ⟨raw, hparse, rfl⟩ := exists_fields_of_load hload
  rw [parse_propertyList hdeclared] at hparse
  obtain ⟨platforms, -, hfields⟩ := Decode.map_eq_ok_iff.1 hparse
  rw [← hfields]
  have hraw := Format.Properties.get?_ofProperties (Format.Properties.read contents)
    (address.bind Format.Properties.Remote.ofAddress?) platforms
  have hpackages := get_eq_none_of_fields (hraw .packages)
  have hordered := Record.ordered_of_none (get_eq_none_of_fields (hraw .examples))
    (get_eq_none_of_fields (hraw .engines)) hpackages
  -- The record is canonical as it comes from a property list, and settled as it is canonical.
  have hproper := Format.Properties.properValues_read contents
  have hcanonical := (canonical_of_fields_iff _).2
    (Format.Properties.sequencesCanonical_ofProperties hproper address platforms _)
  refine ⟨Json.read_pretty (Record.readable_toValue fun tools htools => ?_),
    fun hdeclared' htext address' => ?_⟩
  · exact absurd (hpackages.symm.trans htools) (by simp)
  · exact Record.load_of_settled (sound_of_validate (validate_lenient _)) hordered
      (settled_of_fields hcanonical (hraw .system)) hdeclared' htext address'

/-- A property list that says little. -/
def sparseProperties : String :=
  "category = K\narchitectures = avr"

/-- Where it was downloaded from. -/
def sparseAddress : String :=
  "https://a.b/r/raw/m/d/library.properties"

/-- What its record is written as, on one line. -/
def sparseLibrary : String :=
  "\x7b\"repository\":\x7b\"url\":\"https://a.b/r\",\"type\":\"git\"\x7d,\"keywords\":[\"k\"]," ++
    "\"platforms\":[\"atmelavr\"],\"frameworks\":[\"arduino\"],\"export\":\x7b\"include\":[\"d\"]," ++
    "\"exclude\":[\"extras\",\"docs\",\"tests\",\"test\",\"*.doxyfile\",\"*.pdf\"]\x7d\x7d"

set_option maxRecDepth 8000 in
/-- Its record is loaded again from either text, and everything mandatory but the keywords is
missing. -/
theorem load_reread_of_sparseProperties :
    ∃ found,
      load sparseProperties "library.properties" (some sparseAddress) .lenient = .ok found ∧
        found.record.platforms = some ["atmelavr"] ∧
        ∀ text ∈ [sparseLibrary, found.record.toValue.pretty],
          load text "library-json" none .lenient =
            .ok ⟨found.record,
              [.missing .name, .missing .version, .missing .description, .missing .authors]⟩ := by
  have hload : load sparseProperties "library.properties" (some sparseAddress) .lenient =
      .ok ⟨{ repository := some ⟨"https://a.b/r", some "git", none⟩
             keywords := some ⟨["k"]⟩
             platforms := some ["atmelavr"]
             frameworks := some ["arduino"]
             exportRules := some ⟨some ["d"],
               some ["extras", "docs", "tests", "test", "*.doxyfile", "*.pdf"]⟩ },
        [.missing .name, .missing .version, .missing .description, .missing .authors]⟩ := rfl
  have hdeclared : Kind.ofDeclared? "library.properties" = some .libraryProperties := by
    decide +kernel
  have hdeclared' : Kind.ofDeclared? "library-json" = some .libraryJson := by
    decide +kernel
  obtain ⟨hpretty, hreread⟩ := load_reread_of_propertyList hdeclared hload
  refine ⟨_, hload, rfl, List.forall_mem_cons.2
    ⟨hreread hdeclared' ?_ none, List.forall_mem_singleton.2 (hreread hdeclared' hpretty none)⟩⟩
  cbv

end Manifest
