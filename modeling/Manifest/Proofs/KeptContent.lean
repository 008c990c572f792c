import Manifest.Proofs.NormalForm
import Manifest.Proofs.NormalParts
import Manifest.Proofs.Reread

/-!
# Normalizing makes no good field bad

A field that validates does so in its normal form as well, so the fields that errors name after
normalizing are some of those that errors name before (`normalizing_keeps_good_fields`). Keywords
and publishing rules even keep their content.

The proof goes by fields. A value that is read as texts is a sequence of strings, of which the
normal form is a sequence of proper texts again or nothing at all (`texts_of_targets`,
`texts_of_system`). Only optional fields can lose all of their texts, for keywords without a word do
not validate (`keywordList_of_keywords`). Authors, publishing rules and repositories are objects or
sequences of fields, of which `NormalParts` tells what becomes.
-/

namespace Manifest

open Json (Members Pairs Value)
open Text (IsProper firstSeen isBlankText lower trim)

namespace Field

/-! ## Texts -/

/-- What is read as texts has tokens, which are those texts that are not empty. -/
theorem tokens?_of_texts {f : Field} {v : Value} {names : List String}
    (h : texts f v = .ok names) :
    Normal.tokens? v = some (names.filter fun t => t ≠ "") := by
  obtain ⟨strings, rfl, rfl⟩ := texts_eq_ok_iff.1 h
  rw [Value.strings, Normal.tokens?, Normal.mapM_text?_strings]
  rfl

/-- Texts that are proper are read as they are. -/
theorem texts_of_proper {f : Field} {names : List String} (h : ∀ t ∈ names, IsProper t) :
    texts f (Value.strings names) = .ok names :=
  texts_strings fun t ht => (h t ht).2

/-- The normal form of what is read as texts is read as a list of targets. -/
theorem texts_of_targets {f : Field} {resolve : String → String} (hresolve : Normal.Resolves resolve)
    {v w : Value} {names : List String} (h : texts f v = .ok names)
    (hw : Normal.targets resolve v = some w) :
    ∃ targets, w = Value.strings targets ∧ Normal.TargetList resolve targets ∧
      texts f w = .ok targets := by
  obtain ⟨targets, rfl, htargets⟩ :=
    Normal.targetList_of_targets hresolve (tokens?_of_texts h) hw
  exact ⟨targets, rfl, htargets, texts_of_proper htargets.proper⟩

/-- The normal form of what is read as texts is read as a settled list of host systems. -/
theorem texts_of_system {f : Field} {v w : Value} {names : List String}
    (h : texts f v = .ok names) (hw : Normal.system v = some w) :
    ∃ systems, w = Value.strings systems ∧ Normal.SettledBy lower systems ∧
      texts f w = .ok systems := by
  obtain ⟨systems, rfl, hsystems⟩ := Normal.settledBy_of_system (tokens?_of_texts h) hw
  exact ⟨systems, rfl, hsystems, texts_of_proper hsystems.proper⟩

/-! ## Keywords -/

/-- The words that are collected from texts without blanks at their ends are the lower-case forms of
those that are not empty, the first of each. -/
theorem words_collect {names : List String} (h : ∀ t ∈ names, trim t = t) :
    (Keywords.collect names).words = firstSeen ((names.filter fun t => t ≠ "").map lower) := by
  have hmap : names.map (fun t => lower (trim t)) = names.map lower :=
    List.map_congr_left fun t ht => by rw [h t ht]
  have hkeep : ((fun w => decide (w ≠ "")) ∘ lower) = fun t : String => decide (t ≠ "") := by
    funext t
    exact decide_eq_decide.2 (not_congr Text.lower_eq_empty_iff)
  unfold Keywords.collect
  rw [hmap, List.filter_map, hkeep]

/-- Keywords that are read have a normal form, and it is read as the same keywords. -/
theorem keywordList_of_keywords {v : Value} {found : Keywords} (h : keywordList v = .ok found) :
    ∃ w, Normal.keywords v = some w ∧ w ≠ .null ∧ keywordList w = .ok found := by
  have hsound := meets_keywordList v
  rw [h] at hsound
  obtain ⟨hne, hsound⟩ := hsound
  obtain ⟨names, htexts, rfl, -⟩ := keywordList_eq_ok_iff.1 h
  have htrim := meets_texts .keywords v
  rw [htexts] at htrim
  refine ⟨(Keywords.collect names).toValue, ?_, nofun, keywordList_toValue hne hsound⟩
  simp only [Normal.keywords, tokens?_of_texts htexts, ← words_collect htrim]
  exact Normal.present?_eq_some_iff.2 ⟨hne, rfl⟩

/-! ## Authors, publishing rules and repositories -/

/-- An author that is read has a normal form, and it is read as the author or the author's normal
form. -/
theorem exists_author_of_decode {v : Value} {a : Author} (h : Author.decode v = .ok a) :
    ∃ w b, Normal.author v = some w ∧ Author.decode w = .ok b ∧ (b = a ∨ b = a.normal) := by
  cases v with
  | object members =>
    exact ⟨_, a.normal, Normal.author_object members, Author.ofMembers_authorMembers h, .inr rfl⟩
  | array parts => exact ⟨.array parts, a, rfl, h, .inl rfl⟩
  | _ => exact absurd h nofun

/-- A name is blank after normalizing if it was before. -/
theorem isBlankText_normal (a : Author) :
    isBlankText a.normal.name ↔ isBlankText a.name :=
  Text.isBlankText_trim_iff

/-- Authors that are read are as many after they were normalized one by one, and each of them is one
of those before or the normal form of one. -/
theorem exists_authors_of_decode {items : List Value} {people : List Author}
    (h : List.Forall₂ (fun item a => Author.decode item = .ok a) items people) :
    ∃ others, List.Forall₂ (fun item a => Author.decode item = .ok a)
        (items.filterMap Normal.author) others ∧
      others.length = people.length ∧ ∀ b ∈ others, ∃ a ∈ people, b = a ∨ b = a.normal := by
  induction h with
  | nil => exact ⟨[], .nil, rfl, nofun⟩
  | @cons item a items people hitem _ ih =>
    obtain ⟨others, hothers, hlen, hsame⟩ := ih
    obtain ⟨w, b, hw, hb, hab⟩ := exists_author_of_decode hitem
    refine ⟨b :: others, ?_, by rw [List.length_cons, hlen, List.length_cons], ?_⟩
    · rw [List.filterMap_cons_some hw]
      exact .cons hb hothers
    · refine List.forall_mem_cons.2 ⟨⟨a, List.mem_cons_self, hab⟩, fun c hc => ?_⟩
      obtain ⟨d, hd, hcd⟩ := hsame c hc
      exact ⟨d, List.mem_cons_of_mem _ hd, hcd⟩

/-- Authors that are read have a normal form, and it is read as authors. -/
theorem authorList_of_authors {v : Value} {people : List Author} (h : authorList v = .ok people) :
    ∃ w others, Normal.authors v = some w ∧ w ≠ .null ∧ authorList w = .ok others := by
  obtain ⟨⟨items, rfl, hitems⟩, hne, hnames⟩ := authorList_eq_ok_iff.1 h
  obtain ⟨others, hothers, hlen, hsame⟩ := exists_authors_of_decode hitems
  have hnormal : others ≠ [] := by
    rintro rfl
    exact hne (List.length_eq_zero_iff.1 hlen.symm)
  have hfound : items.filterMap Normal.author ≠ [] := by
    intro hnil
    rw [hnil, List.forall₂_nil_left_iff] at hothers
    exact hnormal hothers
  refine ⟨.array (items.filterMap Normal.author), others, ?_, nofun,
    authorList_eq_ok_iff.2 ⟨⟨_, rfl, hothers⟩, hnormal, fun b hb hblank => ?_⟩⟩
  · simp [Normal.authors, Normal.authors.listed, hfound]
  · obtain ⟨a, ha, rfl | rfl⟩ := hsame b hb
    · exact hnames _ ha hblank
    · exact hnames a ha ((isBlankText_normal a).1 hblank)

/-- A repository that is read has a normal form, and it is read as a repository. -/
theorem sourceRepository_of_repository {v : Value} {source : Repository}
    (h : sourceRepository v = .ok source) :
    ∃ w other, Normal.repository v = some w ∧ w ≠ .null ∧ sourceRepository w = .ok other := by
  obtain ⟨hdecode, hurl⟩ := sourceRepository_eq_ok_iff.1 h
  cases v with
  | object members =>
    refine ⟨_, source.normal, Normal.repository_object members, nofun,
      sourceRepository_eq_ok_iff.2 ⟨Repository.ofMembers_repositoryMembers hdecode, ?_⟩⟩
    exact fun hblank => hurl (Text.isBlankText_trim_iff.1 hblank)
  | array parts => exact ⟨.array parts, source, rfl, nofun, h⟩
  | _ => exact absurd hdecode nofun

/-- Publishing rules that are read have a normal form, and it is read as publishing rules, the same
ones if the names of an object rise. -/
theorem shaped_of_exportRules {v : Value} {rules : Export}
    (h : shaped .exportRules Export.decode v = .ok rules) :
    ∃ w other, Normal.exportRules v = some w ∧ w ≠ .null ∧
      shaped .exportRules Export.decode w = .ok other ∧
      ((∀ pairs, v = .object pairs → Pairs.Rising pairs) → other = rules) := by
  have hdecode := shaped_eq_ok_iff.1 h
  cases v with
  | object members =>
    obtain ⟨hcheck, -⟩ := Export.ofMembers_eq_ok_iff.1 hdecode
    obtain ⟨other, hother⟩ := Export.exists_ofMembers (Export.check_exportMembers hcheck)
    refine ⟨_, other, Normal.exportRules_object members, nofun, shaped_eq_ok_iff.2 hother, ?_⟩
    intro hrising
    have hsame := Export.ofMembers_exportMembers (hrising members rfl) hdecode
    exact Except.ok.inj (hother.symm.trans hsame)
  | array parts => exact ⟨.array parts, rules, rfl, nofun, h, fun _ => rfl⟩
  | _ => exact absurd hdecode nofun

/-! ## Any field -/

/-- Whether the content of a field stays the same when the field's value is normalized. Targets,
authors and repositories may change. -/
def Keeps (f : Field) (v : Value) : Prop :=
  match f with
  | .platforms | .frameworks | .system | .authors | .repository => False
  | .exportRules => ∀ pairs, v = .object pairs → Pairs.Rising pairs
  | _ => True

/-- The normal form of null is null or nothing. -/
theorem normalForm_null (f : Field) :
    Normal.normalForm f.label .null = none ∨ Normal.normalForm f.label .null = some .null := by
  cases f with
  | authors | exportRules | repository => exact .inl rfl
  | _ => exact .inr rfl

/-- The normal form of a value that can be read can be read, or is nothing for a field that is not
mandatory. -/
theorem read_normalForm {f : Field} {v : Value} {c : f.Content} (h : f.read v = .ok c)
    (hnull : v ≠ .null) :
    (Normal.normalForm f.label v = none ∧ ¬ f.isMandatory ∧ ¬ f.Keeps v) ∨
      ∃ w d, Normal.normalForm f.label v = some w ∧ w ≠ .null ∧ f.read w = .ok d ∧
        (f.Keeps v → d = c) := by
  cases f with
  | keywords =>
    obtain ⟨w, hw, hw', hread⟩ := keywordList_of_keywords h
    exact .inr ⟨w, c, hw, hw', hread, fun _ => rfl⟩
  | authors =>
    obtain ⟨w, others, hw, hw', hread⟩ := authorList_of_authors h
    exact .inr ⟨w, others, hw, hw', hread, nofun⟩
  | repository =>
    obtain ⟨w, other, hw, hw', hread⟩ := sourceRepository_of_repository h
    exact .inr ⟨w, other, hw, hw', hread, nofun⟩
  | exportRules =>
    obtain ⟨w, other, hw, hw', hread, hsame⟩ := shaped_of_exportRules h
    exact .inr ⟨w, other, hw, hw', hread, hsame⟩
  | platforms =>
    cases hw : Normal.platforms v with
    | none => exact .inl ⟨hw, nofun, nofun⟩
    | some w =>
      obtain ⟨targets, rfl, -, hread⟩ := texts_of_targets Normal.resolves_platform h hw
      exact .inr ⟨_, targets, hw, nofun, hread, nofun⟩
  | frameworks =>
    cases hw : Normal.frameworks v with
    | none => exact .inl ⟨hw, nofun, nofun⟩
    | some w =>
      obtain ⟨targets, rfl, -, hread⟩ := texts_of_targets Normal.resolves_id h hw
      exact .inr ⟨_, targets, hw, nofun, hread, nofun⟩
  | system =>
    cases hw : Normal.system v with
    | none => exact .inl ⟨hw, nofun, nofun⟩
    | some w =>
      obtain ⟨systems, rfl, -, hread⟩ := texts_of_system h hw
      exact .inr ⟨_, systems, hw, nofun, hread, nofun⟩
  | _ => exact .inr ⟨v, c, Normal.normalForm_of_not_mem (by decide) v, hnull, h, fun _ => rfl⟩

end Field

namespace Validation

variable {members : Members}

/-- A field that validates does so after normalizing, and ends up with the same content if its value
keeps it. -/
theorem outcome_fields {f : Field} {content : Option f.Content}
    (h : outcome members f = .ok content) :
    ∃ normal, outcome (Normal.fields members) f = .ok normal ∧
      ((∀ v, members.get? f.label = some v → f.Keeps v) → normal = content) := by
  have hget := Normal.get?_fields members f.label
  cases hv : members.get? f.label with
  | none =>
    rw [hv] at hget
    rw [outcome_of_unset (.inl hv)] at h
    exact ⟨content, (outcome_of_unset (.inl hget)).trans h, fun _ => rfl⟩
  | some v =>
    rw [hv, Option.bind_some] at hget
    by_cases hnull : v = .null
    · subst hnull
      have hunset : (Normal.fields members).get? f.label = none ∨
          (Normal.fields members).get? f.label = some .null := by
        rw [hget]
        exact f.normalForm_null
      rw [outcome_of_unset (.inr hv)] at h
      exact ⟨content, (outcome_of_unset hunset).trans h, fun _ => rfl⟩
    · rw [outcome_of_some hv hnull] at h
      obtain ⟨c, hread, rfl⟩ := Decode.map_eq_ok_iff.1 h
      rcases Field.read_normalForm hread hnull with
        ⟨hnone, hoptional, hnot⟩ | ⟨w, d, hw, hw', hread', hsame⟩
      · rw [hnone] at hget
        exact ⟨none, by rw [outcome_of_unset (.inl hget), if_neg hoptional],
          fun hkeeps => absurd (hkeeps v rfl) hnot⟩
      · rw [hw] at hget
        refine ⟨some d, by rw [outcome_of_some hget hw', hread']; rfl, fun hkeeps => ?_⟩
        rw [hsame (hkeeps v rfl)]

/-- Errors after normalizing are about fields that have errors before. -/
theorem isSome_error?_of_fields {f : Field} (h : (error? (Normal.fields members) f).isSome) :
    (error? members f).isSome := by
  cases hout : outcome members f with
  | error e =>
    rw [error?_eq_some_iff.2 hout]
    rfl
  | ok content =>
    obtain ⟨normal, hnormal, -⟩ := outcome_fields hout
    obtain ⟨e, he⟩ := Option.isSome_iff_exists.1 h
    rw [error?_eq_some_iff, hnormal] at he
    exact absurd he (by simp)

/-- Content is the same after normalizing if the value keeps it. -/
theorem content?_fields {f : Field} {c : f.Content} (h : content? members f = some c)
    (hkeeps : ∀ v, members.get? f.label = some v → f.Keeps v) :
    content? (Normal.fields members) f = some c := by
  obtain ⟨normal, hnormal, hsame⟩ := outcome_fields (content?_eq_some_iff.1 h)
  rw [content?_eq_some_iff, hnormal, hsame hkeeps]

end Validation

/-- Fields that errors name after normalizing are named before, in the same order. -/
theorem map_field_normal_sublist (members : Members) :
    ((validateLeniently (Normal.fields members)).errors.map FieldError.field).Sublist
      ((validateLeniently members).errors.map FieldError.field) := by
  rw [map_field_validateLeniently, map_field_validateLeniently]
  exact List.monotone_filter_right _ fun f => Validation.isSome_error?_of_fields

/-- Whether an error ends validation depends on its field alone. -/
theorem Mode.stopsAt_congr (mode : Mode) {d e : FieldError} (h : d.field = e.field) :
    mode.stopsAt d = mode.stopsAt e := by
  cases mode with
  | lenient => rfl
  | strict => rw [strict_stopsAt, strict_stopsAt, h]

/-- Validation that succeeds does so after normalizing, and ends in what lenient validation ends
in. -/
theorem validate_fields_of_ok {members : Members} {mode : Mode} {found : Validated}
    (h : validate members mode = .ok found) :
    validate (Normal.fields members) mode =
      .ok (validateLeniently (Normal.fields members)) := by
  have hnone : (validateLeniently members).errors.find? mode.stopsAt = none := by
    rw [validate_eq] at h
    split at h
    · exact absurd h (by simp)
    · assumption
  have hnormal :
      (validateLeniently (Normal.fields members)).errors.find? mode.stopsAt = none := by
    refine List.find?_eq_none.2 fun e he => ?_
    -- An error about the same field was there before, and did not end validation.
    have hfield := (map_field_normal_sublist members).mem (List.mem_map_of_mem he)
    obtain ⟨d, hd, hde⟩ := List.mem_map.1 hfield
    rw [mode.stopsAt_congr hde.symm]
    exact List.find?_eq_none.1 hnone d hd
  rw [validate_eq, hnormal]

/-- Keywords that validate stay the same when they are normalized. -/
theorem keywords_fields {members : Members} {words : Keywords}
    (h : (validateLeniently members).record.keywords = some words) :
    (validateLeniently (Normal.fields members)).record.keywords = some words := by
  have hcontent := content?_of_get (f := .keywords) h
  exact (get_validateLeniently_of_ne _ (f := .keywords) (by decide)).trans
    (Validation.content?_fields hcontent fun _ _ => trivial)

/-- Publishing rules that validate stay the same when they are normalized, where an object is one
whose names rise. -/
theorem exportRules_fields {members : Members} {rules : Export}
    (hrising : ∀ pairs, members.get? "export" = some (.object pairs) → Pairs.Rising pairs)
    (h : (validateLeniently members).record.exportRules = some rules) :
    (validateLeniently (Normal.fields members)).record.exportRules = some rules := by
  have hcontent := content?_of_get (f := .exportRules) h
  refine (get_validateLeniently_of_ne _ (f := .exportRules) (by decide)).trans
    (Validation.content?_fields hcontent fun v hv pairs hpairs => ?_)
  exact hrising pairs (hpairs ▸ hv)

/-- Normalizing makes no good field bad: the fields that errors name after it are some of those that
errors name before it, in the same order. So strict validation succeeds after normalizing if it did
before. Keywords that validate stay the same, in the same order, and publishing rules that validate
stay the same, where an object is one whose names rise, as those of every object in a document
do. -/
theorem normalizing_keeps_good_fields (members : Members) :
    ((validateLeniently (Normal.fields members)).errors.map FieldError.field).Sublist
        ((validateLeniently members).errors.map FieldError.field) ∧
      (∀ found, validate members .strict = .ok found →
        validate (Normal.fields members) .strict =
          .ok (validateLeniently (Normal.fields members))) ∧
      (∀ words, (validateLeniently members).record.keywords = some words →
        (validateLeniently (Normal.fields members)).record.keywords = some words) ∧
      ((∀ pairs, members.get? "export" = some (.object pairs) → Pairs.Rising pairs) →
        ∀ rules, (validateLeniently members).record.exportRules = some rules →
          (validateLeniently (Normal.fields members)).record.exportRules = some rules) := by
  exact ⟨map_field_normal_sublist members, fun _ => validate_fields_of_ok,
    fun _ => keywords_fields, fun hrising _ => exportRules_fields hrising⟩

/-- A library with repeated keywords, with a null among its publishing rules and with the wildcard as
its host system, which normalizing leaves out. -/
def nullRuleLibrary : Members :=
  Members.ofPairs
    [("name", .string "Wire"), ("version", .string "1.2.3"), ("description", .string "I2C"),
      ("keywords", Value.strings ["B", " b "]), ("authors", .array [.array [.string "Ada"]]),
      ("export", .object [("exclude", .null), ("include", Value.strings ["src"])]),
      ("system", Value.strings ["*"])]

set_option maxRecDepth 8000 in
/-- Normalizing such a library keeps its keywords and its publishing rules. -/
theorem normalizing_keeps_good_fields_nullRuleLibrary :
    validate (Normal.fields nullRuleLibrary) .strict =
        .ok (validateLeniently (Normal.fields nullRuleLibrary)) ∧
      (validateLeniently (Normal.fields nullRuleLibrary)).record.keywords = some ⟨["b"]⟩ ∧
      (validateLeniently (Normal.fields nullRuleLibrary)).record.exportRules =
        some ⟨some ["src"], none⟩ := by
  have hvalidate : validate nullRuleLibrary .strict = .ok
      ⟨{ name := some "Wire"
         version := some "1.2.3"
         description := some "I2C"
         keywords := some ⟨["b"]⟩
         authors := some [⟨"Ada", none, none, false⟩]
         exportRules := some ⟨some ["src"], none⟩
         system := some ["*"] }, []⟩ := rfl
  have hrecord := congrArg Validated.record (eq_validateLeniently hvalidate)
  have hrising : ∀ pairs, nullRuleLibrary.get? "export" = some (.object pairs) →
      Pairs.Rising pairs := by
    intro pairs hpairs
    have hget : nullRuleLibrary.get? "export" =
        some (.object [("exclude", .null), ("include", Value.strings ["src"])]) := rfl
    obtain rfl := Value.object.inj (Option.some.inj (hget.symm.trans hpairs))
    exact List.pairwise_pair.2 (by decide)
  obtain ⟨-, hstrict, hkeywords, hrules⟩ := normalizing_keeps_good_fields nullRuleLibrary
  exact ⟨hstrict _ hvalidate, hkeywords _ (congrArg Record.keywords hrecord.symm),
    hrules hrising _ (congrArg Record.exportRules hrecord.symm)⟩

end Manifest
