import Manifest.Proofs.JsonFormats

/-!
# Null members of documents

A member that is null should count as an absent one. It does in every JSON format with three
exceptions (`Format.NullCounts`), which make a difference to what loading ends in
(`load_null_member_iff`): a top-level publishing rule that is null makes publishing rules where there
are none, publishing rules that are null take no top-level rules, and an author that is null hides
the authors.

Among publishing rules that are an object a null makes no difference to their normal form
(`Format.Library.addRule_null`), nor does one that is added beside another rule
(`Format.Library.addRule_addRule_null`). Everything else goes by the values that are given.
-/

namespace Manifest

open Json (Members Pairs Value)

/-! ## Publishing rules -/

namespace Json.Pairs

variable {α : Type}

/-- Names rise after a pair was put in its place unless it was there. -/
theorem Rising.insertNew {name : String} {value : α} {pairs : Pairs α} (h : pairs.Rising) :
    (pairs.insertNew name value).Rising := by
  unfold Pairs.insertNew
  split
  · exact h
  · exact h.insert

end Json.Pairs

namespace Normal

/-- Publishing rules have the same normal form if they give the same rules. -/
theorem exportMembers_congr {x y : Pairs Value} (hx : x.Rising) (hy : y.Rising)
    (h : ∀ name, (x.find? name).filter (fun v => !v.isNull) =
      (y.find? name).filter fun v => !v.isNull) : exportMembers x = exportMembers y := by
  have hkept : Pairs.Rising (x.filter fun pair => !pair.2.isNull) := List.Pairwise.filter _ hx
  have hkept' : Pairs.Rising (y.filter fun pair => !pair.2.isNull) := List.Pairwise.filter _ hy
  have hsame : x.filter (fun pair => !pair.2.isNull) = y.filter fun pair => !pair.2.isNull := by
    refine hkept.ext hkept' fun name => ?_
    rw [hx.find?_filter, hy.find?_filter, h]
  unfold exportMembers
  rw [hsame]

/-- A null that is put among pairs unless its name is there gives no value. -/
theorem filter_find?_insertNew_null (pairs : Pairs Value) (name other : String) :
    ((pairs.insertNew name .null).find? other).filter (fun v => !v.isNull) =
      (pairs.find? other).filter fun v => !v.isNull := by
  by_cases hname : name = other
  · subst hname
    rw [Pairs.find?_insertNew_self]
    cases Pairs.find? name pairs <;> rfl
  · rw [Pairs.find?_insertNew_of_ne _ _ hname]

/-- A rule that is null makes no difference to the normal form of publishing rules. -/
theorem exportMembers_insertNew_null {pairs : Pairs Value} (h : pairs.Rising) (name : String) :
    exportMembers (pairs.insertNew name .null) = exportMembers pairs :=
  exportMembers_congr h.insertNew h (filter_find?_insertNew_null pairs name)

/-- Nor does it before another rule is added. -/
theorem exportMembers_insertNew_insertNew_null {pairs : Pairs Value} (h : pairs.Rising)
    {name other : String} (hne : name ≠ other) (rule : Value) :
    exportMembers ((pairs.insertNew name .null).insertNew other rule) =
      exportMembers (pairs.insertNew other rule) := by
  refine exportMembers_congr h.insertNew.insertNew h.insertNew fun key => ?_
  by_cases hkey : other = key
  · subst hkey
    rw [Pairs.find?_insertNew_self, Pairs.find?_insertNew_self, Pairs.find?_insertNew_of_ne _ _ hne]
  · rw [Pairs.find?_insertNew_of_ne _ _ hkey, Pairs.find?_insertNew_of_ne _ _ hkey,
      filter_find?_insertNew_null]

end Normal

namespace Format.Library

/-- A null that is added to publishing rules makes no difference to their normal form. -/
theorem addRule_null {rules : Value} (hrising : ∀ pairs, rules = .object pairs → Pairs.Rising pairs)
    (name : String) :
    (addRule name (some .null) (some rules)).bind Normal.exportRules = Normal.exportRules rules := by
  cases rules with
  | object pairs =>
    exact congrArg (fun members => some (Value.object members))
      (Normal.exportMembers_insertNew_null (hrising pairs rfl) name)
  | _ => rfl

/-- The same holds if another rule is added after the null, and it is enough if that makes
publishing rules. -/
theorem addRule_addRule_null {rule rules : Option Value}
    (hrising : ∀ pairs, rules = some (.object pairs) → Pairs.Rising pairs) {name other : String}
    (hne : name ≠ other) (hsome : rules ≠ none ∨ rule ≠ none) :
    (addRule other rule (addRule name (some .null) rules)).bind Normal.exportRules =
      (addRule other rule rules).bind Normal.exportRules := by
  have hboth : ∀ (pairs : Pairs Value) (r : Value), pairs.Rising →
      Normal.exportRules (.object ((pairs.insertNew name .null).insertNew other r)) =
        Normal.exportRules (.object (pairs.insertNew other r)) := fun pairs r hpairs =>
    congrArg (fun members => some (Value.object members))
      (Normal.exportMembers_insertNew_insertNew_null hpairs hne r)
  cases rules with
  | none =>
    cases rule with
    | none => exact absurd hsome (by simp)
    -- No publishing rules are like empty ones as soon as a rule is added.
    | some r => exact hboth [] r List.Pairwise.nil
  | some v =>
    cases rule with
    | none => exact addRule_null (fun pairs hpairs => hrising pairs (congrArg some hpairs)) name
    | some r =>
      cases v with
      | object pairs => exact hboth pairs r (hrising pairs rfl)
      | _ => rfl

/-- Publishing rules that are null stay so. -/
theorem addRule_of_null (name : String) (rule : Option Value) :
    addRule name rule (some .null) = some .null := by
  cases rule <;> rfl

/-- There are no publishing rules if there are none and no rule is added. -/
theorem addRule_eq_none_iff {name : String} {rule rules : Option Value} :
    addRule name rule rules = none ↔ rule = none ∧ rules = none := by
  cases rule with
  | none => simp [addRule]
  | some r =>
    cases rules with
    | none => simp [addRule]
    | some v => cases v <;> simp [addRule]

/-- Publishing rules stay in order when a rule is added. -/
theorem rising_of_addRule {name : String} {rule rules : Option Value}
    (hrising : ∀ pairs, rules = some (.object pairs) → Pairs.Rising pairs) {pairs : Pairs Value}
    (h : addRule name rule rules = some (.object pairs)) : pairs.Rising := by
  cases rule with
  | none => exact hrising pairs h
  | some r =>
    cases rules with
    | none =>
      obtain rfl := Value.object.inj (Option.some.inj h)
      exact List.pairwise_singleton _ _
    | some v =>
      cases v with
      | object before =>
        obtain rfl := Value.object.inj (Option.some.inj h)
        exact (hrising before rfl).insertNew
      | _ => exact absurd (Option.some.inj h) (by simp)

/-- Where there are no publishing rules, a rule that is added makes an object of them. -/
theorem exists_exportRules_addRule_addRule {included? excluded? : Option Value}
    (h : included? ≠ none ∨ excluded? ≠ none) :
    ∃ members, (addRule "exclude" excluded? (addRule "include" included? none)).bind
      Normal.exportRules = some (.object members) := by
  cases included? with
  | some i => cases excluded? <;> exact ⟨_, rfl⟩
  | none =>
    cases excluded? with
    | some e => exact ⟨_, rfl⟩
    | none => exact absurd h (by simp)

end Format.Library

/-! ## Nulls that count -/

namespace Format

/-- A null under this name counts for something in a document of this kind. -/
inductive NullCounts (document : Members) : Kind → String → Prop where
  /-- A rule which files are published makes publishing rules where there are none. -/
  | included (hrules : document.get? "export" = none) (hother : document.get? "exclude" = none) :
    NullCounts document .libraryJson "include"
  /-- A rule which files are left out makes publishing rules where there are none. -/
  | excluded (hrules : document.get? "export" = none) (hother : document.get? "include" = none) :
    NullCounts document .libraryJson "exclude"
  /-- Publishing rules keep top-level rules away. -/
  | rules (h : document.get? "include" ≠ none ∨ document.get? "exclude" ≠ none) :
    NullCounts document .libraryJson "export"
  /-- An author hides the authors, of whom there is one. -/
  | author {found : Value}
    (h : ((document.get? "authors").bind Module.authors?).bind Normal.authors = some found) :
    NullCounts document .moduleJson "author"

variable {document : Members} {key : String}

namespace Library

/-- The normal form of the publishing rules is the same without a null that does not count. -/
theorem exportRules_folded_erase
    (hrising : ∀ pairs, document.get? "export" = some (.object pairs) → Pairs.Rising pairs)
    (hnull : document.get? key = some .null) (hcounts : ¬ NullCounts document .libraryJson key) :
    ((folded document).get? "export").bind Normal.exportRules =
      ((folded (document.erase key)).get? "export").bind Normal.exportRules := by
  rw [get?_folded_export, get?_folded_export]
  by_cases hinclude : key = "include"
  -- The null is the first rule that is added, and the other one comes after it.
  · subst hinclude
    rw [Members.get?_erase_self, Members.get?_erase_of_ne _ (by decide),
      Members.get?_erase_of_ne _ (by decide), hnull]
    refine addRule_addRule_null hrising (by decide) (not_and_or.1 fun hnone => ?_)
    exact hcounts (.included hnone.1 hnone.2)
  by_cases hexclude : key = "exclude"
  -- The null is the last rule that is added, to what the other one made of the publishing rules.
  · subst hexclude
    rw [Members.get?_erase_self, Members.get?_erase_of_ne _ (by decide),
      Members.get?_erase_of_ne _ (by decide), hnull]
    cases hrules : addRule "include" (document.get? "include") (document.get? "export") with
    | none =>
      obtain ⟨hnone, hnone'⟩ := addRule_eq_none_iff.1 hrules
      exact absurd (.excluded hnone' hnone) hcounts
    | some rules =>
      refine addRule_null (fun pairs hpairs => ?_) "exclude"
      rw [hpairs] at hrules
      exact rising_of_addRule hrising hrules
  by_cases hexport : key = "export"
  -- The publishing rules are null, and no rule is added to them.
  · subst hexport
    have hnone : document.get? "include" = none ∧ document.get? "exclude" = none := by
      by_contra hsome
      exact hcounts (.rules (not_and_or.1 hsome))
    rw [Members.get?_erase_self, Members.get?_erase_of_ne _ (by decide),
      Members.get?_erase_of_ne _ (by decide), hnull, hnone.1, hnone.2]
    rfl
  · rw [Members.get?_erase_of_ne _ hinclude, Members.get?_erase_of_ne _ hexclude,
      Members.get?_erase_of_ne _ hexport]

end Library

namespace Module

/-- The authors are those that the document names, in their normal form. -/
theorem get?_fields_ofDocument_authors (document : Members) :
    (Normal.fields (ofDocument document)).get? "authors" =
      ((authorMember? document).bind authors?).bind Normal.authors := by
  rw [Normal.get?_fields, get?_ofDocument_authors]
  rfl

/-- The normal form of the authors is the same without a null that does not count. -/
theorem get?_authors_fields_erase (hnull : document.get? key = some .null)
    (hcounts : ¬ NullCounts document .moduleJson key) :
    (Normal.fields (ofDocument document)).get? "authors" =
      (Normal.fields (ofDocument (document.erase key))).get? "authors" := by
  rw [get?_fields_ofDocument_authors, get?_fields_ofDocument_authors]
  unfold authorMember?
  by_cases hauthor : key = "author"
  · subst hauthor
    have hnone : ((document.get? "authors").bind authors?).bind Normal.authors = none :=
      Option.eq_none_iff_forall_ne_some.2 fun found hfound => hcounts (.author hfound)
    rw [Members.get?_erase_self, Members.get?_erase_of_ne _ (by decide), hnull, Option.none_or,
      hnone]
    rfl
  · rw [Members.get?_erase_of_ne _ hauthor]
    by_cases hauthors : key = "authors"
    · subst hauthors
      rw [Members.get?_erase_self, hnull]
      cases document.get? "author" <;> rfl
    · rw [Members.get?_erase_of_ne _ hauthors]

end Module

/-- The fields give the same values without a null that does not count. -/
theorem alike_fieldsOf_erase {kind : Kind}
    (hrising : ∀ pairs, document.get? "export" = some (.object pairs) → Pairs.Rising pairs)
    (hnull : document.get? key = some .null) (hcounts : ¬ NullCounts document kind key) :
    (Normal.fields (fieldsOf document kind)).Alike
      (Normal.fields (fieldsOf (document.erase key) kind)) := by
  have halike := Members.alike_erase hnull
  intro name
  cases kind with
  | libraryJson =>
    by_cases hexport : name = "export"
    · subst hexport
      refine Members.given?_congr ?_
      rw [Normal.get?_fields, Normal.get?_fields]
      exact Library.exportRules_folded_erase hrising hnull hcounts
    · refine Normal.given?_fields_congr ?_
      by_cases hformer : name = "include" ∨ name = "exclude"
      · refine Members.given?_congr ?_
        exact (Library.get?_folded_of_former (.inr hformer) _).trans
          (Library.get?_folded_of_former (.inr hformer) _).symm
      · obtain ⟨hinclude, hexclude⟩ := not_or.1 hformer
        have hsame := Library.get?_folded_of_ne hexport hinclude hexclude
        exact (Members.given?_congr (hsame _)).trans
          ((Library.alike_foldUrl halike name).trans (Members.given?_congr (hsame _).symm))
  | moduleJson =>
    by_cases hauthors : name = "authors"
    · subst hauthors
      exact Members.given?_congr (Module.get?_authors_fields_erase hnull hcounts)
    · exact Normal.given?_fields_congr
        (Members.given?_congr (Module.get?_ofDocument_congr halike hauthors))
  | libraryProperties => exact Normal.given?_fields_congr (halike name)
  | platformJson =>
    exact Normal.given?_fields_congr
      (Platform.alike_nameFrameworks (alike_rename (by decide) halike) name)
  | packageJson => exact Normal.given?_fields_congr (alike_rename (by decide) halike name)

end Format

/-! ## Loading -/

namespace Validation

variable {x y : Members} {f : Field}

/-- A field that may be absent gets something else if it is given than if it is not. -/
theorem outcome_ne_of_given {v : Value} (hoptional : f.isMandatory = false)
    (hx : x.given? f.label = some v) (hy : y.given? f.label = none) :
    outcome x f ≠ outcome y f := by
  obtain ⟨hget, hnull⟩ := Members.given?_eq_some_iff.1 hx
  rw [outcome_of_some hget hnull, outcome_of_unset (Members.given?_eq_none_iff.1 hy), hoptional]
  cases f.read v <;> simp [Except.map]

end Validation

/-- A list of authors that has items is not taken for a missing one. -/
theorem Field.authorList_ne_missing {items : List Value} (h : items ≠ []) :
    authorList (.array items) ≠ .error (.missing .authors) := by
  unfold authorList shaped
  cases hread : Decode.sequence Author.decode (.array items) with
  | error cause => simp [Except.mapError]
  | ok people =>
    have hall : List.Forall₂ (fun v x => Author.decode v = .ok x) items people :=
      Decode.each_eq_ok_iff.1 hread
    have hpeople : people ≠ [] := by
      rintro rfl
      exact h (List.forall₂_nil_right_iff.1 hall)
    simp only [Except.mapError, List.isEmpty_iff, if_neg hpeople]
    split <;> simp

/-- The normal form of authors is a list that has items. -/
theorem Normal.exists_of_authors {v w : Value} (h : authors v = some w) :
    ∃ items, w = .array items ∧ items ≠ [] := by
  have hlisted : ∀ vs, authors.listed vs = some w → ∃ items, w = .array items ∧ items ≠ [] := by
    intro vs hvs
    unfold authors.listed at hvs
    dsimp only at hvs
    split at hvs
    · exact absurd hvs (by simp)
    · rename_i hempty
      refine ⟨_, (Option.some.inj hvs).symm, fun hnil => hempty ?_⟩
      rw [hnil]
      rfl
  unfold authors at h
  split at h
  · exact absurd h (by simp)
  · exact hlisted _ h
  · exact hlisted _ h

namespace Format

variable {document : Members} {key : String} {kind : Kind}

/-- Publishing rules that are made of top-level rules are something else than none. -/
theorem Library.outcome_exportRules_ne {x y : Members} (hrules : x.get? "export" = none)
    (hrule : x.get? "include" ≠ none ∨ x.get? "exclude" ≠ none)
    (hnone : ((folded y).get? "export").bind Normal.exportRules = none) :
    Validation.outcome (Normal.fields (folded x)) .exportRules ≠
      Validation.outcome (Normal.fields (folded y)) .exportRules := by
  obtain ⟨members, hmembers⟩ := exists_exportRules_addRule_addRule hrule
  have hx : (Normal.fields (folded x)).get? "export" = some (.object members) := by
    rw [Normal.get?_fields, get?_folded_export, hrules]
    exact hmembers
  have hy : (Normal.fields (folded y)).get? "export" = none := by
    rw [Normal.get?_fields]
    exact hnone
  exact Validation.outcome_ne_of_given rfl (Members.given?_eq_some_iff.2 ⟨hx, by simp⟩)
    (Members.given?_eq_none_iff.2 (.inl hy))

/-- A null that counts makes a difference to a field other than the page. -/
theorem NullCounts.exists_outcome_ne (h : NullCounts document kind key)
    (hnull : document.get? key = some .null) :
    ∃ f ≠ Field.homepage, Validation.outcome (Normal.fields (fieldsOf document kind)) f ≠
      Validation.outcome (Normal.fields (fieldsOf (document.erase key) kind)) f := by
  have hself : (document.erase key).get? key = none := Members.get?_erase_self document key
  have hothers : ∀ other, key ≠ other → (document.erase key).get? other = document.get? other :=
    fun other => Members.get?_erase_of_ne document
  cases h with
  | included hrules hother =>
    refine ⟨.exportRules, by decide, Library.outcome_exportRules_ne hrules (.inl ?_) ?_⟩
    · simp [hnull]
    · rw [Library.get?_folded_export, hself, hothers _ (by decide), hothers _ (by decide), hother,
        hrules]
      rfl
  | excluded hrules hother =>
    refine ⟨.exportRules, by decide, Library.outcome_exportRules_ne hrules (.inr ?_) ?_⟩
    · simp [hnull]
    · rw [Library.get?_folded_export, hself, hothers _ (by decide), hothers _ (by decide), hother,
        hrules]
      rfl
  | rules hsome =>
    refine ⟨.exportRules, by decide, Ne.symm (Library.outcome_exportRules_ne hself ?_ ?_)⟩
    · rwa [hothers _ (by decide), hothers _ (by decide)]
    · rw [Library.get?_folded_export, hnull, Library.addRule_of_null, Library.addRule_of_null]
      rfl
  | author hfound =>
    refine ⟨.authors, by decide, fun heq => ?_⟩
    have hnone : (Normal.fields (Module.ofDocument document)).get? "authors" = none := by
      rw [Module.get?_fields_ofDocument_authors]
      unfold Module.authorMember?
      rw [hnull]
      rfl
    obtain ⟨items, rfl, hitems⟩ : ∃ items, _ = Value.array items ∧ items ≠ [] := by
      obtain ⟨v, -, hv⟩ := Option.bind_eq_some_iff.1 hfound
      exact Normal.exists_of_authors hv
    have hsome : (Normal.fields (Module.ofDocument (document.erase "author"))).get? "authors" =
        some (.array items) := by
      rw [Module.get?_fields_ofDocument_authors]
      unfold Module.authorMember?
      rw [hself, Option.none_or, hothers _ (by decide), hfound]
    -- Authors that are there are never called missing, not even if one of them cannot be read.
    have hleft := Validation.outcome_of_unset (f := .authors) (.inl hnone)
    have hright := Validation.outcome_of_some (f := .authors) hsome (by simp)
    have hread : (Field.authorList (.array items)).map some = .error (.missing .authors) :=
      hright.symm.trans (heq.symm.trans hleft)
    cases hlist : Field.authorList (.array items) with
    | ok people =>
      rw [hlist] at hread
      exact absurd hread (by simp [Except.map])
    | error e =>
      rw [hlist] at hread
      exact Field.authorList_ne_missing hitems (hlist.trans (congrArg _ (Except.error.inj hread)))

end Format

/-- A member that is null makes no difference to what loading a document of a JSON format ends in, in
any mode, exactly if the null does not count: the same document without the member gives the same
record and the same errors, or the same failure. -/
theorem load_null_member_iff {declared : String} {kind : Kind}
    (hdeclared : Kind.ofDeclared? declared = some kind) (hkind : kind ≠ .libraryProperties)
    {document : Members} {key : String} (hnull : document.get? key = some .null)
    {contents shorter : String} (hcontents : Json.read contents = .ok document.toValue)
    (hshorter : Json.read shorter = .ok (document.erase key).toValue) (address : Option String) :
    (∀ mode, load contents declared address mode = load shorter declared address mode) ↔
      ¬ Format.NullCounts document kind key := by
  have hload := load_of_read hdeclared hkind hcontents address
  have hload' := load_of_read hdeclared hkind hshorter address
  constructor
  · intro hsame hcounts
    -- Lenient loading says of every field what it got, so there the difference is seen.
    obtain ⟨f, hf, hne⟩ := hcounts.exists_outcome_ne hnull
    have hlenient := hsame .lenient
    rw [hload, hload', validate_lenient, validate_lenient] at hlenient
    exact hne (outcome_eq_of_validateLeniently (Except.ok.inj hlenient) hf)
  · intro hcounts mode
    have hrising : ∀ pairs, document.get? "export" = some (.object pairs) → Pairs.Rising pairs := by
      intro pairs hget
      cases Format.ordered_of_members (Format.members_of_read hcontents kind) hget with
      | object hrising _ => exact hrising
    rw [hload, hload', validate_congr (Format.alike_fieldsOf_erase hrising hnull hcounts)]

set_option maxRecDepth 8000 in
/-- Beside another top-level rule a rule that is null does not count. -/
theorem load_null_member_iff_ruleBesideRule :
    let document := Members.ofPairs [("exclude", .null), ("include", .string "src")]
    ¬ Format.NullCounts document .libraryJson "exclude" ∧
      ∀ mode, load "\x7b\"include\": \"src\", \"exclude\": null\x7d" "library-json" none mode =
        load "\x7b\"include\": \"src\"\x7d" "library-json" none mode := by
  intro document
  have hcontents : Json.read "\x7b\"include\": \"src\", \"exclude\": null\x7d" =
      .ok document.toValue := by
    cbv
  have hshorter : Json.read "\x7b\"include\": \"src\"\x7d" =
      .ok (document.erase "exclude").toValue := by
    cbv
  have hcounts : ¬ Format.NullCounts document .libraryJson "exclude" := by
    intro hcounts
    generalize hkey : "exclude" = key at hcounts
    cases hcounts with
    | included => exact absurd hkey (by decide)
    | excluded _ hother => exact absurd hother (Option.some_ne_none (Value.string "src"))
    | rules => exact absurd hkey (by decide)
  have hdeclared : Kind.ofDeclared? "library-json" = some .libraryJson := by decide +kernel
  exact ⟨hcounts, (load_null_member_iff hdeclared (by decide) rfl hcontents hshorter none).2 hcounts⟩

/-- A library with publishing rules that are null and a top-level rule. -/
def nullRulesBesideRule : String :=
  "\x7b\"name\": \"P\", \"version\": \"1.0.0\", \"description\": \"D\", \"keywords\": [\"k\"], " ++
    "\"authors\": [\x7b\"name\": \"A\"\x7d], \"export\": null, \"include\": \"src\"\x7d"

/-- Its members. -/
def nullRulesMembers : Members :=
  Members.ofPairs
    [("name", .string "P"), ("version", .string "1.0.0"), ("description", .string "D"),
      ("keywords", Value.strings ["k"]), ("authors", .array [.object [("name", .string "A")]]),
      ("export", .null), ("include", .string "src")]

/-- The same library with the top-level rule only. -/
def ruleAlone : String :=
  "\x7b\"name\": \"P\", \"version\": \"1.0.0\", \"description\": \"D\", \"keywords\": [\"k\"], " ++
    "\"authors\": [\x7b\"name\": \"A\"\x7d], \"include\": \"src\"\x7d"

set_option maxRecDepth 8000 in
/-- The rule is lost where the publishing rules are null. -/
theorem load_nullRulesBesideRule_ne :
    ∃ document : Members, document.get? "export" = some .null ∧
      Json.read nullRulesBesideRule = .ok document.toValue ∧
      Json.read ruleAlone = .ok (document.erase "export").toValue ∧
      load nullRulesBesideRule "library-json" none .lenient ≠
        load ruleAlone "library-json" none .lenient := by
  have hread : Json.read nullRulesBesideRule = .ok nullRulesMembers.toValue := by
    cbv
  have hshorter : Json.read ruleAlone = .ok (nullRulesMembers.erase "export").toValue := by
    cbv
  have hdeclared : Kind.ofDeclared? "library-json" = some .libraryJson := by decide +kernel
  let fields := Normal.fields (Format.fieldsOf nullRulesMembers .libraryJson)
  let kept := Normal.fields (Format.fieldsOf (nullRulesMembers.erase "export") .libraryJson)
  have hlost : fields.get? "export" = none := by
    have hnull : (Format.fieldsOf nullRulesMembers .libraryJson).get? "export" = some .null := rfl
    rw [Normal.get?_fields, hnull]
    rfl
  have hkept : kept.get? "export" = some (.object [("include", Value.strings ["src"])]) := by
    have hgiven : (Format.fieldsOf (nullRulesMembers.erase "export") .libraryJson).get? "export" =
        some (.object [("include", .string "src")]) := rfl
    rw [Normal.get?_fields, hgiven]
    rfl
  refine ⟨nullRulesMembers, rfl, hread, hshorter, fun heq => ?_⟩
  rw [load_of_read hdeclared (by decide) hread, load_of_read hdeclared (by decide) hshorter,
    validate_lenient, validate_lenient] at heq
  have hrules : Field.exportRules.read (.object [("include", Value.strings ["src"])]) =
      .ok ⟨some ["src"], none⟩ := rfl
  have hsame : Validation.outcome fields .exportRules = Validation.outcome kept .exportRules :=
    outcome_eq_of_validateLeniently (Except.ok.inj heq) (by decide)
  rw [Validation.outcome_of_unset (.inl hlost), Validation.outcome_of_some hkept (by simp),
    hrules] at hsame
  exact absurd (Except.ok.inj hsame) (by simp)

end Manifest
