import Mathlib.Data.List.Perm.Subperm
import Mathlib.Data.Set.Defs
import Mathlib.Logic.Relation
import Manifest.Proofs.FieldAccount

/-!
# Keywords as sets

Keywords are compared by their number and by one inclusion. None of them stands there twice, so
this is equality of the sets of words (`Keywords.equal_collect_iff`): the order of the texts that
they are collected from, repetitions, letter case and blanks around a text do not count. Two
documents that differ in such a way in their keywords validate to equal records, with the same
errors.
-/

namespace Manifest

open Json (Members Number Value)
open Text (isBlank isBlankText lower trim)

namespace Keywords

/-! ## The words of a list of texts -/

/-- The words of some texts: what is left of those that are not blank, in lower case. -/
def wordSet (texts : List String) : Set String :=
  {w | ∃ t ∈ texts, ¬ isBlankText t ∧ lower (trim t) = w}

/-- A word is what is left of a text, and is not empty. -/
theorem mem_wordSet_iff {texts : List String} {w : String} :
    w ∈ wordSet texts ↔ w ≠ "" ∧ ∃ t ∈ texts, lower (trim t) = w := by
  have hblank : ∀ t, isBlankText t ↔ lower (trim t) = "" := fun t =>
    Text.trim_eq_empty_iff.symm.trans Text.lower_eq_empty_iff.symm
  constructor
  · rintro ⟨t, ht, hne, rfl⟩
    exact ⟨fun hempty => hne ((hblank t).2 hempty), t, ht, rfl⟩
  · rintro ⟨hne, t, ht, rfl⟩
    exact ⟨t, ht, fun h => hne ((hblank t).1 h), rfl⟩

/-- The words that are collected are those of the texts. -/
theorem mem_words_collect {texts : List String} {w : String} :
    w ∈ (collect texts).words ↔ w ∈ wordSet texts :=
  Field.mem_words_collect.trans mem_wordSet_iff.symm

/-- Trimming the texts before changes nothing about what is collected. -/
theorem collect_map_trim (texts : List String) : collect (texts.map trim) = collect texts := by
  unfold collect
  rw [List.map_map]
  simp only [Function.comp_def, Text.trim_trim]

/-! ## Comparing -/

/-- Words of which none stands there twice compare equal if they are the same ones. -/
theorem equal_iff {x y : Keywords} (hx : x.words.Nodup) (hy : y.words.Nodup) :
    x.equal y ↔ ∀ w, w ∈ x.words ↔ w ∈ y.words := by
  unfold equal
  rw [Bool.and_eq_true, beq_iff_eq, List.all_eq_true]
  constructor
  · rintro ⟨hlen, hall⟩ w
    have hsub : x.words ⊆ y.words := fun w hw => List.contains_iff_mem.1 (hall w hw)
    -- Distinct words that are as many as those they are among leave none of these out.
    have hperm : x.words.Perm y.words := (hx.subperm hsub).perm_of_length_le hlen.ge
    exact hperm.mem_iff
  · intro h
    have hperm : x.words.Perm y.words := (List.perm_ext_iff_of_nodup hx hy).2 h
    exact ⟨hperm.length_eq, fun w hw => List.contains_iff_mem.2 ((h w).1 hw)⟩

/-- Collected keywords compare equal exactly if the texts have the same words. -/
theorem equal_collect_iff {a b : List String} :
    (collect a).equal (collect b) ↔ wordSet a = wordSet b := by
  rw [equal_iff (Field.sound_collect a).nodup (Field.sound_collect b).nodup]
  simp only [mem_words_collect, Set.ext_iff]

/-- Keywords compare equal to themselves. -/
theorem equal_refl (x : Keywords) : x.equal x := by
  simp [equal]

/-! ## Rewording -/

/-- The second list is the first one with its texts in another order, with one of them repeated, or
with one of them in another letter case or with more blanks around it. -/
inductive Reworded : List String → List String → Prop where
  /-- The order of the texts does not count. -/
  | reordered {a b : List String} (h : a.Perm b) : Reworded a b
  /-- A text may stand there again. -/
  | repeated {a : List String} {t : String} (h : t ∈ a) : Reworded a (t :: a)
  /-- The letter case of a text does not count. -/
  | recased {t u : String} (h : lower t = lower u) (rest : List String) :
    Reworded (t :: rest) (u :: rest)
  /-- Blanks around a text do not count. -/
  | spaced {ws vs : List Char} (hws : ∀ c ∈ ws, isBlank c) (hvs : ∀ c ∈ vs, isBlank c)
    (t : String) (rest : List String) :
    Reworded (t :: rest) (String.ofList (ws ++ t.toList ++ vs) :: rest)

/-- A text may be replaced by one of which the same is left. -/
theorem wordSet_cons_congr {t u : String} (h : lower (trim t) = lower (trim u))
    (rest : List String) : wordSet (t :: rest) = wordSet (u :: rest) := by
  ext w
  simp only [mem_wordSet_iff, List.mem_cons, exists_eq_or_imp, h]

/-- Rewording keeps the words. -/
theorem Reworded.wordSet_eq {a b : List String} (h : Reworded a b) : wordSet a = wordSet b := by
  cases h with
  | reordered hperm =>
    ext w
    simp only [mem_wordSet_iff, hperm.mem_iff]
  | @repeated _ t hmem =>
    ext w
    simp only [mem_wordSet_iff, List.mem_cons, exists_eq_or_imp]
    -- The repeated text gives a word that it gave before.
    refine and_congr_right fun _ => ⟨.inr, ?_⟩
    rintro (htext | hothers)
    · exact ⟨t, hmem, htext⟩
    · exact hothers
  | recased hcase rest =>
    refine wordSet_cons_congr ?_ rest
    rw [← Text.trim_lower, ← Text.trim_lower, hcase]
  | spaced hws hvs t rest =>
    refine wordSet_cons_congr ?_ rest
    rw [Text.trim_surround hws hvs]

/-- However often texts are reworded, back and forth, they keep their words. -/
theorem wordSet_eq_of_eqvGen {a b : List String} (h : Relation.EqvGen Reworded a b) :
    wordSet a = wordSet b := by
  induction h with
  | rel a b hstep => exact hstep.wordSet_eq
  | refl a => rfl
  | symm a b _ ih => exact ih.symm
  | trans a b c _ _ hfirst hsecond => exact hfirst.trans hsecond

end Keywords

/-! ## Equality of records is reflexive -/

namespace Json

/-- Numbers equal themselves. -/
theorem Number.equal_refl (n : Number) : n.equal n := by
  cases n with
  | integer n => exact beq_self_eq_true n
  | binary x => simp [Number.equal, Binary64.equal]

mutual

/-- Values equal themselves. -/
theorem Value.equal_refl : ∀ v : Value, v.equal v
  | .null => rfl
  | .bool b => beq_self_eq_true b
  | .number n => n.equal_refl
  | .string s => beq_self_eq_true s
  | .array items => Value.equalItems_refl items
  | .object members => Value.equalMembers_refl members

/-- Sequences equal themselves. -/
theorem Value.equalItems_refl : ∀ items : List Value, Value.equalItems items items
  | [] => rfl
  | v :: rest => by
    rw [Value.equalItems, Value.equal_refl v, Value.equalItems_refl rest]
    rfl

/-- Objects equal themselves. -/
theorem Value.equalMembers_refl :
    ∀ members : List (String × Value), Value.equalMembers members members
  | [] => rfl
  | (name, v) :: rest => by
    rw [Value.equalMembers, Value.equal_refl v, Value.equalMembers_refl rest, beq_self_eq_true]
    rfl

end

end Json

namespace Record

/-- The content of a field is the same as itself. -/
theorem sameContent_refl (f : Field) (c : f.Content) : sameContent f c c := by
  cases f with
  | keywords => exact c.equal_refl
  | packages => exact Value.equalMembers_refl c
  | _ => exact beq_self_eq_true c

/-- Records are equal if each field has the same content in both, or is absent from both. -/
theorem equal_iff {r s : Record} :
    r.equal s ↔ ∀ f, Option.Rel (fun x y => sameContent f x y) (r.get f) (s.get f) := by
  have hall : r.equal s ↔ ∀ f ∈ Field.checkOrder,
      Option.Rel (fun x y => sameContent f x y) (r.get f) (s.get f) := by
    unfold equal
    rw [List.all_eq_true]
    refine forall₂_congr fun f _ => ?_
    cases r.get f <;> cases s.get f <;> simp
  exact hall.trans ⟨fun h f => h f f.mem_checkOrder, fun h f _ => h f⟩

/-- What may be the content of a field is the same as itself. -/
theorem rel_refl (f : Field) (content : Option f.Content) :
    Option.Rel (fun x y => sameContent f x y) content content := by
  cases content with
  | none => exact .none
  | some c => exact .some (sameContent_refl f c)

end Record

/-! ## Reworded keywords in a document -/

/-- Texts are read as the keywords that are collected from them, of which there has to be one. -/
theorem Field.keywordList_strings (texts : List String) :
    keywordList (Value.strings texts) =
      if (Keywords.collect texts).words = [] then .error (.missing .keywords)
      else .ok (Keywords.collect texts) := by
  have htexts : Field.texts .keywords (Value.strings texts) = .ok (texts.map trim) :=
    texts_eq_ok_iff.2 ⟨texts, rfl, rfl⟩
  simp only [keywordList, htexts, Keywords.collect_map_trim, List.isEmpty_iff]

/-- Keywords are what is collected from a list of texts, and missing if this is nothing. -/
theorem Validation.outcome_keywords_of_strings {members : Members} {texts : List String}
    (h : members.get? "keywords" = some (Value.strings texts)) :
    outcome members .keywords =
      if (Keywords.collect texts).words = [] then .error (.missing .keywords)
      else .ok (some (Keywords.collect texts)) := by
  have hread : Field.keywords.read (Value.strings texts) = Field.keywordList (Value.strings texts) :=
    rfl
  rw [outcome_of_some (f := .keywords) h nofun, hread, Field.keywordList_strings]
  split
  case isTrue => rfl
  case isFalse => rfl

/-- Two documents that have the same members, except that their keywords are lists of texts with the
same words. -/
structure SameUpToKeywords (m n : Members) (a b : List String) : Prop where
  /-- All other members are the same. -/
  others : ∀ name, name ≠ "keywords" → m.get? name = n.get? name
  /-- The keywords of the first document. -/
  first : m.get? "keywords" = some (Value.strings a)
  /-- The keywords of the second document. -/
  second : n.get? "keywords" = some (Value.strings b)
  /-- They have the same words. -/
  words : Keywords.wordSet a = Keywords.wordSet b

namespace SameUpToKeywords

open Validation

variable {m n : Members} {a b : List String} (h : SameUpToKeywords m n a b)

include h

/-- Any other field is read from the same value. -/
theorem outcome_eq {f : Field} (hf : f ≠ .keywords) : outcome m f = outcome n f := by
  have hlabel : f.label ≠ "keywords" := by
    cases f with
    | keywords => exact absurd rfl hf
    | _ => decide
  unfold outcome
  rw [h.others _ hlabel]

/-- So it gets the same content in both documents. -/
theorem content?_eq {f : Field} (hf : f ≠ .keywords) : content? m f = content? n f := by
  unfold content?
  rw [h.outcome_eq hf]

/-- The keywords are missing in both documents, or read in both as words that compare equal. -/
theorem outcome_keywords :
    (outcome m .keywords = .error (.missing .keywords) ∧
      outcome n .keywords = .error (.missing .keywords)) ∨
    (outcome m .keywords = .ok (some (Keywords.collect a)) ∧
      outcome n .keywords = .ok (some (Keywords.collect b))) := by
  have hempty : (Keywords.collect a).words = [] ↔ (Keywords.collect b).words = [] := by
    simp only [List.eq_nil_iff_forall_not_mem, Keywords.mem_words_collect, h.words]
  rw [outcome_keywords_of_strings h.first, outcome_keywords_of_strings h.second]
  by_cases hnil : (Keywords.collect a).words = []
  · rw [if_pos hnil, if_pos (hempty.1 hnil)]
    exact .inl ⟨rfl, rfl⟩
  · rw [if_neg hnil, if_neg fun hb => hnil (hempty.2 hb)]
    exact .inr ⟨rfl, rfl⟩

/-- Every field has the same error in both documents. -/
theorem error?_eq (f : Field) : error? m f = error? n f := by
  unfold error?
  by_cases hf : f = .keywords
  · subst hf
    rcases h.outcome_keywords with ⟨hm, hn⟩ | ⟨hm, hn⟩
    · rw [hm, hn]
    · rw [hm, hn]
  · rw [h.outcome_eq hf]

/-- Every field has content that is the same for records in both documents. -/
theorem rel_content? (f : Field) :
    Option.Rel (fun x y => Record.sameContent f x y) (content? m f) (content? n f) := by
  by_cases hf : f = .keywords
  · subst hf
    unfold content?
    rcases h.outcome_keywords with ⟨hm, hn⟩ | ⟨hm, hn⟩
    · rw [hm, hn]
      exact .none
    · rw [hm, hn]
      exact .some (Keywords.equal_collect_iff.2 h.words)
  · rw [h.content?_eq hf]
    exact Record.rel_refl f (content? n f)

/-- The errors are the same for both documents. -/
theorem errors_eq : (validateLeniently m).errors = (validateLeniently n).errors := by
  rw [validateLeniently_eq, validateLeniently_eq]
  exact List.filterMap_congr fun f _ => h.error?_eq f

/-- Both documents have the same page, or both have none. -/
theorem homepage_eq :
    (validateLeniently m).record.homepage = (validateLeniently n).record.homepage := by
  -- A page is kept or dropped by what is in two fields, and neither is the keywords.
  have hfill : ∀ {f : Field}, f ≠ .keywords →
      (fill m {} Field.checkOrder).get f = (fill n {} Field.checkOrder).get f := by
    intro f hf
    rw [get_fill_checkOrder, get_fill_checkOrder, h.content?_eq hf]
  rw [validateLeniently_eq, validateLeniently_eq]
  exact homepage_dropRepeatedHomepage_congr (hfill (f := .homepage) nofun)
    (hfill (f := .repository) nofun)

/-- The records of both documents are equal. -/
theorem record_equal : (validateLeniently m).record.equal (validateLeniently n).record := by
  -- Every field but the page ends up with what is read from its own value.
  refine Record.equal_iff.2 fun f => ?_
  by_cases hf : f = .homepage
  · subst hf
    show Option.Rel _ (validateLeniently m).record.homepage (validateLeniently n).record.homepage
    rw [h.homepage_eq]
    exact Record.rel_refl .homepage _
  · rw [get_validateLeniently_of_ne m hf, get_validateLeniently_of_ne n hf]
    exact h.rel_content? f

end SameUpToKeywords

/-- Keywords compare as sets. They are equal exactly if they are collected from texts with the same
words, so comparing them is an equivalence that rewording the texts does not affect, and documents
that agree up to this validate to the same. -/
theorem keywords_compare_as_sets :
    (∀ a b, (Keywords.collect a).equal (Keywords.collect b) ↔
      Keywords.wordSet a = Keywords.wordSet b) ∧
    (Equivalence fun a b => ((Keywords.collect a).equal (Keywords.collect b) : Prop)) ∧
    (∀ a b c, Relation.EqvGen Keywords.Reworded a b →
      (Keywords.collect a).equal (Keywords.collect c) =
        (Keywords.collect b).equal (Keywords.collect c)) ∧
    (∀ m n a b, SameUpToKeywords m n a b →
      (validateLeniently m).equal (validateLeniently n) ∧
        (validateLeniently m).errors = (validateLeniently n).errors) := by
  refine ⟨fun a b => Keywords.equal_collect_iff, ⟨?refl, ?symm, ?trans⟩, ?reworded, ?documents⟩
  case refl =>
    intro a
    exact (Keywords.collect a).equal_refl
  case symm =>
    intro a b hab
    exact Keywords.equal_collect_iff.2 (Keywords.equal_collect_iff.1 hab).symm
  case trans =>
    intro a b c hab hbc
    have hwords := (Keywords.equal_collect_iff.1 hab).trans (Keywords.equal_collect_iff.1 hbc)
    exact Keywords.equal_collect_iff.2 hwords
  case reworded =>
    intro a b c h
    rw [Bool.eq_iff_iff, Keywords.equal_collect_iff, Keywords.equal_collect_iff,
      Keywords.wordSet_eq_of_eqvGen h]
  case documents =>
    intro m n a b h
    refine ⟨?_, h.errors_eq⟩
    unfold Validated.equal
    rw [h.record_equal, h.errors_eq, beq_self_eq_true]
    rfl

/-- A document with a name and a version alone. -/
def unworded : Members :=
  Members.ofPairs [("name", .string "SD"), ("version", .string "1.2.2")]

/-- Two lists of its keywords that differ in order, letter case, blanks and repetitions compare
equal, and the document validates to the same with either of them. -/
theorem keywords_compare_as_sets_unworded :
    (Keywords.collect ["SD", "card "]).equal (Keywords.collect ["Card", " sd", "CARD", ""]) ∧
      (validateLeniently (unworded.insert "keywords" (Value.strings ["SD", "card "]))).equal
        (validateLeniently
          (unworded.insert "keywords" (Value.strings ["Card", " sd", "CARD", ""]))) := by
  obtain ⟨hiff, -, -, hdocuments⟩ := keywords_compare_as_sets
  have hequal : (Keywords.collect ["SD", "card "]).equal
      (Keywords.collect ["Card", " sd", "CARD", ""]) := by
    decide
  refine ⟨hequal, (hdocuments _ _ ["SD", "card "] ["Card", " sd", "CARD", ""] ?_).1⟩
  constructor
  case others =>
    intro name hname
    rw [Members.get?_insert_of_ne _ _ hname.symm, Members.get?_insert_of_ne _ _ hname.symm]
  case first => exact Members.get?_insert_self _ _ _
  case second => exact Members.get?_insert_self _ _ _
  case words => exact (hiff _ _).1 hequal

end Manifest
