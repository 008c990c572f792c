import Manifest.Proofs.Decoding
import Manifest.Proofs.LowerCase
import Manifest.Proofs.VersionGrammar
import Manifest.Record.Check

/-!
# What reading a field gives

Each field is read from a value of any shape. `Field.Sound` says what its content then satisfies,
and an error that there is instead is about the field that was read. Both are one statement for each
reader, `Field.Meets`, which come together in `Field.meets_read`.
-/

namespace Manifest

open Json (Pairs Value)
open Text (IsProper isBlankText lower trim)

/-- Keywords are proper texts in lower case, and none stands there twice. -/
structure Keywords.Sound (keywords : Keywords) : Prop where
  /-- They are not empty and have no blanks at their ends. -/
  proper : ∀ w ∈ keywords.words, IsProper w
  /-- They are in lower case. -/
  lower : ∀ w ∈ keywords.words, lower w = w
  /-- None stands there twice. -/
  nodup : keywords.words.Nodup

namespace Field

/-- What the content of a field satisfies. -/
def Sound : (f : Field) → f.Content → Prop
  | .name, s | .description, s | .title, s | .homepage, s | .license, s => IsProper s
  | .version, s => IsProper s ∧ (Version.parse? s).isSome
  | .keywords, found => found.words ≠ [] ∧ found.Sound
  | .authors, people => people ≠ [] ∧ ∀ a ∈ people, ¬ isBlankText a.name
  | .repository, source => ¬ isBlankText source.url
  | .platforms, names | .frameworks, names | .system, names => ∀ s ∈ names, trim s = s
  | .exportRules, _ | .examples, _ | .engines, _ | .packages, _ => True

/-- The outcome of reading a field has a property, or is an error about the field. -/
def Meets {α : Type} (f : Field) (p : α → Prop) : Except FieldError α → Prop
  | .ok content => p content
  | .error e => e.field = f

section

variable {α β : Type} {f : Field} {p : α → Prop} {q : β → Prop} {outcome : Except FieldError α}

/-- Changing the content that there is changes no error. -/
theorem Meets.map {change : α → β} (h : f.Meets p outcome) (hchange : ∀ x, p x → q (change x)) :
    f.Meets q (outcome.map change) := by
  cases outcome with
  | error e => exact h
  | ok content => exact hchange content h

/-- A later outcome may be judged by what the content before was, if it passes an error on. -/
theorem Meets.chain {later : Except FieldError β} (h : f.Meets p outcome)
    (herror : ∀ e, outcome = .error e → later = .error e)
    (hok : ∀ x, outcome = .ok x → p x → f.Meets q later) : f.Meets q later := by
  cases outcome with
  | error e =>
    rw [herror e rfl]
    exact h
  | ok content => exact hok content rfl h

end

/-- A text is read as a proper one. -/
theorem meets_text (f : Field) (v : Value) : f.Meets IsProper (text f v) := by
  cases v with
  | string s =>
    simp only [text]
    split
    case isTrue => rfl
    case isFalse hne => exact Text.isProper_trim hne
  | _ => rfl

/-- A version is read as a proper text of one. -/
theorem meets_semanticVersion (v : Value) :
    Meets .version (fun s => IsProper s ∧ (Version.parse? s).isSome) (semanticVersion v) := by
  unfold semanticVersion
  dsimp only
  split
  case isTrue => rfl
  case isFalse hne =>
    split
    case isTrue hversion => exact ⟨⟨hne, Version.trim_of_parse? hversion⟩, hversion⟩
    case isFalse => rfl

/-- The items of a sequence of texts are read without blanks at their ends. -/
theorem meets_textItems (f : Field) (items : List Value) :
    f.Meets (fun names => ∀ s ∈ names, trim s = s) (textItems f items) := by
  induction items with
  | nil => exact fun s hs => absurd hs List.not_mem_nil
  | cons v rest ih =>
    cases v with
    | string s =>
      rw [textItems]
      refine ih.map fun names hnames => ?_
      exact List.forall_mem_cons.2 ⟨Text.trim_trim s, hnames⟩
    | _ => rfl

/-- A sequence of texts is read without blanks at their ends. -/
theorem meets_texts (f : Field) (v : Value) :
    f.Meets (fun names => ∀ s ∈ names, trim s = s) (texts f v) := by
  cases v with
  | array items => exact meets_textItems f items
  | _ => rfl

/-- A word that is collected is what is left of a text in lower case, and is not empty. -/
theorem mem_words_collect {items : List String} {w : String} :
    w ∈ (Keywords.collect items).words ↔ w ≠ "" ∧ ∃ t ∈ items, lower (trim t) = w := by
  simp only [Keywords.collect, Text.mem_firstSeen, List.mem_filter, List.mem_map,
    decide_eq_true_eq]
  exact and_comm

/-- Keywords that are collected are sound. -/
theorem sound_collect (items : List String) : (Keywords.collect items).Sound := by
  constructor
  · intro w hw
    obtain ⟨hne, t, -, rfl⟩ := mem_words_collect.1 hw
    exact ⟨hne, by rw [Text.trim_lower, Text.trim_trim]⟩
  · intro w hw
    obtain ⟨-, t, -, rfl⟩ := mem_words_collect.1 hw
    exact Text.lower_lower _
  · exact Text.nodup_firstSeen _

/-- Keywords are read as sound ones, of which there is one at least. -/
theorem meets_keywordList (v : Value) :
    Meets .keywords (fun found => found.words ≠ [] ∧ found.Sound) (keywordList v) := by
  unfold keywordList
  refine (meets_texts .keywords v).chain (fun e he => by rw [he]) fun items hitems _ => ?_
  rw [hitems]
  dsimp only
  split
  case isTrue => rfl
  case isFalse hempty => exact ⟨by simpa using hempty, sound_collect items⟩

/-- An error about a part of a certain shape is about the field. -/
theorem meets_shaped {α : Type} (f : Field) (part : Value → Decoded α) (v : Value) :
    f.Meets (fun _ => True) (shaped f part v) := by
  unfold shaped
  cases part v with
  | error cause => rfl
  | ok x => exact trivial

/-- Authors are read with names that are not blank, and there is one at least. -/
theorem meets_authorList (v : Value) :
    Meets .authors (fun people => people ≠ [] ∧ ∀ a ∈ people, ¬ isBlankText a.name)
      (authorList v) := by
  unfold authorList
  refine (meets_shaped .authors (Decode.sequence Author.decode) v).chain (fun e he => by rw [he])
    fun people hpeople _ => ?_
  rw [hpeople]
  dsimp only
  split
  case isTrue => rfl
  case isFalse hempty =>
    split
    case isTrue => rfl
    case isFalse hblank =>
      refine ⟨by simpa using hempty, fun a ha hname => hblank ?_⟩
      exact List.any_eq_true.2 ⟨a, ha, hname⟩

/-- A repository is read with an address that is not blank. -/
theorem meets_sourceRepository (v : Value) :
    Meets .repository (fun source => ¬ isBlankText source.url) (sourceRepository v) := by
  unfold sourceRepository
  refine (meets_shaped .repository Repository.decode v).chain (fun e he => by rw [he])
    fun source hsource _ => ?_
  rw [hsource]
  dsimp only
  split
  case isTrue => rfl
  case isFalse hblank => exact hblank

/-- An error about an object is about the field. -/
theorem meets_verbatim (f : Field) (v : Value) : f.Meets (fun _ => True) (verbatim f v) := by
  cases v with
  | object members => exact trivial
  | _ => rfl

/-- A field is read with sound content, or with an error about it. -/
theorem meets_read (f : Field) (v : Value) : f.Meets f.Sound (f.read v) := by
  cases f with
  | name | description | title | homepage | license => exact meets_text _ v
  | version => exact meets_semanticVersion v
  | keywords => exact meets_keywordList v
  | authors => exact meets_authorList v
  | repository => exact meets_sourceRepository v
  | platforms | frameworks | system => exact meets_texts _ v
  | exportRules | examples | engines => exact meets_shaped _ _ v
  | packages => exact meets_verbatim _ v

/-! ## When a field is read -/

/-- A text is read from a string that is not blank, without the blanks at its ends. -/
theorem text_eq_ok_iff {f : Field} {v : Value} {c : String} :
    text f v = .ok c ↔ ∃ s, v = .string s ∧ trim s ≠ "" ∧ c = trim s := by
  cases v with
  | string s =>
    rw [text]
    split
    case isTrue hblank =>
      constructor
      · intro h
        exact absurd h (by simp)
      · rintro ⟨t, ht, hne, -⟩
        obtain rfl := Value.string.inj ht
        exact absurd hblank hne
    case isFalse hne =>
      constructor
      · intro h
        exact ⟨s, rfl, hne, (Except.ok.inj h).symm⟩
      · rintro ⟨t, ht, -, rfl⟩
        rw [Value.string.inj ht]
  | _ => simp [text]

/-- A sequence is read as texts if it consists of strings. -/
theorem textItems_eq_ok_iff {f : Field} {items : List Value} {names : List String} :
    textItems f items = .ok names ↔
      ∃ strings : List String, items = strings.map Value.string ∧ names = strings.map trim := by
  induction items generalizing names with
  | nil =>
    constructor
    · intro h
      exact ⟨[], rfl, (Except.ok.inj h).symm⟩
    · rintro ⟨strings, hstrings, rfl⟩
      rw [List.map_eq_nil_iff.1 hstrings.symm]
      rfl
  | cons v rest ih =>
    cases v with
    | string s =>
      rw [textItems, Decode.map_eq_ok_iff]
      constructor
      · rintro ⟨others, hothers, rfl⟩
        obtain ⟨strings, rfl, rfl⟩ := ih.1 hothers
        exact ⟨s :: strings, rfl, rfl⟩
      · rintro ⟨strings, hstrings, rfl⟩
        obtain ⟨t, more, rfl, ht, hmore⟩ := List.map_eq_cons_iff.1 hstrings.symm
        obtain rfl := Value.string.inj ht
        exact ⟨more.map trim, ih.2 ⟨more, hmore.symm, rfl⟩, rfl⟩
    | _ =>
      refine iff_of_false (by simp [textItems]) ?_
      rintro ⟨strings, hstrings, -⟩
      obtain ⟨t, more, -, ht, -⟩ := List.map_eq_cons_iff.1 hstrings.symm
      exact absurd ht nofun

/-- A value is read as texts if it is a sequence of strings, of which the blanks at the ends are left
out. -/
theorem texts_eq_ok_iff {f : Field} {v : Value} {names : List String} :
    texts f v = .ok names ↔
      ∃ strings : List String, v = Value.strings strings ∧ names = strings.map trim := by
  cases v with
  | array items => simp only [texts, textItems_eq_ok_iff, Value.strings, Value.array.injEq]
  | _ => simp [texts, Value.strings]

/-- Keywords are collected from texts, and there is one at least. -/
theorem keywordList_eq_ok_iff {v : Value} {found : Keywords} :
    keywordList v = .ok found ↔
      ∃ names, texts .keywords v = .ok names ∧ found = Keywords.collect names ∧
        found.words ≠ [] := by
  unfold keywordList
  cases texts .keywords v with
  | error e => simp
  | ok names =>
    dsimp only
    split
    case isTrue hempty =>
      refine iff_of_false (by simp) ?_
      rintro ⟨others, hothers, rfl, hne⟩
      obtain rfl := Except.ok.inj hothers
      exact hne (List.isEmpty_iff.1 hempty)
    case isFalse hne =>
      constructor
      · intro h
        obtain rfl := Except.ok.inj h
        exact ⟨names, rfl, rfl, fun hnil => hne (List.isEmpty_iff.2 hnil)⟩
      · rintro ⟨others, hothers, rfl, -⟩
        rw [Except.ok.inj hothers]

/-- A part is read if it is decoded. -/
theorem shaped_eq_ok_iff {α : Type} {f : Field} {part : Value → Decoded α} {v : Value} {x : α} :
    shaped f part v = .ok x ↔ part v = .ok x := by
  unfold shaped
  exact Decode.mapError_eq_ok_iff

/-- Authors are read from a sequence of parts, of which there is one and none has a blank name. -/
theorem authorList_eq_ok_iff {v : Value} {people : List Author} :
    authorList v = .ok people ↔
      (∃ items, v = .array items ∧
        List.Forall₂ (fun item a => Author.decode item = .ok a) items people) ∧
      people ≠ [] ∧ ∀ a ∈ people, ¬ isBlankText a.name := by
  have hsequence : ∀ others, shaped .authors (Decode.sequence Author.decode) v = .ok others ↔
      ∃ items, v = .array items ∧
        List.Forall₂ (fun item a => Author.decode item = .ok a) items others := by
    intro others
    simp only [shaped_eq_ok_iff, Decode.sequence_eq_ok_iff, Decode.each_eq_ok_iff]
  rw [← hsequence]
  unfold authorList
  cases shaped .authors (Decode.sequence Author.decode) v with
  | error e => simp
  | ok others =>
    dsimp only
    by_cases hempty : others.isEmpty
    · rw [if_pos hempty]
      have hnil : others = [] := List.isEmpty_iff.1 hempty
      simp only [reduceCtorEq, Except.ok.injEq, false_iff]
      rintro ⟨rfl, hne, -⟩
      exact hne hnil
    · rw [if_neg hempty]
      have hne : others ≠ [] := fun hnil => hempty (List.isEmpty_iff.2 hnil)
      by_cases hblank : others.any fun a => isBlankText a.name
      · rw [if_pos hblank]
        obtain ⟨a, ha, hname⟩ := List.any_eq_true.1 hblank
        simp only [reduceCtorEq, Except.ok.injEq, false_iff]
        rintro ⟨rfl, -, hnames⟩
        exact hnames a ha hname
      · rw [if_neg hblank]
        constructor
        · intro h
          obtain rfl := Except.ok.inj h
          exact ⟨rfl, hne, fun a ha hname => hblank (List.any_eq_true.2 ⟨a, ha, hname⟩)⟩
        · exact fun h => h.1

/-- A repository is read from a part whose address is not blank. -/
theorem sourceRepository_eq_ok_iff {v : Value} {source : Repository} :
    sourceRepository v = .ok source ↔
      Repository.decode v = .ok source ∧ ¬ isBlankText source.url := by
  rw [← shaped_eq_ok_iff (f := .repository)]
  unfold sourceRepository
  cases shaped .repository Repository.decode v with
  | error e => simp
  | ok other =>
    dsimp only
    by_cases hblank : isBlankText other.url
    · rw [if_pos hblank]
      simp only [reduceCtorEq, Except.ok.injEq, false_iff]
      rintro ⟨rfl, hurl⟩
      exact hurl hblank
    · rw [if_neg hblank]
      constructor
      · intro h
        obtain rfl := Except.ok.inj h
        exact ⟨rfl, hblank⟩
      · exact fun h => h.1

end Field

end Manifest
