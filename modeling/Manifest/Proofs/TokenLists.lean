import Manifest.Normal.Tokens
import Manifest.Proofs.LowerCase

/-!
# Token lists in normal form

Keywords, platforms, frameworks and host systems are normalized by mapping tokens and keeping the
first of each. `SettledBy` says that a list is left alone by this, and what normalizing gives is
settled (`settledBy_firstSeen`). Bringing such a list into its normal form twice is therefore doing
so once, with an exception: the wildcard written more than once as the host systems is brought
together into one wildcard, which then stands for no restriction (`system_bind_system`).
-/

namespace Manifest.Normal

open Json (Value)
open Text (IsProper firstSeen lower trim)

/-! ## Tokens -/

/-- Tokens are proper texts. -/
theorem isProper_of_mem_nonBlank {texts : List String} {t : String} (h : t ∈ nonBlank texts) :
    IsProper t := by
  simp only [nonBlank, List.mem_filter, List.mem_map, decide_eq_true_eq] at h
  obtain ⟨⟨s, -, rfl⟩, hne⟩ := h
  exact Text.isProper_trim hne

/-- The tokens of a value are proper texts. -/
theorem isProper_of_tokens? {v : Value} {tokens : List String} (h : tokens? v = some tokens) :
    ∀ t ∈ tokens, IsProper t := by
  intro t ht
  unfold tokens? at h
  split at h
  · rw [← Option.some.inj h] at ht
    exact isProper_of_mem_nonBlank ht
  · obtain ⟨texts, -, rfl⟩ := Option.map_eq_some_iff.1 h
    exact isProper_of_mem_nonBlank ht
  · exact absurd h (by simp)

/-- Only sequences of texts have texts for items. -/
theorem mapM_text?_eq_some_iff {items : List Value} {texts : List String} :
    items.mapM Value.text? = some texts ↔ items = texts.map Value.string := by
  constructor
  · intro h
    induction items generalizing texts with
    | nil =>
      rw [← Option.some.inj h]
      rfl
    | cons v rest ih =>
      rw [List.mapM_cons] at h
      obtain ⟨t, ht, hbind⟩ := Option.bind_eq_some_iff.1 h
      obtain ⟨others, hrest, heq⟩ := Option.bind_eq_some_iff.1 hbind
      cases v with
      | string s =>
        obtain rfl := Option.some.inj ht
        rw [← Option.some.inj heq, ih hrest, List.map_cons]
      | _ => exact absurd ht (by simp [Value.text?])
  · rintro rfl
    induction texts with
    | nil => rfl
    | cons t rest ih => simp [List.mapM_cons, ih, Value.text?]

/-- The texts of a sequence of texts. -/
theorem mapM_text?_strings (texts : List String) :
    (texts.map Value.string).mapM Value.text? = some texts :=
  mapM_text?_eq_some_iff.2 rfl

/-- Sequences of different texts are different values. -/
theorem strings_injective {xs ys : List String} (h : Value.strings xs = Value.strings ys) :
    xs = ys := by
  have htexts := congrArg (List.mapM Value.text?) (Value.array.inj h)
  rw [mapM_text?_strings, mapM_text?_strings] at htexts
  exact Option.some.inj htexts

/-- Proper texts are the tokens of their sequence. -/
theorem tokens?_strings {texts : List String} (h : ∀ t ∈ texts, IsProper t) :
    tokens? (Value.strings texts) = some texts := by
  have htrim : texts.map trim = texts :=
    (List.map_congr_left fun t ht => (h t ht).2).trans (List.map_id texts)
  have hfilter : texts.filter (fun t => decide (t ≠ "")) = texts :=
    List.filter_eq_self.2 fun t ht => decide_eq_true (h t ht).1
  rw [Value.strings, tokens?, mapM_text?_strings, Option.map_some, nonBlank, htrim, hfilter]

/-- The wildcard is a token. -/
theorem tokens?_wildcard : tokens? (Value.strings [wildcard]) = some [wildcard] :=
  tokens?_strings (by decide)

section

variable {v : Value} (h : tokens? v = none)

include h

/-- Keywords of an unexpected shape are left as they are. -/
theorem keywords_of_none : keywords v = some v := by
  simp only [keywords, h]

/-- Target names of an unexpected shape are left as they are. -/
theorem targets_of_none (resolve : String → String) : targets resolve v = some v := by
  simp only [targets, h]

/-- Host systems of an unexpected shape are left as they are. -/
theorem system_of_none : system v = some v := by
  simp only [system, h]

end

/-! ## Lists that are settled -/

/-- Mapping the tokens and keeping the first of each leaves the list as it is. -/
structure SettledBy (f : String → String) (tokens : List String) : Prop where
  /-- The tokens are proper texts. -/
  proper : ∀ t ∈ tokens, IsProper t
  /-- They are mapped to themselves. -/
  fixed : ∀ t ∈ tokens, f t = t
  /-- None stands there twice. -/
  nodup : tokens.Nodup

namespace SettledBy

variable {f : String → String} {tokens : List String}

/-- The tokens of a settled list are its members. -/
theorem tokens?_eq (h : SettledBy f tokens) : tokens? (Value.strings tokens) = some tokens :=
  tokens?_strings h.proper

/-- Mapping the tokens of a settled list changes nothing. -/
theorem map_eq (h : SettledBy f tokens) : tokens.map f = tokens :=
  (List.map_congr_left h.fixed).trans (List.map_id tokens)

/-- Keeping the first of each changes nothing. -/
theorem firstSeen_eq (h : SettledBy f tokens) : firstSeen tokens = tokens :=
  Text.firstSeen_of_nodup h.nodup

end SettledBy

/-- What a mapping of tokens that settles each of them gives is settled. -/
theorem settledBy_firstSeen {f : String → String} {tokens : List String}
    (h : ∀ t ∈ tokens, IsProper t)
    (hf : ∀ t, IsProper t → IsProper (f t) ∧ f (f t) = f t) :
    SettledBy f (firstSeen (tokens.map f)) := by
  have hmem : ∀ u ∈ firstSeen (tokens.map f), ∃ t ∈ tokens, f t = u := fun u hu =>
    List.mem_map.1 (Text.mem_firstSeen.1 hu)
  constructor
  · intro u hu
    obtain ⟨t, ht, rfl⟩ := hmem u hu
    exact (hf t (h t ht)).1
  · intro u hu
    obtain ⟨t, ht, rfl⟩ := hmem u hu
    exact (hf t (h t ht)).2
  · exact Text.nodup_firstSeen _

/-- Lower-casing settles each token. -/
theorem lower_settles (t : String) (h : IsProper t) :
    IsProper (lower t) ∧ lower (lower t) = lower t :=
  ⟨h.lower, Text.lower_lower t⟩

/-- Keeping the first of each leaves out all tokens only if there is none. -/
theorem firstSeen_eq_nil_iff {tokens : List String} : firstSeen tokens = [] ↔ tokens = [] := by
  simp only [List.eq_nil_iff_forall_not_mem, Text.mem_firstSeen]

/-- A list of tokens that is there has tokens. -/
theorem present?_eq_some_iff {tokens : List String} {v : Value} :
    present? tokens = some v ↔ tokens ≠ [] ∧ v = Value.strings tokens := by
  cases tokens <;> simp [present?, eq_comm]

/-- Only an empty list of tokens is left out. -/
theorem present?_eq_none_iff {tokens : List String} : present? tokens = none ↔ tokens = [] := by
  cases tokens <;> simp [present?]

/-! ## Keywords -/

/-- Keywords that are settled are in normal form. -/
theorem keywords_of_settled {tokens : List String} (h : SettledBy lower tokens) :
    keywords (Value.strings tokens) = present? tokens := by
  simp only [keywords, h.tokens?_eq, h.map_eq, h.firstSeen_eq]

/-- The normal form of keywords is its own normal form. -/
theorem keywords_bind_keywords (v : Value) : (keywords v).bind keywords = keywords v := by
  cases htokens : tokens? v with
  | none =>
    rw [keywords_of_none htokens, Option.bind_some, keywords_of_none htokens]
  | some tokens =>
    have hsettled := settledBy_firstSeen (isProper_of_tokens? htokens) lower_settles
    have heq : keywords v = present? (firstSeen (tokens.map lower)) := by
      simp only [keywords, htokens]
    cases hpresent : present? (firstSeen (tokens.map lower)) with
    | none => rw [heq, hpresent, Option.bind_none]
    | some w =>
      obtain ⟨-, rfl⟩ := present?_eq_some_iff.1 hpresent
      rw [heq, hpresent, Option.bind_some, keywords_of_settled hsettled, hpresent]

/-! ## Platforms and frameworks -/

/-- What a target name is mapped to, which settles it and leaves the wildcard as it is. -/
structure Resolves (resolve : String → String) : Prop where
  /-- A name that is mapped is settled. -/
  settles : ∀ t, IsProper t →
    IsProper (resolve (lower t)) ∧ resolve (lower (resolve (lower t))) = resolve (lower t)
  /-- The wildcard stays. -/
  wildcard : resolve (lower wildcard) = wildcard

/-- The wildcard alone is in normal form. -/
theorem targets_wildcard {resolve : String → String} (h : Resolves resolve) :
    targets resolve (Value.strings [wildcard]) = some (Value.strings [wildcard]) := by
  simp [targets, tokens?_wildcard, h.wildcard]

/-- The list is the wildcard alone, or a list of settled names without the wildcard. -/
structure TargetList (resolve : String → String) (names : List String) : Prop where
  /-- There is a name. -/
  ne_nil : names ≠ []
  /-- It is the wildcard, or no name is. -/
  names : names = [wildcard] ∨ SettledBy (fun t => resolve (lower t)) names ∧ wildcard ∉ names

/-- The names in a list of targets are proper texts. -/
theorem TargetList.proper {resolve : String → String} {names : List String}
    (h : TargetList resolve names) : ∀ t ∈ names, IsProper t := by
  rcases h.names with rfl | ⟨hsettled, -⟩
  · decide
  · exact hsettled.proper

/-- Targets are the wildcard alone if a token is, and otherwise the first of each name. -/
theorem targets_of_tokens? {resolve : String → String}
    (hwild : ∀ t, resolve (lower t) = wildcard ↔ t = wildcard) {v : Value} {tokens : List String}
    (h : tokens? v = some tokens) :
    targets resolve v =
      if wildcard ∈ tokens then some (Value.strings [wildcard])
      else present? (firstSeen (tokens.map fun t => resolve (lower t))) := by
  have hmem : wildcard ∈ tokens.map (fun t => resolve (lower t)) ↔ wildcard ∈ tokens := by
    simp only [List.mem_map, hwild, exists_eq_right]
  simp only [targets, h, List.contains_iff_mem, hmem]

/-- Target names are left out if there is none of them, and in no other case. -/
theorem targets_eq_none_iff {resolve : String → String} {v : Value} :
    targets resolve v = none ↔ tokens? v = some [] := by
  cases htokens : tokens? v with
  | none => simp [targets_of_none htokens]
  | some tokens =>
    simp only [targets, htokens, Option.some.injEq]
    split
    case isTrue hwild =>
      refine iff_of_false (by simp) ?_
      rintro rfl
      exact absurd hwild (by simp)
    case isFalse => rw [present?_eq_none_iff, firstSeen_eq_nil_iff, List.map_eq_nil_iff]

/-- The normal form of tokens as target names is a list of targets. -/
theorem targetList_of_targets {resolve : String → String} (h : Resolves resolve) {v w : Value}
    {tokens : List String} (htokens : tokens? v = some tokens) (hw : targets resolve v = some w) :
    ∃ names, w = Value.strings names ∧ TargetList resolve names := by
  have hsettled : SettledBy (fun t => resolve (lower t))
      (firstSeen (tokens.map fun t => resolve (lower t))) :=
    settledBy_firstSeen (isProper_of_tokens? htokens) h.settles
  simp only [targets, htokens] at hw
  split at hw
  case isTrue => exact ⟨[wildcard], (Option.some.inj hw).symm, by simp, .inl rfl⟩
  case isFalse hwild =>
    obtain ⟨hne, hw⟩ := present?_eq_some_iff.1 hw
    refine ⟨_, hw, hne, .inr ⟨hsettled, fun hmem => hwild ?_⟩⟩
    exact List.contains_iff_mem.2 (Text.mem_firstSeen.1 hmem)

/-- A list of targets is in normal form. -/
theorem targets_of_targetList {resolve : String → String} (h : Resolves resolve)
    {names : List String} (hnames : TargetList resolve names) :
    targets resolve (Value.strings names) = some (Value.strings names) := by
  rcases hnames.names with rfl | ⟨hsettled, hwild⟩
  · exact targets_wildcard h
  · have hcontains : names.contains wildcard = false := by simpa using hwild
    simp only [targets, hsettled.tokens?_eq, hsettled.map_eq, hcontains, Bool.false_eq_true,
      if_false, hsettled.firstSeen_eq]
    exact present?_eq_some_iff.2 ⟨hnames.ne_nil, rfl⟩

/-- The normal form of target names is its own normal form. -/
theorem targets_bind_targets {resolve : String → String} (h : Resolves resolve) (v : Value) :
    (targets resolve v).bind (targets resolve) = targets resolve v := by
  cases htokens : tokens? v with
  | none =>
    rw [targets_of_none htokens resolve, Option.bind_some, targets_of_none htokens resolve]
  | some tokens =>
    cases hw : targets resolve v with
    | none => rw [Option.bind_none]
    | some w =>
      obtain ⟨names, rfl, hnames⟩ := targetList_of_targets h htokens hw
      rw [Option.bind_some, targets_of_targetList h hnames]

/-- Names of today are proper texts in lower case, and none of them is a former name. -/
theorem platformAliases_settled : ∀ entry ∈ platformAliases,
    IsProper entry.2 ∧ lower entry.2 = entry.2 ∧ platform entry.2 = entry.2 := by
  decide

/-- A token names itself, or a platform by a former name. -/
theorem platform_cases (token : String) :
    platform token = token ∨ ∃ entry ∈ platformAliases, platform token = entry.2 := by
  unfold platform
  cases hlookup : platformAliases.lookup token with
  | none => exact .inl rfl
  | some name =>
    obtain ⟨before, behind, heq, -⟩ := List.lookup_eq_some_iff.1 hlookup
    exact .inr ⟨(token, name), by rw [heq]; simp, rfl⟩

/-- Names of platforms are settled by their aliases. -/
theorem resolves_platform : Resolves platform where
  wildcard := by decide
  settles t ht := by
    rcases platform_cases (lower t) with hself | ⟨entry, hentry, heq⟩
    · rw [hself, Text.lower_lower, hself]
      exact ⟨ht.lower, rfl⟩
    · obtain ⟨hproper, hlower, hfixed⟩ := platformAliases_settled entry hentry
      rw [heq, hlower, hfixed]
      exact ⟨hproper, rfl⟩

/-- Only the wildcard names the wildcard. -/
theorem platform_lower_eq_wildcard_iff {token : String} :
    platform (lower token) = wildcard ↔ token = wildcard := by
  constructor
  · intro h
    have htargets : ∀ entry ∈ platformAliases, entry.2 ≠ wildcard := by decide
    rcases platform_cases (lower token) with hself | ⟨entry, hentry, htarget⟩
    · exact Text.lower_eq_asterisk_iff.1 (hself.symm.trans h)
    · exact absurd (htarget.symm.trans h) (htargets entry hentry)
  · rintro rfl
    exact resolves_platform.wildcard

/-- Names of frameworks are settled as they are. -/
theorem resolves_id : Resolves id where
  wildcard := by decide
  settles t ht := by simpa using lower_settles t ht

/-! ## Host systems -/

/-- The value lists the wildcard more than once, and nothing else. -/
def RepeatsWildcard (v : Value) : Prop :=
  ∃ tokens, tokens? v = some tokens ∧ 2 ≤ tokens.length ∧ ∀ t ∈ tokens, t = wildcard

/-- The first ones of a list are one item alone if nothing else is in the list. -/
theorem firstSeen_eq_singleton_iff {items : List String} {item : String} :
    firstSeen items = [item] ↔ items ≠ [] ∧ ∀ x ∈ items, x = item := by
  constructor
  · intro h
    have hmem : ∀ x, x ∈ items ↔ x = item := fun x => by
      rw [← Text.mem_firstSeen, h, List.mem_singleton]
    exact ⟨List.ne_nil_of_mem ((hmem item).2 rfl), fun x hx => (hmem x).1 hx⟩
  · rintro ⟨hne, hall⟩
    have hfirst : ∀ x ∈ firstSeen items, x = item := fun x hx => hall x (Text.mem_firstSeen.1 hx)
    have hnodup := Text.nodup_firstSeen items
    cases hseen : firstSeen items with
    | nil =>
      obtain ⟨x, hx⟩ := List.exists_mem_of_ne_nil items hne
      rw [← Text.mem_firstSeen, hseen] at hx
      exact absurd hx List.not_mem_nil
    | cons x rest =>
      rw [hseen] at hfirst hnodup
      have hx := hfirst x List.mem_cons_self
      cases rest with
      | nil => rw [hx]
      | cons y more =>
        have hy := hfirst y (List.mem_cons_of_mem x List.mem_cons_self)
        exact absurd hnodup (by simp [hx, hy])

/-- The first ones of the lower-case tokens are the wildcard alone, and the tokens are not, exactly
if the wildcard is repeated. -/
theorem repeatsWildcard_iff {v : Value} {tokens : List String} (h : tokens? v = some tokens) :
    RepeatsWildcard v ↔
      tokens.map lower ≠ [wildcard] ∧ firstSeen (tokens.map lower) = [wildcard] := by
  rw [firstSeen_eq_singleton_iff]
  have hlower : (∀ x ∈ tokens.map lower, x = wildcard) ↔ ∀ t ∈ tokens, t = wildcard := by
    simp only [List.mem_map, forall_exists_index, and_imp, forall_apply_eq_imp_iff₂, wildcard,
      Text.lower_eq_asterisk_iff]
  rw [hlower]
  constructor
  · rintro ⟨others, hothers, hlen, hall⟩
    obtain rfl := Option.some.inj (h.symm.trans hothers)
    refine ⟨fun hone => ?_, fun hnil => ?_, hall⟩
    · have hcount := congrArg List.length hone
      rw [List.length_map, List.length_singleton] at hcount
      omega
    · rw [List.map_eq_nil_iff.1 hnil] at hlen
      exact absurd hlen (by decide)
  · rintro ⟨hnotone, hne, hall⟩
    refine ⟨tokens, h, ?_, hall⟩
    match tokens, hne, hall with
    | [], hne, _ => exact absurd rfl hne
    | [t], _, hall =>
      have hone : [t].map lower = [wildcard] := by
        rw [hall t List.mem_cons_self, wildcard, List.map_singleton,
          Text.lower_eq_asterisk_iff.2 rfl]
      exact absurd hone hnotone
    | _ :: _ :: _, _, _ => simp

/-- The wildcard alone is no restriction. -/
theorem system_wildcard : system (Value.strings [wildcard]) = none := by
  have hlower : [wildcard].map lower = [wildcard] := by decide
  simp only [system, tokens?_wildcard, hlower, if_true]

/-- The normal form of tokens as host systems is a settled list. -/
theorem settledBy_of_system {v w : Value} {tokens : List String} (htokens : tokens? v = some tokens)
    (hw : system v = some w) : ∃ names, w = Value.strings names ∧ SettledBy lower names := by
  simp only [system, htokens] at hw
  split at hw
  case isTrue => exact absurd hw (by simp)
  case isFalse =>
    exact ⟨_, (Option.some.inj hw).symm,
      settledBy_firstSeen (isProper_of_tokens? htokens) lower_settles⟩

/-- Repeated wildcards become one. -/
theorem system_of_repeats {v : Value} (h : RepeatsWildcard v) :
    system v = some (Value.strings [wildcard]) := by
  obtain ⟨tokens, htokens, -⟩ := id h
  obtain ⟨hnotone, hfirst⟩ := (repeatsWildcard_iff htokens).1 h
  simp only [system, htokens, hnotone, hfirst, if_false]

/-- The normal form of host systems is its own normal form, unless the wildcard is repeated. -/
theorem system_bind_system {v : Value} (h : ¬ RepeatsWildcard v) :
    (system v).bind system = system v := by
  cases htokens : tokens? v with
  | none =>
    rw [system_of_none htokens, Option.bind_some, system_of_none htokens]
  | some tokens =>
    by_cases hone : tokens.map lower = [wildcard]
    · have heq : system v = none := by simp only [system, htokens, hone, if_true]
      rw [heq, Option.bind_none]
    · have hsettled := settledBy_firstSeen (isProper_of_tokens? htokens) lower_settles
      have heq : system v = some (Value.strings (firstSeen (tokens.map lower))) := by
        simp only [system, htokens, hone, if_false]
      have hagain : firstSeen (tokens.map lower) ≠ [wildcard] := fun hfirst =>
        h ((repeatsWildcard_iff htokens).2 ⟨hone, hfirst⟩)
      rw [heq, Option.bind_some]
      simp only [system, hsettled.tokens?_eq, hsettled.map_eq, hagain, if_false,
        hsettled.firstSeen_eq]

/-- Repeated wildcards take two passes to their normal form, and the outcome of the first one is not
a repeated wildcard. -/
theorem not_repeatsWildcard_of_system {v w : Value} (h : system v = some w) :
    ¬ RepeatsWildcard w := by
  cases htokens : tokens? v with
  | none =>
    simp only [system, htokens, Option.some.injEq] at h
    rintro ⟨tokens, hw, -⟩
    rw [← h, htokens] at hw
    exact absurd hw (by simp)
  | some tokens =>
    simp only [system, htokens] at h
    split at h
    · exact absurd h (by simp)
    · have hsettled := settledBy_firstSeen (isProper_of_tokens? htokens) lower_settles
      rw [← Option.some.inj h, repeatsWildcard_iff hsettled.tokens?_eq, hsettled.map_eq,
        hsettled.firstSeen_eq]
      exact fun hboth => hboth.1 hboth.2

end Manifest.Normal
