import Mathlib.Data.List.Induction
import Mathlib.Data.List.Nodup
import Manifest.Proofs.Cutting
import Manifest.Proofs.TokenLists

/-!
# Listed tokens

A value lists texts, as one text with commas between them or as a sequence of texts, and what is
left of those that are not blank are its tokens. Normalizing keywords, platforms and frameworks
keeps the first occurrence of each name that the tokens have, in this order, and adds nothing
(`keeps_listed_tokens`). The names come out of lower-casing and of the table of former names, so
tokens can have the same name without being the same text.

First occurrences are told by their positions in the list they are taken from. That leaves one list
only (`Text.firstOccurrences_iff`). Taking them goes through the list from its front, so they are
proved right by induction on the list from its end.
-/

namespace Manifest

/-! ## First occurrences -/

namespace Text

/-- The second list has every item of the first one once, in the order of their first places. -/
structure FirstOccurrences (items kept : List String) : Prop where
  /-- No item is kept twice. -/
  nodup : kept.Nodup
  /-- All items are kept, and nothing else. -/
  mem_iff : ∀ x, x ∈ kept ↔ x ∈ items
  /-- What stands first in the one list does so in the other. -/
  ordered : kept.Pairwise fun x y => items.idxOf x < items.idxOf y

/-- One more item is kept if it is new. -/
theorem firstSeen_append_singleton (items : List String) (x : String) :
    firstSeen (items ++ [x]) = if x ∈ items then firstSeen items else firstSeen items ++ [x] := by
  -- The last item meets all others in place, and is compared with those that were kept.
  have hstep : firstSeen (items ++ [x]) =
      if (firstSeen items).contains x then firstSeen items else firstSeen items ++ [x] := by
    unfold firstSeen appendNew
    rw [List.foldl_append]
    rfl
  simpa only [List.contains_iff_mem, mem_firstSeen] using hstep

/-- One more item changes nothing exactly if it is there already. -/
theorem firstSeen_append_singleton_eq_iff {items : List String} {x : String} :
    firstSeen (items ++ [x]) = firstSeen items ↔ x ∈ items := by
  rw [firstSeen_append_singleton]
  split
  case isTrue hmem => exact iff_of_true rfl hmem
  case isFalse hnew =>
    refine iff_of_false (fun h => ?_) hnew
    have hlength := congrArg List.length h
    rw [List.length_append, List.length_singleton] at hlength
    omega

/-- The items that are kept stand in the order of their first places. -/
theorem pairwise_idxOf_firstSeen (items : List String) :
    (firstSeen items).Pairwise fun x y => items.idxOf x < items.idxOf y := by
  induction items using List.reverseRecOn with
  | nil => exact .nil
  | append_singleton items x ih =>
    -- A new item has its first place behind all others, and those that were there keep theirs.
    have hplace : ∀ {y}, y ∈ firstSeen items → (items ++ [x]).idxOf y = items.idxOf y := fun hy =>
      List.idxOf_append_of_mem (mem_firstSeen.1 hy)
    have hbefore : (firstSeen items).Pairwise fun y z =>
        (items ++ [x]).idxOf y < (items ++ [x]).idxOf z := by
      refine ih.imp_of_mem fun hy hz hlt => ?_
      rwa [hplace hy, hplace hz]
    rw [firstSeen_append_singleton]
    split
    case isTrue => exact hbefore
    case isFalse hnew =>
      refine List.pairwise_append.2 ⟨hbefore, List.pairwise_singleton _ _, fun y hy z hz => ?_⟩
      obtain rfl := List.mem_singleton.1 hz
      have hy' := List.idxOf_lt_length_iff.2 (mem_firstSeen.1 hy)
      rw [hplace hy, List.idxOf_append_of_notMem hnew]
      omega

/-- The first occurrences of the items of a list are the ones that are kept. -/
theorem firstOccurrences_iff {items kept : List String} :
    FirstOccurrences items kept ↔ kept = firstSeen items := by
  constructor
  · -- Both lists have the same items once, and the first places put both in one order.
    rintro ⟨hnodup, hmem, hordered⟩
    have hperm : kept.Perm (firstSeen items) := by
      refine (List.perm_ext_iff_of_nodup hnodup (nodup_firstSeen items)).2 fun x => ?_
      rw [hmem, mem_firstSeen]
    refine hperm.eq_of_pairwise (fun x y _ _ hxy hyx => ?_) hordered
      (pairwise_idxOf_firstSeen items)
    omega
  · rintro rfl
    exact ⟨nodup_firstSeen items, fun _ => mem_firstSeen, pairwise_idxOf_firstSeen items⟩

end Text

open Json (Value)
open Text (FirstOccurrences IsProper firstSeen isBlankText lower trim)

namespace Normal

/-! ## The texts of a value -/

/-- The value lists these texts. -/
inductive Lists : Value → List String → Prop where
  /-- A text lists those between its commas. -/
  | commas {texts : List String} (hne : texts ≠ []) (h : ∀ t ∈ texts, ',' ∉ t.toList) :
    Lists (.string (",".intercalate texts)) texts
  /-- A sequence of texts lists its items. -/
  | sequence (texts : List String) : Lists (Value.strings texts) texts

/-- The tokens among texts: what is left of those that are not blank. -/
def tokensOf (texts : List String) : List String :=
  (texts.filter fun t => ¬ isBlankText t).map trim

/-- The texts less the blank ones are the tokens among them. -/
theorem nonBlank_eq_tokensOf (texts : List String) : nonBlank texts = tokensOf texts := by
  unfold nonBlank tokensOf
  rw [List.filter_map]
  refine congrArg (List.map trim) (List.filter_congr fun t _ => decide_eq_decide.2 ?_)
  exact not_congr Text.trim_eq_empty_iff

/-- A text lists its pieces between commas. -/
theorem lists_string_iff {s : String} {texts : List String} :
    Lists (.string s) texts ↔ Text.split ',' s = texts := by
  have hjoined : (",".intercalate texts).toList = [','].intercalate (texts.map String.toList) :=
    String.toList_intercalate
  constructor
  · intro h
    cases h with
    | commas hne hfree => exact Text.split_eq_iff.2 ⟨hne, hfree, hjoined⟩
  · intro h
    obtain ⟨hne, hfree, hs⟩ := Text.split_eq_iff.1 h
    obtain rfl : s = ",".intercalate texts := String.toList_inj.1 (hs.trans hjoined.symm)
    exact .commas hne hfree

/-- The tokens of a value are those among the texts it lists. -/
theorem tokens?_of_lists {v : Value} {texts : List String} (h : Lists v texts) :
    tokens? v = some (tokensOf texts) := by
  cases h with
  | commas hne hfree =>
    rw [tokens?, lists_string_iff.1 (.commas hne hfree), nonBlank_eq_tokensOf]
  | sequence =>
    rw [Value.strings, tokens?, mapM_text?_strings, Option.map_some, nonBlank_eq_tokensOf]

/-- A value that is no text and no sequence of texts has no tokens. -/
theorem tokens?_eq_none {v : Value} (htext : ∀ s, v ≠ .string s)
    (hsequence : ∀ texts, v ≠ Value.strings texts) : tokens? v = none := by
  cases v with
  | string s => exact absurd rfl (htext s)
  | array items =>
    cases hitems : items.mapM Value.text? with
    | none => rw [tokens?, hitems, Option.map_none]
    | some texts =>
      have heq : Value.array items = Value.strings texts := by
        rw [Value.strings, mapM_text?_eq_some_iff.1 hitems]
      exact absurd heq (hsequence texts)
  | _ => rfl

/-! ## What is kept of the tokens -/

/-- The outcome is the sequence of the names that the tokens have, each at its first occurrence, and
nothing if there are no tokens. -/
structure KeepsNames (name : String → String) (tokens : List String) (outcome : Option Value) :
    Prop where
  /-- Nothing comes out exactly if there are no tokens. -/
  absent_iff : outcome = none ↔ tokens = []
  /-- Otherwise the first occurrences of the names do. -/
  kept : ∀ v, outcome = some v →
    ∃ names, v = Value.strings names ∧ FirstOccurrences (tokens.map name) names

/-- The outcome is the wildcard alone if it is one of the tokens, and otherwise the sequence of the
names that they have. -/
structure KeepsTargets (name : String → String) (tokens : List String) (outcome : Option Value) :
    Prop where
  /-- The wildcard makes all other tokens superfluous. -/
  wildcard : "*" ∈ tokens → outcome = some (Value.strings ["*"])
  /-- Without it, the names are kept. -/
  names : "*" ∉ tokens → KeepsNames name tokens outcome

/-- The first occurrences of names, unless there are none, are what is kept of tokens. -/
theorem keepsNames_present? (name : String → String) (tokens : List String) :
    KeepsNames name tokens (present? (firstSeen (tokens.map name))) := by
  constructor
  · rw [present?_eq_none_iff, firstSeen_eq_nil_iff, List.map_eq_nil_iff]
  · intro v hv
    obtain ⟨-, rfl⟩ := present?_eq_some_iff.1 hv
    exact ⟨_, rfl, Text.firstOccurrences_iff.2 rfl⟩

/-- The names of keywords are kept. -/
theorem keepsNames_keywords {v : Value} {tokens : List String} (h : tokens? v = some tokens) :
    KeepsNames lower tokens (keywords v) := by
  simp only [keywords, h]
  exact keepsNames_present? lower tokens

/-- The names of targets are kept, unless the wildcard is one of the tokens. -/
theorem keepsTargets_targets {resolve : String → String}
    (hwild : ∀ t, resolve (lower t) = wildcard ↔ t = wildcard) {v : Value} {tokens : List String}
    (h : tokens? v = some tokens) :
    KeepsTargets (fun t => resolve (lower t)) tokens (targets resolve v) := by
  rw [targets_of_tokens? hwild h]
  constructor
  · intro hmem
    exact if_pos hmem
  · intro hmem
    rw [if_neg (show ¬ wildcard ∈ tokens from hmem)]
    exact keepsNames_present? _ tokens

/-- Only the wildcard names the wildcard among frameworks. -/
theorem id_lower_eq_wildcard_iff (t : String) : id (lower t) = wildcard ↔ t = wildcard :=
  Text.lower_eq_asterisk_iff

/-! ## Tokens of one platform -/

/-- Different lists of names are different outcomes. -/
theorem present?_inj {xs ys : List String} : present? xs = present? ys ↔ xs = ys := by
  refine ⟨fun h => ?_, congrArg present?⟩
  cases hx : present? xs with
  | none => rw [present?_eq_none_iff.1 hx, present?_eq_none_iff.1 (h.symm.trans hx)]
  | some v =>
    obtain ⟨-, rfl⟩ := present?_eq_some_iff.1 hx
    exact strings_injective (present?_eq_some_iff.1 (h.symm.trans hx)).2

/-- A token behind others leaves the platforms as they are exactly if one of these names the same
platform. -/
theorem platforms_append_eq_iff {texts : List String} (hwild : wildcard ∉ tokensOf texts)
    {u : String} (hu : IsProper u) (huw : u ≠ wildcard) :
    platforms (Value.strings (texts ++ [u])) = platforms (Value.strings texts) ↔
      ∃ t ∈ tokensOf texts, platform (lower t) = platform (lower u) := by
  have htokens : tokensOf (texts ++ [u]) = tokensOf texts ++ [u] := by
    have hblank := Text.not_isBlankText_of_isProper hu
    simp [tokensOf, hblank, hu.2]
  have hwild' : wildcard ∉ tokensOf (texts ++ [u]) := by
    rw [htokens, List.mem_append, List.mem_singleton]
    exact not_or.2 ⟨hwild, huw.symm⟩
  -- Without the wildcard, both sides are the first occurrences of names.
  have hplatforms : ∀ others, wildcard ∉ tokensOf others → platforms (Value.strings others) =
      present? (firstSeen ((tokensOf others).map fun t => platform (lower t))) := by
    intro others hothers
    have htargets := targets_of_tokens? (fun _ => platform_lower_eq_wildcard_iff)
      (tokens?_of_lists (.sequence others))
    rwa [if_neg hothers] at htargets
  rw [hplatforms _ hwild, hplatforms _ hwild', present?_inj, htokens, List.map_append,
    List.map_singleton, Text.firstSeen_append_singleton_eq_iff, List.mem_map]

/-! ## The normal forms -/

/-- Normalizing loses and invents no token. Of the tokens of a text or a sequence of texts it keeps
each name once, in the order of their first occurrences, with the wildcard in place of all others
for platforms and frameworks, and platforms are merged exactly if they have one name. Any other value
is left as it is. -/
theorem keeps_listed_tokens :
    (∀ s, ∃ texts, Lists (.string s) texts) ∧
    (∀ v texts, Lists v texts →
      KeepsNames lower (tokensOf texts) (keywords v) ∧
      KeepsTargets (fun t => platform (lower t)) (tokensOf texts) (platforms v) ∧
      KeepsTargets lower (tokensOf texts) (frameworks v)) ∧
    (∀ texts u, "*" ∉ tokensOf texts → IsProper u → u ≠ "*" →
      (platforms (Value.strings (texts ++ [u])) = platforms (Value.strings texts) ↔
        ∃ t ∈ tokensOf texts, platform (lower t) = platform (lower u))) ∧
    (∀ v, (∀ s, v ≠ .string s) → (∀ texts, v ≠ Value.strings texts) →
      keywords v = some v ∧ platforms v = some v ∧ frameworks v = some v) := by
  refine ⟨fun s => ⟨_, lists_string_iff.2 rfl⟩, ?listed, ?merged, ?other⟩
  case listed =>
    intro v texts h
    have htokens := tokens?_of_lists h
    exact ⟨keepsNames_keywords htokens,
      keepsTargets_targets (fun _ => platform_lower_eq_wildcard_iff) htokens,
      keepsTargets_targets id_lower_eq_wildcard_iff htokens⟩
  case merged =>
    intro texts u hwild hu huw
    exact platforms_append_eq_iff hwild hu huw
  case other =>
    intro v htext hsequence
    have hnone := tokens?_eq_none htext hsequence
    exact ⟨keywords_of_none hnone, targets_of_none hnone platform, targets_of_none hnone id⟩

/-- A former name, another platform, a blank piece and the first platform again. -/
theorem keeps_listed_tokens_formerNames :
    Lists (.string "AVR, esp32,,atmelavr") ["AVR", " esp32", "", "atmelavr"] ∧
      platforms (.string "AVR, esp32,,atmelavr") =
        some (Value.strings ["atmelavr", "espressif32"]) := by
  have hlists : Lists (.string "AVR, esp32,,atmelavr") ["AVR", " esp32", "", "atmelavr"] :=
    lists_string_iff.2 (by decide)
  have htokens : tokensOf ["AVR", " esp32", "", "atmelavr"] = ["AVR", "esp32", "atmelavr"] := by
    decide
  obtain ⟨-, hplatforms, -⟩ := keeps_listed_tokens.2.1 _ _ hlists
  rw [htokens] at hplatforms
  have hnames := hplatforms.names (by decide)
  cases houtcome : platforms (.string "AVR, esp32,,atmelavr") with
  | none => exact absurd (hnames.absent_iff.1 houtcome) (by simp)
  | some v =>
    obtain ⟨kept, rfl, hkept⟩ := hnames.kept v houtcome
    have hfirst : kept = ["atmelavr", "espressif32"] :=
      (Text.firstOccurrences_iff.1 hkept).trans (by decide)
    exact ⟨hlists, by rw [hfirst]⟩

end Normal

end Manifest
