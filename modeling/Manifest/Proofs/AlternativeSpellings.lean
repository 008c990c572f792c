import Manifest.Proofs.JsonFormats
import Manifest.Proofs.ListedTokens
import Manifest.Proofs.NormalParts

/-!
# Alternative spellings

Some fields can be written in two ways: tokens as one text or as the sequence of its pieces, a
repository as its address alone or as an object with it, and the frameworks of a platform as an
object or as the sequence of its names. No difference is left in the normal form
(`alternative_spellings_agree`).

The tokens of both forms are the same texts from the beginning. Names of frameworks in an object are
put into lower case before they are trimmed, and those in a sequence after it, so there both
orders have to come to the same.
-/

namespace Manifest

open Json (Members Pairs Value)
open Text (isBlankText lower trim)

namespace Normal

/-! ## Tokens -/

/-- Putting texts into lower case puts the tokens among them into lower case. -/
theorem tokensOf_map_lower (texts : List String) :
    tokensOf (texts.map lower) = (tokensOf texts).map lower := by
  have hblank : ∀ t, isBlankText (lower t) = isBlankText t := by
    intro t
    rw [Bool.eq_iff_iff, ← Text.trim_eq_empty_iff, ← Text.trim_eq_empty_iff, Text.trim_lower,
      Text.lower_eq_empty_iff]
  unfold tokensOf
  rw [List.filter_map, List.map_map, List.map_map]
  simp only [Function.comp_def, hblank, Text.trim_lower]

/-- Names of frameworks may be put into lower case before. -/
theorem frameworks_map_lower (texts : List String) :
    frameworks (Value.strings (texts.map lower)) = frameworks (Value.strings texts) := by
  have hlower : tokens? (Value.strings (texts.map lower)) = some ((tokensOf texts).map lower) := by
    rw [tokens?_of_lists (.sequence _), tokensOf_map_lower]
  -- What is in lower case already stays as it is the second time.
  have hnames : ((tokensOf texts).map lower).map (fun t => id (lower t)) =
      (tokensOf texts).map fun t => id (lower t) := by
    rw [List.map_map]
    exact List.map_congr_left fun t _ => Text.lower_lower t
  simp only [frameworks, targets, hlower, hnames, tokens?_of_lists (.sequence texts)]

section

variable {v w : Value} {tokens : List String} (hv : tokens? v = some tokens)
  (hw : tokens? w = some tokens)

include hv hw

/-- Keywords of the same tokens have one normal form. -/
theorem keywords_congr : keywords v = keywords w := by
  simp only [keywords, hv, hw]

/-- Targets of the same tokens have one normal form. -/
theorem targets_congr (resolve : String → String) : targets resolve v = targets resolve w := by
  simp only [targets, hv, hw]

/-- Host systems of the same tokens have one normal form. -/
theorem system_congr : system v = system w := by
  simp only [system, hv, hw]

end

/-! ## Repositories -/

/-- An address alone is a repository if it is a git remote. -/
theorem isSome_repository_string (url : String) :
    (repository (.string url)).isSome ↔ isGitRemote url := by
  rw [repository]
  split_ifs with hgit
  · exact iff_of_true rfl hgit
  · exact iff_of_false (by simp) hgit

/-- The address of a git remote is what an object with this address is. -/
theorem repository_string_eq_object {url : String} (h : isGitRemote url) :
    repository (.string url) = repository (.object [("url", .string url)]) := by
  -- The object has no type, so it gets the one that the address alone gets.
  have hlacks : lacksGitType [("url", .string (trim url))] = true := by
    have hgit : isGitRemote (trim url) = true := by rw [isGitRemote_trim, h]
    simp [lacksGitType, Pairs.find?, Value.text?, hgit]
  have htype : Pairs.insert "type" (.string "git") [("url", Value.string (trim url))] =
      [("type", .string "git"), ("url", .string (trim url))] := by
    rw [Pairs.insert, if_pos (show "type" < "url" by decide)]
  calc repository (.string url) = some (gitRepository (trim url)) := by rw [repository, if_pos h]
    _ = some (.object (Pairs.insert "type" (.string "git")
        [("url", .string (trim url))])) := by rw [htype, gitRepository]
    _ = repository (.object [("url", .string url)]) := by
      simp only [repository, List.map_cons, List.map_nil, repositoryMember, if_true, hlacks]

end Normal

/-! ## Frameworks of a platform -/

/-- The first text is a document whose frameworks are an object, and the second one is the same
document with the names of this object, in their order, for frameworks. -/
structure NamesFrameworks (contents other : String) (document : Members)
    (frameworks : Pairs Value) : Prop where
  /-- What the first text denotes. -/
  object : Json.read contents = .ok document.toValue
  /-- Its frameworks. -/
  given : document.get? "frameworks" = some (.object frameworks)
  /-- What the second text denotes. -/
  names : Json.read other =
    .ok (document.insert "frameworks" (Value.strings (frameworks.map (·.1)))).toValue

/-- The names of frameworks in an object have the normal form of the sequence of these names. -/
theorem Format.Platform.fields_nameFrameworks {document : Members} {frameworks : Pairs Value}
    (h : document.get? "frameworks" = some (.object frameworks)) :
    Normal.fields (Format.fieldsOf document .platformJson) =
      Normal.fields (Format.fieldsOf
        (document.insert "frameworks" (Value.strings (frameworks.map (·.1)))) .platformJson) := by
  have hnamed : frameworks.map (fun pair => lower pair.1) =
      (frameworks.map (·.1)).map lower := by
    rw [List.map_map]
    rfl
  refine Members.ext_get? fun name => ?_
  rw [Normal.get?_fields, Normal.get?_fields]
  show ((nameFrameworks _).get? name).bind _ = ((nameFrameworks _).get? name).bind _
  rw [get?_nameFrameworks, get?_nameFrameworks]
  by_cases hname : name = "frameworks"
  · subst hname
    rw [if_pos rfl, if_pos rfl, Format.get?_rename_of_ne (by decide) (by decide), h,
      Format.get?_rename_of_ne (by decide) (by decide), Members.get?_insert_self]
    show Normal.frameworks (Value.strings (frameworks.map fun pair => lower pair.1)) =
      Normal.frameworks (Value.strings (frameworks.map (·.1)))
    rw [hnamed]
    exact Normal.frameworks_map_lower _
  · -- The frameworks take no part in moving the page.
    have hother : ∀ other, other ≠ "frameworks" → document.get? other =
        (document.insert "frameworks" (Value.strings (frameworks.map (·.1)))).get? other :=
      fun other hne => (Members.get?_insert_of_ne document _ hne.symm).symm
    rw [if_neg hname, if_neg hname, Format.get?_rename_congr (hother "url" (by decide))
      (hother "homepage" (by decide)) (hother name hname)]

/-- The names of an object in a document rise. -/
theorem Format.pairwise_names_of_read {contents : String} {document : Members} {name : String}
    {pairs : Pairs Value} (h : Json.read contents = .ok document.toValue)
    (hget : document.get? name = some (.object pairs)) :
    (pairs.map (·.1)).Pairwise (· < ·) := by
  cases Format.ordered_of_members (Format.members_of_read h .platformJson) hget with
  | object hrising _ => exact List.pairwise_map.2 hrising

/-! ## Agreement -/

/-- Alternative spellings of a field agree. Tokens in one text are those in the sequence of its pieces
between commas, the address of a git remote alone is an object with it, and an object of frameworks
in a platform's document is the sequence of its names. -/
theorem alternative_spellings_agree :
    (∀ s, ∃ texts, Normal.Lists (.string s) texts ∧
      Normal.keywords (.string s) = Normal.keywords (Value.strings texts) ∧
      Normal.platforms (.string s) = Normal.platforms (Value.strings texts) ∧
      Normal.frameworks (.string s) = Normal.frameworks (Value.strings texts) ∧
      Normal.system (.string s) = Normal.system (Value.strings texts)) ∧
    (∀ url, ((Normal.repository (.string url)).isSome ↔ Normal.isGitRemote url) ∧
      (Normal.isGitRemote url → Normal.repository (.string url) =
        Normal.repository (.object [("url", .string url)]))) ∧
    (∀ contents other document frameworks, NamesFrameworks contents other document frameworks →
      (frameworks.map (·.1)).Pairwise (· < ·) ∧
      ∀ declared address, Kind.ofDeclared? declared = some .platformJson →
        ∃ fields, parse contents declared address = .ok fields ∧
          parse other declared address = .ok fields) := by
  refine ⟨?tokens, ?repository, ?platform⟩
  case tokens =>
    intro s
    have hlists : Normal.Lists (.string s) (Text.split ',' s) := Normal.lists_string_iff.2 rfl
    have htext := Normal.tokens?_of_lists hlists
    have hsequence := Normal.tokens?_of_lists (.sequence (Text.split ',' s))
    exact ⟨_, hlists, Normal.keywords_congr htext hsequence,
      Normal.targets_congr htext hsequence Normal.platform,
      Normal.targets_congr htext hsequence id, Normal.system_congr htext hsequence⟩
  case repository =>
    intro url
    exact ⟨Normal.isSome_repository_string url, Normal.repository_string_eq_object⟩
  case platform =>
    intro contents other document frameworks h
    refine ⟨Format.pairwise_names_of_read h.object h.given, fun declared address hkind => ?_⟩
    refine ⟨_, parse_of_read hkind (by decide) h.object address, ?_⟩
    rw [parse_of_read hkind (by decide) h.names address,
      Format.Platform.fields_nameFrameworks h.given]

/-- A platform for two frameworks whose names differ in letter case, and for a third one. -/
def threeFrameworks : String :=
  "\x7b\"frameworks\": \x7b\"ARDUINO\": \x7b\x7d, \"Arduino\": 1, \" mbed\": null\x7d\x7d"

/-- The same platform with the names of its frameworks alone. -/
def threeFrameworkNames : String :=
  "\x7b\"frameworks\": [\" mbed\", \"ARDUINO\", \"Arduino\"]\x7d"

/-- It is parsed to the same two frameworks in either form. -/
theorem alternative_spellings_agree_threeFrameworks :
    (∃ fields, parse threeFrameworks "platform-json" none = .ok fields ∧
      parse threeFrameworkNames "platform-json" none = .ok fields ∧
      fields.get? "frameworks" = some (Value.strings ["mbed", "arduino"])) ∧
    Normal.repository (.string " git@github.com:a/b ") =
      Normal.repository (.object [("url", .string " git@github.com:a/b ")]) := by
  obtain ⟨-, hrepository, hplatform⟩ := alternative_spellings_agree
  have hgit : Normal.isGitRemote " git@github.com:a/b " := by decide
  have hnames : NamesFrameworks threeFrameworks threeFrameworkNames
      (Members.ofPairs [("frameworks", .object
        [(" mbed", .null), ("ARDUINO", .object []), ("Arduino", .number (.integer 1))])])
      [(" mbed", .null), ("ARDUINO", .object []), ("Arduino", .number (.integer 1))] := by
    constructor
    case object => cbv
    case given => rfl
    case names => cbv
  obtain ⟨-, hparse⟩ := hplatform _ _ _ _ hnames
  have hkind : Kind.ofDeclared? "platform-json" = some .platformJson := by decide
  obtain ⟨fields, hobject, hsequence⟩ := hparse "platform-json" none hkind
  refine ⟨⟨fields, hobject, hsequence, ?_⟩, (hrepository _).2 hgit⟩
  have htokens : Normal.tokens? (Value.strings [" mbed", "ARDUINO", "Arduino"]) =
      some ["mbed", "ARDUINO", "Arduino"] := by
    decide +kernel
  have hseen : Text.firstSeen (["mbed", "ARDUINO", "Arduino"].map fun t => id (Text.lower t)) =
      ["mbed", "arduino"] := by
    decide +kernel
  have hframeworks : Normal.normalForm "frameworks" = Normal.targets id := rfl
  rw [parse_of_read hkind (by decide) hnames.names none] at hsequence
  rw [← Except.ok.inj hsequence, Normal.get?_fields, Format.fieldsOf,
    Format.Platform.get?_nameFrameworks, if_pos rfl,
    Format.get?_rename_of_ne (by decide) (by decide), Members.get?_insert_self, Option.map_some,
    Option.bind_some, hframeworks]
  refine (Normal.targets_of_tokens? Normal.id_lower_eq_wildcard_iff htokens).trans ?_
  rw [if_neg (by decide), hseen]
  rfl

end Manifest
