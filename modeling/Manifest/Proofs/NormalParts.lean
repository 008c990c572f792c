import Manifest.Proofs.Decoding
import Manifest.Proofs.ObjectForms

/-!
# Normalizing parts before and after they are read

An author or a repository that is written as an object may be brought into its normal form before it
is read, as an object, or after it was read (`Author.normal`, `Repository.normal`): both give the
same part. Publishing rules that are written as an object give the same part whether they are
normalized or not. What is written as a sequence of fields is left alone by normalizing.
-/

namespace Manifest

open Json (Pairs Value)
open Text (trim)

/-- Only null is null. -/
theorem Json.Value.isNull_iff {v : Value} : v.isNull ↔ v = .null := by
  cases v <;> simp [isNull]

namespace Json.Pairs

variable {α : Type} {name other : String} {pairs : Pairs α}

/-- The members of mapped pairs are those of the pairs, mapped. -/
theorem mem_mapValues {f : String → α → α} {pair : String × α} :
    pair ∈ pairs.mapValues f ↔ ∃ v, (pair.1, v) ∈ pairs ∧ f pair.1 v = pair.2 := by
  unfold mapValues
  rw [List.mem_map]
  constructor
  · rintro ⟨⟨k, v⟩, hmem, rfl⟩
    exact ⟨v, hmem, rfl⟩
  · rintro ⟨v, hmem, heq⟩
    exact ⟨(pair.1, v), hmem, Prod.ext rfl heq⟩

/-- What is found is among the pairs. -/
theorem mem_of_find? {v : α} (h : pairs.find? name = some v) : (name, v) ∈ pairs := by
  induction pairs with
  | nil => exact absurd h (by simp [find?])
  | cons head rest ih =>
    obtain ⟨k, w⟩ := head
    rw [find?] at h
    split at h
    case isTrue hk =>
      rw [← hk, ← Option.some.inj h]
      exact List.mem_cons_self
    case isFalse => exact List.mem_cons_of_mem _ (ih h)

/-- A pair that is put in its place unless it was there is found with its former or its new value.
-/
theorem find?_insertNew_self (name : String) (value : α) (pairs : Pairs α) :
    (pairs.insertNew name value).find? name = some ((pairs.find? name).getD value) := by
  unfold insertNew
  cases h : pairs.find? name with
  | some v => simpa using h
  | none => simp

/-- Pairs of other names stay. -/
theorem find?_insertNew_of_ne (value : α) (pairs : Pairs α) (h : name ≠ other) :
    (pairs.insertNew name value).find? other = pairs.find? other := by
  unfold insertNew
  split
  · rfl
  · exact find?_insert_of_ne value pairs h

/-- Among rising pairs that are kept by a test, a pair is found if it was before and is kept. -/
theorem Rising.find?_filter (h : pairs.Rising) (keep : String × α → Bool) (name : String) :
    Pairs.find? name (pairs.filter keep) =
      (pairs.find? name).filter fun v => keep (name, v) := by
  have hkept : Rising (pairs.filter keep) := List.Pairwise.filter keep h
  refine Option.ext fun v => ?_
  rw [hkept.find?_eq_some_iff, List.mem_filter, Option.filter_eq_some_iff, h.find?_eq_some_iff]

end Json.Pairs

namespace Decode

variable {name : String} {members changed : Pairs Value}

/-- A text that may be left out is read from a member that was changed as it is changed after it was
read. -/
theorem defaulted_text_map {change : Value → Value} {g : String → String} {o : Option String}
    (hfind : changed.find? name = (members.find? name).map change) (hnull : change .null = .null)
    (hstring : ∀ s, change (.string s) = .string (g s))
    (h : defaulted name none (optional text) members = .ok o) :
    defaulted name none (optional text) changed = .ok (o.map g) := by
  rcases defaulted_eq_ok_iff.1 h with ⟨hnone, rfl⟩ | ⟨v, hv, hread⟩
  · exact defaulted_eq_ok_iff.2 (.inl ⟨by rw [hfind, hnone]; rfl, rfl⟩)
  · refine defaulted_eq_ok_iff.2 (.inr ⟨change v, by rw [hfind, hv]; rfl, ?_⟩)
    rw [optional_text_eq_ok_iff] at hread ⊢
    rw [hread]
    cases o with
    | none => exact hnull
    | some s => exact hstring s

end Decode

/-! ## Authors -/

/-- The author with the name and the addresses in their normal form. -/
def Author.normal (author : Author) : Author :=
  { author with
    name := trim author.name
    email := author.email.map Normal.email
    url := author.url.map trim }

namespace Normal

/-- The members of an author but the flag are found in their normal form. -/
theorem find?_authorMembers {name : String} (h : name ≠ "maintainer") (members : Pairs Value) :
    (authorMembers members).find? name = (members.find? name).map (authorMember name) := by
  unfold authorMembers
  rw [Pairs.find?_insertNew_of_ne _ _ (Ne.symm h), Pairs.find?_mapValues]

/-- The flag of an author is found as it was written, or not set. -/
theorem find?_authorMembers_maintainer (members : Pairs Value) :
    (authorMembers members).find? "maintainer" =
      some ((members.find? "maintainer").getD (.bool false)) := by
  have hkept : authorMember "maintainer" = id := by
    funext v
    cases v <;> rfl
  unfold authorMembers
  rw [Pairs.find?_insertNew_self, Pairs.find?_mapValues, hkept, Option.map_id, id_eq]

/-- A member that fits into an author does so in its normal form. -/
theorem check_authorMember {name : String} {v : Value} (h : Author.check name v = none) :
    Author.check name (authorMember name v) = none := by
  cases v with
  | string s =>
    unfold authorMember
    dsimp only
    split
    case isTrue hemail =>
      simp [Author.check, hemail, Decode.mismatch?, Decode.optional, Decode.text, Except.map]
    case isFalse hemail =>
      split
      case isTrue htrim =>
        rcases htrim with rfl | rfl <;>
          simp [Author.check, Decode.mismatch?, Decode.optional, Decode.text, Except.map]
      case isFalse => exact h
  | _ => exact h

/-- Members that fit into an author do so in their normal form. -/
theorem check_authorMembers {members : Pairs Value}
    (h : ∀ pair ∈ members, Author.check pair.1 pair.2 = none) :
    ∀ pair ∈ authorMembers members, Author.check pair.1 pair.2 = none := by
  have hmapped : ∀ pair ∈ members.mapValues authorMember,
      Author.check pair.1 pair.2 = none := by
    intro pair hpair
    obtain ⟨v, hmem, heq⟩ := Pairs.mem_mapValues.1 hpair
    rw [← heq]
    exact check_authorMember (h _ hmem)
  intro pair hpair
  unfold authorMembers Pairs.insertNew at hpair
  split at hpair
  · exact hmapped pair hpair
  · rcases Pairs.mem_insert hpair with rfl | hold
    · rfl
    · exact hmapped pair hold

end Normal

/-- Reading the normal form of an author that is an object gives the normal form of the author. -/
theorem Author.ofMembers_authorMembers {members : Pairs Value} {author : Author}
    (h : ofMembers members = .ok author) :
    ofMembers (Normal.authorMembers members) = .ok author.normal := by
  obtain ⟨hcheck, hname, hemail, hurl, hmaintainer⟩ := ofMembers_eq_ok_iff.1 h
  refine ofMembers_eq_ok_iff.2 ⟨Normal.check_authorMembers hcheck, ?_, ?_, ?_, ?_⟩
  · obtain ⟨v, hv, htext⟩ := Decode.required_eq_ok_iff.1 hname
    obtain rfl := Decode.text_eq_ok_iff.1 htext
    refine Decode.required_eq_ok_iff.2 ⟨.string (trim author.name), ?_, rfl⟩
    rw [Normal.find?_authorMembers (by decide), hv]
    rfl
  · exact Decode.defaulted_text_map (Normal.find?_authorMembers (by decide) members) rfl
      (fun _ => rfl) hemail
  · exact Decode.defaulted_text_map (Normal.find?_authorMembers (by decide) members) rfl
      (fun _ => rfl) hurl
  · refine Decode.defaulted_eq_ok_iff.2
      (.inr ⟨_, Normal.find?_authorMembers_maintainer members, ?_⟩)
    rcases Decode.defaulted_eq_ok_iff.1 hmaintainer with ⟨hnone, hflag⟩ | ⟨v, hv, hflag⟩
    · rw [hnone]
      exact congrArg Except.ok hflag.symm
    · rw [hv]
      exact hflag

/-! ## Repositories -/

/-- The repository without blanks around its address, and with the type of a git remote if it is one
and has none. -/
def Repository.normal (source : Repository) : Repository :=
  { source with
    url := trim source.url
    type := if Normal.isGitRemote source.url ∧ source.type = none then some "git"
      else source.type }

namespace Normal

/-- Blanks around an address do not count in telling a git remote. -/
@[simp] theorem isGitRemote_trim (url : String) : isGitRemote (trim url) = isGitRemote url := by
  unfold isGitRemote
  rw [Text.toList_trim, Text.trimmed_trimmed]

/-- The members of a repository but its type are found in their normal form. -/
theorem find?_repositoryMembers {name : String} (h : name ≠ "type") (members : Pairs Value) :
    (repositoryMembers members).find? name =
      (members.find? name).map (repositoryMember name) := by
  unfold repositoryMembers
  dsimp only
  split
  · rw [Pairs.find?_insert_of_ne _ _ (Ne.symm h), Pairs.find?_mapValues]
  · exact Pairs.find?_mapValues _ _ _

/-- The type of a repository is found as it was written, unless it is lacking. -/
theorem find?_repositoryMembers_type (members : Pairs Value) :
    (repositoryMembers members).find? "type" =
      if lacksGitType (members.mapValues repositoryMember) then some (.string "git")
      else members.find? "type" := by
  have hkept : repositoryMember "type" = id := by
    funext v
    cases v <;> rfl
  unfold repositoryMembers
  dsimp only
  split
  · exact Pairs.find?_insert_self _ _ _
  · rw [Pairs.find?_mapValues, hkept, Option.map_id, id_eq]

/-- A member that fits into a repository does so in its normal form. -/
theorem check_repositoryMember {name : String} {v : Value} (h : Repository.check name v = none) :
    Repository.check name (repositoryMember name v) = none := by
  cases v with
  | string s =>
    unfold repositoryMember
    dsimp only
    split
    case isTrue hurl => simp [Repository.check, hurl, Decode.mismatch?, Decode.text]
    case isFalse => exact h
  | _ => exact h

/-- Members that fit into a repository do so in their normal form. -/
theorem check_repositoryMembers {members : Pairs Value}
    (h : ∀ pair ∈ members, Repository.check pair.1 pair.2 = none) :
    ∀ pair ∈ repositoryMembers members, Repository.check pair.1 pair.2 = none := by
  have hmapped : ∀ pair ∈ members.mapValues repositoryMember,
      Repository.check pair.1 pair.2 = none := by
    intro pair hpair
    obtain ⟨v, hmem, heq⟩ := Pairs.mem_mapValues.1 hpair
    rw [← heq]
    exact check_repositoryMember (h _ hmem)
  intro pair hpair
  unfold repositoryMembers at hpair
  dsimp only at hpair
  split at hpair
  · rcases Pairs.mem_insert hpair with rfl | hold
    · rfl
    · exact hmapped pair hold
  · exact hmapped pair hpair

end Normal

/-- Reading the normal form of a repository that is an object gives the normal form of the
repository. -/
theorem Repository.ofMembers_repositoryMembers {members : Pairs Value} {source : Repository}
    (h : ofMembers members = .ok source) :
    ofMembers (Normal.repositoryMembers members) = .ok source.normal := by
  obtain ⟨hcheck, hurl, htype, hbranch⟩ := ofMembers_eq_ok_iff.1 h
  obtain ⟨v, hv, htext⟩ := Decode.required_eq_ok_iff.1 hurl
  obtain rfl := Decode.text_eq_ok_iff.1 htext
  -- A type is lacking as a member exactly if the repository that was read has none.
  have hlacks : Normal.lacksGitType (members.mapValues Normal.repositoryMember) =
      (Normal.isGitRemote source.url && source.type.isNone) := by
    have htrimmed : (members.mapValues Normal.repositoryMember).find? "url" =
        some (.string (trim source.url)) := by
      rw [Pairs.find?_mapValues, hv]
      rfl
    have hnone : (((members.mapValues Normal.repositoryMember).find? "type").map
        Value.isNull).getD true = source.type.isNone := by
      rw [Pairs.find?_mapValues]
      rcases Decode.defaulted_eq_ok_iff.1 htype with ⟨hfind, hsource⟩ | ⟨t, hfind, hread⟩
      · rw [hfind, hsource]
        rfl
      · rw [hfind, Decode.optional_text_eq_ok_iff.1 hread]
        cases source.type <;> rfl
    unfold Normal.lacksGitType
    rw [htrimmed, hnone]
    simp [Value.text?]
  refine ofMembers_eq_ok_iff.2 ⟨Normal.check_repositoryMembers hcheck, ?_, ?_, ?_⟩
  · refine Decode.required_eq_ok_iff.2 ⟨.string (trim source.url), ?_, rfl⟩
    rw [Normal.find?_repositoryMembers (by decide), hv]
    rfl
  · have hfind := Normal.find?_repositoryMembers_type members
    rw [hlacks] at hfind
    by_cases hgit : Normal.isGitRemote source.url ∧ source.type = none
    · have hnormal : source.normal.type = some "git" := if_pos hgit
      rw [hgit.1, hgit.2] at hfind
      exact Decode.defaulted_eq_ok_iff.2 (.inr ⟨_, hfind, by rw [hnormal]; rfl⟩)
    · have hnormal : source.normal.type = source.type := if_neg hgit
      rw [if_neg (by simpa using hgit)] at hfind
      rw [hnormal, Decode.defaulted, hfind]
      exact htype
  · have hmap := Decode.defaulted_text_map (g := id)
      (Normal.find?_repositoryMembers (by decide) members) rfl (fun _ => rfl) hbranch
    rwa [Option.map_id, id_eq] at hmap

/-! ## Publishing rules -/

namespace Export

/-- Publishing rules can be read if every member fits. -/
theorem exists_ofMembers {members : Pairs Value}
    (h : ∀ pair ∈ members, check pair.1 pair.2 = none) : ∃ rules, ofMembers members = .ok rules := by
  have hrule : ∀ name, name = "include" ∨ name = "exclude" →
      ∃ o, Decode.defaulted name none rule members = .ok o := by
    intro name hname
    cases hfind : members.find? name with
    | none => exact ⟨none, Decode.defaulted_eq_ok_iff.2 (.inl ⟨hfind, rfl⟩)⟩
    | some v =>
      have hfits := h _ (Pairs.mem_of_find? hfind)
      rw [check, if_pos hname] at hfits
      obtain ⟨o, ho⟩ := Decode.mismatch?_eq_none_iff.1 hfits
      exact ⟨o, Decode.defaulted_eq_ok_iff.2 (.inr ⟨v, hfind, ho⟩)⟩
  obtain ⟨included, hincluded⟩ := hrule "include" (.inl rfl)
  obtain ⟨excluded, hexcluded⟩ := hrule "exclude" (.inr rfl)
  exact ⟨⟨included, excluded⟩, ofMembers_eq_ok_iff.2 ⟨h, hincluded, hexcluded⟩⟩

/-- A rule that can be read is in its normal form. -/
theorem exportRule_of_rule {v : Value} {o : Option (List String)} (h : rule v = .ok o) :
    Normal.exportRule v = v := by
  cases v with
  | string s => exact absurd h (by simp [rule, Decode.optional, Decode.sequence, Except.map])
  | _ => rfl

/-- Members that fit into publishing rules do so in their normal form. -/
theorem check_exportMembers {members : Pairs Value}
    (h : ∀ pair ∈ members, check pair.1 pair.2 = none) :
    ∀ pair ∈ Normal.exportMembers members, check pair.1 pair.2 = none := by
  intro pair hpair
  obtain ⟨v, hmem, heq⟩ := Pairs.mem_mapValues.1 hpair
  have hfits := h _ (List.mem_filter.1 hmem).1
  rw [← heq]
  unfold check at hfits ⊢
  split at hfits
  case isTrue hname =>
    obtain ⟨o, ho⟩ := Decode.mismatch?_eq_none_iff.1 hfits
    rw [if_pos hname, exportRule_of_rule ho]
    exact hfits
  case isFalse hname => rw [if_neg hname]

/-- A rule is read from the normal form of publishing rules as from themselves, if their names
rise. -/
theorem defaulted_exportMembers {members : Pairs Value} (hrising : members.Rising) {name : String}
    {o : Option (List String)} (h : Decode.defaulted name none rule members = .ok o) :
    Decode.defaulted name none rule (Normal.exportMembers members) = .ok o := by
  have hfind : (Normal.exportMembers members).find? name =
      ((members.find? name).filter fun v => !v.isNull).map Normal.exportRule := by
    unfold Normal.exportMembers
    rw [Pairs.find?_mapValues, hrising.find?_filter]
  rcases Decode.defaulted_eq_ok_iff.1 h with ⟨hnone, rfl⟩ | ⟨v, hv, hread⟩
  · exact Decode.defaulted_eq_ok_iff.2 (.inl ⟨by rw [hfind, hnone]; rfl, rfl⟩)
  · rw [hv, Option.filter_some] at hfind
    cases hnull : v.isNull with
    | true =>
      -- A null that is removed means no rule, as an absent member does.
      obtain rfl := Value.isNull_iff.1 hnull
      have hrule : rule .null = .ok none := rfl
      obtain rfl := Except.ok.inj (hrule.symm.trans hread)
      exact Decode.defaulted_eq_ok_iff.2 (.inl ⟨hfind, rfl⟩)
    | false =>
      refine Decode.defaulted_eq_ok_iff.2 (.inr ⟨v, ?_, hread⟩)
      rw [hfind, hnull, Bool.not_false, if_pos rfl, Option.map_some, exportRule_of_rule hread]

/-- Publishing rules are read from their normal form as from themselves, if their names rise. -/
theorem ofMembers_exportMembers {members : Pairs Value} {rules : Export}
    (hrising : members.Rising) (h : ofMembers members = .ok rules) :
    ofMembers (Normal.exportMembers members) = .ok rules := by
  obtain ⟨hcheck, hincluded, hexcluded⟩ := ofMembers_eq_ok_iff.1 h
  exact ofMembers_eq_ok_iff.2 ⟨check_exportMembers hcheck,
    defaulted_exportMembers hrising hincluded, defaulted_exportMembers hrising hexcluded⟩

end Export

end Manifest
