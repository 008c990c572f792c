import Manifest.Normal.Repository
import Manifest.Proofs.Email

/-!
# Authors, publishing rules and repositories in normal form

The normal form of authors, of publishing rules and of a repository is its own normal form. Each of
them maps the members of objects one by one, by a function that settles them, and adds a member
that it then leaves alone (`Pairs.map_insert`, `Pairs.find?_map`).
-/

namespace Manifest

open Json (Pairs Value)

namespace Json.Pairs

variable {α : Type}

/-- The values of all pairs, mapped with their names. -/
def mapValues (f : String → α → α) (pairs : Pairs α) : Pairs α :=
  pairs.map fun (name, v) => (name, f name v)

/-- A value is mapped with its name. -/
@[simp] theorem find?_mapValues (f : String → α → α) (pairs : Pairs α) (name : String) :
    (pairs.mapValues f).find? name = (pairs.find? name).map (f name) := by
  induction pairs with
  | nil => rfl
  | cons head rest ih =>
    obtain ⟨k, v⟩ := head
    have hcons : mapValues f ((k, v) :: rest) = (k, f k v) :: mapValues f rest := rfl
    by_cases h : k = name
    · subst h
      simp [hcons, find?]
    · simpa [hcons, find?, h] using ih

/-- A pair may be put in its place before or after the values are mapped. -/
theorem mapValues_insert (f : String → α → α) (pairs : Pairs α) (name : String) (value : α) :
    (pairs.insert name value).mapValues f = (pairs.mapValues f).insert name (f name value) := by
  induction pairs with
  | nil => rfl
  | cons head rest ih =>
    obtain ⟨k, v⟩ := head
    have hcons : mapValues f ((k, v) :: rest) = (k, f k v) :: mapValues f rest := rfl
    rw [hcons, insert, insert]
    split
    · rfl
    · split
      · rfl
      · exact congrArg _ ih

/-- Mapping twice by a function that settles every value is mapping once. -/
theorem mapValues_mapValues {f : String → α → α} (h : ∀ name v, f name (f name v) = f name v)
    (pairs : Pairs α) : (pairs.mapValues f).mapValues f = pairs.mapValues f := by
  rw [mapValues, mapValues, List.map_map]
  exact List.map_congr_left fun pair _ => by simp [h]

/-- A pair that is there is not put again. -/
theorem insertNew_of_isSome {name : String} {pairs : Pairs α} (value : α)
    (h : (pairs.find? name).isSome) : pairs.insertNew name value = pairs :=
  if_pos h

/-- After a pair was put in its place unless it was there, it is there. -/
theorem isSome_find?_insertNew (name : String) (value : α) (pairs : Pairs α) :
    ((pairs.insertNew name value).find? name).isSome := by
  unfold insertNew
  split
  case isTrue h => exact h
  case isFalse => simp

end Json.Pairs

namespace Normal

open Text (IsProper trim)

/-! ## Authors -/

/-- The normal form of a member of an author is its own normal form. -/
theorem authorMember_authorMember (name : String) (v : Value) :
    authorMember name (authorMember name v) = authorMember name v := by
  cases v with
  | string s =>
    unfold authorMember
    dsimp only
    by_cases hemail : name = "email"
    · simp [hemail]
    · by_cases htrim : name = "name" ∨ name = "url"
      · simp [hemail, htrim]
      · simp [hemail, htrim]
  | _ => rfl

/-- The members of an author in normal form. -/
def authorMembers (members : Pairs Value) : Pairs Value :=
  (members.mapValues authorMember).insertNew "maintainer" (.bool false)

/-- The normal form of an author that is an object. -/
theorem author_object (members : Pairs Value) :
    author (.object members) = some (.object (authorMembers members)) :=
  rfl

/-- The normal form of an author's members is its own normal form. -/
theorem authorMembers_authorMembers (members : Pairs Value) :
    authorMembers (authorMembers members) = authorMembers members := by
  have hmap : (authorMembers members).mapValues authorMember = authorMembers members := by
    unfold authorMembers Pairs.insertNew
    split
    · exact Pairs.mapValues_mapValues authorMember_authorMember members
    · rw [Pairs.mapValues_insert, Pairs.mapValues_mapValues authorMember_authorMember]
      rfl
  conv_lhs => rw [authorMembers, hmap]
  exact Pairs.insertNew_of_isSome _ (Pairs.isSome_find?_insertNew _ _ _)

/-- The name that a text gives is proper, and the address is in its usual form. -/
theorem contact?_spec {s name : String} {address : Option String}
    (h : contact? s = some (name, address)) :
    IsProper name ∧ address.map email = address := by
  simp only [contact?] at h
  split at h
  · exact absurd h (by simp)
  · split at h
    · exact absurd h (by simp)
    · rename_i hname
      simp only [Option.some.injEq, Prod.mk.injEq] at h
      obtain ⟨rfl, rfl⟩ := h
      refine ⟨?_, by simp [Function.comp_def]⟩
      simpa [IsProper, trim] using hname

/-- The object of an author with a proper name and an address in its usual form is in normal form.
-/
theorem author_authorValue {name : String} {address : Option String} (maintainer : Bool)
    (hname : IsProper name) (haddress : address.map email = address) :
    author (authorValue name address maintainer) = some (authorValue name address maintainer) := by
  cases address with
  | none =>
    simp [authorValue, author, authorMember, Pairs.insertNew, Pairs.find?, hname.2]
  | some a =>
    have ha : email a = a := by simpa using haddress
    simp [authorValue, author, authorMember, Pairs.insertNew, Pairs.find?, hname.2, ha]

/-- The normal form of an author is its own normal form. -/
theorem author_of_author {v w : Value} (h : author v = some w) : author w = some w := by
  cases v with
  | string s =>
    obtain ⟨⟨name, address⟩, hcontact, rfl⟩ := Option.map_eq_some_iff.1 h
    obtain ⟨hname, haddress⟩ := contact?_spec hcontact
    exact author_authorValue false hname haddress
  | object members =>
    rw [author_object, Option.some.injEq] at h
    rw [← h, author_object, authorMembers_authorMembers]
  | _ => rw [← Option.some.inj h]; rfl

/-- A sequence of authors in normal form is in normal form. -/
theorem listed_of_settled {found : List Value} (h : ∀ v ∈ found, author v = some v)
    (hne : found ≠ []) : authors.listed found = some (.array found) := by
  have hfilter : found.filterMap author = found := by
    rw [List.filterMap_congr h, List.filterMap_some]
  simp [authors.listed, hfilter, hne]

/-- The normal form of authors is its own normal form. -/
theorem authors_bind_authors (v : Value) : (authors v).bind authors = authors v := by
  have hlisted : ∀ items : List Value,
      (authors.listed items).bind authors = authors.listed items := by
    intro items
    by_cases hempty : items.filterMap author = []
    · simp [authors.listed, hempty]
    · have heq : authors.listed items = some (.array (items.filterMap author)) := by
        simp [authors.listed, hempty]
      rw [heq, Option.bind_some]
      refine listed_of_settled (fun w hw => ?_) hempty
      obtain ⟨x, -, hx⟩ := List.mem_filterMap.1 hw
      exact author_of_author hx
  cases v with
  | null => rfl
  | array items => exact hlisted items
  | bool b => exact hlisted [.bool b]
  | number n => exact hlisted [.number n]
  | string s => exact hlisted [.string s]
  | object members => exact hlisted [.object members]

/-! ## Publishing rules -/

/-- The normal form of a rule is its own normal form. -/
theorem exportRule_exportRule (v : Value) : exportRule (exportRule v) = exportRule v := by
  cases v <;> rfl

/-- The normal form of a rule that is not null is not null. -/
theorem isNull_exportRule {v : Value} (h : v.isNull = false) : (exportRule v).isNull = false := by
  cases v with
  | null => exact h
  | _ => rfl

/-- The members of publishing rules in their normal form, without those that are null. -/
def exportMembers (members : Pairs Value) : Pairs Value :=
  Pairs.mapValues (fun _ => exportRule) (members.filter fun (_, v) => !v.isNull)

/-- The normal form of publishing rules given as an object. -/
theorem exportRules_object (members : Pairs Value) :
    exportRules (.object members) = some (.object (exportMembers members)) :=
  rfl

/-- No member in its normal form is null. -/
theorem isNull_of_mem_exportMembers {members : Pairs Value} {pair : String × Value}
    (h : pair ∈ exportMembers members) : pair.2.isNull = false := by
  obtain ⟨⟨name, v⟩, hmem, rfl⟩ := List.mem_map.1 h
  have hv : v.isNull = false := by simpa using (List.mem_filter.1 hmem).2
  exact isNull_exportRule hv

/-- Bringing the members into their normal form again changes nothing. -/
theorem exportMembers_exportMembers (members : Pairs Value) :
    exportMembers (exportMembers members) = exportMembers members := by
  have hkept : (exportMembers members).filter (fun pair => !pair.2.isNull) =
      exportMembers members :=
    List.filter_eq_self.2 fun pair hpair => by simp [isNull_of_mem_exportMembers hpair]
  have hmapped : Pairs.mapValues (fun _ => exportRule) (exportMembers members) =
      exportMembers members :=
    Pairs.mapValues_mapValues (fun _ => exportRule_exportRule) _
  calc exportMembers (exportMembers members)
      = Pairs.mapValues (fun _ => exportRule)
          ((exportMembers members).filter fun pair => !pair.2.isNull) := rfl
    _ = exportMembers members := by rw [hkept, hmapped]

/-- The normal form of publishing rules is its own normal form. -/
theorem exportRules_bind_exportRules (v : Value) :
    (exportRules v).bind exportRules = exportRules v := by
  cases v with
  | object members =>
    rw [exportRules_object, Option.bind_some, exportRules_object, exportMembers_exportMembers]
  | _ => rfl

/-! ## Repositories -/

/-- The normal form of a member of a repository is its own normal form. -/
theorem repositoryMember_repositoryMember (name : String) (v : Value) :
    repositoryMember name (repositoryMember name v) = repositoryMember name v := by
  cases v with
  | string s =>
    unfold repositoryMember
    by_cases hurl : name = "url" <;> simp [hurl]
  | _ => rfl

/-- The members of a repository in normal form. -/
def repositoryMembers (members : Pairs Value) : Pairs Value :=
  let trimmed := members.mapValues repositoryMember
  if lacksGitType trimmed then trimmed.insert "type" (.string "git") else trimmed

/-- The normal form of a repository that is an object. -/
theorem repository_object (members : Pairs Value) :
    repository (.object members) = some (.object (repositoryMembers members)) :=
  rfl

/-- A repository that has been given its type does not lack it. -/
theorem lacksGitType_insert (members : Pairs Value) :
    lacksGitType (members.insert "type" (.string "git")) = false := by
  simp [lacksGitType, Value.isNull]

/-- The normal form of a repository's members is its own normal form. -/
theorem repositoryMembers_repositoryMembers (members : Pairs Value) :
    repositoryMembers (repositoryMembers members) = repositoryMembers members := by
  have hsettled := Pairs.mapValues_mapValues repositoryMember_repositoryMember members
  by_cases hlacks : lacksGitType (members.mapValues repositoryMember)
  · have heq : repositoryMembers members =
        (members.mapValues repositoryMember).insert "type" (.string "git") := if_pos hlacks
    have hmap : (repositoryMembers members).mapValues repositoryMember =
        repositoryMembers members := by
      rw [heq, Pairs.mapValues_insert, hsettled]
      rfl
    conv_lhs => rw [repositoryMembers]
    simp only [hmap]
    rw [heq, lacksGitType_insert]
    rfl
  · have heq : repositoryMembers members = members.mapValues repositoryMember := if_neg hlacks
    rw [heq, repositoryMembers, hsettled]
    exact if_neg hlacks

/-- The repository at a trimmed address is in normal form. -/
theorem repository_gitRepository {url : String} (h : trim url = url) :
    repository (gitRepository url) = some (gitRepository url) := by
  simp [gitRepository, repository, repositoryMember, lacksGitType, Pairs.find?, Value.isNull, h]

/-- The normal form of a repository is its own normal form. -/
theorem repository_bind_repository (v : Value) :
    (repository v).bind repository = repository v := by
  cases v with
  | string s =>
    by_cases hgit : isGitRemote s
    · have heq : repository (.string s) = some (gitRepository (trim s)) := if_pos hgit
      rw [heq, Option.bind_some, repository_gitRepository (Text.trim_trim s)]
    · have heq : repository (.string s) = none := if_neg hgit
      rw [heq, Option.bind_none]
  | object members =>
    rw [repository_object, Option.bind_some, repository_object,
      repositoryMembers_repositoryMembers]
  | _ => rfl

end Normal

end Manifest
