import Manifest.Format.Library
import Manifest.Format.Platform
import Manifest.Proofs.UnsetMembers

/-!
# Former names of fields

What the members of a document become when former names are replaced by today's, name by name. A
page under its former name is taken if no page is given (`given?_rename`, `given?_foldUrl`), so that
a null there is an absent member. Top-level publishing rules are added to the publishing rules one
after the other (`get?_folded_export`), and there a null is a rule of its own.
-/

namespace Manifest

open Json (Members Pairs Value)

namespace Format

/-- A member is not set if nothing is given for it. -/
theorem isUnset_iff {fields : Members} {name : String} :
    isUnset fields name ↔ fields.given? name = none := by
  rw [Members.given?_eq_none_iff]
  unfold isUnset
  cases fields.get? name with
  | none => simp
  | some v => simp [Value.isNull_iff]

/-- A member is moved to another name if nothing is given there. -/
theorem given?_rename {former name : String} (hne : former ≠ name) (fields : Members)
    (other : String) :
    (rename former name fields).given? other =
      if other = former then none
      else if other = name then (fields.given? name).or (fields.given? former)
      else fields.given? other := by
  have hname : (fields.erase former).given? name = fields.given? name :=
    Members.given?_erase_of_ne fields hne
  unfold rename
  cases hget : fields.get? former with
  | none =>
    have hformer : fields.given? former = none := Members.given?_eq_none_iff.2 (.inl hget)
    dsimp only
    split_ifs with h₁ h₂
    · rw [h₁, hformer]
    · rw [h₂, hformer, Option.or_none]
    · rfl
  | some v =>
    have hformer : fields.given? former = (some v).filter fun v => !v.isNull := by
      unfold Members.given?
      rw [hget]
    dsimp only
    -- The former name is removed in any case, and its value moves only where none is given.
    by_cases hunset : isUnset (fields.erase former) name
    · rw [if_pos hunset]
      rw [isUnset_iff, hname] at hunset
      split_ifs with h₁ h₂
      · rw [h₁, Members.given?_insert_of_ne _ _ (Ne.symm hne), Members.given?_erase_self]
      · rw [h₂, Members.given?_insert_self, hunset, Option.none_or, hformer]
      · rw [Members.given?_insert_of_ne _ _ (Ne.symm h₂),
          Members.given?_erase_of_ne _ (Ne.symm h₁)]
    · rw [if_neg hunset]
      rw [isUnset_iff, hname] at hunset
      obtain ⟨w, hw⟩ := Option.ne_none_iff_exists'.1 hunset
      split_ifs with h₁ h₂
      · rw [h₁, Members.given?_erase_self]
      · rw [h₂, hname, hw, Option.some_or]
      · rw [Members.given?_erase_of_ne _ (Ne.symm h₁)]

/-- Moving a member makes no difference between members that give the same values. -/
theorem alike_rename {former name : String} (hne : former ≠ name) {x y : Members}
    (h : x.Alike y) : (rename former name x).Alike (rename former name y) := by
  intro other
  rw [given?_rename hne, given?_rename hne, h, h, h]

/-- Moving a member leaves members of other names as they are. -/
theorem get?_rename_of_ne {former name other : String} (hformer : other ≠ former)
    (hname : other ≠ name) (fields : Members) :
    (rename former name fields).get? other = fields.get? other := by
  unfold rename
  cases fields.get? former with
  | none => rfl
  | some v =>
    dsimp only
    split_ifs
    · rw [Members.get?_insert_of_ne _ _ hname.symm, Members.get?_erase_of_ne _ hformer.symm]
    · exact Members.get?_erase_of_ne _ hformer.symm

/-- The former name is gone after moving a member. -/
theorem get?_rename_former {former name : String} (hne : former ≠ name) (fields : Members) :
    (rename former name fields).get? former = none := by
  unfold rename
  cases hget : fields.get? former with
  | none => exact hget
  | some v =>
    dsimp only
    split_ifs
    · rw [Members.get?_insert_of_ne _ _ hne.symm, Members.get?_erase_self]
    · exact Members.get?_erase_self fields former

/-- The name that a member is moved to has the value that is given there, else the one that is moved,
else what it had. -/
theorem get?_rename_name {former name : String} (hne : former ≠ name) (fields : Members) :
    (rename former name fields).get? name =
      ((fields.given? name).or (fields.get? former)).or (fields.get? name) := by
  have hname : (fields.erase former).get? name = fields.get? name :=
    Members.get?_erase_of_ne fields hne
  have hunset : isUnset (fields.erase former) name ↔ fields.given? name = none := by
    rw [isUnset_iff, Members.given?_congr hname]
  have hgiven : (fields.given? name).or (fields.get? name) = fields.get? name := by
    cases hsome : fields.given? name with
    | none => exact Option.none_or
    | some w => rw [Option.some_or, (Members.given?_eq_some_iff.1 hsome).1]
  unfold rename
  cases fields.get? former with
  | none => rw [Option.or_none, hgiven]
  | some v =>
    dsimp only
    split_ifs with hmoved
    · rw [Members.get?_insert_self, hunset.1 hmoved, Option.none_or, Option.some_or]
    · obtain ⟨w, hw⟩ := Option.ne_none_iff_exists'.1 (mt hunset.2 hmoved)
      rw [hname, hw, Option.some_or, Option.some_or, (Members.given?_eq_some_iff.1 hw).1]

/-- What stands under a name after moving a member goes by this name and those that are moved. -/
theorem get?_rename_congr {former name other : String} {x y : Members}
    (hformer : x.get? former = y.get? former) (hname : x.get? name = y.get? name)
    (hother : x.get? other = y.get? other) :
    (rename former name x).get? other = (rename former name y).get? other := by
  have herase : ∀ key, x.get? key = y.get? key →
      (x.erase former).get? key = (y.erase former).get? key := by
    intro key hkey
    by_cases hne : former = key
    · rw [hne, Members.get?_erase_self, Members.get?_erase_self]
    · rw [Members.get?_erase_of_ne _ hne, Members.get?_erase_of_ne _ hne, hkey]
  have hunset : isUnset (x.erase former) name = isUnset (y.erase former) name := by
    unfold isUnset
    rw [herase name hname]
  unfold rename
  rw [hformer]
  cases y.get? former with
  | none => exact hother
  | some v =>
    dsimp only
    rw [hunset]
    split_ifs
    · rw [Members.get?_insert, Members.get?_insert, herase other hother]
    · exact herase other hother

namespace Library

/-! ## The page -/

/-- The address of a repository depends on what is given: a null is no repository, as an absent
member is none. -/
theorem repositoryAddress?_eq (fields : Members) : repositoryAddress? fields =
    match fields.given? "repository" with
    | some (.string s) => some (Text.trim s)
    | some (.object source) => ((Pairs.find? "url" source).bind Value.text?).map Text.trim
    | _ => none := by
  unfold repositoryAddress? Members.given?
  cases fields.get? "repository" with
  | none => rfl
  | some v => cases v <;> rfl

/-- Whether a page is the repository depends on the repository that is given. -/
theorem isRepository_congr {x y : Members} (h : x.given? "repository" = y.given? "repository")
    (url : Value) : isRepository x url = isRepository y url := by
  unfold isRepository
  rw [repositoryAddress?_eq x, repositoryAddress?_eq y, h]

/-- Members other than the page and its former name stay as they are. -/
theorem get?_foldUrl_of_ne {name : String} (hurl : name ≠ "url") (hpage : name ≠ "homepage")
    (fields : Members) : (foldUrl fields).get? name = fields.get? name := by
  have hothers := Members.get?_erase_of_ne fields (Ne.symm hurl)
  unfold foldUrl
  split
  · rfl
  · dsimp only
    split
    · exact hothers
    · split
      · rw [Members.get?_insert_of_ne _ _ (Ne.symm hpage), hothers]
      · exact hothers

/-- The former name of the page is gone. -/
theorem get?_foldUrl_url (fields : Members) : (foldUrl fields).get? "url" = none := by
  unfold foldUrl
  split
  · assumption
  · dsimp only
    split
    · exact Members.get?_erase_self fields "url"
    · split
      · rw [Members.get?_insert_of_ne _ _ (by decide), Members.get?_erase_self]
      · exact Members.get?_erase_self fields "url"

/-- The page is the one that is given, else the one under the former name unless that is the
repository. -/
theorem given?_foldUrl_homepage (fields : Members) :
    (foldUrl fields).given? "homepage" =
      (fields.given? "homepage").or
        ((fields.given? "url").filter fun url => !isRepository fields url) := by
  have hpage : (fields.erase "url").given? "homepage" = fields.given? "homepage" :=
    Members.given?_erase_of_ne fields (by decide)
  have hsame : ∀ url, isRepository (fields.erase "url") url = isRepository fields url :=
    isRepository_congr (Members.given?_erase_of_ne fields (by decide))
  unfold foldUrl
  cases hget : fields.get? "url" with
  | none =>
    have hurl : fields.given? "url" = none := Members.given?_eq_none_iff.2 (.inl hget)
    dsimp only
    rw [hurl, Option.filter_none, Option.or_none]
  | some url =>
    have hurl : fields.given? "url" = (some url).filter fun v => !v.isNull := by
      unfold Members.given?
      rw [hget]
    dsimp only
    rw [hsame]
    -- The value is dropped if it is the repository or if a page is given, and moves if not. A null
    -- that moves is no page either.
    by_cases hrepository : isRepository fields url
    · rw [if_pos hrepository, hpage, hurl]
      cases hnull : url.isNull <;> simp [Option.filter_some, hnull, hrepository]
    · rw [if_neg hrepository]
      by_cases hunset : isUnset (fields.erase "url") "homepage"
      · rw [if_pos hunset, Members.given?_insert_self, hurl]
        rw [isUnset_iff, hpage] at hunset
        rw [hunset, Option.none_or]
        cases hnull : url.isNull <;> simp [Option.filter_some, hnull, hrepository]
      · rw [if_neg hunset, hpage]
        rw [isUnset_iff, hpage] at hunset
        obtain ⟨w, hw⟩ := Option.ne_none_iff_exists'.1 hunset
        rw [hw, Option.some_or]

/-- The page goes by what was written for it, under both names, and by the repository. -/
theorem get?_foldUrl_congr {x y : Members} {name : String}
    (h : ∀ key ∈ ["url", "homepage", "repository"], x.get? key = y.get? key)
    (hname : x.get? name = y.get? name) : (foldUrl x).get? name = (foldUrl y).get? name := by
  by_cases hurl : name = "url"
  · rw [hurl, get?_foldUrl_url, get?_foldUrl_url]
  by_cases hpage : name = "homepage"
  · subst hpage
    have hothers : ∀ key ∈ ["homepage", "repository"],
        (x.erase "url").get? key = (y.erase "url").get? key := by
      intro key hkey
      have hne : "url" ≠ key := by
        rintro rfl
        exact absurd hkey (by decide)
      rw [Members.get?_erase_of_ne _ hne, Members.get?_erase_of_ne _ hne,
        h key (List.mem_cons_of_mem _ hkey)]
    have hunset : isUnset (x.erase "url") "homepage" = isUnset (y.erase "url") "homepage" := by
      unfold isUnset
      rw [hothers "homepage" (by decide)]
    have hrepository := isRepository_congr (Members.given?_congr (hothers "repository" (by decide)))
    unfold foldUrl
    rw [h "url" (by decide)]
    cases y.get? "url" with
    | none => exact hname
    | some url =>
      dsimp only
      rw [hrepository, hunset]
      split_ifs
      · exact hothers "homepage" (by decide)
      · rw [Members.get?_insert_self, Members.get?_insert_self]
      · exact hothers "homepage" (by decide)
  · rw [get?_foldUrl_of_ne hurl hpage, get?_foldUrl_of_ne hurl hpage, hname]

/-- Moving the page makes no difference between members that give the same values. -/
theorem alike_foldUrl {x y : Members} (h : x.Alike y) : (foldUrl x).Alike (foldUrl y) := by
  intro name
  by_cases hurl : name = "url"
  · rw [hurl, Members.given?_eq_none_iff.2 (.inl (get?_foldUrl_url x)),
      Members.given?_eq_none_iff.2 (.inl (get?_foldUrl_url y))]
  by_cases hpage : name = "homepage"
  · have hrepository : isRepository x = isRepository y :=
      funext (isRepository_congr (h "repository"))
    rw [hpage, given?_foldUrl_homepage, given?_foldUrl_homepage, h, h, hrepository]
  · rw [Members.given?_congr (get?_foldUrl_of_ne hurl hpage x),
      Members.given?_congr (get?_foldUrl_of_ne hurl hpage y), h]

/-! ## The publishing rules -/

/-- The publishing rules to which a top-level rule is added, if there is one. -/
def addRule (name : String) (rule rules : Option Value) : Option Value :=
  match rule, rules with
  | none, _ => rules
  | some v, none => some (.object [(name, v)])
  | some v, some (.object members) => some (.object (Pairs.insertNew name v members))
  | some _, some other => some other

/-- Moving a rule removes it from the top level. -/
theorem get?_foldRule_self (fields : Members) {name : String} (h : name ≠ "export") :
    (foldRule fields name).get? name = none := by
  unfold foldRule
  cases hget : fields.get? name with
  | none => exact hget
  | some v =>
    dsimp only
    split
    · rw [Members.get?_insert_of_ne _ _ (Ne.symm h), Members.get?_erase_self]
    · rw [Members.get?_insert_of_ne _ _ (Ne.symm h), Members.get?_erase_self]
    · exact Members.get?_erase_self fields name

/-- Moving a rule changes no other members. -/
theorem get?_foldRule_of_ne (fields : Members) {name other : String} (hname : other ≠ name)
    (hrules : other ≠ "export") : (foldRule fields name).get? other = fields.get? other := by
  have hothers := Members.get?_erase_of_ne fields (Ne.symm hname)
  unfold foldRule
  split
  · rfl
  · dsimp only
    split
    · rw [Members.get?_insert_of_ne _ _ (Ne.symm hrules), hothers]
    · rw [Members.get?_insert_of_ne _ _ (Ne.symm hrules), hothers]
    · exact hothers

/-- Moving a rule adds it to the publishing rules. -/
theorem get?_foldRule_export (fields : Members) {name : String} (h : name ≠ "export") :
    (foldRule fields name).get? "export" =
      addRule name (fields.get? name) (fields.get? "export") := by
  have hrules := Members.get?_erase_of_ne fields h
  unfold foldRule
  cases fields.get? name with
  | none => rfl
  | some v =>
    dsimp only
    rw [hrules]
    cases hget : fields.get? "export" with
    | none => exact Members.get?_insert_self _ _ _
    | some w =>
      rw [hget] at hrules
      cases w with
      | object members => exact Members.get?_insert_self _ _ _
      | _ => exact hrules

/-! ## All former names -/

/-- Rules are moved one after the other. -/
theorem folded_eq (fields : Members) :
    folded fields = foldRule (foldRule (foldUrl fields) "include") "exclude" :=
  rfl

/-- Former names are gone. -/
theorem get?_folded_of_former {name : String} (h : name = "url" ∨ name = "include" ∨
    name = "exclude") (fields : Members) : (folded fields).get? name = none := by
  rw [folded_eq]
  rcases h with rfl | rfl | rfl
  · rw [get?_foldRule_of_ne _ (by decide) (by decide), get?_foldRule_of_ne _ (by decide) (by decide),
      get?_foldUrl_url]
  · rw [get?_foldRule_of_ne _ (by decide) (by decide), get?_foldRule_self _ (by decide)]
  · rw [get?_foldRule_self _ (by decide)]

/-- Members that are neither publishing rules nor former names are those with the page moved. -/
theorem get?_folded_of_ne {name : String} (hrules : name ≠ "export") (hinclude : name ≠ "include")
    (hexclude : name ≠ "exclude") (fields : Members) :
    (folded fields).get? name = (foldUrl fields).get? name := by
  rw [folded_eq, get?_foldRule_of_ne _ hexclude hrules, get?_foldRule_of_ne _ hinclude hrules]

/-- Both top-level rules are added to the publishing rules. -/
theorem get?_folded_export (fields : Members) :
    (folded fields).get? "export" =
      addRule "exclude" (fields.get? "exclude")
        (addRule "include" (fields.get? "include") (fields.get? "export")) := by
  rw [folded_eq, get?_foldRule_export _ (by decide), get?_foldRule_of_ne _ (by decide) (by decide),
    get?_foldRule_export _ (by decide), get?_foldUrl_of_ne (by decide) (by decide),
    get?_foldUrl_of_ne (by decide) (by decide), get?_foldUrl_of_ne (by decide) (by decide)]

end Library

end Format

end Manifest
