import Manifest.Proofs.JsonFormats

/-!
# Pages of libraries

The page of a library may stand under its former name. It is left out as a repetition if the
repository, as it is written, is that page. A repository that is a text is removed by its normal form
if it is not a git remote, and then the page that it repeats is lost with it (`parse_formerPage`).
-/

namespace Manifest

open Json (Members Pairs Value)
open Manifest.Normal (isGitRemote)
open Text (trim)

namespace Format.Library

/-- Fields have a page. -/
inductive KeepsPage (fields : Members) (page : String) : Prop
  /-- It is the page of the project. -/
  | homepage (hpage : fields.get? "homepage" = some (.string page))
  /-- It is the address of the repository, which has no blanks at its ends. -/
  | repository (source : Pairs Value) (hsource : fields.get? "repository" = some (.object source))
      (haddress : Pairs.find? "url" source = some (.string (trim page)))

/-- A document repeats a page as a repository that is none. -/
structure RepeatsPage (document : Members) (page repository : String) : Prop where
  /-- The repository is a text. -/
  written : document.get? "repository" = some (.string repository)
  /-- The text is the page, blanks at their ends aside. -/
  same : trim repository = trim page
  /-- It is not a git remote. -/
  notRemote : ¬ isGitRemote repository

variable {document : Members} {page : String}

/-- The address of a repository is the text that the repository is, or a text among its members. -/
theorem repositoryAddress?_eq_some_iff {address : String} :
    repositoryAddress? document = some address ↔
      ∃ s, trim s = address ∧ (document.get? "repository" = some (.string s) ∨
        ∃ source, document.get? "repository" = some (.object source) ∧
          Pairs.find? "url" source = some (.string s)) := by
  unfold repositoryAddress?
  constructor
  · intro h
    split at h
    case h_1 s hget => exact ⟨s, Option.some.inj h, .inl hget⟩
    case h_2 source hget =>
      obtain ⟨s, htext, rfl⟩ := Option.map_eq_some_iff.1 h
      obtain ⟨v, hfound, hv⟩ := Option.bind_eq_some_iff.1 htext
      cases v with
      | string t =>
        obtain rfl := Option.some.inj hv
        exact ⟨t, rfl, .inr ⟨source, hget, hfound⟩⟩
      | _ => exact absurd hv (by simp [Value.text?])
    case h_3 => exact absurd h (by simp)
  · rintro ⟨s, rfl, hget | ⟨source, hget, hfound⟩⟩
    · rw [hget]
    · rw [hget]
      exact congrArg (fun v : Option Value => (v.bind Value.text?).map trim) hfound

/-- A former page becomes the page, where none is given, unless it is the address of the
repository. -/
theorem get?_folded_homepage_iff (hurl : document.get? "url" = some (.string page))
    (hunset : document.given? "homepage" = none) :
    (folded document).get? "homepage" = some (.string page) ↔
      repositoryAddress? document ≠ some (trim page) := by
  have hgiven : document.given? "url" = some (.string page) :=
    Members.given?_eq_some_iff.2 ⟨hurl, by simp⟩
  have hmoved : (foldUrl document).given? "homepage" =
      (some (.string page)).filter fun url => !isRepository document url := by
    rw [given?_foldUrl_homepage, hunset, hgiven, Option.none_or]
  -- The page is not null, so it is there exactly if it is given.
  have hsome : (foldUrl document).get? "homepage" = some (.string page) ↔
      (foldUrl document).given? "homepage" = some (.string page) := by
    rw [Members.given?_eq_some_iff]
    exact (and_iff_left (by simp)).symm
  rw [get?_folded_of_ne (by decide) (by decide) (by decide), hsome, hmoved]
  simp [Option.filter_some, isRepository, Value.text?]

/-- The page stays the one that was found. -/
theorem get?_fields_homepage (fields : Members) :
    (Normal.fields fields).get? "homepage" = fields.get? "homepage" :=
  Normal.get?_fields_of_not_mem (by decide) fields

/-- The repository is the normal form of the one in the document. -/
theorem get?_fields_folded_repository (document : Members) :
    (Normal.fields (folded document)).get? "repository" =
      (document.get? "repository").bind Normal.repository := by
  rw [Normal.get?_fields, get?_folded_of_ne (by decide) (by decide) (by decide),
    get?_foldUrl_of_ne (by decide) (by decide)]
  rfl

/-- A page that is the address of the repository is kept there, unless the repository is a text that
is not a git remote. -/
theorem keepsPage_of_repositoryAddress (haddress : repositoryAddress? document = some (trim page))
    (hkept : ∀ repository, ¬ RepeatsPage document page repository) :
    KeepsPage (Normal.fields (folded document)) page := by
  obtain ⟨s, hsame, hget | ⟨source, hget, hfound⟩⟩ := repositoryAddress?_eq_some_iff.1 haddress
  -- The normal form makes an object of a text that is a git remote, and keeps an object.
  · have hremote : isGitRemote s := by
      by_contra hnot
      exact hkept s ⟨hget, hsame, hnot⟩
    refine .repository [("type", .string "git"), ("url", .string (trim s))] ?_ ?_
    · rw [get?_fields_folded_repository, hget]
      exact if_pos hremote
    · rw [hsame]
      rfl
  · refine .repository (Normal.repositoryMembers source) ?_ ?_
    · rw [get?_fields_folded_repository, hget]
      exact Normal.repository_object source
    · rw [Normal.find?_repositoryMembers (by decide), hfound, ← hsame]
      rfl

/-- A page that is repeated as a repository that is none is not kept, if no page is given. -/
theorem RepeatsPage.not_keepsPage {repository : String}
    (h : RepeatsPage document page repository) (hurl : document.get? "url" = some (.string page))
    (hunset : document.given? "homepage" = none) :
    ¬ KeepsPage (Normal.fields (folded document)) page := by
  intro hkeeps
  cases hkeeps with
  | homepage hpage =>
    rw [get?_fields_homepage, get?_folded_homepage_iff hurl hunset] at hpage
    exact hpage (repositoryAddress?_eq_some_iff.2 ⟨repository, h.same, .inl h.written⟩)
  | repository source hsource =>
    have hgone : (Normal.fields (folded document)).get? "repository" = none := by
      rw [get?_fields_folded_repository, h.written]
      exact if_neg h.notRemote
    exact absurd (hgone.symm.trans hsource) (by simp)

end Format.Library

open Format.Library (KeepsPage RepeatsPage)

/-- A library whose page stands under the former name only is parsed, and the page is kept as such or
as the address of the repository, exactly if the document does not repeat it as a repository that is
none. -/
theorem parse_formerPage {declared : String}
    (hdeclared : Kind.ofDeclared? declared = some .libraryJson) {document : Members}
    {page : String} (hurl : document.get? "url" = some (.string page))
    (hunset : document.get? "homepage" = none ∨ document.get? "homepage" = some .null)
    {contents : String} (hcontents : Json.read contents = .ok document.toValue)
    (address : Option String) :
    ∃ fields, parse contents declared address = .ok fields ∧
      (KeepsPage fields page ↔ ∀ repository, ¬ RepeatsPage document page repository) := by
  refine ⟨Normal.fields (Format.Library.folded document),
    parse_of_read hdeclared (by decide) hcontents address, ?_⟩
  have hgiven := Members.given?_eq_none_iff.2 hunset
  constructor
  · intro hkeeps repository hrepeats
    exact hrepeats.not_keepsPage hurl hgiven hkeeps
  · intro hkept
    by_cases haddress : Format.Library.repositoryAddress? document = some (trim page)
    · exact Format.Library.keepsPage_of_repositoryAddress haddress hkept
    · refine .homepage ?_
      rw [Format.Library.get?_fields_homepage]
      exact (Format.Library.get?_folded_homepage_iff hurl hgiven).2 haddress

set_option maxRecDepth 8000 in
/-- A page that is the git remote of the project is kept as its repository. -/
theorem parse_formerPage_gitRemote :
    let document := Members.ofPairs [("homepage", .null),
      ("repository", .string "https://x.org/p.git"), ("url", .string " https://x.org/p.git")]
    (∀ repository, ¬ RepeatsPage document " https://x.org/p.git" repository) ∧
      ∃ fields, parse ("\x7b\"url\": \" https://x.org/p.git\", \"homepage\": null, " ++
          "\"repository\": \"https://x.org/p.git\"\x7d") "library-json" none = .ok fields ∧
        KeepsPage fields " https://x.org/p.git" := by
  intro document
  have hkept : ∀ repository, ¬ RepeatsPage document " https://x.org/p.git" repository := by
    intro repository hrepeats
    obtain rfl := Value.string.inj (Option.some.inj hrepeats.written)
    exact hrepeats.notRemote (by decide)
  have hdeclared : Kind.ofDeclared? "library-json" = some .libraryJson := rfl
  have hcontents : Json.read ("\x7b\"url\": \" https://x.org/p.git\", \"homepage\": null, " ++
      "\"repository\": \"https://x.org/p.git\"\x7d") = .ok document.toValue := by
    cbv
  have hurl : document.get? "url" = some (.string " https://x.org/p.git") := rfl
  obtain ⟨fields, hparse, hkeeps⟩ := parse_formerPage hdeclared hurl (.inr rfl) hcontents none
  exact ⟨hkept, fields, hparse, hkeeps.2 hkept⟩

/-- A library whose repository is a text that is its page. -/
def pageAsRepository : String :=
  "\x7b\"url\": \"https://example.org\", \"repository\": \"https://example.org\"\x7d"

set_option maxRecDepth 8000 in
/-- The page is lost: it is neither set nor the address of a repository. -/
theorem parse_pageAsRepository :
    ∃ document : Members, document.get? "url" = some (.string "https://example.org") ∧
      document.get? "homepage" = none ∧ Json.read pageAsRepository = .ok document.toValue ∧
      ∃ fields, parse pageAsRepository "library-json" none = .ok fields ∧
        ¬ KeepsPage fields "https://example.org" := by
  let document := Members.ofPairs [("url", .string "https://example.org"),
    ("repository", .string "https://example.org")]
  have hcontents : Json.read pageAsRepository = .ok document.toValue := by
    cbv
  have hrepeats : RepeatsPage document "https://example.org" "https://example.org" :=
    ⟨rfl, rfl, by decide⟩
  have hdeclared : Kind.ofDeclared? "library-json" = some .libraryJson := rfl
  exact ⟨document, rfl, rfl, hcontents, Normal.fields (Format.Library.folded document),
    parse_of_read hdeclared (by decide) hcontents none, hrepeats.not_keepsPage rfl rfl⟩

end Manifest
