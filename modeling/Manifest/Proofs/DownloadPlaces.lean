import Manifest.Proofs.ObjectForms
import Manifest.Proofs.PropertyFields
import Manifest.Proofs.WebAddresses

/-!
# Where libraries were downloaded from

The address that a property list was downloaded from tells in which directory of which repository
the library lies. On the well-known site and its mirror there are three such addresses for each
directory of a branch, and they all give the same fields (`parse_hubHint`). On other sites a segment
`raw` separates the project from the branch, and the fields are those of the project exactly if it
has no segment of that name itself (`parse_siteHint`).

How an address is spelled does not matter, by `Url.parse?_written`. What it tells is a `Remote`, and
this gets into the fields by `foundAt_of_remote`.
-/

namespace Manifest

namespace Format.Properties

open Json (Members Pairs Value)
open Text (trim)
open Url (IsDomain IsPage IsSegment Spelling isPlain portText)

/-! ## Fields of libraries that were found -/

/-- The publishing rules of a library in such a directory of its repository. -/
def published (directories : List String) : Value :=
  .object (("exclude", Value.strings defaultExclude) ::
    if directories = [] then [] else [("include", Value.strings [Remote.path directories])])

/-- The fields of a library say that it lies in such a directory of a git repository. -/
structure FoundAt (fields : Members) (repository : String) (directories : List String) : Prop where
  /-- The repository is the one at this address. -/
  source : fields.get? "repository" = some (Normal.gitRepository repository)
  /-- What lies in the directory is published. -/
  rules : fields.get? "export" = some (published directories)

/-- There is one address of the repository. -/
theorem FoundAt.address_eq {fields : Members} {repository other : String}
    {directories : List String} (h : FoundAt fields repository directories)
    (hother : fields.get? "repository" = some (Normal.gitRepository other)) :
    repository = other := by
  have heq := Option.some.inj (h.source.symm.trans hother)
  simpa [Normal.gitRepository] using heq

section

variable (properties : Pairs String) (platforms : Value) (directories : List String)
  {repository : String}

/-- The repository that an address tells gets into the fields. -/
theorem get?_repository_of_remote (hrepository : trim repository = repository) :
    (Normal.fields (ofProperties properties
      (some ⟨repository, Remote.directory? directories⟩) platforms)).get? "repository" =
        some (Normal.gitRepository repository) := by
  have hget : (ofProperties properties (some ⟨repository, Remote.directory? directories⟩)
      platforms).get? "repository" = some (Normal.gitRepository repository) :=
    get?_ofProperties properties _ platforms .repository
  rw [Normal.get?_fields, hget]
  exact Normal.repository_gitRepository hrepository

variable (repository) in
/-- The directory that an address tells gets into the fields. -/
theorem get?_export_of_remote (hpath : trim (Remote.path directories) = Remote.path directories) :
    (Normal.fields (ofProperties properties
      (some ⟨repository, Remote.directory? directories⟩) platforms)).get? "export" =
        some (published directories) := by
  have hget : (ofProperties properties (some ⟨repository, Remote.directory? directories⟩)
      platforms).get? "export" =
        some (exportRules (some ⟨repository, Remote.directory? directories⟩)) :=
    get?_ofProperties properties _ platforms .exportRules
  rw [Normal.get?_fields, hget]
  cases directories with
  | nil => rfl
  | cons first rest =>
    -- The normal form makes a list of the one directory.
    have hrule : Normal.exportRule (.string (Remote.path (first :: rest))) =
        Value.strings [Remote.path (first :: rest)] :=
      congrArg (fun s => Value.strings [s]) hpath
    have hnormal : Normal.exportRules
        (exportRules (some ⟨repository, Remote.directory? (first :: rest)⟩)) =
          some (.object [("exclude", Value.strings defaultExclude),
            ("include", Normal.exportRule (.string (Remote.path (first :: rest))))]) := rfl
    exact hnormal.trans (by rw [hrule]; rfl)

/-- What an address tells gets into the fields. -/
theorem foundAt_of_remote (hrepository : trim repository = repository)
    (hpath : trim (Remote.path directories) = Remote.path directories) :
    FoundAt (Normal.fields (ofProperties properties
      (some ⟨repository, Remote.directory? directories⟩) platforms)) repository directories :=
  ⟨get?_repository_of_remote properties platforms directories hrepository,
    get?_export_of_remote properties platforms directories repository hpath⟩

end

/-! ## Texts without blanks -/

/-- The text has no characters but plain ones, colons and slashes. -/
def IsClean (s : String) : Prop :=
  ∀ c ∈ s.toList, c = ':' ∨ c = '/' ∨ isPlain c

instance (s : String) : Decidable (IsClean s) :=
  List.decidableBAll _ s.toList

/-- A clean text has no blanks at its ends, since it has none at all. -/
theorem IsClean.trim_eq {s : String} (h : IsClean s) : trim s = s := by
  have hsolid : Text.Solid s.toList := by
    intro c hc
    rcases h c hc with rfl | rfl | hplain
    · decide
    · decide
    · exact Url.of_isPlain (P := fun c => Text.isBlank c = false) hplain (by decide +kernel)
  exact hsolid.trim_eq

/-- Texts that are put together are clean if each of them is. -/
theorem IsClean.append {s t : String} (hs : IsClean s) (ht : IsClean t) : IsClean (s ++ t) := by
  intro c hc
  rw [String.toList_append] at hc
  exact (List.mem_append.1 hc).elim (hs c) (ht c)

/-- A segment that stands for itself is clean. -/
theorem isClean_of_isSegment {s : String} (h : IsSegment s) : IsClean s :=
  fun c hc => .inr (.inr (h.plain c hc))

section

variable {segments : List String} (h : ∀ s ∈ segments, IsSegment s)

include h

/-- A path of segments that stand for themselves is clean. -/
theorem isClean_path : IsClean (Remote.path segments) := by
  intro c hc
  rw [Remote.path, String.toList_intercalate] at hc
  exact .inr (Url.mem_intercalate_of_isSegment h hc)

/-- Segments that stand for themselves are what stands between the slashes of their path. -/
theorem pieces_path (hne : segments ≠ []) :
    Text.pieces '/' (Remote.path segments).toList = segments.map String.toList := by
  rw [Remote.path, String.toList_intercalate]
  exact Url.pieces_of_isSegment hne h

end

/-! ## Places in repositories -/

/-- A name that stands in an address as it is. -/
structure IsName (s : String) : Prop where
  /-- It is not empty. -/
  nonempty : s ≠ ""
  /-- It consists of letters, digits, hyphens and underscores. -/
  plain : ∀ c ∈ s.toList, c.isAlphanum ∨ c = '-' ∨ c = '_'

instance (s : String) : Decidable (IsName s) :=
  decidable_of_iff (s ≠ "" ∧ s.toList.all fun c => c.isAlphanum || c == '-' || c == '_')
    ⟨fun ⟨hne, hplain⟩ => ⟨hne, by simpa [or_assoc] using hplain⟩,
      fun h => ⟨h.nonempty, by simpa [or_assoc] using h.plain⟩⟩

/-- A name is a segment that stands for itself. -/
theorem IsName.isSegment {s : String} (h : IsName s) : IsSegment s where
  nonempty := h.nonempty
  plain c hc := by
    rcases h.plain c hc with hletter | rfl | rfl
    · exact Url.isPlain_of_isAlphanum hletter
    · decide
    · decide
  noStep := by
    have hdot : ¬ ('.'.isAlphanum ∨ '.' = '-' ∨ '.' = '_') := by decide
    constructor <;> rintro rfl <;> exact hdot (h.plain '.' (by decide))

/-- The name of the file that lists the properties. -/
def fileName : String :=
  "library.properties"

/-- A directory of a branch of some repository. -/
structure Place where
  /-- The scheme of its addresses. -/
  scheme : String
  /-- The branch. -/
  branch : String
  /-- The directories that lead to it. -/
  directories : List String
  /-- The scheme is one of the two for pages. -/
  web : scheme = "http" ∨ scheme = "https"
  /-- Branch and directories have names that stand in an address as they are. -/
  named : ∀ s ∈ branch :: directories, IsName s

namespace Place

variable (place : Place)

/-- The scheme is clean. -/
theorem isClean_scheme : IsClean place.scheme := by
  rcases place.web with heq | heq <;> rw [heq] <;> decide

/-- The path to the directory is clean. -/
theorem isClean_path_directories : IsClean (Remote.path place.directories) :=
  isClean_path fun s hs => (place.named s (List.mem_cons_of_mem _ hs)).isSegment

/-- The segments that lead to a file in the directory, behind those that lead to the repository. -/
def below (front : List String) : List String :=
  (front ++ place.branch :: place.directories) ++ [fileName]

/-- These segments stand for themselves if those in front do. -/
theorem isSegment_below {front : List String} (h : ∀ s ∈ front, IsSegment s) :
    ∀ s ∈ place.below front, IsSegment s := by
  intro s hs
  rcases List.mem_append.1 hs with hs | hs
  · rcases List.mem_append.1 hs with hs | hs
    · exact h s hs
    · exact (place.named s hs).isSegment
  · rw [List.mem_singleton.1 hs]
    exact ⟨by decide, by decide, by decide⟩

end Place

/-! ## The well-known site -/

/-- A directory of a repository on the well-known site. -/
structure HubPlace extends Place where
  /-- Whose repository it is. -/
  user : String
  /-- What the repository is called. -/
  repository : String
  /-- User and repository have names that stand in an address as they are. -/
  owned : IsName user ∧ IsName repository

/-- The ways to look at a file on the well-known site. -/
inductive View where
  /-- Its contents on the mirror. -/
  | mirror
  /-- Its page. -/
  | blob
  /-- Its contents. -/
  | raw
  deriving DecidableEq, Repr

namespace View

/-- The host of a view. -/
def host : View → String
  | .mirror => "raw.githubusercontent.com"
  | .blob | .raw => "github.com"

/-- The segment that tells a view from others on its host. -/
def segments : View → List String
  | .mirror => []
  | .blob => ["blob"]
  | .raw => ["raw"]

/-- The hosts are domain names. -/
theorem isDomain_host (view : View) : IsDomain view.host.toList := by
  cases view <;>
    exact ⟨by decide, by decide, Url.Means.of_unmarked (by decide) (by decide), by decide⟩

/-- The segments stand for themselves. -/
theorem isSegment_segments (view : View) : ∀ s ∈ view.segments, IsSegment s := by
  have hnames : ∀ s ∈ view.segments, IsName s := by
    cases view <;> decide
  exact fun s hs => (hnames s hs).isSegment

end View

namespace HubPlace

variable (place : HubPlace)

/-- The address of the properties in a view. -/
def url (view : View) : Url where
  scheme := place.scheme
  host := view.host
  port := none
  segments := place.below (place.user :: place.repository :: view.segments)

/-- The address of the repository. -/
def address : String :=
  place.scheme ++ "://github.com/" ++ place.user ++ "/" ++ place.repository

/-- The address of the properties is one of a page. -/
theorem isPage_url (view : View) : (place.url view).IsPage where
  scheme := place.web
  host := view.isDomain_host
  port := nofun
  rooted := List.concat_ne_nil _ _
  segments := place.isSegment_below (List.forall_mem_cons.2 ⟨place.owned.1.isSegment,
    List.forall_mem_cons.2 ⟨place.owned.2.isSegment, view.isSegment_segments⟩⟩)

/-- Every view of the properties, however its address is spelled, tells the repository and the
directory. -/
theorem ofAddress?_written (view : View) (spelling : Spelling (place.url view).host) :
    Remote.ofAddress? ((place.url view).written spelling) =
      some ⟨place.address, Remote.directory? place.directories⟩ := by
  have hsegments : (place.url view).segments.dropLast =
      place.user :: place.repository :: (view.segments ++ place.branch :: place.directories) :=
    List.dropLast_concat
  have hhub : Remote.isHub view.host = true := by
    cases view <;> decide
  unfold Remote.ofAddress?
  rw [Url.parse?_written (place.isPage_url view)]
  dsimp only
  rw [hsegments]
  refine (if_pos hhub).trans ?_
  cases view with
  | mirror =>
    -- The branch may have the name of a view, but there are no views on the mirror.
    have hmirror : ((place.url .mirror).host == "github.com") = false := rfl
    unfold Remote.onHub?
    dsimp only
    rw [hmirror, Bool.and_false]
    rfl
  | blob => rfl
  | raw => rfl

/-- The address of the repository is clean. -/
theorem isClean_address : IsClean place.address := by
  have hsite : IsClean "://github.com/" ∧ IsClean "/" := by decide
  exact (((place.isClean_scheme.append hsite.1).append
    (isClean_of_isSegment place.owned.1.isSegment)).append hsite.2).append
      (isClean_of_isSegment place.owned.2.isSegment)

end HubPlace

/-! ## Other sites -/

/-- A directory of a repository on another site. -/
structure SitePlace extends Place where
  /-- The host. -/
  host : String
  /-- The port, unless it is the one that the scheme implies. -/
  port : Option Nat
  /-- The segments that lead to the project. -/
  project : List String
  /-- The host is a domain name. -/
  domain : IsDomain host.toList
  /-- It does not have the name of the well-known site in it. -/
  elsewhere : Text.occurs "github".toList host.toList = false
  /-- The port is one, and not the one that the scheme implies. -/
  explicit : ∀ n ∈ port, n < 65536 ∧ Url.impliedPort? scheme.toList ≠ some n
  /-- There is a project. -/
  rooted : project ≠ []
  /-- The project is reached by names that stand in an address as they are. -/
  grouped : ∀ s ∈ project, IsName s
  /-- None of them is the mark that may stand behind the project. -/
  unmarked : "-" ∉ project

/-- The host is followed by the text of the port. -/
theorem Remote.authority_eq (url : Url) : authority url = url.host ++ portText url.port := by
  unfold authority
  cases url.port <;> simp [portText, String.append_assoc]

/-- A segment `raw` separates the project from the branch, the first one if there are several. -/
theorem Remote.onSite?_append (url : Url) {front : List String} (h : "raw" ∉ front)
    (behind : List String) :
    onSite? url (front ++ "raw" :: behind) = some {
      repository := url.scheme ++ "://" ++ authority url ++ "/" ++
        path (if front.getLast? = some "-" then front.dropLast else front)
      directory := directory? (behind.drop 1) } := by
  have hfront : (front ++ "raw" :: behind).takeWhile (· != "raw") = front := by
    have hall : ∀ s ∈ front, (s != "raw") = true := fun s hs =>
      bne_iff_ne.2 fun heq => h (heq ▸ hs)
    rw [List.takeWhile_append_of_pos hall, List.takeWhile_cons_of_neg (by decide), List.append_nil]
  unfold onSite?
  dsimp only
  rw [hfront, List.drop_left]

namespace SitePlace

variable (place : SitePlace)

/-- The segments that separate the project from the branch. -/
def separator (withMinus : Bool) : List String :=
  if withMinus then ["-", "raw"] else ["raw"]

/-- The address of the properties, with or without a minus behind the project. -/
def url (withMinus : Bool) : Url where
  scheme := place.scheme
  host := place.host
  port := place.port
  segments := place.below (place.project ++ separator withMinus)

/-- The address of the site. -/
def site : String :=
  place.scheme ++ "://" ++ place.host ++ portText place.port ++ "/"

/-- The address of the repository. -/
def address : String :=
  place.site ++ Remote.path place.project

/-- The project is reached by segments that stand for themselves. -/
theorem isSegment_project : ∀ s ∈ place.project, IsSegment s :=
  fun s hs => (place.grouped s hs).isSegment

/-- The address of the properties is one of a page. -/
theorem isPage_url (withMinus : Bool) : (place.url withMinus).IsPage where
  scheme := place.web
  host := place.domain
  port := place.explicit
  rooted := List.concat_ne_nil _ _
  segments := by
    have hnames : ∀ s ∈ separator withMinus, IsName s := by
      cases withMinus <;> decide
    refine place.isSegment_below fun s hs => ?_
    rcases List.mem_append.1 hs with hs | hs
    · exact place.isSegment_project s hs
    · exact (hnames s hs).isSegment

section

variable {withMinus : Bool} (spelling : Spelling (place.url withMinus).host)
  {front behind : List String}

/-- However its address is spelled, a library is told to belong to the project in front of the first
segment `raw`. -/
theorem ofAddress?_written (h : "raw" ∉ front)
    (hsegments : place.project ++ separator withMinus ++ place.branch :: place.directories =
      front ++ "raw" :: behind) :
    Remote.ofAddress? ((place.url withMinus).written spelling) = some {
      repository := place.site ++
        Remote.path (if front.getLast? = some "-" then front.dropLast else front)
      directory := Remote.directory? (behind.drop 1) } := by
  -- The last segment is the name of the file.
  have hdropped : (place.url withMinus).segments.dropLast = front ++ "raw" :: behind :=
    List.dropLast_concat.trans hsegments
  have hhub : ¬ Remote.isHub (place.url withMinus).host := by
    have helsewhere : Remote.isHub (place.url withMinus).host = false := place.elsewhere
    rw [helsewhere]
    decide
  unfold Remote.ofAddress?
  rw [Url.parse?_written (place.isPage_url withMinus)]
  dsimp only
  rw [hdropped, if_neg hhub, Remote.onSite?_append _ h, Remote.authority_eq, ← String.append_assoc]
  rfl

/-- A project without a segment `raw` is found. -/
theorem ofAddress?_of_notMem (h : "raw" ∉ place.project) :
    Remote.ofAddress? ((place.url withMinus).written spelling) =
      some ⟨place.address, Remote.directory? place.directories⟩ := by
  cases withMinus with
  | true =>
    -- The minus stands in front of the separator and is taken off the project again.
    have hfront : "raw" ∉ place.project ++ ["-"] := by simp [h]
    have hsegments : place.project ++ separator true ++ place.branch :: place.directories =
        (place.project ++ ["-"]) ++ "raw" :: place.branch :: place.directories := by
      simp [separator]
    rw [place.ofAddress?_written spelling hfront hsegments, List.getLast?_concat, if_pos rfl,
      List.dropLast_concat]
    rfl
  | false =>
    have hlast : place.project.getLast? ≠ some "-" :=
      fun hlast => place.unmarked (List.mem_of_getLast? hlast)
    have hsegments : place.project ++ separator false ++ place.branch :: place.directories =
        place.project ++ "raw" :: place.branch :: place.directories := by
      simp [separator]
    rw [place.ofAddress?_written spelling h hsegments, if_neg hlast]
    rfl

/-- A project with a segment `raw` is taken to end in front of the first one. -/
theorem ofAddress?_of_append (hproject : place.project = front ++ "raw" :: behind)
    (h : "raw" ∉ front) :
    ∃ directories, Remote.ofAddress? ((place.url withMinus).written spelling) =
      some ⟨place.site ++ Remote.path front, Remote.directory? directories⟩ := by
  have hlast : front.getLast? ≠ some "-" := fun hlast =>
    place.unmarked (hproject ▸ List.mem_append_left _ (List.mem_of_getLast? hlast))
  have hsegments : place.project ++ separator withMinus ++ place.branch :: place.directories =
      front ++ "raw" :: (behind ++ separator withMinus ++ place.branch :: place.directories) := by
    rw [hproject]
    simp
  have hplace := place.ofAddress?_written spelling h hsegments
  rw [if_neg hlast] at hplace
  exact ⟨_, hplace⟩

end

/-- The address of the site is clean. -/
theorem isClean_site : IsClean place.site := by
  have hhost : IsClean place.host := fun c hc => .inr (.inr (place.domain.plain c hc))
  have hport : IsClean (portText place.port) := fun c hc => (Url.mem_portText hc).imp_right .inr
  have hmarks : IsClean "://" ∧ IsClean "/" := by decide
  exact (((place.isClean_scheme.append hmarks.1).append hhost).append hport).append hmarks.2

/-- The address of the repository is clean. -/
theorem isClean_address : IsClean place.address :=
  place.isClean_site.append (isClean_path place.isSegment_project)

/-- A path that lacks a segment of the project does not lead to it. -/
theorem path_ne_project {front : List String} (hfront : ∀ s ∈ front, IsSegment s) {s : String}
    (hs : s ∈ place.project) (hnot : s ∉ front) :
    Remote.path front ≠ Remote.path place.project := by
  intro heq
  have hmem : s.toList ∈ Text.pieces '/' (Remote.path front).toList := by
    rw [heq, pieces_path place.isSegment_project place.rooted]
    exact List.mem_map_of_mem hs
  by_cases hempty : front = []
  · -- The empty path has one piece, which no segment is.
    subst hempty
    have hnil : s = "" := String.toList_eq_nil_iff.1 (List.mem_singleton.1 hmem)
    exact (place.grouped s hs).nonempty hnil
  · rw [pieces_path hfront hempty] at hmem
    obtain ⟨t, ht, hst⟩ := List.mem_map.1 hmem
    exact hnot (String.toList_inj.1 hst ▸ ht)

end SitePlace

end Format.Properties

open Format.Properties

section

variable {declared : String} (hdeclared : Kind.ofDeclared? declared = some .libraryProperties)
  {contents : String} {address : Option String} {plain : Json.Members}
  (hparses : parse contents declared address = .ok plain)

include hdeclared hparses

/-- A property list that is parsed is parsed wherever it was downloaded from, and what the address
tells is all that it contributes to the fields. -/
theorem exists_of_parse :
    ∃ found, ∀ hint place, Remote.ofAddress? hint = some place →
      parse contents declared (some hint) =
        .ok (Normal.fields (ofProperties (read contents) (some place) found)) := by
  rw [parse_propertyList hdeclared] at hparses
  obtain ⟨found, hplatforms, -⟩ := Decode.map_eq_ok_iff.1 hparses
  refine ⟨found, fun hint place hplace => ?_⟩
  rw [parse_propertyList hdeclared, hplatforms, Option.bind_some, hplace]
  rfl

/-- The addresses at which the properties in a directory of a branch stand on the well-known site
all give the same fields, however they are spelled. These have the repository, and the directory
unless it is that of the repository. -/
theorem parse_hubHint (place : HubPlace) :
    ∃ fields, FoundAt fields place.address place.directories ∧
      ∀ (view : View) (spelling : Url.Spelling (place.url view).host),
        parse contents declared (some ((place.url view).written spelling)) = .ok fields := by
  obtain ⟨found, hfields⟩ := exists_of_parse hdeclared hparses
  refine ⟨_, foundAt_of_remote (read contents) found _ place.isClean_address.trim_eq
    place.isClean_path_directories.trim_eq, fun view spelling => ?_⟩
  exact hfields _ _ (place.ofAddress?_written view spelling)

end

/-- A directory whose branch has the name of a view, as has one of the directories that lead to it.
-/
def rawBranch : HubPlace where
  scheme := "https"
  user := "ada"
  repository := "sensors"
  branch := "raw"
  directories := ["lib", "blob"]
  web := .inr rfl
  named := by decide
  owned := by decide

/-- Its three addresses tell the same, also with credentials and capitals in front of the path, and
with a query and a fragment behind it. -/
theorem parse_hubHint_rawBranch :
    ∃ fields, FoundAt fields "https://github.com/ada/sensors" ["lib", "blob"] ∧
      parse "name=A" "library.properties"
        (some "https://raw.githubusercontent.com/ada/sensors/raw/lib/blob/library.properties") =
          .ok fields ∧
      parse "name=A" "library.properties"
        (some "https://ada:x@GitHub.com/ada/sensors/blob/raw/lib/blob/library.properties") =
          .ok fields ∧
      parse "name=A" "library.properties"
        (some "https://github.com/ada/sensors/raw/raw/lib/blob/library.properties?a=/b#/c") =
          .ok fields := by
  have hdeclared : Kind.ofDeclared? "library.properties" = some .libraryProperties := by
    decide +kernel
  obtain ⟨plain, hparses⟩ : ∃ plain, parse "name=A" "library.properties" none = .ok plain :=
    ⟨_, rfl⟩
  obtain ⟨fields, hfound, hviews⟩ := parse_hubHint hdeclared hparses rawBranch
  let mirrored : Url.Spelling (rawBranch.url .mirror).host :=
    ⟨none, "raw.githubusercontent.com", "", nofun, by decide +kernel, nofun⟩
  let signed : Url.Spelling (rawBranch.url .blob).host :=
    ⟨some "ada:x", "GitHub.com", "", by decide +kernel, by decide +kernel, nofun⟩
  let queried : Url.Spelling (rawBranch.url .raw).host :=
    ⟨none, "github.com", "?a=/b#/c", nofun, by decide +kernel, by decide +kernel⟩
  exact ⟨fields, hfound, hviews .mirror mirrored, hviews .blob signed, hviews .raw queried⟩

/-- A library on any other site is found where it is, however its address is spelled, exactly if no
segment of the project has the name of the one that separates it from the branch. -/
theorem parse_siteHint {declared : String}
    (hdeclared : Kind.ofDeclared? declared = some .libraryProperties) {contents : String}
    {address : Option String} {plain : Json.Members}
    (hparses : parse contents declared address = .ok plain) (place : SitePlace) {withMinus : Bool}
    (spelling : Url.Spelling (place.url withMinus).host) :
    ∃ fields, parse contents declared (some ((place.url withMinus).written spelling)) =
        .ok fields ∧
      (FoundAt fields place.address place.directories ↔ "raw" ∉ place.project) := by
  obtain ⟨found, hfields⟩ := exists_of_parse hdeclared hparses
  by_cases hraw : "raw" ∈ place.project
  · -- The project is taken to end in front of this segment.
    obtain ⟨front, behind, hproject, hfront⟩ := List.eq_append_cons_of_mem hraw
    obtain ⟨directories, hplace⟩ := place.ofAddress?_of_append spelling hproject hfront
    have hsegments : ∀ s ∈ front, Url.IsSegment s := fun s hs =>
      place.isSegment_project s (hproject ▸ List.mem_append_left _ hs)
    refine ⟨_, hfields _ _ hplace, iff_of_false (fun hfound => ?_) (not_not_intro hraw)⟩
    have heq : place.address = place.site ++ Remote.path front :=
      hfound.address_eq (get?_repository_of_remote (read contents) found directories
        (place.isClean_site.append (isClean_path hsegments)).trim_eq)
    exact place.path_ne_project hsegments hraw hfront ((String.append_right_inj _).1 heq.symm)
  · have hplace := place.ofAddress?_of_notMem spelling hraw
    exact ⟨_, hfields _ _ hplace, iff_of_true (foundAt_of_remote (read contents) found _
      place.isClean_address.trim_eq place.isClean_path_directories.trim_eq) hraw⟩

/-- A directory in a project of a group, on a port of its own. -/
def groupProject : SitePlace where
  scheme := "https"
  host := "gitlab.example.com"
  port := some 8443
  project := ["group", "proj"]
  branch := "main"
  directories := ["libs", "Sensors"]
  web := .inr rfl
  named := by decide
  domain := ⟨by decide, by decide, Url.Means.of_unmarked (by decide) (by decide), by decide⟩
  elsewhere := by decide
  explicit := by decide
  rooted := by decide
  grouped := by decide
  unmarked := by decide

/-- It is found with and without the minus behind the project. -/
theorem parse_siteHint_groupProject :
    ∃ fields others,
      parse "name=A" "library.properties"
        (some ("https://gitlab.example.com:8443/group/proj/-/raw/main/libs/Sensors/" ++
          "library.properties")) = .ok fields ∧
      FoundAt fields "https://gitlab.example.com:8443/group/proj" ["libs", "Sensors"] ∧
      parse "name=A" "library.properties"
        (some ("https://gitlab.example.com:8443/group/proj/raw/main/libs/Sensors/" ++
          "library.properties")) = .ok others ∧
      FoundAt others "https://gitlab.example.com:8443/group/proj" ["libs", "Sensors"] := by
  have hdeclared : Kind.ofDeclared? "library.properties" = some .libraryProperties := by
    decide +kernel
  obtain ⟨plain, hparses⟩ : ∃ plain, parse "name=A" "library.properties" none = .ok plain :=
    ⟨_, rfl⟩
  have hraw : "raw" ∉ groupProject.project := by decide
  have hlower : "gitlab.example.com".toLower = "gitlab.example.com" := by decide +kernel
  let spelling (withMinus : Bool) : Url.Spelling (groupProject.url withMinus).host :=
    ⟨none, "gitlab.example.com", "", nofun, hlower, nofun⟩
  obtain ⟨fields, hfields, hfound⟩ :=
    parse_siteHint hdeclared hparses groupProject (spelling true)
  obtain ⟨others, hothers, halso⟩ :=
    parse_siteHint hdeclared hparses groupProject (spelling false)
  exact ⟨fields, others, hfields, hfound.2 hraw, hothers, halso.2 hraw⟩

/-- A project behind a group with the name of the separator is lost, and a site with the name of the
well-known one in its own is taken for it. -/
theorem parse_misleadingHint :
    (∃ fields, parse "name=A" "library.properties"
        (some "https://example.org/a/raw/b/raw/c/library.properties") = .ok fields ∧
      FoundAt fields "https://example.org/a" ["raw", "c"] ∧
      ¬ FoundAt fields "https://example.org/a/raw/b" []) ∧
    ∃ fields, parse "name=A" "library.properties"
        (some "https://github.example.org/p/raw/b/library.properties") = .ok fields ∧
      FoundAt fields "https://github.com/p/raw" [] ∧
      ¬ FoundAt fields "https://github.example.org/p" [] := by
  have hdeclared : Kind.ofDeclared? "library.properties" = some .libraryProperties := by
    decide +kernel
  obtain ⟨plain, hparses⟩ : ∃ plain, parse "name=A" "library.properties" none = .ok plain :=
    ⟨_, rfl⟩
  obtain ⟨found, hfields⟩ := exists_of_parse hdeclared hparses
  have hgroup : Remote.ofAddress? "https://example.org/a/raw/b/raw/c/library.properties" =
      some ⟨"https://example.org/a", Remote.directory? ["raw", "c"]⟩ := by
    decide +kernel
  have hhost : Remote.ofAddress? "https://github.example.org/p/raw/b/library.properties" =
      some ⟨"https://github.com/p/raw", Remote.directory? []⟩ := by
    decide +kernel
  have hclean : IsClean "https://example.org/a" ∧ IsClean "https://github.com/p/raw" := by
    decide
  have hfirst := foundAt_of_remote (read "name=A") found ["raw", "c"] hclean.1.trim_eq (by decide)
  have hsecond := foundAt_of_remote (read "name=A") found [] hclean.2.trim_eq (by decide)
  exact ⟨⟨_, hfields _ _ hgroup, hfirst,
      fun h => absurd (h.address_eq hfirst.source) (by decide)⟩,
    ⟨_, hfields _ _ hhost, hsecond, fun h => absurd (h.address_eq hsecond.source) (by decide)⟩⟩

end Manifest
