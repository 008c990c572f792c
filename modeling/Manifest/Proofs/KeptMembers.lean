import Manifest.Proofs.JsonFormats

/-!
# Members that parsing keeps

What parsing a JSON document leaves of its members (`parse_leaves_members`). Platforms and packages
have their page moved, libraries their page and their publishing rules, and a module keeps only what
it knows. The fields that have a normal form are brought into it. Any other member of a platform,
package or library stays as it is, whatever its name. So do the tools that it brings and those that it
needs, which end up in the record as they were written (`Record.KeepsTools`).

Each step of parsing is told name by name: what becomes of the names that the step is about, and that
all other names are left alone.
-/

namespace Manifest

open Json (Members Pairs Value)

namespace Format

/-- The fields are those of a document whose page was moved and whose fields were normalized. -/
structure MovesPage (document fields : Members) : Prop where
  /-- Other members stay. -/
  others : ∀ name, name ∉ ["url", "homepage"] ++ Normal.normalNames →
    fields.get? name = document.get? name
  /-- The former name is gone. -/
  former : fields.get? "url" = none
  /-- The page is the one that is given, else the one under the former name, else what stood there. -/
  page : fields.get? "homepage" =
    ((document.given? "homepage").or (document.get? "url")).or (document.get? "homepage")

/-- The fields are those of a document whose page and publishing rules were moved and whose fields
were normalized. -/
structure MovesFormer (document fields : Members) : Prop where
  /-- Other members stay. -/
  others : ∀ name, name ∉ ["url", "homepage", "include", "exclude"] ++ Normal.normalNames →
    fields.get? name = document.get? name
  /-- The former names are gone. -/
  former : ∀ name ∈ ["url", "include", "exclude"], fields.get? name = none

/-- The names that the fields of a module can have. -/
def Module.names : List String :=
  ["name", "version", "description", "keywords", "homepage", "repository", "license", "platforms",
    "frameworks", "export", "examples", "authors"]

/-- What parsing a document of a kind leaves of its members. -/
inductive Leaves (document fields : Members) : Kind → Prop where
  /-- Platforms have their page moved. -/
  | platform (h : MovesPage document fields) : Leaves document fields .platformJson
  /-- So do packages. -/
  | package (h : MovesPage document fields) : Leaves document fields .packageJson
  /-- Libraries have their page and publishing rules moved. -/
  | library (h : MovesFormer document fields) : Leaves document fields .libraryJson
  /-- Modules keep what they know. -/
  | module (h : ∀ name, fields.get? name ≠ none → name ∈ Module.names) :
    Leaves document fields .moduleJson

/-! ## Platforms and packages -/

/-- Moving the page and normalizing touches the page and the fields that have a normal form. -/
theorem movesPage_rename (document : Members) :
    MovesPage document (Normal.fields (rename "url" "homepage" document)) where
  others := by
    intro name hname
    obtain ⟨hmoved, hnormal⟩ := not_or.1 (mt List.mem_append.2 hname)
    have hurl : name ≠ "url" := List.ne_of_not_mem_cons hmoved
    have hpage : name ≠ "homepage" := List.ne_of_not_mem_cons (List.not_mem_of_not_mem_cons hmoved)
    rw [Normal.get?_fields_of_not_mem hnormal, get?_rename_of_ne hurl hpage]
  former := by
    rw [Normal.get?_fields_of_not_mem (by decide), get?_rename_former (by decide)]
  page := by
    rw [Normal.get?_fields_of_not_mem (by decide), get?_rename_name (by decide)]

/-- Members that agree apart from the frameworks do so in every name without a normal form after
normalizing. -/
theorem MovesPage.congr {document x y : Members} (h : MovesPage document (Normal.fields x))
    (hsame : ∀ name, name ≠ "frameworks" → x.get? name = y.get? name) :
    MovesPage document (Normal.fields y) := by
  have hfields : ∀ name, name ∉ Normal.normalNames →
      (Normal.fields x).get? name = (Normal.fields y).get? name := by
    intro name hname
    have hne : name ≠ "frameworks" := by
      rintro rfl
      exact hname (by decide)
    rw [Normal.get?_fields_of_not_mem hname, Normal.get?_fields_of_not_mem hname, hsame name hne]
  constructor
  case others =>
    intro name hname
    rw [← hfields name fun hmem => hname (List.mem_append_right _ hmem), h.others name hname]
  case former => rw [← hfields "url" (by decide), h.former]
  case page => rw [← hfields "homepage" (by decide), h.page]

/-- Naming the frameworks touches nothing else. -/
theorem movesPage_nameFrameworks (document : Members) :
    MovesPage document
      (Normal.fields (Platform.nameFrameworks (rename "url" "homepage" document))) := by
  refine (movesPage_rename document).congr fun name hname => ?_
  rw [Platform.get?_nameFrameworks, if_neg hname]

/-! ## Libraries -/

/-- Folding former names and normalizing touches these names, the page, and the fields that have a
normal form. -/
theorem movesFormer_folded (document : Members) :
    MovesFormer document (Normal.fields (Library.folded document)) where
  others := by
    intro name hname
    obtain ⟨hmoved, hnormal⟩ := not_or.1 (mt List.mem_append.2 hname)
    simp only [List.mem_cons, List.not_mem_nil, or_false, not_or] at hmoved
    obtain ⟨hurl, hpage, hinclude, hexclude⟩ := hmoved
    have hrules : name ≠ "export" := by
      rintro rfl
      exact hnormal (by decide)
    rw [Normal.get?_fields_of_not_mem hnormal,
      Library.get?_folded_of_ne hrules hinclude hexclude, Library.get?_foldUrl_of_ne hurl hpage]
  former := by
    intro name hname
    have hformer : name = "url" ∨ name = "include" ∨ name = "exclude" := by
      simpa only [List.mem_cons, List.not_mem_nil, or_false] using hname
    rw [Normal.get?_fields, Library.get?_folded_of_former hformer, Option.bind_none]

/-! ## Modules -/

/-- A module has no fields of other names. -/
theorem Module.get?_ofDocument_of_not_mem {name : String} (h : name ∉ names) (document : Members) :
    (ofDocument document).get? name = none := by
  have hne : ∀ known ∈ names, name ≠ known := by
    rintro known hknown rfl
    exact h hknown
  have htaken : name ∉ takenOver := fun hmem => h (List.mem_append_left ["authors"] hmem)
  rw [get?_ofDocument_of_ne (hne "authors" (by decide))]
  unfold withDefaults
  rw [Members.get?_insertNew, if_neg (hne "export" (by decide)), Members.get?_insertNew,
    if_neg (hne "frameworks" (by decide)), Members.get?_insertNew,
    if_neg (hne "platforms" (by decide)), get?_withLicense_of_ne (hne "license" (by decide)),
    get?_taken, if_neg htaken]

/-- Nor does it get any when these are normalized. -/
theorem Module.mem_names_of_get? {document : Members} {name : String}
    (h : (Normal.fields (ofDocument document)).get? name ≠ none) : name ∈ names := by
  by_contra hmem
  rw [Normal.get?_fields, get?_ofDocument_of_not_mem hmem, Option.bind_none] at h
  exact h rfl

/-! ## All kinds -/

/-- What parsing leaves, for every kind of document. -/
theorem leaves_fieldsOf (document : Members) {kind : Kind} (hkind : kind ≠ .libraryProperties) :
    Leaves document (Normal.fields (fieldsOf document kind)) kind := by
  cases kind with
  | libraryProperties => exact absurd rfl hkind
  | libraryJson => exact .library (movesFormer_folded document)
  | moduleJson => exact .module fun _ => Module.mem_names_of_get?
  | platformJson => exact .platform (movesPage_nameFrameworks document)
  | packageJson => exact .package (movesPage_rename document)

/-- A document that is not a module keeps a member that no step of parsing is about. -/
theorem Leaves.get?_eq {document fields : Members} {kind : Kind} (h : Leaves document fields kind)
    (hkind : kind ≠ .moduleJson) {name : String}
    (hname : name ∉ ["url", "homepage", "include", "exclude"] ++ Normal.normalNames) :
    fields.get? name = document.get? name := by
  have hpage : name ∉ ["url", "homepage"] ++ Normal.normalNames := by
    intro hmem
    refine hname (List.mem_append.2 ((List.mem_append.1 hmem).imp_left fun hmoved => ?_))
    exact List.mem_append_left ["include", "exclude"] hmoved
  cases h with
  | platform h => exact h.others name hpage
  | package h => exact h.others name hpage
  | library h => exact h.others name hname
  | module => exact absurd rfl hkind

end Format

/-! ## The tools of a record -/

/-- The record has the tools of the document, as they are written there. -/
structure Record.KeepsTools (r : Record) (document : Members) : Prop where
  /-- It has the tools that the package brings. -/
  packages : ∀ tools, document.get? "packages" = some (.object tools) → r.packages = some tools
  /-- It has the tools that the package needs, if their version requirements are texts. -/
  engines : ∀ ranges : Pairs String, document.get? "engines" =
    some (.object (ranges.map fun (name, range) => (name, .string range))) →
      r.engines = some ranges

/-- Fields that have the tools of a document validate to a record that has them. -/
theorem keepsTools_validateLeniently {document fields : Members}
    (hpackages : fields.get? "packages" = document.get? "packages")
    (hengines : fields.get? "engines" = document.get? "engines") :
    (validateLeniently fields).record.KeepsTools document where
  packages := by
    intro tools hget
    have hread : Field.packages.read (.object tools) = .ok tools := rfl
    exact (validateLeniently_of_read_ok (by decide) (hpackages.trans hget) (by simp) hread).1
  engines := by
    intro ranges hget
    have hread : Field.engines.read
        (.object (ranges.map fun (name, range) => (name, Value.string range))) = .ok ranges :=
      Field.shaped_eq_ok_iff.2 (Decode.eachMember_map Value.string (fun _ => rfl) ranges)
    exact (validateLeniently_of_read_ok (by decide) (hengines.trans hget) (by simp) hread).1

/-- Parsing a document of a JSON format touches only the members that it has to, and the record that
loading it ends in has the tools of the document, unless this is a module. -/
theorem parse_leaves_members {declared : String} {kind : Kind}
    (hdeclared : Kind.ofDeclared? declared = some kind) (hkind : kind ≠ .libraryProperties)
    {contents : String} {document : Members} (h : Json.read contents = .ok document.toValue)
    (address : Option String) :
    (∃ fields, parse contents declared address = .ok fields ∧
      Format.Leaves document fields kind) ∧
    (kind ≠ .moduleJson → (∃ found, load contents declared address .lenient = .ok found) ∧
      ∀ mode found, load contents declared address mode = .ok found →
        found.record.KeepsTools document) := by
  have hleaves := Format.leaves_fieldsOf document hkind
  have hload := load_of_read hdeclared hkind h address
  refine ⟨⟨_, parse_of_read hdeclared hkind h address, hleaves⟩, fun hmodule => ⟨?_, ?_⟩⟩
  · rw [hload, validate_lenient]
    exact ⟨_, rfl⟩
  · intro mode found hfound
    rw [hload] at hfound
    -- Both modes end in the same record where strict loading ends in one.
    obtain rfl := eq_validateLeniently (Decode.mapError_eq_ok_iff.1 hfound)
    exact keepsTools_validateLeniently (hleaves.get?_eq hmodule (by decide))
      (hleaves.get?_eq hmodule (by decide))

/-- A platform with a page under its former name, tools of several depths, and a member that nothing
is known about. -/
def platformWithTools : String :=
  "\x7b\"homepage\": null, \"url\": \"https://x.org\", \"engines\": \x7b\"core\": \"<5\"\x7d, " ++
    "\"packages\": \x7b\"gcc\": [\x7b\"since\": 20\x7d, -1, null]\x7d, \"include\": true\x7d"

/-- The tools that it brings. -/
def platformTools : Pairs Value :=
  [("gcc", .array [.object [("since", .number (.integer 20))], .number (.integer (-1)), .null])]

/-- The members of this platform. -/
def platformMembers : Members :=
  Members.ofPairs [("homepage", .null), ("url", .string "https://x.org"),
    ("engines", .object [("core", .string "<5")]), ("packages", .object platformTools),
    ("include", .bool true)]

set_option maxRecDepth 8000 in
/-- The page is moved, and all else stays as it is. -/
theorem parse_leaves_members_platformWithTools :
    (∃ fields, parse platformWithTools "platform.json" none = .ok fields ∧
      fields.get? "homepage" = some (.string "https://x.org") ∧ fields.get? "url" = none ∧
      fields.get? "include" = some (.bool true)) ∧
    ∃ found, load platformWithTools "platform.json" none .lenient = .ok found ∧
      found.record.engines = some [("core", "<5")] ∧ found.record.packages = some platformTools := by
  have hdeclared : Kind.ofDeclared? "platform.json" = some .platformJson := by decide +kernel
  have hread : Json.read platformWithTools = .ok platformMembers.toValue := by cbv
  obtain ⟨⟨fields, hparse, hleaves⟩, hload⟩ :=
    parse_leaves_members hdeclared (by decide) hread none
  obtain ⟨⟨found, hfound⟩, hkeeps⟩ := hload (by decide)
  have htools := hkeeps .lenient found hfound
  refine ⟨⟨fields, hparse, ?_⟩, found, hfound, htools.engines [("core", "<5")] rfl,
    htools.packages platformTools rfl⟩
  cases hleaves with
  | platform h =>
    refine ⟨?_, h.former, ?_⟩
    · rw [h.page]
      rfl
    · rw [h.others "include" (by decide)]
      rfl

end Manifest
