import Manifest.Proofs.JsonFormats
import Manifest.Proofs.KeptContent

/-!
# Authors and repositories of loaded records

An author or a repository that is written as an object or as a text is normalized before it is read,
and so canonical: without blanks around its texts, without a spelled-out at sign in an e-mail
address, and with the type of a git remote. One that is written as the sequence of its fields is
read as well, but normalizing leaves it as it is. So the record that loading ends in is canonical
exactly if the parts of it that were written as sequences are (`canonical_of_load_iff`).

That a part in normal form is canonical when it is read needs no look at the members of the object:
reading what normalizing gives is normalizing what was read (`Author.ofMembers_authorMembers`), and
normalizing again changes nothing, so the part that was read is its own normal form.
-/

namespace Manifest

open Json (Members Pairs Value)
open Text (IsProper isBlankText trim)

/-! ## What the parts satisfy -/

/-- What an author satisfies. -/
structure Author.Canonical (author : Author) : Prop where
  /-- The name is not empty and has no blanks at its ends. -/
  name : IsProper author.name
  /-- The page has no blanks at its ends. -/
  url : ∀ u, author.url = some u → trim u = u
  /-- The e-mail address has no blanks at its ends, and no word "at" between blanks in it. -/
  email : ∀ e, author.email = some e → trim e = e ∧ ¬ Normal.HasAtWord e.toList

/-- What a repository satisfies. -/
structure Repository.Canonical (source : Repository) : Prop where
  /-- The address has no blanks at its ends. -/
  url : trim source.url = source.url
  /-- A git remote has a type. -/
  type : Normal.isGitRemote source.url → source.type.isSome

/-- What the authors, the repository and the page of a record satisfy. -/
structure Record.Canonical (r : Record) : Prop where
  /-- Every author is canonical. -/
  authors : ∀ people, r.authors = some people → ∀ a ∈ people, a.Canonical
  /-- The repository is canonical. -/
  repository : ∀ source, r.repository = some source → source.Canonical
  /-- The page is not the address of the repository, blanks at its ends aside. -/
  homepage_ne : ∀ page source, r.homepage = some page → r.repository = some source →
    page ≠ trim source.url

/-- The parts of a record that its fields give as sequences are canonical. -/
structure Record.SequencesCanonical (r : Record) (fields : Members) : Prop where
  /-- Every author that is written as the sequence of its fields is canonical. -/
  authors : ∀ people, r.authors = some people → ∀ items parts a,
    fields.get? "authors" = some (.array items) → .array parts ∈ items →
      Author.ofItems parts = .ok a → a.Canonical
  /-- A repository that is written as the sequence of its fields is canonical. -/
  repository : ∀ source parts, r.repository = some source →
    fields.get? "repository" = some (.array parts) → source.Canonical

/-- Fields without such sequences have canonical ones. -/
theorem Record.sequencesCanonical_of_none {r : Record} {fields : Members}
    (hauthors : ∀ items parts, fields.get? "authors" = some (.array items) → .array parts ∉ items)
    (hrepository : ∀ parts, fields.get? "repository" ≠ some (.array parts)) :
    r.SequencesCanonical fields :=
  ⟨fun _ _ items parts _ hget hmem => absurd hmem (hauthors items parts hget),
    fun _ parts _ hget => absurd hget (hrepository parts)⟩

/-- An author in normal form whose name is not blank is canonical. -/
theorem Author.canonical_of_normal {author : Author} (h : author.normal = author)
    (hname : ¬ isBlankText author.name) : author.Canonical := by
  have htrim : trim author.name = author.name := congrArg Author.name h
  have hurl : author.url.map trim = author.url := congrArg Author.url h
  have hemail : author.email.map Normal.email = author.email := congrArg Author.email h
  refine ⟨⟨fun hempty => hname ?_, htrim⟩, fun u hu => ?_, fun e he => ?_⟩
  · exact Text.trim_eq_empty_iff.1 (htrim.trans hempty)
  · rw [hu] at hurl
    exact Option.some.inj hurl
  · rw [he] at hemail
    have hself : Normal.email e = e := Option.some.inj hemail
    rw [← hself]
    exact ⟨Normal.trim_email e, Normal.not_hasAtWord_email e⟩

/-- A repository in normal form is canonical. -/
theorem Repository.canonical_of_normal {source : Repository} (h : source.normal = source) :
    source.Canonical := by
  have htype : (if Normal.isGitRemote source.url ∧ source.type = none then some "git"
      else source.type) = source.type := congrArg Repository.type h
  refine ⟨congrArg Repository.url h, fun hgit => ?_⟩
  cases hsource : source.type with
  | some t => rfl
  | none =>
    rw [hsource, if_pos ⟨hgit, rfl⟩] at htype
    exact absurd htype (by simp)

/-! ## Reading parts in normal form -/

/-- An author that is read from an object in normal form is in normal form. -/
theorem Author.normal_of_decode {members : Pairs Value} {author : Author}
    (hnormal : Normal.author (.object members) = some (.object members))
    (h : decode (.object members) = .ok author) : author.normal = author := by
  have hsame : Normal.authorMembers members = members := by
    simpa [Normal.author_object] using hnormal
  have hread := ofMembers_authorMembers h
  rw [hsame] at hread
  exact Except.ok.inj (hread.symm.trans h)

/-- A repository that is read from an object in normal form is in normal form. -/
theorem Repository.normal_of_decode {members : Pairs Value} {source : Repository}
    (hnormal : Normal.repository (.object members) = some (.object members))
    (h : decode (.object members) = .ok source) : source.normal = source := by
  have hsame : Normal.repositoryMembers members = members := by
    simpa [Normal.repository_object] using hnormal
  have hread := ofMembers_repositoryMembers h
  rw [hsame] at hread
  exact Except.ok.inj (hread.symm.trans h)

/-- The items of authors in normal form are in normal form. -/
theorem Normal.author_of_mem_authors {items : List Value}
    (h : authors (.array items) = some (.array items)) {item : Value} (hitem : item ∈ items) :
    author item = some item := by
  simp only [authors, authors.listed] at h
  split at h
  case isTrue => exact absurd h (by simp)
  case isFalse =>
    -- Every item is what some item becomes, which normalizing leaves alone.
    have hfound : items.filterMap author = items := Value.array.inj (Option.some.inj h)
    rw [← hfound] at hitem
    obtain ⟨x, -, hx⟩ := List.mem_filterMap.1 hitem
    exact author_of_author hx

/-! ## Validating fields in normal form -/

section

variable {raw : Members}

/-- What the authors of the record are read from is in normal form. -/
theorem exists_authors_of_fields {people : List Author}
    (h : (validateLeniently (Normal.fields raw)).record.authors = some people) :
    ∃ items, (Normal.fields raw).get? "authors" = some (.array items) ∧
      (∀ item ∈ items, Normal.author item = some item) ∧
      List.Forall₂ (fun item a => Author.decode item = .ok a) items people ∧
      ∀ a ∈ people, ¬ isBlankText a.name := by
  obtain ⟨w, hget, hread⟩ := exists_of_get (f := .authors) h
  obtain ⟨⟨items, rfl, hitems⟩, -, hnames⟩ := Field.authorList_eq_ok_iff.1 hread
  have hnormal := Normal.normalForm_of_get?_fields hget (by decide)
  exact ⟨items, hget, fun _ => Normal.author_of_mem_authors hnormal, hitems, hnames⟩

/-- What the repository of the record is read from is in normal form. -/
theorem exists_repository_of_fields {source : Repository}
    (h : (validateLeniently (Normal.fields raw)).record.repository = some source) :
    ∃ w, (Normal.fields raw).get? "repository" = some w ∧ Normal.repository w = some w ∧
      Repository.decode w = .ok source := by
  obtain ⟨w, hget, hread⟩ := exists_of_get (f := .repository) h
  obtain ⟨hdecode, -⟩ := Field.sourceRepository_eq_ok_iff.1 hread
  exact ⟨w, hget, Normal.normalForm_of_get?_fields hget (by decide), hdecode⟩

/-- Every author is canonical if those are that were written as sequences. -/
theorem canonical_author_of_fields {people : List Author}
    (hpeople : (validateLeniently (Normal.fields raw)).record.authors = some people)
    (hsequences : (validateLeniently (Normal.fields raw)).record.SequencesCanonical
      (Normal.fields raw)) {a : Author} (ha : a ∈ people) : a.Canonical := by
  obtain ⟨items, hget, hnormal, hitems, hnames⟩ := exists_authors_of_fields hpeople
  obtain ⟨item, hitem, hdecode⟩ := (Decode.mem_each_iff hitems).1 ha
  -- What is left after normalizing are objects and sequences, of which only objects changed.
  cases item with
  | object members =>
    exact Author.canonical_of_normal (Author.normal_of_decode (hnormal _ hitem) hdecode)
      (hnames a ha)
  | array parts => exact hsequences.authors people hpeople items parts a hget hitem hdecode
  | _ => exact absurd hdecode nofun

/-- The repository is canonical if it is where it was written as a sequence. -/
theorem canonical_repository_of_fields {source : Repository}
    (hsource : (validateLeniently (Normal.fields raw)).record.repository = some source)
    (hsequences : (validateLeniently (Normal.fields raw)).record.SequencesCanonical
      (Normal.fields raw)) : source.Canonical := by
  obtain ⟨w, hget, hnormal, hdecode⟩ := exists_repository_of_fields hsource
  cases w with
  | object members =>
    exact Repository.canonical_of_normal (Repository.normal_of_decode hnormal hdecode)
  | array parts => exact hsequences.repository source parts hsource hget
  | _ => exact absurd hdecode nofun

/-- Fields in normal form validate to a canonical record exactly if the parts that are written as
sequences are canonical. -/
theorem canonical_of_fields_iff (raw : Members) :
    (validateLeniently (Normal.fields raw)).record.Canonical ↔
      (validateLeniently (Normal.fields raw)).record.SequencesCanonical (Normal.fields raw) := by
  constructor
  · intro h
    refine ⟨fun people hpeople items parts a hget hitem hread => ?_,
      fun source parts hsource _ => h.repository source hsource⟩
    obtain ⟨others, hothers, -, hitems, -⟩ := exists_authors_of_fields hpeople
    obtain rfl := Value.array.inj (Option.some.inj (hothers.symm.trans hget))
    exact h.authors people hpeople a ((Decode.mem_each_iff hitems).2 ⟨_, hitem, hread⟩)
  · intro h
    refine ⟨fun people hpeople a ha => canonical_author_of_fields hpeople h ha,
      fun source hsource => canonical_repository_of_fields hsource h,
      fun page source hpage hsource => ?_⟩
    -- The page is not the address as it stands, and this has no blanks at its ends.
    rw [(canonical_repository_of_fields hsource h).url]
    rw [validateLeniently_eq] at hpage hsource
    exact Validation.homepage_ne_of_dropRepeatedHomepage hpage hsource

end

/-- The record that loading ends in is canonical exactly if those of its authors that are written as
sequences of their fields are, and its repository if it is written so. -/
theorem canonical_of_load_iff {contents declared : String} {address : Option String}
    {mode : Mode} {found : Validated} (h : load contents declared address mode = .ok found) :
    ∃ fields, parse contents declared address = .ok fields ∧
      (found.record.Canonical ↔ found.record.SequencesCanonical fields) := by
  obtain ⟨raw, hparse, rfl⟩ := exists_fields_of_load h
  exact ⟨Normal.fields raw, hparse, canonical_of_fields_iff raw⟩

/-- A library whose author is written as an object. -/
def libraryByObject : String :=
  "\x7b\"name\": \"P\", \"version\": \"1.0.0\", \"description\": \"D\", \"keywords\": [\"k\"], " ++
    "\"authors\": [\x7b\"name\": \" Ada \", \"email\": \"ada at x.org\"\x7d]\x7d"

/-- The same library, but for the author, who is written as a sequence. -/
def libraryBySequence : String :=
  "\x7b\"name\": \"P\", \"version\": \"1.0.0\", \"description\": \"D\", \"keywords\": [\"k\"], " ++
    "\"authors\": [[\" Ada \", \"ada at x.org\"]]\x7d"

/-- The members of a library of one author. -/
def membersBy (author : Value) : Members :=
  Members.ofPairs
    [("name", .string "P"), ("version", .string "1.0.0"), ("description", .string "D"),
      ("keywords", Value.strings ["k"]), ("authors", .array [author])]

/-- The record of a library of one author. -/
def recordBy (author : Author) : Record :=
  { name := some "P"
    version := some "1.0.0"
    description := some "D"
    keywords := some ⟨["k"]⟩
    authors := some [author] }

set_option maxRecDepth 8000 in
/-- An author who is written as an object is brought into the usual form. -/
theorem canonical_of_load_libraryByObject :
    ∃ found, load libraryByObject "library-json" none .lenient = .ok found ∧
      found.record = recordBy ⟨"Ada", some "ada@x.org", none, false⟩ ∧ found.record.Canonical := by
  have hdeclared : Kind.ofDeclared? "library-json" = some .libraryJson := by decide +kernel
  have hread : Json.read libraryByObject = .ok (membersBy
      (.object [("email", .string "ada at x.org"), ("name", .string " Ada ")])).toValue := by
    cbv
  have hload : load libraryByObject "library-json" none .lenient =
      .ok ⟨recordBy ⟨"Ada", some "ada@x.org", none, false⟩, []⟩ := by
    rw [load_of_read hdeclared (by decide) hread]
    with_unfolding_all rfl
  have hparts : (parse libraryByObject "library-json" none).map
      (fun fields => (fields.get? "authors", fields.get? "repository")) =
        .ok (some (.array [.object [("email", .string "ada@x.org"), ("maintainer", .bool false),
          ("name", .string "Ada")]]), none) := by
    rw [parse_of_read hdeclared (by decide) hread]
    with_unfolding_all rfl
  obtain ⟨fields, hparse, hiff⟩ := canonical_of_load_iff hload
  rw [hparse] at hparts
  obtain ⟨hauthors, hrepository⟩ := Prod.mk.inj (Except.ok.inj hparts)
  refine ⟨_, hload, rfl, hiff.2 (Record.sequencesCanonical_of_none ?_ ?_)⟩
  · intro items parts hget hmem
    obtain rfl := Value.array.inj (Option.some.inj (hauthors.symm.trans hget))
    exact absurd hmem (by simp)
  · intro parts
    rw [hrepository]
    simp

/-- An author who is written as a sequence keeps the blanks around the name and the word "at" in the
e-mail address, so the record is not canonical. -/
theorem not_canonical_of_load_libraryBySequence :
    ∃ found, load libraryBySequence "library-json" none .lenient = .ok found ∧
      found.record = recordBy ⟨" Ada ", some "ada at x.org", none, false⟩ ∧
      ¬ found.record.Canonical := by
  have hdeclared : Kind.ofDeclared? "library-json" = some .libraryJson := by decide +kernel
  have hread : Json.read libraryBySequence = .ok
      (membersBy (Value.strings [" Ada ", "ada at x.org"])).toValue := by
    cbv
  have hload : load libraryBySequence "library-json" none .lenient =
      .ok ⟨recordBy ⟨" Ada ", some "ada at x.org", none, false⟩, []⟩ := by
    rw [load_of_read hdeclared (by decide) hread]
    rfl
  refine ⟨_, hload, rfl, fun h => ?_⟩
  have hname := (h.authors _ rfl _ List.mem_cons_self).name
  have hblanks : ¬ IsProper " Ada " := by decide +kernel
  exact hblanks hname

end Manifest
