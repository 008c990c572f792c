import Manifest.Proofs.PropertyFields

/-!
# Maintainers among authors

The maintainers of a property list are merged into its authors one after the other, and each of them
is looked for among those who were added before. What this ends in can be told at once: every author
has what the maintainers of the same name give (`joined`), and the authors are those who are named
as such and, behind them, the maintainers of all other names, the first of each (`newcomers`).

Merging one maintainer either joins it to the authors of its name (`addMaintainer_of_known`) or adds
it behind them (`addMaintainer_of_new`). All of them follow by induction (`foldl_addMaintainer`):
what a maintainer gives to an author and what the rest give to the outcome is what all of them give
(`joined_cons`), and nobody who is added later has a name that was there before.
-/

namespace Manifest

open Json (Members Pairs Value)

namespace Format.Properties

open Manifest.Normal (Contact)

/-! ## Names up to letter case -/

theorem sameName_iff {x y : String} : sameName x y ↔ Text.lower x = Text.lower y :=
  beq_iff_eq

theorem sameName_self (x : String) : sameName x x :=
  sameName_iff.2 rfl

theorem sameName_comm (x y : String) : sameName x y = sameName y x :=
  Bool.eq_iff_iff.2 (sameName_iff.trans (eq_comm.trans sameName_iff.symm))

/-- Of two texts that are the same name, each is the same name as a third if the other one is. -/
theorem sameName_congr {x y : String} (h : sameName x y) (z : String) :
    sameName z x = sameName z y :=
  Bool.eq_iff_iff.2 (by rw [sameName_iff, sameName_iff, sameName_iff.1 h])

/-! ## What maintainers give -/

/-- The contact as an author who is not known to be a maintainer. -/
def writer (contact : Contact) : Author :=
  ⟨contact.1, contact.2, none, false⟩

/-- The maintainers of a name. -/
def namesakes (maintainers : List Contact) (name : String) : List Contact :=
  maintainers.filter fun contact => sameName name contact.1

/-- The author with what the maintainers of the same name give. If there is one, the author is a
maintainer. An author without an address has the first that one of them has. -/
def joined (maintainers : List Contact) (a : Author) : Author :=
  { a with
    email := a.email.or ((namesakes maintainers a.name).findSome? (·.2))
    maintainer := a.maintainer || !(namesakes maintainers a.name).isEmpty }

/-- The maintainers of other names than those given, the first of each name in the order in which
they appear. -/
def newcomers (names : List String) (maintainers : List Contact) : List Contact :=
  (maintainers.filter fun contact => !names.any fun name => sameName name contact.1).eraseDupsBy
    fun x y => sameName x.1 y.1

variable {names : List String} {people : List Author} {contact : Contact}
  {maintainers rest : List Contact}

/-- Nobody gives anything to an author whose name no maintainer has. -/
theorem joined_of_none {a : Author}
    (h : ∀ contact ∈ maintainers, sameName a.name contact.1 = false) :
    joined maintainers a = a := by
  have hnone : namesakes maintainers a.name = [] :=
    List.filter_eq_nil_iff.2 fun contact hcontact => by simp [h contact hcontact]
  unfold joined
  rw [hnone]
  simp

/-- So authors stay as they are among maintainers of other names. -/
theorem map_joined_of_none
    (h : ∀ a ∈ people, ∀ contact ∈ maintainers, sameName a.name contact.1 = false) :
    people.map (joined maintainers) = people := by
  conv_rhs => rw [← List.map_id people]
  exact List.map_congr_left fun a ha => joined_of_none (h a ha)

/-- What all maintainers give is what the first gives and then the rest. -/
theorem joined_cons (contact : Contact) (rest : List Contact) (a : Author) :
    joined (contact :: rest) a = joined rest (joined [contact] a) := by
  by_cases h : sameName a.name contact.1
  · have hfirst : namesakes [contact] a.name = [contact] := List.filter_cons_of_pos h
    have hall : namesakes (contact :: rest) a.name = contact :: namesakes rest a.name :=
      List.filter_cons_of_pos h
    unfold joined
    rw [hfirst, hall]
    cases a.email <;> cases hown : contact.2 <;> simp [hown]
  · have hfirst : joined [contact] a = a :=
      joined_of_none (List.forall_mem_singleton.2 (Bool.eq_false_iff.2 h))
    have hall : namesakes (contact :: rest) a.name = namesakes rest a.name :=
      List.filter_cons_of_neg h
    rw [hfirst, joined, joined, hall]

/-- A maintainer whose name is there is no newcomer. -/
theorem newcomers_of_known (h : ∃ name ∈ names, sameName name contact.1) (rest : List Contact) :
    newcomers names (contact :: rest) = newcomers names rest := by
  have hknown : (names.any fun name => sameName name contact.1) = true := List.any_eq_true.2 h
  unfold newcomers
  rw [List.filter_cons_of_neg (by simp [hknown])]

/-- Any other maintainer is one, and then the name is there. -/
theorem newcomers_of_new (h : ∀ name ∈ names, sameName name contact.1 = false)
    (rest : List Contact) :
    newcomers names (contact :: rest) = contact :: newcomers (names ++ [contact.1]) rest := by
  have hnew : (names.any fun name => sameName name contact.1) = false :=
    List.any_eq_false.2 fun name hname => by simp [h name hname]
  unfold newcomers
  rw [List.filter_cons_of_pos (by simp [hnew]), List.eraseDupsBy_cons, List.filter_filter]
  congr 2
  refine List.filter_congr fun other _ => ?_
  simp [Bool.and_comm, sameName_comm other.1]

/-- No newcomer has a name that is there. -/
theorem sameName_of_mem_newcomers (h : contact ∈ newcomers names maintainers) {name : String}
    (hname : name ∈ names) : sameName name contact.1 = false := by
  induction maintainers generalizing names with
  | nil => exact absurd h List.not_mem_nil
  | cons first rest ih =>
    by_cases hfirst : ∃ name ∈ names, sameName name first.1
    · rw [newcomers_of_known hfirst] at h
      exact ih h hname
    · simp only [not_exists, not_and, Bool.not_eq_true] at hfirst
      rw [newcomers_of_new hfirst] at h
      rcases List.mem_cons.1 h with rfl | hlater
      · exact hfirst name hname
      · exact ih hlater (List.mem_append_left _ hname)

/-- A maintainer gives nothing to those who are newcomers when the name is there. -/
theorem joined_writer_of_mem_newcomers {newcomer : Contact} (h : newcomer ∈ newcomers names rest)
    (hname : ∃ name ∈ names, sameName name contact.1) :
    joined [contact] (writer newcomer) = writer newcomer := by
  obtain ⟨name, hmem, hsame⟩ := hname
  refine joined_of_none (List.forall_mem_singleton.2 ?_)
  rw [← sameName_congr hsame, sameName_comm]
  exact sameName_of_mem_newcomers h hmem

/-! ## Merging -/

/-- A maintainer whose name is there is merged into the authors of this name. -/
theorem addMaintainer_of_known (h : ∃ name ∈ people.map (·.name), sameName name contact.1) :
    addMaintainer people contact = people.map (joined [contact]) := by
  obtain ⟨name, hname, hsame⟩ := h
  obtain ⟨a, ha, rfl⟩ := List.mem_map.1 hname
  unfold addMaintainer
  rw [if_pos (List.any_eq_true.2 ⟨a, ha, hsame⟩)]
  refine List.map_congr_left fun b _ => ?_
  split_ifs with hb
  · have hfirst : namesakes [contact] b.name = [contact] := List.filter_cons_of_pos hb
    unfold joined
    rw [hfirst]
    simp
  · exact (joined_of_none (List.forall_mem_singleton.2 (Bool.eq_false_iff.2 hb))).symm

/-- Any other maintainer is merged as one more author. -/
theorem addMaintainer_of_new
    (h : ∀ name ∈ people.map (·.name), sameName name contact.1 = false) :
    addMaintainer people contact = (people ++ [writer contact]).map (joined [contact]) := by
  have hother : ∀ a ∈ people, sameName a.name contact.1 = false := fun a ha =>
    h a.name (List.mem_map_of_mem ha)
  have hkept : people.map (joined [contact]) = people :=
    map_joined_of_none fun a ha => List.forall_mem_singleton.2 (hother a ha)
  have hadded : joined [contact] (writer contact) = ⟨contact.1, contact.2, none, true⟩ := by
    have hself : namesakes [contact] contact.1 = [contact] :=
      List.filter_cons_of_pos (sameName_self contact.1)
    unfold joined
    rw [writer, hself]
    cases hown : contact.2 <;> simp [hown]
  have hnone : (people.any fun a => sameName a.name contact.1) = false :=
    List.any_eq_false.2 fun a ha => by simp [hother a ha]
  unfold addMaintainer
  rw [hnone, List.map_append, hkept, List.map_singleton, hadded]
  rfl

/-- What a maintainer gives to the authors who are there and what the rest give then is what all of
them give, also to those who become authors later. -/
theorem map_joined_cons (front : List Author) (h : ∃ name ∈ names, sameName name contact.1) :
    (front.map (joined [contact]) ++ (newcomers names rest).map writer).map (joined rest) =
      (front ++ (newcomers names rest).map writer).map (joined (contact :: rest)) := by
  have hlater : (newcomers names rest).map writer =
      ((newcomers names rest).map writer).map (joined [contact]) := by
    rw [List.map_map]
    exact List.map_congr_left fun _ hmem => (joined_writer_of_mem_newcomers hmem h).symm
  have hstep : joined (contact :: rest) = joined rest ∘ joined [contact] :=
    funext (joined_cons contact rest)
  conv_lhs => rw [hlater]
  rw [← List.map_append, List.map_map, hstep]

/-- Merging all maintainers gives to every author what those of the same name give, and adds the
newcomers as authors to whom this is given as well. -/
theorem foldl_addMaintainer (maintainers : List Contact) (people : List Author) :
    maintainers.foldl addMaintainer people =
      (people ++ (newcomers (people.map (·.name)) maintainers).map writer).map
        (joined maintainers) := by
  induction maintainers generalizing people with
  | nil =>
    have hkept : people.map (joined []) = people :=
      map_joined_of_none fun _ _ _ h => absurd h List.not_mem_nil
    have hnobody : newcomers (people.map (·.name)) [] = [] := rfl
    rw [hnobody, List.map_nil, List.append_nil, hkept, List.foldl_nil]
  | cons contact rest ih =>
    have hnames : ∀ front : List Author,
        (front.map (joined [contact])).map (·.name) = front.map (·.name) := fun front =>
      List.map_map
    rw [List.foldl_cons]
    by_cases hknown : ∃ name ∈ people.map (·.name), sameName name contact.1
    · rw [addMaintainer_of_known hknown, ih, hnames, newcomers_of_known hknown,
        map_joined_cons people hknown]
    · simp only [not_exists, not_and, Bool.not_eq_true] at hknown
      have hthere : ∃ name ∈ people.map (·.name) ++ [contact.1], sameName name contact.1 :=
        ⟨contact.1, List.mem_append_right _ (List.mem_singleton_self _), sameName_self _⟩
      have hadded : (people ++ [writer contact]).map (·.name) =
          people.map (·.name) ++ [contact.1] := by
        rw [List.map_append, List.map_singleton, writer]
      rw [addMaintainer_of_new hknown, ih, hnames, hadded, newcomers_of_new hknown,
        map_joined_cons _ hthere, List.map_cons, List.append_assoc, List.singleton_append]

/-! ## Authors of property lists -/

variable (properties : Pairs String) (remote : Option Remote) (platforms : Value)

/-- The authors of properties are the contacts that are named as authors and behind them the
newcomers among the maintainers, each with what the maintainers of the same name give. -/
theorem authors_eq :
    authors properties =
      ((contacts properties "author" ++ newcomers ((contacts properties "author").map (·.1))
        (contacts properties "maintainer")).map writer).map
          (joined (contacts properties "maintainer")) := by
  have hwriters : writers properties = (contacts properties "author").map writer := rfl
  have hnames : (writers properties).map (·.name) = (contacts properties "author").map (·.1) := by
    rw [hwriters, List.map_map]
    rfl
  rw [authors, foldl_addMaintainer, hnames, hwriters, ← List.map_append]

/-- No author of properties has a page. -/
theorem url_of_mem_authors {a : Author} (h : a ∈ authors properties) : a.url = none := by
  rw [authors_eq] at h
  obtain ⟨b, hb, rfl⟩ := List.mem_map.1 h
  obtain ⟨contact, -, rfl⟩ := List.mem_map.1 hb
  rfl

/-- There are no authors only if nobody is named. -/
theorem authors_eq_nil_iff :
    authors properties = [] ↔
      contacts properties "author" = [] ∧ contacts properties "maintainer" = [] := by
  rw [authors_eq, List.map_eq_nil_iff, List.map_eq_nil_iff, List.append_eq_nil_iff]
  refine and_congr_right fun hnobody => ?_
  rw [hnobody]
  cases contacts properties "maintainer" with
  | nil => exact iff_of_true rfl rfl
  | cons first rest =>
    have hfirst : newcomers [] (first :: rest) = first :: newcomers [first.1] rest :=
      newcomers_of_new (List.forall_mem_nil _) rest
    simp [hfirst]

/-- Normalizing leaves the value of the authors as it is. -/
theorem get?_authors_fields :
    (Normal.fields (ofProperties properties remote platforms)).get? "authors" =
      authorsValue? properties := by
  have hget : (ofProperties properties remote platforms).get? "authors" =
      authorsValue? properties := get?_ofProperties properties remote platforms .authors
  rw [Normal.get?_fields, hget]
  unfold authorsValue?
  split_ifs with hempty
  · rfl
  · exact Normal.authors_of_named (by simpa using hempty) (named_authors properties)

/-- Validating reads the authors that the value was made of. -/
theorem authors_validateLeniently :
    (validateLeniently (Normal.fields (ofProperties properties remote platforms))).record.authors =
      if authors properties = [] then none else some (authors properties) := by
  have hget := get?_authors_fields properties remote platforms
  have hcontent := get_validateLeniently_of_ne
    (Normal.fields (ofProperties properties remote platforms)) (f := .authors) (by decide)
  refine hcontent.trans ?_
  unfold authorsValue? at hget
  simp only [List.isEmpty_iff] at hget
  split_ifs at hget ⊢ with hempty
  · have houtcome := Validation.outcome_of_unset (f := .authors) (.inl hget)
    rw [Validation.content?, houtcome]
    rfl
  · have hread := Field.authorList_of_named hempty (named_authors properties)
    have hpages : (authors properties).map (fun a => { a with url := none }) =
        authors properties := by
      conv_rhs => rw [← List.map_id (authors properties)]
      refine List.map_congr_left fun a ha => ?_
      have hurl := url_of_mem_authors properties ha
      cases a
      simp_all
    rw [Validation.content?_eq_some_iff, Validation.outcome_of_some (f := .authors) hget (by simp)]
    rw [hpages] at hread
    exact congrArg (Except.map some) hread

/-- The authors of any properties are the contacts that are named as authors, in order, and behind
them the newcomers among the maintainers, each with what the maintainers of the same name give. The
field is absent exactly if nobody is named. Normalizing changes nothing about it, and validation
ends in these authors, whatever the mode. -/
theorem authors_merged :
    authors properties =
        ((contacts properties "author" ++ newcomers ((contacts properties "author").map (·.1))
          (contacts properties "maintainer")).map writer).map
            (joined (contacts properties "maintainer")) ∧
      (authorsValue? properties = none ↔
        contacts properties "author" = [] ∧ contacts properties "maintainer" = []) ∧
      (Normal.fields (ofProperties properties remote platforms)).get? "authors" =
        authorsValue? properties ∧
      (validateLeniently (Normal.fields (ofProperties properties remote platforms))).record.authors =
        (if authors properties = [] then none else some (authors properties)) ∧
      ∀ mode found, validate (Normal.fields (ofProperties properties remote platforms)) mode =
          .ok found →
        found.record.authors =
          if authors properties = [] then none else some (authors properties) := by
  have hvalidated := authors_validateLeniently properties remote platforms
  refine ⟨authors_eq properties, ?_, get?_authors_fields properties remote platforms, hvalidated,
    fun mode found hfound => ?_⟩
  · rw [← authors_eq_nil_iff, authorsValue?]
    simp
  · rw [eq_validateLeniently hfound, hvalidated]

/-- Properties with an author who is named twice, with maintainers who are named twice, and with
addresses that are missing in some of these places. -/
def sharedProperties : Pairs String :=
  [("author", "Ada <ada@x.org>, Bob, ada, None"),
   ("maintainer", "BOB, Dee, bob <bob at x.org>, ADA (a@z.org), dee <dee@x.org>")]

/-- Bob and the second Ada get the addresses of maintainers, and Dee is added once. -/
theorem authors_merged_sharedProperties :
    (∃ found, validate (Normal.fields (ofProperties sharedProperties none (Value.strings ["*"])))
      .lenient = .ok found) ∧
    ∀ found, validate (Normal.fields (ofProperties sharedProperties none (Value.strings ["*"])))
        .lenient = .ok found →
      found.record.authors = some
        [⟨"Ada", some "ada@x.org", none, true⟩, ⟨"Bob", some "bob@x.org", none, true⟩,
         ⟨"ada", some "a@z.org", none, true⟩, ⟨"Dee", some "dee@x.org", none, true⟩] := by
  have hnamed : contacts sharedProperties "author" =
      [("Ada", some "ada@x.org"), ("Bob", none), ("ada", none)] := by
    decide +kernel
  have hmaintainers : contacts sharedProperties "maintainer" =
      [("BOB", none), ("Dee", none), ("bob", some "bob@x.org"), ("ADA", some "a@z.org"),
       ("dee", some "dee@x.org")] := by
    decide +kernel
  obtain ⟨hauthors, -, -, -, hfound⟩ :=
    authors_merged sharedProperties none (Value.strings ["*"])
  refine ⟨⟨_, validate_lenient _⟩, fun found h => ?_⟩
  rw [hfound .lenient found h, hauthors, hnamed, hmaintainers]
  decide +kernel

end Format.Properties

end Manifest
