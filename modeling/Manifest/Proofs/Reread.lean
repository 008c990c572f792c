import Manifest.Proofs.SoundRecord
import Manifest.Proofs.WrittenValues

/-!
# Reading a written record back

A record is written as an object, and an object that is read has its members by rising name. What
validation makes of the members that a record was written as is the record itself: each reader
accepts what was written of its own content (`Field.read_arranged`), and what is missing is what the
record does not have (`validateLeniently_reread`). The members that the record was made of have their
objects in order, as everything that is read has. For a record that is loaded this does not need to
be assumed (`validateLeniently_reread_of_load`).

What a record is written as is `Record.toValue`, and this is read back with all its objects in order
(`Value.arranged`), whose members are `Record.reread`. So it is, too, where the text of the record is
read (`Json.read_pretty`), as long as the packages are of a kind that texts can be read back to
(`Record.readable_toValue`).
-/

namespace Manifest

open Json (Members Pairs Value)
open Text (IsProper isBlankText lower trim)

/-! ## Lists of parts -/

namespace Decode

variable {α : Type} {part : Value → Decoded α}

/-- A list of parts is read item by item. -/
theorem each_map (encode : α → Value) (h : ∀ x, part (encode x) = .ok x) (xs : List α) :
    each part (xs.map encode) = .ok xs := by
  induction xs with
  | nil => rfl
  | cons x rest ih =>
    rw [List.map_cons, each, h, ih]
    rfl

/-- Named parts are read one by one. -/
theorem eachMember_map (encode : α → Value) (h : ∀ x, part (encode x) = .ok x)
    (pairs : Pairs α) :
    eachMember part (pairs.map fun (name, x) => (name, encode x)) = .ok pairs := by
  induction pairs with
  | nil => rfl
  | cons head rest ih =>
    obtain ⟨name, x⟩ := head
    rw [List.map_cons, eachMember, h, ih]
    rfl

/-- A sequence of texts is read as it is. -/
theorem sequence_strings (texts : List String) :
    sequence text (Value.strings texts) = .ok texts :=
  each_map Value.string (fun _ => rfl) texts

end Decode

/-! ## Parts of a record -/

/-- An author is read back. -/
theorem Author.decode_arranged (author : Author) :
    decode author.toValue.arranged = .ok author := by
  obtain ⟨name, email, url, maintainer⟩ := author
  cases email <;> cases url <;> rfl

/-- A repository is read back. -/
theorem Repository.decode_arranged (source : Repository) :
    decode source.toValue.arranged = .ok source := by
  obtain ⟨url, type, branch⟩ := source
  cases type <;> cases branch <;> rfl

/-- An example is read back. -/
theorem Example.decode_arranged (sample : Example) :
    decode sample.toValue.arranged = .ok sample := by
  obtain ⟨base, files⟩ := sample
  have harranged : (toValue ⟨base, files⟩).arranged =
      .object [("base", .string base), ("files", Value.strings files)] := by
    have hnames : "base" < "files" := by decide
    rw [toValue, Value.arranged_object_of_rising (List.pairwise_pair.2 hnames), List.map_cons,
      List.map_singleton, Value.arranged_strings]
    rfl
  -- No member is found fault with, so what remains is to read each of them.
  have hchecked : Decode.checked check [("base", .string base), ("files", Value.strings files)] =
      .ok () := by
    simp [Decode.checked, check, Decode.mismatch?, Decode.text, Decode.sequence_strings]
  have hbase : Decode.required "base" Decode.text
      [("base", .string base), ("files", Value.strings files)] = .ok base := rfl
  have hfiles : Decode.required "files" (Decode.sequence Decode.text)
      [("base", .string base), ("files", Value.strings files)] = .ok files :=
    Decode.sequence_strings files
  rw [harranged]
  unfold decode Decode.structured ofMembers
  dsimp only
  rw [hchecked, hbase, hfiles]
  rfl

/-- A publishing rule is read back. -/
theorem Export.rule_strings (files : List String) :
    rule (Value.strings files) = .ok (some files) := by
  have hsequence := Decode.sequence_strings files
  unfold rule Decode.optional Value.strings at *
  dsimp only
  rw [hsequence]
  rfl

/-- Publishing rules by rising name. -/
theorem Export.arranged_toValue (rules : Export) :
    rules.toValue.arranged =
      .object ((rules.excluded.map fun files => ("exclude", Value.strings files)).toList ++
        (rules.included.map fun files => ("include", Value.strings files)).toList) := by
  obtain ⟨included, excluded⟩ := rules
  rw [toValue, Value.arranged, Value.arrangedPairs_eq_map]
  cases included <;> cases excluded <;>
    simp only [Option.map_some, Option.map_none, Option.toList_some, Option.toList_none,
      List.cons_append, List.nil_append, List.append_nil, List.map_cons, List.map_nil,
      Value.arranged_strings] <;>
    rfl

/-- Publishing rules are read back, and a rule that is absent is not one that is empty. -/
theorem Export.decode_arranged (rules : Export) :
    decode rules.toValue.arranged = .ok rules := by
  rw [arranged_toValue]
  obtain ⟨included, excluded⟩ := rules
  unfold decode Decode.structured ofMembers
  dsimp only
  cases included <;> cases excluded <;>
    simp [Decode.checked, check, Decode.mismatch?, Decode.defaulted, Pairs.find?, rule_strings,
      bind, Except.bind, pure, Except.pure]

namespace Field

/-! ## Contents of fields -/

/-- A proper text is read as it is. -/
theorem text_of_isProper {f : Field} {s : String} (h : IsProper s) :
    text f (.string s) = .ok s := by
  unfold text
  dsimp only
  rw [h.2, if_neg h.1]

/-- A proper text of a version is read as it is. -/
theorem semanticVersion_of_isProper {s : String} (h : IsProper s)
    (hversion : (Version.parse? s).isSome) : semanticVersion (.string s) = .ok s := by
  unfold semanticVersion versionText
  dsimp only
  rw [h.2, if_neg h.1, if_pos hversion]

/-- Texts without blanks at their ends are read as they are. -/
theorem texts_strings {f : Field} {names : List String} (h : ∀ s ∈ names, trim s = s) :
    texts f (Value.strings names) = .ok names := by
  have htrim : names.map trim = names := (List.map_congr_left h).trans (List.map_id names)
  exact texts_eq_ok_iff.2 ⟨names, rfl, htrim.symm⟩

/-- Collecting sound keywords again gives the same ones in the same order. -/
theorem collect_words {found : Keywords} (h : found.Sound) :
    Keywords.collect found.words = found := by
  have hmap : found.words.map (fun t => lower (trim t)) = found.words := by
    refine (List.map_congr_left fun w hw => ?_).trans (List.map_id _)
    rw [(h.proper w hw).2, h.lower w hw]
    rfl
  have hfilter : found.words.filter (fun w => w ≠ "") = found.words :=
    List.filter_eq_self.2 fun w hw => decide_eq_true (h.proper w hw).1
  unfold Keywords.collect
  rw [hmap, hfilter, Text.firstSeen_of_nodup h.nodup]

/-- Sound keywords are read back. -/
theorem keywordList_toValue {found : Keywords} (hne : found.words ≠ []) (h : found.Sound) :
    keywordList found.toValue = .ok found := by
  have htexts : texts .keywords found.toValue = .ok found.words :=
    texts_strings fun w hw => (h.proper w hw).2
  exact keywordList_eq_ok_iff.2 ⟨found.words, htexts, (collect_words h).symm, hne⟩

/-- Authors with names are read back. -/
theorem authorList_arranged {people : List Author} (hne : people ≠ [])
    (hnames : ∀ a ∈ people, ¬ isBlankText a.name) :
    authorList (.array (people.map fun a => a.toValue.arranged)) = .ok people := by
  refine authorList_eq_ok_iff.2 ⟨⟨_, rfl, ?_⟩, hne, hnames⟩
  rw [List.forall₂_map_left_iff]
  exact List.forall₂_same.2 fun a _ => a.decode_arranged

/-- A repository with an address is read back. -/
theorem sourceRepository_arranged {source : Repository} (h : ¬ isBlankText source.url) :
    sourceRepository source.toValue.arranged = .ok source :=
  sourceRepository_eq_ok_iff.2 ⟨source.decode_arranged, h⟩

/-- Authors that are written are arranged one by one. -/
theorem arranged_encode_authors (people : List Author) :
    (Record.encode .authors people).arranged =
      .array (people.map fun a => a.toValue.arranged) := by
  rw [Record.encode, Value.arranged, Value.arrangedItems_eq_map, List.map_map]
  rfl

/-- Examples by rising name are read back. -/
theorem shaped_arranged_examples {samples : Pairs Example} (h : samples.Rising) :
    shaped .examples (Decode.mapping Example.decode) (Record.encode .examples samples).arranged =
      .ok samples := by
  have harranged : (Record.encode .examples samples).arranged =
      .object (samples.map fun part => (part.1, part.2.toValue.arranged)) :=
    Value.arranged_object_map Example.toValue h
  rw [harranged]
  exact shaped_eq_ok_iff.2
    (Decode.eachMember_map (fun a : Example => a.toValue.arranged) Example.decode_arranged samples)

/-- Engines by rising name are read back. -/
theorem shaped_arranged_engines {ranges : Pairs String} (h : ranges.Rising) :
    shaped .engines (Decode.mapping Decode.text) (Record.encode .engines ranges).arranged =
      .ok ranges := by
  have harranged : (Record.encode .engines ranges).arranged =
      .object (ranges.map fun part => (part.1, .string part.2)) :=
    Value.arranged_object_map Value.string h
  rw [harranged]
  exact shaped_eq_ok_iff.2 (Decode.eachMember_map Value.string (fun _ => rfl) ranges)

/-- What is a map in a record has its members by rising name, as in every object that is read. -/
def Ordered : (f : Field) → f.Content → Prop
  | .examples, samples => samples.Rising
  | .engines, ranges => ranges.Rising
  | .packages, tools => (Value.object tools).Ordered
  | .name, _ | .version, _ | .description, _ | .title, _ | .homepage, _ | .license, _
  | .keywords, _ | .authors, _ | .repository, _ | .platforms, _ | .frameworks, _ | .system, _
  | .exportRules, _ => True

/-- Sound content of a field is read back from the value that it is written as. -/
theorem read_arranged {f : Field} {c : f.Content} (h : f.Sound c) (hordered : f.Ordered c) :
    f.read (Record.encode f c).arranged = .ok c := by
  cases f with
  | name | description | title | homepage | license => exact text_of_isProper h
  | version => exact semanticVersion_of_isProper h.1 h.2
  | keywords =>
    rw [Record.encode, Keywords.toValue, Value.arranged_strings]
    exact keywordList_toValue h.1 h.2
  | authors =>
    rw [arranged_encode_authors]
    exact authorList_arranged h.1 h.2
  | repository => exact sourceRepository_arranged h
  | platforms | frameworks | system =>
    rw [Record.encode, Value.arranged_strings]
    exact texts_strings h
  | exportRules => exact shaped_eq_ok_iff.2 c.decode_arranged
  | examples => exact shaped_arranged_examples hordered
  | engines => exact shaped_arranged_engines hordered
  | packages =>
    rw [Record.encode, hordered.arranged_eq]
    rfl

/-- What a field is written as is not null. -/
theorem arranged_encode_ne_null {f : Field} (c : f.Content) :
    (Record.encode f c).arranged ≠ .null := by
  cases f <;> exact nofun

/-! ## Names of fields -/

/-- No two fields have the same name. -/
theorem label_injective : Function.Injective label := by
  have hnodup : (checkOrder.map label).Nodup := by decide
  intro f g h
  exact List.inj_on_of_nodup_map hnodup f.mem_checkOrder g.mem_checkOrder h

/-- Every field is written. -/
theorem mem_writeOrder (f : Field) : f ∈ writeOrder := by
  cases f <;> decide

/-- No name is written twice. -/
theorem nodup_labels_writeOrder : (writeOrder.map label).Nodup := by
  decide

end Field

namespace Record

/-! ## Records -/

/-- The maps of a record are in order. -/
def Ordered (r : Record) : Prop :=
  ∀ f c, r.get f = some c → f.Ordered c

/-- The members of the object that a record is written as. -/
def reread (r : Record) : Members :=
  Members.ofPairs (Value.arrangedPairs r.toPairs)

/-- They are what the object is read back as. -/
theorem toValue_reread (r : Record) : r.reread.toValue = r.toValue.arranged :=
  rfl

/-- The errors that there are about a record without certain mandatory fields. -/
def missing (r : Record) : List FieldError :=
  (Field.checkOrder.filter fun f => f.isMandatory && (r.get f).isNone).map .missing

/-- The pairs that some fields of a record are read back as. -/
def arrangedPairs (r : Record) (fs : List Field) : Pairs Value :=
  fs.filterMap fun f => (r.value? f).map fun v => (f.label, v.arranged)

/-- A record is read back as the pairs of all its fields. -/
theorem reread_eq (r : Record) : r.reread = Members.ofPairs (r.arrangedPairs Field.writeOrder) := by
  rw [reread, toPairs, Value.arrangedPairs_eq_map, List.map_filterMap]
  simp only [Option.map_map]
  rfl

/-- The names of the pairs are those of fields. -/
theorem map_fst_arrangedPairs_sublist (r : Record) (fs : List Field) :
    ((r.arrangedPairs fs).map (·.1)).Sublist (fs.map Field.label) := by
  induction fs with
  | nil => exact List.Sublist.slnil
  | cons f rest ih =>
    unfold arrangedPairs at *
    cases hv : r.value? f with
    | none =>
      rw [List.filterMap_cons_none (by rw [hv]; rfl)]
      exact ih.cons _
    | some v =>
      rw [List.filterMap_cons_some (by rw [hv]; rfl)]
      exact ih.cons_cons _

/-- A field is found among the pairs with the value that it is read back as. -/
theorem find?_arrangedPairs (r : Record) {f : Field} {fs : List Field} (hmem : f ∈ fs)
    (hnodup : (fs.map Field.label).Nodup) :
    (r.arrangedPairs fs).find? f.label = (r.value? f).map Value.arranged := by
  induction fs with
  | nil => exact absurd hmem List.not_mem_nil
  | cons g rest ih =>
    rw [List.map_cons, List.nodup_cons] at hnodup
    obtain ⟨hnot, hrest⟩ := hnodup
    have hcons : r.arrangedPairs (g :: rest) =
        ((r.value? g).map fun v => (g.label, v.arranged)).toList ++ r.arrangedPairs rest := by
      unfold arrangedPairs
      rw [List.filterMap_cons]
      cases r.value? g <;> rfl
    rw [hcons]
    by_cases hfg : f = g
    · subst hfg
      cases r.value? f with
      | none =>
        -- A field that is absent has no pair of its own, and no later pair has its name.
        refine Pairs.find?_of_notMem fun hin => hnot ?_
        exact (r.map_fst_arrangedPairs_sublist rest).mem hin
      | some v => simp [Pairs.find?]
    · have hne : ¬ g.label = f.label := fun h => hfg (Field.label_injective h).symm
      have hin : f ∈ rest := (List.mem_cons.1 hmem).resolve_left hfg
      cases r.value? g with
      | none => exact ih hin hrest
      | some v => simpa [Pairs.find?, hne] using ih hin hrest

/-- A record is read back with the values of its fields. -/
theorem get?_reread (r : Record) (f : Field) :
    r.reread.get? f.label = (r.value? f).map Value.arranged := by
  have hnodup : ((r.arrangedPairs Field.writeOrder).map (·.1)).Nodup :=
    (r.map_fst_arrangedPairs_sublist Field.writeOrder).nodup Field.nodup_labels_writeOrder
  rw [reread_eq, Members.get?_ofPairs hnodup]
  exact r.find?_arrangedPairs f.mem_writeOrder Field.nodup_labels_writeOrder

/-- Each field of a sound record gets the content that it had. -/
theorem outcome_reread {r : Record} (h : r.Sound) (hordered : r.Ordered) (f : Field) :
    Validation.outcome r.reread f =
      match r.get f with
      | some c => .ok (some c)
      | none => if f.isMandatory then .error (.missing f) else .ok none := by
  have hget := r.get?_reread f
  unfold value? at hget
  cases hf : r.get f with
  | none =>
    rw [hf] at hget
    exact Validation.outcome_of_unset (.inl hget)
  | some c =>
    rw [hf] at hget
    rw [Validation.outcome_of_some hget (Field.arranged_encode_ne_null c),
      Field.read_arranged (h.contents f c hf) (hordered f c hf)]
    rfl

/-- The page of a sound record is kept. -/
theorem dropRepeatedHomepage_of_sound {r : Record} (h : r.Sound) :
    Validation.dropRepeatedHomepage r = r := by
  unfold Validation.dropRepeatedHomepage
  refine if_neg fun hrepeats => ?_
  unfold Validation.repeatsRepository at hrepeats
  -- Both a page and a repository are there, or nothing is repeated.
  split at hrepeats
  · next page source hpage hsource =>
    exact h.homepage_ne page source hpage hsource (eq_of_beq hrepeats)
  · exact absurd hrepeats (by simp)

/-- A sound record is what validation makes of what it was written as, and mandatory fields that it
does not have are missing. -/
theorem validateLeniently_of_sound {r : Record} (h : r.Sound) (hordered : r.Ordered) :
    validateLeniently r.reread = ⟨r, r.missing⟩ := by
  have hfill : Validation.fill r.reread {} Field.checkOrder = r := by
    refine Record.ext_get fun f => ?_
    rw [Validation.get_fill_checkOrder]
    unfold Validation.content?
    rw [outcome_reread h hordered]
    cases r.get f with
    | some c => rfl
    | none => cases f.isMandatory <;> rfl
  have herror : ∀ f, Validation.error? r.reread f =
      if f.isMandatory && (r.get f).isNone then some (.missing f) else none := by
    intro f
    unfold Validation.error?
    rw [outcome_reread h hordered]
    cases r.get f with
    | some c => simp
    | none => cases f.isMandatory <;> rfl
  have herrors : Validation.errors r.reread Field.checkOrder = r.missing := by
    unfold Validation.errors missing
    rw [← List.filterMap_eq_map', List.filterMap_filter]
    exact List.filterMap_congr fun f _ => herror f
  rw [validateLeniently_eq, hfill, herrors, dropRepeatedHomepage_of_sound h]

end Record

/-! ## The text of a record -/

/-- An author can be read back from what they are written as. -/
theorem Author.readable_toValue {depth : Nat} (author : Author) :
    author.toValue.Readable (depth + 1) := by
  obtain ⟨name, email, url, maintainer⟩ := author
  refine .object ?_
  cases email <;> cases url <;> simp [Value.Readable.string, Value.Readable.bool]

/-- So can a repository. -/
theorem Repository.readable_toValue {depth : Nat} (source : Repository) :
    source.toValue.Readable (depth + 1) := by
  obtain ⟨url, type, branch⟩ := source
  refine .object ?_
  cases type <;> cases branch <;> simp [Value.Readable.string]

/-- So can publishing rules. -/
theorem Export.readable_toValue {depth : Nat} (rules : Export) :
    rules.toValue.Readable (depth + 2) := by
  obtain ⟨included, excluded⟩ := rules
  refine .object ?_
  cases included <;> cases excluded <;> simp [Value.readable_strings]

/-- So can an example. -/
theorem Example.readable_toValue {depth : Nat} (sample : Example) :
    sample.toValue.Readable (depth + 2) := by
  refine .object ?_
  simp [Value.Readable.string, Value.readable_strings]

/-- So can every field but the packages. -/
theorem Field.readable_encode {depth : Nat} {f : Field} (hf : f ≠ .packages) (c : f.Content) :
    (Record.encode f c).Readable (depth + 3) := by
  cases f with
  | name | version | description | title | homepage | license => exact .string c
  | keywords => exact Value.readable_strings c.words
  | platforms | frameworks | system => exact Value.readable_strings c
  | repository => exact Repository.readable_toValue c
  | exportRules => exact Export.readable_toValue c
  | authors =>
    refine .array fun v hv => ?_
    obtain ⟨a, -, rfl⟩ := List.mem_map.1 hv
    exact a.readable_toValue
  | examples =>
    refine .object fun pair hpair => ?_
    obtain ⟨part, -, rfl⟩ := List.mem_map.1 hpair
    exact part.2.readable_toValue
  | engines =>
    refine .object fun pair hpair => ?_
    obtain ⟨part, -, rfl⟩ := List.mem_map.1 hpair
    exact .string part.2
  | packages => exact absurd rfl hf

/-- A record can be read back from what it is written as if its packages can. -/
theorem Record.readable_toValue {depth : Nat} {r : Record}
    (h : ∀ tools, r.packages = some tools → (Value.object tools).Readable (depth + 3)) :
    r.toValue.Readable (depth + 4) := by
  refine .object fun pair hpair => ?_
  obtain ⟨f, -, hf⟩ := List.mem_filterMap.1 hpair
  obtain ⟨v, hv, rfl⟩ := Option.map_eq_some_iff.1 hf
  obtain ⟨c, hc, rfl⟩ := Option.map_eq_some_iff.1 hv
  by_cases hpackages : f = .packages
  · subst hpackages
    exact h c hc
  · exact Field.readable_encode hpackages c

/-! ## Maps that are read -/

/-- Named parts are read under the names that they have. -/
theorem Decode.map_fst_of_eachMember {α : Type} {part : Value → Decoded α} {pairs : Pairs Value}
    {parts : Pairs α} (h : eachMember part pairs = .ok parts) :
    parts.map (·.1) = pairs.map (·.1) := by
  induction pairs generalizing parts with
  | nil =>
    rw [← Except.ok.inj h]
    rfl
  | cons head rest ih =>
    rw [eachMember] at h
    split at h
    · exact absurd h (by simp)
    · obtain ⟨others, hothers, rfl⟩ := map_eq_ok_iff.1 h
      rw [List.map_cons, List.map_cons, ih hothers]

/-- A map that is read from an ordered value is in order. -/
theorem Decode.rising_of_mapping {α : Type} {part : Value → Decoded α} {v : Value} {parts : Pairs α}
    (h : mapping part v = .ok parts) (hordered : v.Ordered) : parts.Rising := by
  cases hordered with
  | object hrising _ =>
    rw [Pairs.rising_iff, map_fst_of_eachMember h]
    exact Pairs.rising_iff.1 hrising
  | _ => exact absurd h nofun

/-- The maps that a field is read as are in order if its value is. -/
theorem Field.ordered_of_read {f : Field} {v : Value} {c : f.Content} (h : f.read v = .ok c)
    (hordered : v.Ordered) : f.Ordered c := by
  cases f with
  | examples | engines => exact Decode.rising_of_mapping (shaped_eq_ok_iff.1 h) hordered
  | packages =>
    cases v with
    | object tools =>
      obtain rfl := Except.ok.inj h
      exact hordered
    | _ => exact absurd h nofun
  | _ => trivial

/-- Members with all their objects in order validate to a record with its maps in order. -/
theorem ordered_of_validate {members : Members} {mode : Mode} {found : Validated}
    (hordered : members.toValue.Ordered) (h : validate members mode = .ok found) :
    found.record.Ordered := by
  intro f c hc
  obtain rfl := eq_validateLeniently h
  obtain ⟨v, hget, hread⟩ := exists_of_get hc
  cases hordered with
  | object hrising hpairs =>
    exact Field.ordered_of_read hread (hpairs _ (hrising.find?_eq_some_iff.1 hget))

/-- A record is a fixed point of validation by way of what it is written as. Consider members whose
objects are all in order, as they are in every value that is read (`Json.ordered_of_read`), and the
record that they validate to in whatever mode. The members that the written record is read back as
validate to this very record. The errors are that the mandatory fields are missing that it does not
have, in the order in which fields are checked, and there are no others. -/
theorem validateLeniently_reread {members : Members} (hordered : members.toValue.Ordered)
    {mode : Mode} {found : Validated} (h : validate members mode = .ok found) :
    ∃ fields : Members, fields.toValue = found.record.toValue.arranged ∧
      validateLeniently fields = ⟨found.record, found.record.missing⟩ :=
  ⟨found.record.reread, found.record.toValue_reread,
    Record.validateLeniently_of_sound (sound_of_validate h) (ordered_of_validate hordered h)⟩

/-- Members without a name and authors, with keywords that repeat, an empty publishing rule, an
example, an engine, and tools of several depths. -/
def namelessLibrary : Members :=
  Members.ofPairs
    [("version", .string " 0.1.0 "), ("description", .string "Reads\nsensors"),
      ("keywords", Value.strings ["B", "a", "b "]), ("authors", .array []),
      ("homepage", .string "https://a.b"),
      ("repository", .object [("type", .string "git"), ("url", .string "https://a.b/r.git")]),
      ("export", .object [("exclude", .null), ("include", .array [])]),
      ("examples", .object [("Blink", .array [.string "ex", Value.strings ["b.ino"]])]),
      ("engines", .object [("core", .string "^5.0")]),
      ("packages", .object [("gcc", .object [("hosts", .array [.null]),
        ("since", .number (.integer 7))])])]

set_option maxRecDepth 8000 in
/-- Such members give a record that is written in another order than it is read back in, and that is
read back with both mandatory fields missing. -/
theorem validateLeniently_reread_namelessLibrary :
    ∃ found fields, validate namelessLibrary .lenient = .ok found ∧
      found.record.toValue ≠ found.record.toValue.arranged ∧
      fields.toValue = found.record.toValue.arranged ∧
      fields.get? "repository" =
        some (.object [("type", .string "git"), ("url", .string "https://a.b/r.git")]) ∧
      found.record.exportRules = some ⟨some [], none⟩ ∧
      validateLeniently fields = ⟨found.record, [.missing .name, .missing .authors]⟩ := by
  have hvalidate : validate namelessLibrary .lenient = .ok
      ⟨{ version := some "0.1.0"
         description := some "Reads\nsensors"
         homepage := some "https://a.b"
         repository := some ⟨"https://a.b/r.git", some "git", none⟩
         keywords := some ⟨["b", "a"]⟩
         exportRules := some ⟨some [], none⟩
         examples := some [("Blink", ⟨"ex", ["b.ino"]⟩)]
         engines := some [("core", "^5.0")]
         packages := some [("gcc", .object [("hosts", .array [.null]),
           ("since", .number (.integer 7))])] },
        [.missing .name, .missing .authors]⟩ := rfl
  have hordered : namelessLibrary.toValue.Ordered := Value.ordered_iff_arranged_eq.2 (by cbv)
  obtain ⟨fields, hfields, hreread⟩ := validateLeniently_reread hordered hvalidate
  refine ⟨_, fields, hvalidate, fun hsame => ?_, hfields, ?_, rfl, hreread⟩
  · -- The version is written in front of the description.
    cases Value.ordered_iff_arranged_eq.2 hsame.symm with
    | object hrising _ =>
      exact absurd ((List.pairwise_cons.1 hrising).1 _ List.mem_cons_self) (by decide)
  · unfold Members.get?
    rw [Value.object.inj hfields]
    rfl

end Manifest
