import Manifest.Proofs.ExitCodes
import Manifest.Proofs.KeptMembers
import Manifest.Proofs.OrderedValues
import Manifest.Proofs.PropertyFields

/-!
# What reports hold

A report on a manifest is written as JSON or as lines of text. As JSON it is read back as an object
with the path, the kind, the mode, the errors, and the record, which validation makes of what stands
there (`read_jsonReport`). As text it shows the path, the kind and what the fields of the record say,
and it ends in the errors, each on a line of its own (`isTextReport`). So does the output of every
inspection that loads a manifest (`reports_of_tells`).

That the record in a report is the one that was loaded rests on its maps being in order. They are, for
parsing gives them as the document has them (`Record.ordered_of_load`).
-/

namespace Manifest

open Json (Members Pairs Value)

/-! ## Records that are loaded -/

section

variable {contents declared : String} {address : Option String}

/-- A module takes over its examples as they are, unless they are null. -/
theorem Format.Module.get?_ofDocument_examples (document : Members) :
    (ofDocument document).get? "examples" = document.given? "examples" := by
  rw [get?_ofDocument_of_ne (by decide)]
  unfold withDefaults
  rw [Members.get?_insertNew, if_neg (by decide), Members.get?_insertNew, if_neg (by decide),
    Members.get?_insertNew, if_neg (by decide), get?_withLicense_of_ne (by decide), get?_taken,
    if_pos (by decide)]

/-- What parsing a JSON document gives for a field that is a map is what the document says. -/
theorem Format.get?_document_of_fieldsOf {document : Members} {kind : Kind}
    (hkind : kind ≠ .libraryProperties) {f : Field} (hf : f ∈ [.examples, .engines, .packages])
    {v : Value} (hv : (Normal.fields (fieldsOf document kind)).get? f.label = some v) :
    document.get? f.label = some v := by
  have hleaves := leaves_fieldsOf document hkind
  by_cases hmodule : kind = .moduleJson
  · subst hmodule
    cases hleaves with
    | module hnames =>
      have hname : f.label ∈ Module.names := hnames _ (by simp [hv])
      -- Of these fields a module has its examples only.
      cases f with
      | examples =>
        have hget : (Normal.fields (Module.ofDocument document)).get? "examples" = some v := hv
        rw [Normal.get?_fields_of_not_mem (by decide), Module.get?_ofDocument_examples,
          Members.given?_eq_some_iff] at hget
        exact hget.1
      | engines | packages => exact absurd hname (by decide)
      | _ => exact absurd hf (by decide)
  · refine (hleaves.get?_eq hmodule ?_).symm.trans hv
    cases f with
    | examples | engines | packages => decide
    | _ => exact absurd hf (by decide)

/-- What parsing gives for a field that is a map is ordered. -/
theorem ordered_of_parse {fields : Members} (h : parse contents declared address = .ok fields)
    {f : Field} (hf : f ∈ [.examples, .engines, .packages]) {v : Value}
    (hv : fields.get? f.label = some v) : v.Ordered := by
  have hdocument : ∀ {kind : Kind} {document : Members}, kind ≠ .libraryProperties →
      Format.members kind contents = .ok document →
        Normal.fields (Format.fieldsOf document kind) = fields → v.Ordered := by
    rintro kind document hkind hmembers rfl
    exact Format.ordered_of_members hmembers (Format.get?_document_of_fieldsOf hkind hf hv)
  unfold parse at h
  split at h
  · exact absurd h (by simp)
  · next kind _ =>
    cases kind with
    | libraryJson | moduleJson | platformJson | packageJson =>
      obtain ⟨document, hmembers, hfields⟩ := Decode.map_eq_ok_iff.1 h
      exact hdocument (by decide) hmembers hfields
    | libraryProperties =>
      -- A property list has none of these fields.
      obtain ⟨platforms, -, rfl⟩ := Decode.map_eq_ok_iff.1 h
      rw [Normal.get?_fields, Format.Properties.get?_ofProperties] at hv
      cases f with
      | examples | engines | packages => exact absurd hv (by simp [Format.Properties.value?])
      | _ => exact absurd hf (by decide)

/-- A record that is loaded has its maps in order. -/
theorem Record.ordered_of_load {mode : Mode} {found : Validated}
    (h : load contents declared address mode = .ok found) : found.record.Ordered := by
  obtain ⟨raw, hparse, rfl⟩ := exists_fields_of_load h
  intro f c hc
  obtain ⟨v, hv, hread⟩ := exists_of_get hc
  cases f with
  | examples | engines | packages =>
    exact Field.ordered_of_read hread (ordered_of_parse hparse (by decide) hv)
  | _ => trivial

/-- A record that is loaded is what validation makes of what it is written as. -/
theorem validateLeniently_reread_of_load {mode : Mode} {found : Validated}
    (h : load contents declared address mode = .ok found) :
    validateLeniently found.record.reread = ⟨found.record, found.record.missing⟩ := by
  have hordered := Record.ordered_of_load h
  obtain ⟨raw, -, rfl⟩ := exists_fields_of_load h
  exact Record.validateLeniently_of_sound (sound_of_validate (validate_lenient _)) hordered

end

namespace CommandLine

/-! ## Reports as JSON -/

/-- The members are those of a report. -/
structure IsReport (members : Members) (file : Located) (mode : Mode) (found : Validated) : Prop where
  /-- There is the path. -/
  path : members.get? "path" = some (.string file.path)
  /-- There is the kind. -/
  kind : members.get? "kind" = some (.string file.kind.name)
  /-- There is the mode. -/
  mode : members.get? "mode" = some (.string mode.name)
  /-- There is what the record was written as, and validation makes the record of it. -/
  record : ∃ fields : Members, members.get? "record" = some fields.toValue ∧
    fields.toValue = found.record.toValue.arranged ∧
    validateLeniently fields = ⟨found.record, found.record.missing⟩
  /-- There are the messages of the errors, in order. -/
  errors : members.get? "errors" = some (Value.strings (found.errors.map FieldError.message))
  /-- There is nothing else. -/
  others : ∀ name, name ∉ ["path", "kind", "mode", "record", "errors"] → members.get? name = none

/-- A report as JSON on a manifest that was loaded is read back as its members, as long as the
packages can be read back. -/
theorem read_jsonReport {contents declared : String} {address : Option String} {mode : Mode}
    {found : Validated} (h : load contents declared address mode = .ok found)
    (hpackages : ∀ tools, found.record.packages = some tools → (Value.object tools).Readable 125)
    {o : Options} (hjson : o.json) (file : Located) :
    ∃ members : Members, Json.read (inspectOutput o file found) = .ok members.toValue ∧
      IsReport members file o.mode found := by
  let pairs : Pairs Value := [("path", .string file.path), ("kind", .string file.kind.name),
    ("mode", .string o.mode.name), ("record", found.record.toValue.arranged),
    ("errors", Value.strings (found.errors.map FieldError.message))]
  have hnames : (pairs.map (·.1)).Nodup := by
    show ["path", "kind", "mode", "record", "errors"].Nodup
    decide
  have hreadable : (reportValue file.path file.kind o.mode found).Readable
      (Json.Reader.depthLimit - 1) := by
    -- The record stands one container deeper than the report.
    refine .object ?_
    simp only [List.forall_mem_cons]
    exact ⟨.string _, .string _, .string _, Record.readable_toValue hpackages,
      Value.readable_strings _, List.forall_mem_nil _⟩
  have harranged : (reportValue file.path file.kind o.mode found).arranged =
      (Members.ofPairs pairs).toValue := by
    simp only [reportValue, Value.arranged, Value.arrangedPairs, Value.arranged_strings]
    rfl
  have houtput : inspectOutput o file found =
      (reportValue file.path file.kind o.mode found).pretty ++ "\n" := by
    unfold inspectOutput
    rw [if_pos hjson]
    simp [textOfLines]
  refine ⟨Members.ofPairs pairs, ?_, ?_⟩
  · rw [houtput, Json.read_pretty_line hreadable, harranged]
  · constructor
    case record =>
      refine ⟨found.record.reread, ?_, found.record.toValue_reread,
        validateLeniently_reread_of_load h⟩
      rw [Members.get?_ofPairs hnames]
      rfl
    case others =>
      intro name hname
      rw [Members.get?_ofPairs hnames]
      exact Pairs.find?_of_notMem hname
    all_goals
      rw [Members.get?_ofPairs hnames]
      rfl

/-! ## Reports as text -/

/-- A text occurs in the output. -/
def Shows (output text : String) : Prop :=
  text.toList <:+: output.toList

theorem shows_self (text : String) : Shows text text :=
  List.infix_refl _

theorem Shows.append_left {output text : String} (h : Shows output text) (front : String) :
    Shows (front ++ output) text := by
  unfold Shows
  rw [String.toList_append]
  exact h.trans (List.suffix_append _ _).isInfix

theorem Shows.append_right {output text : String} (h : Shows output text) (rest : String) :
    Shows (output ++ rest) text := by
  unfold Shows
  rw [String.toList_append]
  exact h.trans (List.prefix_append _ _).isInfix

/-- Texts with something between them show each of them. -/
theorem shows_intercalate {texts : List String} {text : String} (h : text ∈ texts)
    (between : String) : Shows (between.intercalate texts) text := by
  induction texts with
  | nil => exact absurd h List.not_mem_nil
  | cons first rest ih =>
    cases rest with
    | nil =>
      rw [String.intercalate_singleton, List.mem_singleton.1 h]
      exact shows_self _
    | cons second rest =>
      rw [String.intercalate_cons_cons]
      rcases List.mem_cons.1 h with rfl | hrest
      · exact ((shows_self _).append_right _).append_right _
      · exact (ih hrest).append_left _

/-- A text of lines starts with the first of them. -/
theorem textOfLines_cons (line : String) (rest : List String) :
    textOfLines (line :: rest) = line ++ "\n" ++ textOfLines rest := by
  unfold textOfLines
  rw [List.map_cons, String.join_cons]

/-- Lines behind others are a text behind theirs. -/
theorem textOfLines_append (lines rest : List String) :
    textOfLines (lines ++ rest) = textOfLines lines ++ textOfLines rest := by
  unfold textOfLines
  rw [List.map_append, String.join_append]

/-- A text of lines shows what each of them shows. -/
theorem shows_textOfLines {lines : List String} {line text : String} (hline : line ∈ lines)
    (h : Shows line text) : Shows (textOfLines lines) text := by
  induction lines with
  | nil => exact absurd hline List.not_mem_nil
  | cons first rest ih =>
    rw [textOfLines_cons]
    rcases List.mem_cons.1 hline with rfl | hrest
    · exact (h.append_right _).append_right _
    · exact (ih hrest).append_left _

/-- The texts of a field that a report shows. Of examples it shows how many there are. -/
def shown : (f : Field) → f.Content → List String
  | .name, s | .version, s | .description, s | .title, s | .homepage, s | .license, s => [s]
  | .keywords, found => found.words
  | .authors, people => people.flatMap fun a => a.name :: a.email.toList
  | .repository, source => source.url :: source.branch.toList
  | .platforms, names | .frameworks, names | .system, names => names
  | .exportRules, rules => rules.included.getD [] ++ rules.excluded.getD []
  | .examples, samples => [toString samples.length]
  | .engines, _ | .packages, _ => []

/-- The line of an author shows their name and e-mail address. -/
theorem shows_authorLine {author : Author} {text : String}
    (h : text ∈ author.name :: author.email.toList) : Shows (authorLine author) text := by
  unfold authorLine
  rcases List.mem_cons.1 h with rfl | hemail
  · exact (((shows_self _).append_left _).append_right _).append_right _
  · rw [Option.mem_toList.1 hemail]
    exact ((((shows_self text).append_left _).append_right _).append_left _).append_right _

/-- A repository is shown with its address and branch. -/
theorem shows_repositoryText {source : Repository} {text : String}
    (h : text ∈ source.url :: source.branch.toList) : Shows (repositoryText (some source)) text := by
  unfold repositoryText
  dsimp only
  rcases List.mem_cons.1 h with rfl | hbranch
  · split
    · exact (((shows_self _).append_right _).append_right _).append_right _
    · exact shows_self _
  · rw [Option.mem_toList.1 hbranch]
    exact ((shows_self text).append_left _).append_right _

/-- A list is shown with each of its items. -/
theorem shows_listed {items : List String} {text : String} (h : text ∈ items) :
    Shows (listed (some items)) text :=
  shows_intercalate h ", "

/-- The lines of a field. -/
def linesOf : (f : Field) → f.Content → List String
  | .name, s => ["name:         " ++ s]
  | .version, s => ["version:      " ++ s]
  | .title, s => ["title:        " ++ s]
  | .description, s => ["description:  " ++ s]
  | .homepage, s => ["homepage:     " ++ s]
  | .repository, source => ["repository:   " ++ repositoryText (some source)]
  | .license, s => ["license:      " ++ s]
  | .keywords, found => ["keywords:     " ++ listed (some found.words)]
  | .platforms, names => ["platforms:    " ++ listed (some names)]
  | .frameworks, names => ["frameworks:   " ++ listed (some names)]
  | .system, names => ["system:       " ++ listed (some names)]
  | .authors, people => "authors:" :: people.map authorLine
  | .exportRules, rules =>
    ["export:", "  include:    " ++ listed rules.included, "  exclude:    " ++ listed rules.excluded]
  | .examples, samples => ["examples:     " ++ toString samples.length]
  | .engines, _ | .packages, _ => []

/-- The lines of a record hold those of each of its fields. -/
theorem linesOf_subset {r : Record} {f : Field} {c : f.Content} (h : r.get f = some c) :
    linesOf f c ⊆ recordLines r := by
  cases f with
  | authors =>
    have hauthors : r.authors = some c := h
    intro line hline
    unfold recordLines
    rw [hauthors]
    exact List.mem_append_left _ (List.mem_append_left _ (List.mem_append_right _ hline))
  | _ =>
    simp only [Record.get] at h
    simp [linesOf, recordLines, h]

/-- The lines of a field show its texts. -/
theorem exists_linesOf_shows {f : Field} {c : f.Content} {text : String} (h : text ∈ shown f c) :
    ∃ line ∈ linesOf f c, Shows line text := by
  cases f with
  | name | version | description | homepage | license | title | examples =>
    obtain rfl := List.mem_singleton.1 h
    exact ⟨_, List.mem_singleton_self _, (shows_self _).append_left _⟩
  | keywords | platforms | frameworks | system =>
    exact ⟨_, List.mem_singleton_self _, (shows_listed h).append_left _⟩
  | repository => exact ⟨_, List.mem_singleton_self _, (shows_repositoryText h).append_left _⟩
  | authors =>
    obtain ⟨a, ha, htext⟩ := List.mem_flatMap.1 h
    exact ⟨_, List.mem_cons_of_mem _ (List.mem_map_of_mem ha), shows_authorLine htext⟩
  | exportRules =>
    obtain ⟨included, excluded⟩ := c
    rcases List.mem_append.1 h with hincluded | hexcluded
    · cases included with
      | none => exact absurd hincluded List.not_mem_nil
      | some files =>
        exact ⟨_, List.mem_cons_of_mem _ List.mem_cons_self, (shows_listed hincluded).append_left _⟩
    · cases excluded with
      | none => exact absurd hexcluded List.not_mem_nil
      | some files =>
        refine ⟨_, List.mem_cons_of_mem _ (List.mem_cons_of_mem _ List.mem_cons_self), ?_⟩
        exact (shows_listed hexcluded).append_left _
  | engines | packages => exact absurd h List.not_mem_nil

/-- The output is a report as text. -/
structure IsTextReport (output : String) (file : Located) (found : Validated) : Prop where
  /-- The first line has the path and the kind. -/
  front : ∃ rest, output = "file:         " ++ file.path ++ " (" ++ file.kind.name ++ ")\n" ++ rest
  /-- The texts of the fields are shown. -/
  fields : ∀ f c, found.record.get f = some c → ∀ text ∈ shown f c, Shows output text
  /-- The errors stand at the end, each on a line. -/
  errors : ∃ before, output = before ++ textOfLines (errorLines found.errors)

/-- A report that is not written as JSON is a report as text, whatever was loaded. -/
theorem isTextReport {o : Options} (htext : o.json = false) (file : Located) (found : Validated) :
    IsTextReport (inspectOutput o file found) file found := by
  let first := "file:         " ++ file.path ++ " (" ++ file.kind.name ++ ")"
  have houtput : inspectOutput o file found =
      textOfLines (first :: (recordLines found.record ++ errorLines found.errors)) := by
    unfold inspectOutput
    rw [htext]
    rfl
  rw [houtput]
  constructor
  · refine ⟨textOfLines (recordLines found.record ++ errorLines found.errors), ?_⟩
    have hend : ")\n" = ")" ++ "\n" := rfl
    rw [textOfLines_cons, hend, ← String.append_assoc]
  · intro f c hc text ht
    obtain ⟨line, hline, hshows⟩ := exists_linesOf_shows ht
    refine shows_textOfLines (List.mem_cons_of_mem _ ?_) hshows
    exact List.mem_append_left _ (linesOf_subset hc hline)
  · refine ⟨textOfLines (first :: recordLines found.record), ?_⟩
    rw [← textOfLines_append]
    rfl

/-! ## Runs -/

/-- The output of a run that tells what became of a manifest is a report on it if it was loaded. -/
theorem reports_of_tells {outcome : Outcome} {surroundings : Surroundings} {o : Options}
    (h : outcome.Tells surroundings o) {file : Located} {found : Validated}
    (hload : LoadsAs surroundings o file (.ok found)) :
    (o.json = false → IsTextReport outcome.output file found) ∧
      (o.json → (∀ tools, found.record.packages = some tools → (Value.object tools).Readable 125) →
        ∃ members : Members, Json.read outcome.output = .ok members.toValue ∧
          IsReport members file o.mode found) := by
  rw [h.report file found hload]
  obtain ⟨-, -, hfound⟩ := hload
  exact ⟨fun htext => isTextReport htext file found,
    fun hjson hpackages => read_jsonReport hfound hpackages hjson file⟩

end CommandLine

end Manifest
