import Manifest.CommandLine.FileTree
import Manifest.Proofs.Commands
import Manifest.Proofs.StrictMode

/-!
# Exit codes of inspections

The exit code of a run that inspects a manifest says what became of it, whatever the surroundings
are (`inspect_exit_codes`): 1 if the settings are broken, else 2 if no manifest can be loaded, else 3
if the manifest is rejected, and else 0. There is output exactly if a manifest was loaded.

The code of a run that ends early is found by looking at how its message begins. The messages have
paths and parts of documents in them, but behind a beginning of their own, so the code is that of
the kind of error (`RunError.exitCode_manifest` and its like).
-/

namespace Manifest.CommandLine

/-! ## Codes of errors -/

namespace RunError

/-- How a message begins that has a text behind its front is decided by the characters of the
front. -/
theorem startsWith_append (front rest other : String) :
    startsWith (front ++ rest) other = other.toList.isPrefixOf (front.toList ++ rest.toList) := by
  unfold startsWith
  rw [String.toList_append]

/-- A manifest that is not there or cannot be read has the code 2, whatever the message says. -/
theorem exitCode_unreadable (text : String) : (unreadable text).exitCode = 2 := by
  have hfront : startsWith ("failed to read manifest" ++ text) "failed to read manifest" = true :=
    (startsWith_append _ _ _).trans rfl
  change codeOfMessage ("failed to read manifest" ++ text) = 2
  rw [codeOfMessage, hfront, Bool.or_true, if_pos rfl]

/-- A manifest that cannot be loaded has the code 2, whatever the message says. -/
theorem exitCode_manifest (text : String) : (manifest text).exitCode = 2 := by
  have hfront : startsWith ("manifest error: " ++ text) "manifest error:" = true :=
    (startsWith_append _ _ _).trans rfl
  change codeOfMessage ("manifest error: " ++ text) = 2
  rw [codeOfMessage, hfront, Bool.true_or, if_pos rfl]

/-- A field that ended strict validation has the code 3, whatever the message says. -/
theorem exitCode_validation (text : String) : (validation text).exitCode = 3 := by
  -- The other beginnings are looked for first, so that they must not be there.
  have hmanifest : startsWith ("validation error: " ++ text) "manifest error:" = false :=
    (startsWith_append _ _ _).trans rfl
  have hread : startsWith ("validation error: " ++ text) "failed to read manifest" = false :=
    (startsWith_append _ _ _).trans rfl
  have hfront : startsWith ("validation error: " ++ text) "validation error:" = true :=
    (startsWith_append _ _ _).trans rfl
  change codeOfMessage ("validation error: " ++ text) = 3
  rw [codeOfMessage, hmanifest, hread, hfront]
  rfl

end RunError

/-! ## Settings -/

/-- The settings are in a place that can be found but not be read, or their text is wrong. -/
def SettingsBroken (surroundings : Surroundings) : Prop :=
  ∃ path, settingsPath? surroundings = some path ∧
    (surroundings.entry path = .directory ∨ surroundings.entry path = .file none ∨
      ∃ text, surroundings.entry path = .file (some text) ∧ ∀ found, Settings.read text ≠ .ok found)

/-- The settings are those of the file, and a file that is not there sets nothing. -/
inductive Configures (surroundings : Surroundings) : Settings → Prop where
  /-- There is no place for a file. -/
  | noPath (hpath : settingsPath? surroundings = none) : Configures surroundings {}
  /-- There is no file. -/
  | noFile {path : String} (hpath : settingsPath? surroundings = some path)
    (hmissing : surroundings.entry path = .missing) : Configures surroundings {}
  /-- The text of the file says what is set. -/
  | file {path text : String} {found : Settings} (hpath : settingsPath? surroundings = some path)
    (hfile : surroundings.entry path = .file (some text)) (hread : Settings.read text = .ok found) :
    Configures surroundings found

section

variable {surroundings : Surroundings} {path : String}

/-- No settings can be had from a path if there is something else than a file of right settings. -/
theorem settingsAt_eq_error_iff :
    (∃ e, settingsAt surroundings path = .error e) ↔
      surroundings.entry path = .directory ∨ surroundings.entry path = .file none ∨
        ∃ text, surroundings.entry path = .file (some text) ∧
          ∀ found, Settings.read text ≠ .ok found := by
  unfold settingsAt
  cases surroundings.entry path with
  | missing => simp
  | directory => simp
  | file contents =>
    cases contents with
    | none => simp
    | some text => cases hread : Settings.read text <;> simp [Except.mapError, hread]

/-- There are no settings exactly if they are broken. -/
theorem settings_eq_error_iff :
    (∃ e, settings surroundings = .error e) ↔ SettingsBroken surroundings := by
  unfold settings SettingsBroken
  cases settingsPath? surroundings with
  | none => simp
  | some path => simp [settingsAt_eq_error_iff]

/-- Settings that can be had are those that are made. -/
theorem configures_of_settings {found : Settings} (h : settings surroundings = .ok found) :
    Configures surroundings found := by
  unfold settings at h
  split at h
  · next hpath =>
    rw [← Except.ok.inj h]
    exact .noPath hpath
  · next path hpath =>
    unfold settingsAt at h
    split at h
    · next hmissing =>
      rw [← Except.ok.inj h]
      exact .noFile hpath hmissing
    · exact absurd h (by simp)
    · exact absurd h (by simp)
    · next text hfile => exact .file hpath hfile (Decode.mapError_eq_ok_iff.1 h)

/-- The settings that can be had are those that are made. -/
theorem settings_eq_ok_iff {found : Settings} :
    settings surroundings = .ok found ↔ Configures surroundings found := by
  refine ⟨configures_of_settings, fun h => ?_⟩
  cases h with
  | noPath hpath => rw [settings, hpath]
  | noFile hpath hmissing =>
    rw [settings, hpath]
    dsimp only
    rw [settingsAt, hmissing]
  | file hpath hfile hread =>
    rw [settings, hpath]
    dsimp only
    rw [settingsAt, hfile]
    dsimp only
    rw [hread]
    rfl

/-- Broken settings have the code 1. -/
theorem exitCode_of_settings {e : RunError} (h : settings surroundings = .error e) :
    e.exitCode = 1 := by
  unfold settings at h
  split at h
  · exact absurd h (by simp)
  · next path _ =>
    unfold settingsAt at h
    split at h
    · exact absurd h (by simp)
    · rw [← Except.error.inj h]
      rfl
    · rw [← Except.error.inj h]
      rfl
    · next text _ =>
      cases hread : Settings.read text with
      | ok found =>
        rw [hread] at h
        exact absurd h (by simp [Except.mapError])
      | error place =>
        rw [hread] at h
        rw [← Except.error.inj h]
        rfl

end

/-! ## Finding a manifest -/

/-- Whether a kind is declared, and which. -/
inductive Declares : Option String → Option Kind → Prop where
  /-- None is declared. -/
  | nothing : Declares none none
  /-- The text that is given names a kind. -/
  | kind {text : String} {kind : Kind} (h : Kind.ofDeclared? text = some kind) :
    Declares (some text) (some kind)

/-- A text declares the kind that it names, if it names one. -/
theorem declares_some_iff {text : String} {kind? : Option Kind} :
    Declares (some text) kind? ↔ ∃ kind, Kind.ofDeclared? text = some kind ∧ kind? = some kind := by
  constructor
  · rintro (_ | hkind)
    exact ⟨_, hkind, rfl⟩
  · rintro ⟨kind, hkind, rfl⟩
    exact .kind hkind

/-- The kinds of files that are looked for in a directory, in order. -/
def wanted (kind? : Option Kind) : List Kind :=
  (kind?.map fun kind => [kind]).getD Kind.discoveryOrder

/-- There is a file at a path. -/
def IsFile (surroundings : Surroundings) (path : String) : Prop :=
  ∃ contents, surroundings.entry path = .file contents

/-- A path leads to a manifest. -/
inductive LeadsTo (surroundings : Surroundings) (path : String) (kind? : Option Kind) :
    Located → Prop where
  /-- The path of a file leads to it. If no kind is declared, its name tells the kind. -/
  | file {contents : Option String} (hfile : surroundings.entry path = .file contents) :
    LeadsTo surroundings path kind? ⟨path, kind?.getD (Kind.ofPath path), contents⟩
  /-- The path of a directory leads to the first of the files in it that are looked for. -/
  | member {before behind : List Kind} {kind : Kind} {contents : Option String}
    (hdirectory : surroundings.entry path = .directory)
    (hwanted : wanted kind? = before ++ kind :: behind)
    (hbefore : ∀ other ∈ before, ¬ IsFile surroundings (joinPath path other.fileName))
    (hfile : surroundings.entry (joinPath path kind.fileName) = .file contents) :
    LeadsTo surroundings path kind? ⟨joinPath path kind.fileName, kind, contents⟩

/-- A path leads to no manifest: nothing is there, or a directory without such a file. -/
def LeadsNowhere (surroundings : Surroundings) (path : String) (kind? : Option Kind) : Prop :=
  surroundings.entry path = .missing ∨
    surroundings.entry path = .directory ∧
      ∀ kind ∈ wanted kind?, ¬ IsFile surroundings (joinPath path kind.fileName)

section

variable {surroundings : Surroundings} {path : String} {declared : Option String}

/-- A file of a kind in a directory is found if it is there. -/
theorem manifestIn?_eq_some_iff {kind : Kind} {file : Located} :
    manifestIn? surroundings path kind = some file ↔
      ∃ contents, surroundings.entry (joinPath path kind.fileName) = .file contents ∧
        file = ⟨joinPath path kind.fileName, kind, contents⟩ := by
  unfold manifestIn?
  dsimp only
  cases surroundings.entry (joinPath path kind.fileName) <;> simp [eq_comm]

/-- A file of a kind is not found if it is not there. -/
theorem manifestIn?_eq_none_iff {kind : Kind} :
    manifestIn? surroundings path kind = none ↔
      ¬ IsFile surroundings (joinPath path kind.fileName) := by
  unfold manifestIn? IsFile
  dsimp only
  cases surroundings.entry (joinPath path kind.fileName) <;> simp

/-- What is looked for at a path after the declared kind was read. -/
def locateAt (surroundings : Surroundings) (path : String) (kind? : Option Kind) :
    Except RunError Located :=
  match surroundings.entry path with
  | .missing => .error (.unreadable (": " ++ path ++ " does not exist"))
  | .file contents => .ok ⟨path, kind?.getD (Kind.ofPath path), contents⟩
  | .directory =>
    match (wanted kind?).findSome? (manifestIn? surroundings path) with
    | some found => .ok found
    | none => .error (.unreadable (": no manifest file found in " ++ path))

/-- A manifest is located by reading the declared kind and looking at the path. -/
theorem locate_eq : locate surroundings path declared =
    match declared with
    | none => locateAt surroundings path none
    | some text =>
      match Kind.ofDeclared? text with
      | some kind => locateAt surroundings path (some kind)
      | none => .error (.manifest (Failure.unknownKind text).message) := by
  unfold locate
  cases declared with
  | none => rfl
  | some text =>
    dsimp only
    cases Kind.ofDeclared? text <;> rfl

/-- A manifest is found where the path leads to. -/
theorem locateAt_eq_ok_iff {kind? : Option Kind} {file : Located} :
    locateAt surroundings path kind? = .ok file ↔ LeadsTo surroundings path kind? file := by
  unfold locateAt
  cases hentry : surroundings.entry path with
  | missing =>
    refine iff_of_false (by simp) fun h => ?_
    cases h with
    | file hfile => exact absurd (hentry.symm.trans hfile) (by simp)
    | member hdirectory => exact absurd (hentry.symm.trans hdirectory) (by simp)
  | file contents =>
    dsimp only
    constructor
    · intro h
      rw [← Except.ok.inj h]
      exact .file hentry
    · intro h
      cases h with
      | file hfile => rw [Entry.file.inj (hentry.symm.trans hfile)]
      | member hdirectory => exact absurd (hentry.symm.trans hdirectory) (by simp)
  | directory =>
    dsimp only
    constructor
    · intro h
      split at h
      · next found hfound =>
        obtain rfl := Except.ok.inj h
        -- The search ends at the first kind that there is a file of.
        obtain ⟨before, kind, behind, hwanted, hkind, hbefore⟩ :=
          List.findSome?_eq_some_iff.1 hfound
        obtain ⟨contents, hfile, rfl⟩ := manifestIn?_eq_some_iff.1 hkind
        exact .member hentry hwanted (fun other hother =>
          manifestIn?_eq_none_iff.1 (hbefore other hother)) hfile
      · exact absurd h (by simp)
    · intro h
      cases h with
      | file hfile => exact absurd (hentry.symm.trans hfile) (by simp)
      | member _ hwanted hbefore hfile =>
        have hfound := List.findSome?_eq_some_iff.2 ⟨_, _, _, hwanted,
          manifestIn?_eq_some_iff.2 ⟨_, hfile, rfl⟩,
          fun other hother => manifestIn?_eq_none_iff.2 (hbefore other hother)⟩
        rw [hfound]

/-- No manifest is found exactly if the path leads nowhere. -/
theorem locateAt_eq_error_iff {kind? : Option Kind} :
    (∃ e, locateAt surroundings path kind? = .error e) ↔
      LeadsNowhere surroundings path kind? := by
  unfold locateAt LeadsNowhere
  cases surroundings.entry path with
  | missing => simp
  | file contents => simp
  | directory =>
    have hnone : (wanted kind?).findSome? (manifestIn? surroundings path) = none ↔
        ∀ kind ∈ wanted kind?, ¬ IsFile surroundings (joinPath path kind.fileName) := by
      simp only [List.findSome?_eq_none_iff, manifestIn?_eq_none_iff]
    cases hfound : (wanted kind?).findSome? (manifestIn? surroundings path) with
    | none => simpa using hnone.1 hfound
    | some file =>
      rw [hfound] at hnone
      simpa using hnone

/-- A manifest that is not found has the code 2. -/
theorem exitCode_of_locate {e : RunError} (h : locate surroundings path declared = .error e) :
    e.exitCode = 2 := by
  -- With a kind or without one, the path is what leads nowhere.
  have hat : ∀ kind? cause, locateAt surroundings path kind? = .error cause →
      cause.exitCode = 2 := by
    intro kind? cause hcause
    unfold locateAt at hcause
    split at hcause
    · rw [← Except.error.inj hcause]
      exact RunError.exitCode_unreadable _
    · exact absurd hcause (by simp)
    · split at hcause
      · exact absurd hcause (by simp)
      · rw [← Except.error.inj hcause]
        exact RunError.exitCode_unreadable _
  rw [locate_eq] at h
  split at h
  · exact hat _ _ h
  · split at h
    · exact hat _ _ h
    · rw [← Except.error.inj h]
      exact RunError.exitCode_manifest _

/-- A manifest is located where the path leads to, given the kind that is declared. -/
theorem locate_eq_ok_iff {file : Located} :
    locate surroundings path declared = .ok file ↔
      ∃ kind?, Declares declared kind? ∧ LeadsTo surroundings path kind? file := by
  rw [locate_eq]
  cases declared with
  | none =>
    dsimp only
    rw [locateAt_eq_ok_iff]
    constructor
    · exact fun h => ⟨none, .nothing, h⟩
    · rintro ⟨kind?, ⟨⟩, h⟩
      exact h
  | some text =>
    dsimp only
    cases hkind : Kind.ofDeclared? text with
    | none =>
      simp [declares_some_iff, hkind]
    | some kind =>
      dsimp only
      rw [locateAt_eq_ok_iff]
      simp [declares_some_iff, hkind]

/-- No manifest is located exactly if the declared kind is none or the path leads nowhere. -/
theorem locate_eq_error_iff :
    (∃ e, locate surroundings path declared = .error e) ↔
      (∃ text, declared = some text ∧ Kind.ofDeclared? text = none) ∨
        ∃ kind?, Declares declared kind? ∧ LeadsNowhere surroundings path kind? := by
  rw [locate_eq]
  cases declared with
  | none =>
    dsimp only
    rw [locateAt_eq_error_iff]
    constructor
    · exact fun h => .inr ⟨none, .nothing, h⟩
    · rintro (⟨text, htext, -⟩ | ⟨kind?, ⟨⟩, h⟩)
      · exact absurd htext (by simp)
      · exact h
  | some text =>
    dsimp only
    cases hkind : Kind.ofDeclared? text with
    | none => simp [hkind]
    | some kind =>
      dsimp only
      rw [locateAt_eq_error_iff]
      simp [declares_some_iff, hkind]

end

/-! ## What becomes of a manifest -/

section

variable (surroundings : Surroundings) (o : Options)

/-- The options lead to a manifest. -/
def Finds (file : Located) : Prop :=
  ∃ kind?, Declares o.kind kind? ∧ LeadsTo surroundings o.path kind? file

/-- The options lead to a manifest whose text is loaded with this outcome. -/
inductive LoadsAs (file : Located) (outcome : Except Failure Validated) : Prop where
  /-- The manifest is found, it is text, and loading it has the outcome. -/
  | intro {contents : String} (hfinds : Finds surroundings o file)
    (hcontents : file.contents = some contents)
    (hload : load contents file.kind.name o.address o.mode = outcome)

/-- There is no manifest, or it is none. -/
inductive Unloadable : Prop where
  /-- The declared kind is none. -/
  | unknownKind {text : String} (hdeclared : o.kind = some text)
    (hkind : Kind.ofDeclared? text = none)
  /-- The path leads to no manifest. -/
  | nowhere {kind? : Option Kind} (hdeclared : Declares o.kind kind?)
    (hnowhere : LeadsNowhere surroundings o.path kind?)
  /-- What the path leads to is not text. -/
  | notText {file : Located} (hfinds : Finds surroundings o file) (hcontents : file.contents = none)
  /-- Its text cannot be loaded, for another reason than a field. -/
  | failure {file : Located} {failure : Failure}
    (hload : LoadsAs surroundings o file (.error failure))
    (hother : ∀ cause, failure ≠ .field cause)

/-- The manifest is validated strictly and a field is wrong, or field errors are denied and there
are some. -/
inductive Rejected : Prop where
  /-- Strict validation ended at a field. -/
  | strictly {file : Located} {cause : FieldError} (hmode : o.mode = .strict)
    (hload : LoadsAs surroundings o file (.error (.field cause)))
  /-- Field errors were collected. -/
  | warnings {file : Located} {found : Validated} (hdeny : o.denyWarnings)
    (hload : LoadsAs surroundings o file (.ok found)) (herrors : found.errors ≠ [])

/-- The code and the output say what became of the manifest. -/
structure Outcome.Tells (outcome : Outcome) : Prop where
  /-- The code 2 says that none could be loaded. -/
  unloadable : outcome.code = 2 ↔ Unloadable surroundings o
  /-- The code 3 says that it was rejected. -/
  rejected : outcome.code = 3 ↔ ¬ Unloadable surroundings o ∧ Rejected surroundings o
  /-- The code 0 says that it was accepted. -/
  accepted : outcome.code = 0 ↔ ¬ Unloadable surroundings o ∧ ¬ Rejected surroundings o
  /-- There is output if one was loaded. -/
  output : outcome.output ≠ "" ↔ ∃ file found, LoadsAs surroundings o file (.ok found)
  /-- The output is a report on it. -/
  report : ∀ file found, LoadsAs surroundings o file (.ok found) →
    outcome.output = inspectOutput o file found

end

section

variable {surroundings : Surroundings} {o : Options} {file : Located}

/-- Options lead to the manifest that is located. -/
theorem finds_iff :
    Finds surroundings o file ↔ locate surroundings o.path o.kind = .ok file :=
  locate_eq_ok_iff.symm

/-- A manifest that is located is loaded in one way only. -/
theorem loadsAs_iff {contents : String} (hlocate : locate surroundings o.path o.kind = .ok file)
    (hcontents : file.contents = some contents) {other : Located}
    {outcome : Except Failure Validated} :
    LoadsAs surroundings o other outcome ↔
      other = file ∧ load contents file.kind.name o.address o.mode = outcome := by
  constructor
  · rintro ⟨hfinds, hothers, hload⟩
    obtain rfl := Except.ok.inj ((finds_iff.1 hfinds).symm.trans hlocate)
    obtain rfl := Option.some.inj (hothers.symm.trans hcontents)
    exact ⟨rfl, hload⟩
  · rintro ⟨rfl, hload⟩
    exact ⟨finds_iff.2 hlocate, hcontents, hload⟩

/-- Nothing is loaded if no manifest is located. -/
theorem not_loadsAs_of_error {e : RunError}
    (hlocate : locate surroundings o.path o.kind = .error e) (outcome : Except Failure Validated) :
    ¬ LoadsAs surroundings o file outcome := by
  rintro ⟨hfinds, -, -⟩
  exact absurd ((finds_iff.1 hfinds).symm.trans hlocate) (by simp)

/-- Nothing is loaded if the manifest is not text. -/
theorem not_loadsAs_of_notText (hlocate : locate surroundings o.path o.kind = .ok file)
    (hcontents : file.contents = none) {other : Located} (outcome : Except Failure Validated) :
    ¬ LoadsAs surroundings o other outcome := by
  rintro ⟨hfinds, hothers, -⟩
  obtain rfl := Except.ok.inj ((finds_iff.1 hfinds).symm.trans hlocate)
  exact absurd (hothers.symm.trans hcontents) (by simp)

/-- A text of lines is not empty if there is a line. -/
theorem textOfLines_cons_ne_empty (line : String) (rest : List String) :
    textOfLines (line :: rest) ≠ "" := by
  unfold textOfLines
  rw [List.map_cons, String.join_cons]
  simp

/-- A report is not empty. -/
theorem inspectOutput_ne_empty (o : Options) (file : Located) (found : Validated) :
    inspectOutput o file found ≠ "" := by
  unfold inspectOutput
  split
  · exact textOfLines_cons_ne_empty _ _
  · exact textOfLines_cons_ne_empty _ _

/-- A run tells that nothing was loaded. -/
theorem tells_of_unloadable {outcome : Outcome} (hcode : outcome.code = 2)
    (houtput : outcome.output = "") (hunloadable : Unloadable surroundings o)
    (hnone : ∀ other found, ¬ LoadsAs surroundings o other (.ok found)) :
    outcome.Tells surroundings o := by
  constructor
  · simp [hcode, hunloadable]
  · simp [hcode, hunloadable]
  · simp [hcode, hunloadable]
  · simp [houtput, hnone]
  · exact fun other found hload => absurd hload (hnone other found)

/-- Something can be loaded if a text is located that loading can only find a wrong field in. -/
theorem not_unloadable {contents : String} (hlocate : locate surroundings o.path o.kind = .ok file)
    (hcontents : file.contents = some contents)
    (h : ∀ other failure, LoadsAs surroundings o other (.error failure) →
      ∃ cause, failure = .field cause) : ¬ Unloadable surroundings o := by
  have hlocated : ∀ e, locate surroundings o.path o.kind ≠ .error e := by simp [hlocate]
  -- Each reason why nothing could be loaded is at odds with what was located and loaded.
  intro hunloadable
  cases hunloadable with
  | unknownKind hdeclared hkind =>
    obtain ⟨e, he⟩ := locate_eq_error_iff.2 (.inl ⟨_, hdeclared, hkind⟩)
    exact hlocated e he
  | nowhere hdeclared hnowhere =>
    obtain ⟨e, he⟩ := locate_eq_error_iff.2 (.inr ⟨_, hdeclared, hnowhere⟩)
    exact hlocated e he
  | notText hfinds hnone =>
    obtain rfl := Except.ok.inj ((finds_iff.1 hfinds).symm.trans hlocate)
    exact absurd (hcontents.symm.trans hnone) (by simp)
  | failure hload hother =>
    obtain ⟨cause, hcause⟩ := h _ _ hload
    exact hother cause hcause

/-- A run tells that a field ended strict validation. -/
theorem tells_of_field {outcome : Outcome} (hcode : outcome.code = 3) (houtput : outcome.output = "")
    {cause : FieldError} (hmode : o.mode = .strict)
    (hloads : ∀ other result, LoadsAs surroundings o other result ↔
      other = file ∧ .error (.field cause) = result)
    (hunloadable : ¬ Unloadable surroundings o) : outcome.Tells surroundings o := by
  have hrejected : Rejected surroundings o := .strictly hmode ((hloads _ _).2 ⟨rfl, rfl⟩)
  constructor
  · simp [hcode, hunloadable]
  · simp [hcode, hunloadable, hrejected]
  · simp [hcode, hrejected]
  · simp [houtput, hloads]
  · simp [hloads]

/-- A run tells that a manifest was loaded. -/
theorem tells_of_loaded {outcome : Outcome} {found : Validated}
    (hcode : outcome.code = if o.denyWarnings && !found.errors.isEmpty then 3 else 0)
    (houtput : outcome.output = inspectOutput o file found)
    (hloads : ∀ other result, LoadsAs surroundings o other result ↔
      other = file ∧ .ok found = result)
    (hunloadable : ¬ Unloadable surroundings o) : outcome.Tells surroundings o := by
  have hrejected : Rejected surroundings o ↔ o.denyWarnings ∧ found.errors ≠ [] := by
    constructor
    · rintro (⟨-, hload⟩ | ⟨hdeny, hload, herrors⟩)
      · exact absurd ((hloads _ _).1 hload).2 (by simp)
      · obtain ⟨-, hfound⟩ := (hloads _ _).1 hload
        rw [Except.ok.inj hfound]
        exact ⟨hdeny, herrors⟩
    · rintro ⟨hdeny, herrors⟩
      exact .warnings hdeny ((hloads _ _).2 ⟨rfl, rfl⟩) herrors
  -- The code goes by denied errors alone, for strict validation has not failed.
  have hcases : outcome.code = 3 ∧ Rejected surroundings o ∨
      outcome.code = 0 ∧ ¬ Rejected surroundings o := by
    rw [hcode, hrejected]
    by_cases hdeny : o.denyWarnings <;> by_cases herrors : found.errors = [] <;>
      simp [hdeny, herrors]
  constructor
  · rcases hcases with ⟨h, -⟩ | ⟨h, -⟩ <;> simp [h, hunloadable]
  · rcases hcases with ⟨h, hr⟩ | ⟨h, hr⟩ <;> simp [h, hr, hunloadable]
  · rcases hcases with ⟨h, hr⟩ | ⟨h, hr⟩ <;> simp [h, hr, hunloadable]
  · refine iff_of_true ?_ ⟨file, found, (hloads _ _).2 ⟨rfl, rfl⟩⟩
    rw [houtput]
    exact inspectOutput_ne_empty o file found
  · intro other record hload
    obtain ⟨rfl, hrecord⟩ := (hloads _ _).1 hload
    rw [houtput, Except.ok.inj hrecord]

/-- A field is found wrong only where validation is strict. -/
theorem strict_of_load_eq_field {contents declared : String} {address : Option String} {mode : Mode}
    {cause : FieldError} (h : load contents declared address mode = .error (.field cause)) :
    mode = .strict := by
  cases mode with
  | strict => rfl
  | lenient => exact absurd (load_lenient_eq_error_iff.1 h) (parse_ne_field contents declared _ cause)

/-- A manifest that is not text has the code 2, and there is no output. -/
theorem inspectFile_of_notText (o : Options) (hcontents : file.contents = none) :
    (inspectFile o file).code = 2 ∧ (inspectFile o file).output = "" := by
  unfold inspectFile
  rw [hcontents]
  exact ⟨RunError.exitCode_unreadable _, rfl⟩

/-- A manifest that cannot be loaded has the code of the reason, and there is no output. -/
theorem inspectFile_of_error {contents : String} (hcontents : file.contents = some contents)
    {failure : Failure}
    (hload : load contents file.kind.name o.address o.mode = .error failure) :
    (inspectFile o file).code = (loadError file.path failure).exitCode ∧
      (inspectFile o file).output = "" := by
  unfold inspectFile
  rw [hcontents]
  dsimp only
  rw [hload]
  exact ⟨rfl, rfl⟩

/-- A manifest that is loaded has a code that goes by its field errors, and there is a report. -/
theorem inspectFile_of_ok {contents : String} (hcontents : file.contents = some contents)
    {found : Validated} (hload : load contents file.kind.name o.address o.mode = .ok found) :
    (inspectFile o file).code = (if o.denyWarnings && !found.errors.isEmpty then 3 else 0) ∧
      (inspectFile o file).output = inspectOutput o file found := by
  unfold inspectFile
  rw [hcontents]
  dsimp only
  rw [hload]
  exact ⟨rfl, rfl⟩

/-- A failure other than at a field has the code 2. -/
theorem exitCode_loadError {failure : Failure} (h : ∀ cause, failure ≠ .field cause)
    (path : String) : (loadError path failure).exitCode = 2 := by
  cases failure with
  | field cause => exact absurd rfl (h cause)
  | _ => exact RunError.exitCode_manifest _

/-- What a manifest that is located ends in tells what became of it. -/
theorem tells_inspectFile (hlocate : locate surroundings o.path o.kind = .ok file) :
    (inspectFile o file).Tells surroundings o := by
  cases hcontents : file.contents with
  | none =>
    obtain ⟨hcode, houtput⟩ := inspectFile_of_notText o hcontents
    exact tells_of_unloadable hcode houtput (.notText (finds_iff.2 hlocate) hcontents)
      fun other found => not_loadsAs_of_notText hlocate hcontents _
  | some contents =>
    have hloads : ∀ other result, LoadsAs surroundings o other result ↔
        other = file ∧ load contents file.kind.name o.address o.mode = result :=
      fun _ _ => loadsAs_iff hlocate hcontents
    cases hload : load contents file.kind.name o.address o.mode with
    | ok found =>
      rw [hload] at hloads
      obtain ⟨hcode, houtput⟩ := inspectFile_of_ok hcontents hload
      refine tells_of_loaded hcode houtput hloads (not_unloadable hlocate hcontents ?_)
      simp [hloads]
    | error failure =>
      rw [hload] at hloads
      obtain ⟨hcode, houtput⟩ := inspectFile_of_error hcontents hload
      -- A wrong field rejects the manifest, while every other failure means that there is none.
      by_cases hfield : ∃ cause, failure = .field cause
      · obtain ⟨cause, rfl⟩ := hfield
        refine tells_of_field (hcode.trans (RunError.exitCode_validation _)) houtput
          (strict_of_load_eq_field hload) hloads (not_unloadable hlocate hcontents ?_)
        intro other failure hfailure
        exact ⟨cause, (Except.error.inj ((hloads _ _).1 hfailure).2).symm⟩
      · have hother : ∀ cause, failure ≠ .field cause := not_exists.1 hfield
        refine tells_of_unloadable (hcode.trans (exitCode_loadError hother _)) houtput
          (.failure ((hloads file _).2 ⟨rfl, rfl⟩) hother) ?_
        simp [hloads]

/-- An inspection tells what became of the manifest. -/
theorem tells_inspect (surroundings : Surroundings) (o : Options) :
    (inspect surroundings o).Tells surroundings o := by
  unfold inspect
  cases hlocate : locate surroundings o.path o.kind with
  | ok file => exact tells_inspectFile hlocate
  | error e =>
    refine tells_of_unloadable (exitCode_of_locate hlocate) rfl ?_
      fun other found => not_loadsAs_of_error hlocate _
    rcases locate_eq_error_iff.1 ⟨e, hlocate⟩ with ⟨text, htext, hkind⟩ | ⟨kind?, hkind, hnowhere⟩
    · exact .unknownKind htext hkind
    · exact .nowhere hkind hnowhere

end

/-! ## Runs -/

/-- The code of a run that tells what became of a manifest is not that of broken settings. -/
theorem Outcome.Tells.code_ne_one {surroundings : Surroundings} {o : Options} {outcome : Outcome}
    (h : outcome.Tells surroundings o) : outcome.code ≠ 1 := by
  intro hcode
  have hunloadable : ¬ Unloadable surroundings o := fun hu => by simpa [hcode] using h.unloadable.2 hu
  by_cases hrejected : Rejected surroundings o
  · simpa [hcode] using h.rejected.2 ⟨hunloadable, hrejected⟩
  · simpa [hcode] using h.accepted.2 ⟨hunloadable, hrejected⟩

/-- Whatever the surroundings are in which a command line asks for an inspection, the code is 1 exactly
if the settings are broken, and then there is no output. Else the code and the output tell what became
of the manifest under the options that are asked for. -/
theorem exit_codes_of_command? {surroundings : Surroundings} {arguments : List String} {c : Command}
    (h : command? arguments = some c) (hinspect : c.action = .inspect) :
    ((run surroundings arguments).code = 1 ↔ SettingsBroken surroundings) ∧
      (SettingsBroken surroundings → (run surroundings arguments).output = "") ∧
      (¬ SettingsBroken surroundings → ∃ found, Configures surroundings found ∧
        (run surroundings arguments).Tells surroundings (c.options surroundings found)) := by
  rw [run_of_command? h surroundings]
  cases hsettings : settings surroundings with
  | error e =>
    have hbroken := settings_eq_error_iff.1 ⟨e, hsettings⟩
    have hrun : c.run surroundings = fail e.exitCode e.message := by
      rw [Command.run, hsettings]
    rw [hrun]
    exact ⟨iff_of_true (exitCode_of_settings hsettings) hbroken, fun _ => rfl,
      fun hright => absurd hbroken hright⟩
  | ok found =>
    have hright : ¬ SettingsBroken surroundings := by
      rw [← settings_eq_error_iff, hsettings]
      simp
    have htells := tells_inspect surroundings (c.options surroundings found)
    rw [Command.run_inspect hinspect hsettings]
    exact ⟨iff_of_false htells.code_ne_one hright, fun hbroken => absurd hbroken hright,
      fun _ => ⟨found, configures_of_settings hsettings, htells⟩⟩

/-- Whatever the surroundings and the arguments of an inspection are, its code is 1 exactly if the
settings are broken, and then there is no output. Else the code and the output tell what became of
the manifest, where the settings and the arguments decide whether validation is strict and the
arguments whether field errors are denied. -/
theorem inspect_exit_codes {surroundings : Surroundings} {arguments : List String}
    {general given : Given} (h : readArguments arguments = .ok (.run .inspect general given)) :
    ((run surroundings arguments).code = 1 ↔ SettingsBroken surroundings) ∧
      (SettingsBroken surroundings → (run surroundings arguments).output = "") ∧
      (¬ SettingsBroken surroundings → ∃ found o, Configures surroundings found ∧
        o = options surroundings found general given ∧
        (o.mode = .strict ↔ .strict ∈ general.switches ++ given.switches ∨ found.strict) ∧
        (o.denyWarnings ↔ .denyWarnings ∈ general.switches ++ given.switches) ∧
        (run surroundings arguments).Tells surroundings o) := by
  let c := Command.ofGiven .inspect general given
  have hcommand : command? arguments = some c :=
    command?_eq_some_iff.2 ⟨.inspect, general, given, h, rfl⟩
  obtain ⟨hcode, houtput, htells⟩ := @exit_codes_of_command? surroundings _ _ hcommand rfl
  refine ⟨hcode, houtput, fun hright => ?_⟩
  obtain ⟨found, hfound, ho⟩ := htells hright
  refine ⟨found, _, hfound, rfl, ?_, Command.has_ofGiven .inspect general given .denyWarnings, ho⟩
  rw [← Command.has_ofGiven .inspect]
  exact c.mode_options_eq_strict_iff surroundings found

/-- A directory with a library that has no name, and with settings that ask for strict validation. -/
def strictSurroundings : Surroundings where
  environment := fun name => if name = "PKGMANIFEST_CONFIG" then some "config.toml" else none
  entry := ((FileTree.empty.addFile "config.toml" (some "strict = true")).addFile
    "lib/library.properties" (some "version=1.0.0")).entry

/-- A directory with a library that has no name, and no settings. -/
def namelessSurroundings : Surroundings where
  environment := fun _ => none
  entry := (FileTree.empty.addFile "lib/library.properties" (some "version=1.0.0")).entry

set_option maxRecDepth 8000 in
/-- The code 3 says that a library is rejected and that its directory and the settings are right. It is
rejected without a report as the settings ask for strict validation, and with one as an option denies
field errors. -/
theorem inspect_exit_codes_strictSurroundings :
    ((run strictSurroundings ["inspect", "lib"]).code = 3 ∧ ¬ SettingsBroken strictSurroundings ∧
      ∃ found o, Configures strictSurroundings found ∧ o.path = "lib" ∧
        ¬ Unloadable strictSurroundings o ∧ Rejected strictSurroundings o) ∧
    let arguments := ["--json", "inspect", "--deny-warnings", "lib", "--kind", "library-properties",
      "--remote-url=https://a.b/r"]
    (run namelessSurroundings arguments).code = 3 ∧
      (run namelessSurroundings arguments).output ≠ "" ∧ ∃ o, o.json ∧ o.mode = .lenient ∧
        o.kind = some "library-properties" ∧ o.address = some "https://a.b/r" ∧
        Rejected namelessSurroundings o ∧
        ∃ file found, LoadsAs namelessSurroundings o file (.ok found) ∧
          (run namelessSurroundings arguments).output = inspectOutput o file found := by
  refine ⟨?_, ?_⟩
  · have hread : readArguments ["inspect", "lib"] =
        .ok (.run .inspect {} { values := [(.path, "lib")] }) := rfl
    have hcode : (run strictSurroundings ["inspect", "lib"]).code = 3 := by decide +kernel
    obtain ⟨hbroken, -, htells⟩ := inspect_exit_codes hread
    have hright : ¬ SettingsBroken strictSurroundings := fun h => by
      simpa [hcode] using hbroken.2 h
    obtain ⟨found, o, hfound, rfl, -, -, ho⟩ := htells hright
    obtain ⟨hloadable, hrejected⟩ := ho.rejected.1 hcode
    exact ⟨hcode, hright, found, _, hfound, rfl, hloadable, hrejected⟩
  · intro arguments
    have hread : readArguments arguments =
        .ok (.run .inspect { switches := [.json] }
          { switches := [.denyWarnings]
            values := [(.remoteUrl, "https://a.b/r"), (.kind, "library-properties"),
              (.path, "lib")] }) := rfl
    have hcode : (run namelessSurroundings arguments).code = 3 := by decide +kernel
    have houtput : (run namelessSurroundings arguments).output ≠ "" := by decide +kernel
    obtain ⟨hbroken, -, htells⟩ := inspect_exit_codes hread
    have hright : ¬ SettingsBroken namelessSurroundings := fun h => by
      simpa [hcode] using hbroken.2 h
    obtain ⟨found, o, hfound, rfl, -, -, ho⟩ := htells hright
    -- There are no settings, so that the mode is the usual one.
    obtain rfl : {} = found := Except.ok.inj (settings_eq_ok_iff.2 hfound)
    obtain ⟨file, record, hload⟩ := ho.output.1 houtput
    exact ⟨hcode, houtput, _, rfl, rfl, rfl, rfl, (ho.rejected.1 hcode).2, file, record, hload,
      ho.report file record hload⟩

end Manifest.CommandLine
