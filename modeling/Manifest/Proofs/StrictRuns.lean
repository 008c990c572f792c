import Manifest.Proofs.Commands
import Manifest.Proofs.ExitCodes

/-!
# Runs with strict validation

What `--strict` changes about the exit code of an inspection (`code_adding_strict`): nothing if
field errors are denied, and else it turns 0 into 3, exactly where lenient validation collects an
error about a mandatory field.

Strict validation raises such an error and lenient validation collects it, and then the codes come
about in different ways. Without such an error both modes load the same record with the same errors.
-/

namespace Manifest

/-! ## Errors about mandatory fields -/

/-- An error is about a mandatory field. -/
def Validated.LacksMandatory (found : Validated) : Prop :=
  ∃ e ∈ found.errors, e.field.isMandatory

/-- What is loaded leniently is cut at its first error, if that is about a mandatory field, by
strict validation. As errors about mandatory fields come first, it is cut if there is any. -/
theorem load_strict_of_lenient {contents declared : String} {address : Option String}
    {found : Validated} (h : load contents declared address .lenient = .ok found) :
    (found.LacksMandatory →
      ∃ cause, load contents declared address .strict = .error (.field cause)) ∧
    (¬ found.LacksMandatory → load contents declared address .strict = .ok found) := by
  cases hparse : parse contents declared address with
  | error failure =>
    rw [load_of_parse_error _ hparse] at h
    exact absurd h (by simp)
  | ok fields =>
    rw [load_of_parse_ok _ hparse, validate_lenient] at h
    obtain rfl : validateLeniently fields = found := Except.ok.inj h
    rw [load_of_parse_ok _ hparse, validate_strict]
    have hfirst : MandatoryFirst (validateLeniently fields).errors := mandatoryFirst_errors fields
    unfold Validated.LacksMandatory Validated.cut
    cases herrors : (validateLeniently fields).errors with
    | nil => simp [Except.mapError]
    | cons first rest =>
      rw [herrors] at hfirst
      obtain ⟨hrest, -⟩ := List.pairwise_cons.1 hfirst
      by_cases hmandatory : first.field.isMandatory
      · simp [hmandatory, Except.mapError]
      · have hnone : ∀ e ∈ rest, ¬ e.field.isMandatory := fun e he hmand =>
          hmandatory (hrest e he hmand)
        simpa [hmandatory, Except.mapError] using hnone

namespace CommandLine

/-! ## Codes of inspections -/

namespace Options

/-- The same options with another mode. -/
def inMode (o : Options) (mode : Mode) : Options :=
  { o with mode := mode }

variable (o : Options) (mode : Mode)

@[simp] theorem inMode_path : (o.inMode mode).path = o.path :=
  rfl

@[simp] theorem inMode_kind : (o.inMode mode).kind = o.kind :=
  rfl

@[simp] theorem inMode_address : (o.inMode mode).address = o.address :=
  rfl

@[simp] theorem inMode_mode : (o.inMode mode).mode = mode :=
  rfl

@[simp] theorem inMode_denyWarnings : (o.inMode mode).denyWarnings = o.denyWarnings :=
  rfl

end Options

/-- Options lead to a manifest that is loaded with an error about a mandatory field. -/
def CollectsMandatory (surroundings : Surroundings) (o : Options) : Prop :=
  ∃ file found, LoadsAs surroundings o file (.ok found) ∧ found.LacksMandatory

section

variable {surroundings : Surroundings} {o : Options} {file : Located}

/-- A manifest that is located is what is inspected. -/
theorem inspect_of_locate (h : locate surroundings o.path o.kind = .ok file) :
    inspect surroundings o = inspectFile o file := by
  unfold inspect
  rw [h]

/-- Where an error about a mandatory field is collected, strict validation rejects the manifest, and
lenient validation does so only if errors are denied. -/
theorem codes_of_collectsMandatory (h : CollectsMandatory surroundings (o.inMode .lenient)) :
    (inspect surroundings (o.inMode .strict)).code = 3 ∧
      (inspect surroundings (o.inMode .lenient)).code = if o.denyWarnings then 3 else 0 := by
  obtain ⟨file, found, ⟨hfinds, hcontents, hload⟩, hlacks⟩ := h
  have hlocate : locate surroundings o.path o.kind = .ok file := finds_iff.1 hfinds
  rw [Options.inMode_mode, Options.inMode_address] at hload
  obtain ⟨cause, hstrict⟩ := (load_strict_of_lenient hload).1 hlacks
  have hne : found.errors ≠ [] := by
    obtain ⟨e, he, -⟩ := hlacks
    exact List.ne_nil_of_mem he
  constructor
  · rw [inspect_of_locate (o := o.inMode .strict) hlocate,
      (inspectFile_of_error (o := o.inMode .strict) hcontents hstrict).1]
    exact RunError.exitCode_validation _
  · rw [inspect_of_locate (o := o.inMode .lenient) hlocate,
      (inspectFile_of_ok (o := o.inMode .lenient) hcontents hload).1, Options.inMode_denyWarnings]
    simp [hne]

/-- Where none is collected, the code is the same in both modes. -/
theorem code_of_not_collectsMandatory
    (h : ¬ CollectsMandatory surroundings (o.inMode .lenient)) :
    (inspect surroundings (o.inMode .strict)).code =
      (inspect surroundings (o.inMode .lenient)).code := by
  cases hlocate : locate surroundings o.path o.kind with
  | error e =>
    unfold inspect
    rw [Options.inMode_path, Options.inMode_kind, Options.inMode_path, Options.inMode_kind, hlocate]
  | ok file =>
    rw [inspect_of_locate (o := o.inMode .strict) hlocate,
      inspect_of_locate (o := o.inMode .lenient) hlocate]
    cases hcontents : file.contents with
    | none =>
      rw [(inspectFile_of_notText (o.inMode .strict) hcontents).1,
        (inspectFile_of_notText (o.inMode .lenient) hcontents).1]
    | some contents =>
      cases hload : load contents file.kind.name o.address .lenient with
      | error failure =>
        have hstrict : load contents file.kind.name o.address .strict = .error failure :=
          load_of_parse_error .strict (load_lenient_eq_error_iff.1 hload)
        rw [(inspectFile_of_error (o := o.inMode .strict) hcontents hstrict).1,
          (inspectFile_of_error (o := o.inMode .lenient) hcontents hload).1]
      | ok found =>
        have hloads : LoadsAs surroundings (o.inMode .lenient) file (.ok found) :=
          ⟨finds_iff.2 hlocate, hcontents, hload⟩
        have hstrict : load contents file.kind.name o.address .strict = .ok found :=
          (load_strict_of_lenient hload).2 fun hlacks => h ⟨file, found, hloads, hlacks⟩
        rw [(inspectFile_of_ok (o := o.inMode .strict) hcontents hstrict).1,
          (inspectFile_of_ok (o := o.inMode .lenient) hcontents hload).1,
          Options.inMode_denyWarnings, Options.inMode_denyWarnings]

/-- What strict validation makes of the code of a lenient inspection. -/
theorem code_inMode_strict (hmode : o.inMode .lenient = o) :
    let lenient := (inspect surroundings o).code
    let strict := (inspect surroundings (o.inMode .strict)).code
    (o.denyWarnings → strict = lenient) ∧
      (¬ o.denyWarnings → (strict ≠ lenient → lenient = 0 ∧ strict = 3) ∧
        (strict ≠ lenient ↔ CollectsMandatory surroundings o)) := by
  intro lenient strict
  by_cases h : CollectsMandatory surroundings (o.inMode .lenient)
  · obtain ⟨hstrict, hlenient⟩ := codes_of_collectsMandatory h
    rw [hmode] at h hlenient
    have hthree : strict = 3 := hstrict
    have hcode : lenient = if o.denyWarnings then 3 else 0 := hlenient
    rw [hthree, hcode]
    cases o.denyWarnings <;> simp [h]
  · have hsame := code_of_not_collectsMandatory h
    rw [hmode] at h hsame
    have hcode : strict = lenient := hsame
    simp [hcode, h]

end

/-! ## Runs -/

/-- To ask for strict validation is to set its mode. -/
theorem Command.options_adding_strict (c : Command) (surroundings : Surroundings)
    (found : Settings) : (c.adding .strict).options surroundings found =
      (c.options surroundings found).inMode .strict := by
  simp [options, optionsOf, adding, Options.inMode]

/-- Without that the settings decide on the mode. -/
theorem Command.options_inMode {c : Command} (h : ¬ c.has .strict) (surroundings : Surroundings)
    (found : Settings) :
    (c.options surroundings found).inMode found.mode = c.options surroundings found := by
  simp [options, optionsOf, Options.inMode, h]

/-- Consider a command line for an inspection, and the same with `--strict` put in as an option. If
field errors are denied, both runs have the same code. Else, and if the settings do not ask for
strict validation themselves, the codes differ exactly where the run without `--strict` collects an
error about a mandatory field, and then it has the code 0 and the other run the code 3. -/
theorem code_adding_strict {surroundings : Surroundings} {before after : List String}
    {c c' : Command} (hplain : command? (before ++ after) = some c) (hinspect : c.action = .inspect)
    (hstrict : command? (before ++ "--strict" :: after) = some c') (hoff : ¬ c.has .strict)
    (hon : c'.has .strict) :
    let lenient := (run surroundings (before ++ after)).code
    let strict := (run surroundings (before ++ "--strict" :: after)).code
    (c.has .denyWarnings → strict = lenient) ∧
      (¬ c.has .denyWarnings → (∀ found, Configures surroundings found → ¬ found.strict) →
        (strict ≠ lenient → lenient = 0 ∧ strict = 3) ∧
        (strict ≠ lenient ↔ ∃ found, Configures surroundings found ∧
          CollectsMandatory surroundings (c.options surroundings found))) := by
  intro lenient strict
  obtain rfl := adding_strict_of_command? hplain hstrict hoff hon
  have hlenient : lenient = (c.run surroundings).code :=
    congrArg Outcome.code (run_of_command? hplain surroundings)
  have hstrictly : strict = ((c.adding .strict).run surroundings).code :=
    congrArg Outcome.code (run_of_command? hstrict surroundings)
  cases hsettings : settings surroundings with
  | error e =>
    have hnone : ∀ found, ¬ Configures surroundings found := fun found h => by
      rw [← settings_eq_ok_iff, hsettings] at h
      exact absurd h (by simp)
    have hsame : strict = lenient := by
      rw [hlenient, hstrictly, Command.run, Command.run, hsettings]
    simp [hsame, hnone]
  | ok found =>
    have hconfigures : ∀ other, Configures surroundings other ↔ other = found := fun other => by
      rw [← settings_eq_ok_iff, hsettings, Except.ok.injEq, eq_comm]
    rw [Command.run_inspect hinspect hsettings] at hlenient
    rw [@Command.run_inspect (c.adding .strict) _ _ hinspect hsettings,
      Command.options_adding_strict] at hstrictly
    have hmode := Command.options_inMode hoff surroundings found
    cases hset : found.strict with
    | true =>
      -- Then the mode is strict anyway.
      have hsame : strict = lenient := by
        rw [Settings.mode, hset, if_pos rfl] at hmode
        rw [hstrictly, hlenient, hmode]
      refine ⟨fun _ => hsame, fun _ hunset => ?_⟩
      exact absurd hset (hunset found ((hconfigures found).2 rfl))
    | false =>
      rw [Settings.mode, hset, if_neg (by decide)] at hmode
      obtain ⟨hdenying, hcollecting⟩ := @code_inMode_strict surroundings _ hmode
      rw [← hstrictly, ← hlenient] at hdenying hcollecting
      refine ⟨hdenying, fun hdeny _ => ?_⟩
      simpa only [hconfigures, exists_eq_left] using hcollecting hdeny

set_option maxRecDepth 8000 in
/-- With `--strict` the library is rejected, because of an error that is collected without it. If
errors are denied it is rejected in both modes. -/
theorem code_adding_strict_namelessLibrary :
    (run namelessSurroundings ["inspect", "lib"]).code = 0 ∧
      (run namelessSurroundings ["inspect", "--strict", "lib"]).code = 3 ∧
      (∃ found c, Configures namelessSurroundings found ∧ command? ["inspect", "lib"] = some c ∧
        CollectsMandatory namelessSurroundings (c.options namelessSurroundings found)) ∧
      (run namelessSurroundings ["inspect", "--strict", "--deny-warnings", "lib"]).code =
        (run namelessSurroundings ["inspect", "--deny-warnings", "lib"]).code := by
  have hunset : ∀ found, Configures namelessSurroundings found → ¬ found.strict := fun found h => by
    rw [← settings_eq_ok_iff] at h
    rw [← Except.ok.inj h]
    decide
  have hplain : command? (["inspect"] ++ ["lib"]) =
      some (.ofGiven .inspect {} { values := [(.path, "lib")] }) := rfl
  obtain ⟨-, hcode⟩ := @code_adding_strict namelessSurroundings _ _ _ _ hplain rfl rfl
    (by decide) (by decide)
  have hlenient : (run namelessSurroundings ["inspect", "lib"]).code = 0 := by decide +kernel
  have hstrict : (run namelessSurroundings ["inspect", "--strict", "lib"]).code = 3 := by
    decide +kernel
  have hdiffer : (run namelessSurroundings (["inspect"] ++ "--strict" :: ["lib"])).code ≠
      (run namelessSurroundings (["inspect"] ++ ["lib"])).code := by
    rw [List.singleton_append, List.singleton_append, hlenient, hstrict]
    decide
  obtain ⟨found, hfound, hcollects⟩ := (hcode (by decide) hunset).2.1 hdiffer
  refine ⟨hlenient, hstrict, ⟨found, _, hfound, hplain, hcollects⟩, ?_⟩
  have hdenying : command? (["inspect"] ++ ["--deny-warnings", "lib"]) =
      some (.ofGiven .inspect {} { switches := [.denyWarnings], values := [(.path, "lib")] }) := rfl
  exact (@code_adding_strict namelessSurroundings _ _ _ _ hdenying rfl rfl (by decide)
    (by decide)).1 (by decide)

end CommandLine

end Manifest
