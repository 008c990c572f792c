import Manifest.Proofs.Commands
import Manifest.Proofs.ExitCodes

/-!
# Runs on a directory and on a file in it

A run on a directory is the run on the file that it leads to (`run_directory_eq_run_file`): what is
detected is detected again, and inspecting it ends in the same code, output and messages, with and
without a declared kind.

In a directory the kind is that of the file name that was looked for, while the kind of a file is
found from the end of its path. The two agree whatever stands in front of the file name
(`Kind.ofPath_append_fileName`), as no file name of a kind ends in what is looked for of another.
-/

namespace Manifest

/-! ## Kinds by the ends of paths -/

namespace Kind

/-- What a text ends in it ends in behind other texts too. -/
theorem endsWith_append {text ending : String} (h : endsWith text ending) (front : String) :
    endsWith (front ++ text) ending := by
  unfold endsWith at h ⊢
  rw [List.isSuffixOf_iff_suffix] at h ⊢
  rw [String.toList_append]
  exact h.trans (List.suffix_append _ _)

/-- Where neither of two texts ends in the other, what ends in the one does not end in the other. -/
theorem not_endsWith_append {text ending : String} (h : ¬ endsWith text ending)
    (h' : ¬ endsWith ending text) (front : String) : ¬ endsWith (front ++ text) ending := by
  unfold endsWith at h h' ⊢
  rw [List.isSuffixOf_iff_suffix] at h h' ⊢
  rw [String.toList_append]
  intro hends
  rcases List.suffix_or_suffix_of_suffix hends (List.suffix_append _ _) with hs | hs
  · exact h hs
  · exact h' hs

/-- A path that ends in the file name of a kind suggests this kind. -/
theorem ofPath_append_fileName (front : String) (kind : Kind) :
    ofPath (front ++ kind.fileName) = kind := by
  have hends : ∀ {ending : String}, endsWith kind.fileName ending →
      endsWith (front ++ kind.fileName) ending := fun h => endsWith_append h front
  have hnot : ∀ {ending : String},
      ¬ endsWith kind.fileName ending ∧ ¬ endsWith ending kind.fileName →
        ¬ endsWith (front ++ kind.fileName) ending := fun h => not_endsWith_append h.1 h.2 front
  unfold ofPath
  cases kind with
  | libraryProperties => rw [if_pos (hends (by decide))]
  | platformJson => rw [if_neg (hnot (by decide)), if_pos (hends (by decide))]
  | moduleJson =>
    rw [if_neg (hnot (by decide)), if_neg (hnot (by decide)), if_pos (hends (by decide))]
  | packageJson =>
    rw [if_neg (hnot (by decide)), if_neg (hnot (by decide)), if_neg (hnot (by decide)),
      if_pos (hends (by decide))]
  | libraryJson =>
    rw [if_neg (hnot (by decide)), if_neg (hnot (by decide)), if_neg (hnot (by decide)),
      if_neg (hnot (by decide))]

end Kind

namespace CommandLine

/-- The path of a name in a directory ends in the name. -/
theorem exists_joinPath_eq (directory name : String) :
    ∃ front, joinPath directory name = front ++ name := by
  unfold joinPath
  split
  · exact ⟨directory, rfl⟩
  · exact ⟨directory ++ "/", rfl⟩

/-! ## Finding a manifest again -/

section

variable {surroundings : Surroundings} {directory : String} {kind? : Option Kind} {file : Located}

/-- The path of the file that a directory leads to leads to that file, as the kind that it was found
as. -/
theorem leadsTo_itself (hdirectory : surroundings.entry directory = .directory)
    (h : LeadsTo surroundings directory kind? file) :
    LeadsTo surroundings file.path kind? file := by
  cases h with
  | file hfile => exact absurd (hdirectory.symm.trans hfile) (by simp)
  | @member before behind kind contents _ hwanted _ hfile =>
    have hkind : kind?.getD (Kind.ofPath (joinPath directory kind.fileName)) = kind := by
      cases kind? with
      | none =>
        obtain ⟨front, hfront⟩ := exists_joinPath_eq directory kind.fileName
        rw [Option.getD_none, hfront, Kind.ofPath_append_fileName]
      | some declared =>
        -- A declared kind is the only one that is looked for.
        have hmem : kind ∈ wanted (some declared) := by rw [hwanted]; simp
        exact (List.mem_singleton.1 hmem).symm
    have hagain : LeadsTo surroundings _ kind? _ := .file hfile
    rwa [hkind] at hagain

/-- The file that a directory leads to is one in it, under the name of its kind. -/
theorem path_of_leadsTo (hdirectory : surroundings.entry directory = .directory)
    (h : LeadsTo surroundings directory kind? file) :
    file.path = joinPath directory file.kind.fileName ∧ IsFile surroundings file.path := by
  cases h with
  | file hfile => exact absurd (hdirectory.symm.trans hfile) (by simp)
  | member _ _ _ hfile => exact ⟨rfl, _, hfile⟩

/-- The file that a directory leads to is located from its path too. -/
theorem locate_itself {declared : Option String}
    (hdirectory : surroundings.entry directory = .directory)
    (h : locate surroundings directory declared = .ok file) :
    locate surroundings file.path declared = .ok file := by
  obtain ⟨kind?, hdeclares, hleads⟩ := locate_eq_ok_iff.1 h
  exact locate_eq_ok_iff.2 ⟨kind?, hdeclares, leadsTo_itself hdirectory hleads⟩

/-- A file in a directory that has the name of the declared kind is located. -/
theorem locate_of_declares {declared : Option String} {kind : Kind} {contents : Option String}
    (hdirectory : surroundings.entry directory = .directory)
    (hdeclares : Declares declared (some kind))
    (hfile : surroundings.entry (joinPath directory kind.fileName) = .file contents) :
    locate surroundings directory declared =
      .ok ⟨joinPath directory kind.fileName, kind, contents⟩ := by
  refine locate_eq_ok_iff.2 ⟨some kind, hdeclares, ?_⟩
  exact @LeadsTo.member surroundings directory (some kind) [] [] kind contents hdirectory rfl
    (fun _ h => absurd h List.not_mem_nil) hfile

end

/-! ## Runs on another path -/

/-- Arguments that differ in nothing but the path ask for the same command on another path. -/
theorem Command.ofGiven_eq_onPath {action : Action} {general given given' : Given} {path : String}
    (hswitches : given'.switches = given.switches) (hpath : given'.values.lookup .path = some path)
    (hvalues : ∀ slot ≠ .path, given'.values.lookup slot = given.values.lookup slot) :
    Command.ofGiven action general given' = (Command.ofGiven action general given).onPath path := by
  unfold ofGiven onPath
  rw [hswitches]
  congr 1
  funext slot
  dsimp only
  split
  · next h => rw [h, hpath]
  · next h => exact hvalues slot h

/-- A run succeeds and shows a path and a kind, on a line or as JSON. -/
def Reports (outcome : Outcome) (path : String) (kind : Kind) : Prop :=
  outcome = succeed [kind.name ++ "\t" ++ path] ∨
    outcome = succeed
      [(Json.Value.object [("kind", .string kind.name), ("path", .string path)]).pretty]

/-- Runs that are asked for some commands are the same with another path in place of theirs. -/
def RunsAlike (surroundings : Surroundings) (asked : Command → Prop) (path : String) : Prop :=
  ∀ (arguments arguments' : List String) (c : Command), command? arguments = some c → asked c →
    command? arguments' = some (c.onPath path) →
      run surroundings arguments' = run surroundings arguments

section

variable {surroundings : Surroundings} {o : Options} {file : Located}

/-- To detect a manifest that is located is to show its path and its kind. -/
theorem reports_detect (h : locate surroundings o.path none = .ok file) :
    Reports (detect surroundings o) file.path file.kind := by
  unfold detect
  rw [h]
  dsimp only
  split
  · exact .inr rfl
  · exact .inl rfl

/-- Where no manifest is located none is detected. -/
theorem code_detect_of_error {e : RunError} (h : locate surroundings o.path none = .error e) :
    (detect surroundings o).code = 2 := by
  unfold detect
  rw [h]
  exact exitCode_of_locate h

/-- Detecting is the same for two paths that lead to the same manifest. -/
theorem detect_onPath {path : String} (h : locate surroundings o.path none = .ok file)
    (hpath : locate surroundings path none = .ok file) :
    detect surroundings { o with path := path } = detect surroundings o := by
  unfold detect
  rw [h, hpath]

/-- Inspecting is the same for two paths that lead to the same manifest. -/
theorem inspect_onPath {path : String} (h : locate surroundings o.path o.kind = .ok file)
    (hpath : locate surroundings path o.kind = .ok file) :
    inspect surroundings { o with path := path } = inspect surroundings o := by
  unfold inspect
  rw [h, hpath]
  rfl

end

section

variable {surroundings : Surroundings} {asked : Command → Prop} {path : String}

/-- Runs are alike if, whatever the settings, what they do is. -/
theorem runsAlike_of_act (h : ∀ c, asked c → ∀ found,
      act surroundings { c.options surroundings found with path := path } c.action =
        act surroundings (c.options surroundings found) c.action) :
    RunsAlike surroundings asked path := by
  intro arguments arguments' c hc hasked hc'
  rw [run_of_command? hc, run_of_command? hc', Command.run, Command.run]
  cases settings surroundings with
  | error e => rfl
  | ok found => exact h c hasked found

/-- Runs that detect are alike if both paths lead to the same manifest. -/
theorem runsAlike_detect {file : Located} (hasked : ∀ c, asked c → c.action = .detect ∧
      locate surroundings c.path none = .ok file)
    (hpath : locate surroundings path none = .ok file) : RunsAlike surroundings asked path := by
  refine runsAlike_of_act fun c hc found => ?_
  obtain ⟨haction, hlocate⟩ := hasked c hc
  rw [haction]
  exact detect_onPath hlocate hpath

/-- Runs that inspect are alike if both paths lead to the same manifest. -/
theorem runsAlike_inspect (hasked : ∀ c, asked c → c.action = .inspect ∧ ∃ file,
      locate surroundings c.path (c.value .kind) = .ok file ∧
        locate surroundings path (c.value .kind) = .ok file) :
    RunsAlike surroundings asked path := by
  refine runsAlike_of_act fun c hc found => ?_
  obtain ⟨haction, file, hlocate, hpath⟩ := hasked c hc
  rw [haction]
  exact inspect_onPath (o := c.options surroundings found) hlocate hpath

end

/-- A command to detect that succeeds has located a manifest and shows its path and its kind. -/
theorem exists_located_of_detect {surroundings : Surroundings} {c : Command}
    (haction : c.action = .detect) (hcode : (c.run surroundings).code = 0) :
    ∃ file, locate surroundings c.path none = .ok file ∧
      Reports (c.run surroundings) file.path file.kind := by
  rw [Command.run] at hcode ⊢
  cases hsettings : settings surroundings with
  | error e =>
    rw [hsettings] at hcode
    exact absurd (hcode.symm.trans (exitCode_of_settings hsettings)) (by decide)
  | ok found =>
    rw [hsettings] at hcode
    dsimp only at hcode ⊢
    rw [haction] at hcode ⊢
    cases hlocate : locate surroundings c.path none with
    | error e =>
      have htwo := code_detect_of_error (o := c.options surroundings found) hlocate
      exact absurd (hcode.symm.trans htwo) (by decide)
    | ok file =>
      exact ⟨file, rfl, reports_detect (o := c.options surroundings found) hlocate⟩

/-- Consider a directory. If detecting the manifest in it succeeds, then the run shows a path and a
kind, detecting that path is the same run, and without a declared kind inspecting the path is the
same run as inspecting the directory. With a declared kind, if the directory has a file of the
kind's name, inspecting that file is the same run as inspecting the directory. -/
theorem run_directory_eq_run_file {surroundings : Surroundings} {directory : String}
    (hdirectory : surroundings.entry directory = .directory) :
    (∀ {arguments : List String} {c : Command}, command? arguments = some c →
      c.action = .detect → c.path = directory → (run surroundings arguments).code = 0 →
      ∃ path kind, Reports (run surroundings arguments) path kind ∧
        path = joinPath directory kind.fileName ∧ IsFile surroundings path ∧
        RunsAlike surroundings (fun d => d.action = .detect ∧ d.path = directory) path ∧
        RunsAlike surroundings
          (fun i => i.action = .inspect ∧ i.path = directory ∧ i.value .kind = none) path) ∧
    ∀ kind, IsFile surroundings (joinPath directory kind.fileName) →
      RunsAlike surroundings
        (fun i => i.action = .inspect ∧ i.path = directory ∧ Declares (i.value .kind) (some kind))
        (joinPath directory kind.fileName) := by
  constructor
  · rintro arguments c hc haction rfl hcode
    rw [run_of_command? hc] at hcode ⊢
    obtain ⟨file, hlocate, hreports⟩ := exists_located_of_detect haction hcode
    have hitself : locate surroundings file.path none = .ok file :=
      locate_itself hdirectory hlocate
    obtain ⟨kind?, -, hleads⟩ := locate_eq_ok_iff.1 hlocate
    obtain ⟨hpath, hfile⟩ := path_of_leadsTo hdirectory hleads
    refine ⟨file.path, file.kind, hreports, hpath, hfile, ?_, ?_⟩
    · refine runsAlike_detect ?_ hitself
      rintro d ⟨hdetect, hsame⟩
      rw [hsame]
      exact ⟨hdetect, hlocate⟩
    · refine runsAlike_inspect ?_
      rintro i ⟨hinspect, hsame, hundeclared⟩
      rw [hsame, hundeclared]
      exact ⟨hinspect, file, hlocate, hitself⟩
  · rintro kind ⟨contents, hfile⟩
    refine runsAlike_inspect ?_
    rintro i ⟨hinspect, hsame, hdeclares⟩
    have hlocate := locate_of_declares hdirectory hdeclares hfile
    rw [hsame]
    exact ⟨hinspect, _, hlocate, locate_itself hdirectory hlocate⟩

/-- A directory with a library in two formats. -/
def twofoldSurroundings : Surroundings where
  environment := fun _ => none
  entry := ((FileTree.empty.addFile "lib/library.properties" (some "name=A")).addFile
    "lib/library.json" (some "\x7b\"name\": \"B\"\x7d")).entry

set_option maxRecDepth 8000 in
/-- The native format is what the directory leads to, and the other one can be declared. -/
theorem run_directory_eq_run_file_twofold :
    Reports (run twofoldSurroundings ["detect", "lib"]) "lib/library.json" .libraryJson ∧
      run twofoldSurroundings ["detect", "lib/library.json"] =
        run twofoldSurroundings ["detect", "lib"] ∧
      run twofoldSurroundings ["inspect", "--json", "lib/library.json"] =
        run twofoldSurroundings ["inspect", "lib", "--json"] ∧
      run twofoldSurroundings
          ["inspect", "lib/library.properties", "--kind", "library.properties"] =
        run twofoldSurroundings ["inspect", "lib", "--kind", "library.properties"] := by
  obtain ⟨hundeclared, hdeclared⟩ :=
    @run_directory_eq_run_file twofoldSurroundings "lib" (by decide +kernel)
  have hdetect : command? ["detect", "lib"] =
      some (.ofGiven .detect {} { values := [(.path, "lib")] }) := rfl
  have hrun : run twofoldSurroundings ["detect", "lib"] =
      succeed ["library-json\tlib/library.json"] := by decide +kernel
  obtain ⟨path, kind, hreports, hpath, -, hdetected, hinspected⟩ :=
    hundeclared hdetect rfl rfl (by rw [hrun]; rfl)
  have hkind : kind = .libraryJson := by
    rw [hrun, hpath] at hreports
    revert hreports
    unfold Reports
    cases kind <;> decide +kernel
  obtain rfl : path = "lib/library.json" := by rw [hpath, hkind]; decide
  have hproperties : IsFile twofoldSurroundings (joinPath "lib" "library.properties") :=
    ⟨some "name=A", by decide +kernel⟩
  have hkinds : Declares (some "library.properties") (some .libraryProperties) :=
    .kind (by decide +kernel)
  refine ⟨hkind ▸ hreports, hdetected _ _ _ hdetect ⟨rfl, rfl⟩ ?_,
    hinspected _ _ (.ofGiven .inspect {} { switches := [.json], values := [(.path, "lib")] }) rfl
      ⟨rfl, rfl, rfl⟩ ?_,
    hdeclared .libraryProperties hproperties _ _ (.ofGiven .inspect {}
      { values := [(.kind, "library.properties"), (.path, "lib")] }) rfl ⟨rfl, rfl, hkinds⟩ ?_⟩
  -- The values are given in another order, so that each slot is looked up.
  · refine congrArg some (@Command.ofGiven_eq_onPath .detect {} _
      { values := [(.path, "lib/library.json")] } _ rfl rfl ?_)
    rintro (_ | _ | _) <;> decide
  · refine congrArg some (@Command.ofGiven_eq_onPath .inspect {} _
      { switches := [.json], values := [(.path, "lib/library.json")] } _ rfl rfl ?_)
    rintro (_ | _ | _) <;> decide
  · refine congrArg some (@Command.ofGiven_eq_onPath .inspect {} _
      { values := [(.kind, "library.properties"), (.path, "lib/library.properties")] } _ rfl rfl ?_)
    rintro (_ | _ | _) <;> decide

end CommandLine

end Manifest
