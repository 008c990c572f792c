import Manifest.CommandLine.Run
import Manifest.Proofs.Decoding

/-!
# What a command line asks for

A run looks at its command line only for what it asks for: the action, the options without a value,
and the values (`run_of_command?`).

The arguments behind the word for the action are read one after the other (`readCommand_eq`). With
`--strict` put in among them, what is read stays the same but for that option
(`Stricter.argument`), so that the whole command line asks for the same with strict validation
(`adding_strict_of_command?`). The relation that is carried along allows for a value that is read
but not taken yet: the option that is put in takes it.
-/

namespace Manifest.CommandLine

open Decode (bind_eq_ok_iff map_eq_ok_iff)

/-! ## Commands -/

/-- What a command line asks for. -/
structure Command where
  /-- The action. -/
  action : Action
  /-- Whether an option without a value is given. -/
  has : Switch → Bool
  /-- The value of an option or argument, if it is given. -/
  value : Slot → Option String

namespace Command

/-- What the arguments in front of the word for the action and behind it ask for. -/
def ofGiven (action : Action) (general given : Given) : Command where
  action := action
  has := fun switch => general.switches.contains switch || given.switches.contains switch
  value := fun slot => given.values.lookup slot

/-- The path that is asked for. -/
def path (c : Command) : String :=
  (c.value .path).getD "."

/-- The options that a command and settings make up. -/
def options (c : Command) (surroundings : Surroundings) (found : Settings) : Options :=
  optionsOf surroundings found c.has c.value

/-- The same with one more option without a value. -/
def adding (c : Command) (switch : Switch) : Command :=
  { c with has := fun other => decide (other = switch) || c.has other }

/-- The same for another path. -/
def onPath (c : Command) (path : String) : Command :=
  { c with value := fun slot => if slot = .path then some path else c.value slot }

/-- What a run does that is asked for a command. -/
def run (c : Command) (surroundings : Surroundings) : Outcome :=
  match settings surroundings with
  | .error e => fail e.exitCode e.message
  | .ok found => act surroundings (c.options surroundings found) c.action

end Command

/-- The command that a command line asks for, if it can be understood and does not ask for the
version. -/
def command? (arguments : List String) : Option Command :=
  match readArguments arguments with
  | .ok (.run action general given) => some (.ofGiven action general given)
  | _ => none

/-- A command line asks for a command if its arguments are read as that. -/
theorem command?_eq_some_iff {arguments : List String} {c : Command} :
    command? arguments = some c ↔ ∃ action general given,
      readArguments arguments = .ok (.run action general given) ∧
        c = .ofGiven action general given := by
  unfold command?
  split
  · next action general given hread =>
    rw [Option.some.injEq]
    constructor
    · rintro rfl
      exact ⟨action, general, given, hread, rfl⟩
    · rintro ⟨_, _, _, hsame, rfl⟩
      obtain ⟨rfl, rfl, rfl⟩ := Request.run.inj (Except.ok.inj (hread.symm.trans hsame))
      rfl
  · next hother =>
    refine iff_of_false (by simp) ?_
    rintro ⟨action, general, given, hread, -⟩
    exact hother _ _ _ hread

/-- A run does what its command line asks for, whatever else the command line says. -/
theorem run_of_command? {arguments : List String} {c : Command}
    (h : command? arguments = some c) (surroundings : Surroundings) :
    run surroundings arguments = c.run surroundings := by
  obtain ⟨action, general, given, hread, rfl⟩ := command?_eq_some_iff.1 h
  unfold run Command.run
  rw [hread]
  rfl

namespace Command

variable {c : Command}

/-- What arguments ask for is what is given in front of the word for the action or behind it. -/
theorem has_ofGiven (action : Action) (general given : Given) (switch : Switch) :
    (ofGiven action general given).has switch ↔ switch ∈ general.switches ++ given.switches := by
  simp [ofGiven]

/-- Validation is strict if the command or the settings say so. -/
theorem mode_options_eq_strict_iff (surroundings : Surroundings) (found : Settings) :
    (c.options surroundings found).mode = .strict ↔ c.has .strict ∨ found.strict := by
  unfold options optionsOf Settings.mode
  dsimp only
  split
  · simp_all
  · split <;> simp_all

/-- A command to inspect does so under the settings that can be had. -/
theorem run_inspect {surroundings : Surroundings} {found : Settings}
    (hinspect : c.action = .inspect) (hsettings : settings surroundings = .ok found) :
    c.run surroundings = inspect surroundings (c.options surroundings found) := by
  rw [run, hsettings]
  dsimp only
  rw [hinspect]
  rfl

end Command

/-! ## Reading arguments one after the other -/

/-- Reads an argument that is no option: the value that an option waits for, but not behind the mark,
or the path. -/
def takeWord (action : Action) (escaped : Bool) (given : Given) (argument : String) :
    Except UsageError (Bool × Given) :=
  if !escaped ∧ given.isWaiting then .ok (escaped, given.supply argument)
  else if action.takesPath ∧ !given.hasPath then
    (given.addSlot .path (some argument)).map (escaped, ·)
  else .error (.unexpected argument)

/-- Reads one argument behind the word for the action. -/
def takeArgument (action : Action) : Bool × Given → String → Except UsageError (Bool × Given)
  | (true, given), argument => takeWord action true given argument
  | (false, given), argument =>
    match look argument with
    | .escape => .ok (true, given)
    | .long => (takeLong action.switches action.slots given argument).map (false, ·)
    | .letters cs =>
      (takeLetters false given cs).bind fun
        | .taken given => .ok (false, given)
        | .version => .error (.unexpected argument)
    | .word => takeWord action false given argument

/-- Behind the word for the action no letter asks for the version. -/
theorem takeLetters_ne_version (given : Given) (cs : List Char) :
    takeLetters false given cs ≠ .ok .version := by
  induction cs generalizing given with
  | nil => simp [takeLetters]
  | cons c cs ih =>
    unfold takeLetters
    split
    · simp_all
    · next rest heq =>
      intro h
      obtain ⟨_, -, hrest⟩ := bind_eq_ok_iff.1 h
      rw [← (List.cons.inj heq).2] at hrest
      exact ih _ hrest
    · simp

/-- Reading arguments begins with reading the first one. -/
theorem readCommand_cons (action : Action) (general : Given) (escaped : Bool) (given : Given)
    (argument : String) (rest : List String) :
    readCommand action general escaped given (argument :: rest) =
      (takeArgument action (escaped, given) argument).bind fun next =>
        readCommand action general next.1 next.2 rest := by
  have hword : ∀ escaped : Bool, (if !escaped ∧ given.isWaiting then
        readCommand action general escaped (given.supply argument) rest
      else if action.takesPath ∧ !given.hasPath then
        (given.addSlot .path (some argument)).bind fun given =>
          readCommand action general escaped given rest
      else .error (.unexpected argument)) =
      (takeWord action escaped given argument).bind fun next =>
        readCommand action general next.1 next.2 rest := by
    intro escaped
    unfold takeWord
    split
    · rfl
    · split
      · cases given.addSlot .path (some argument) <;> rfl
      · rfl
  rw [readCommand]
  cases escaped with
  | true => exact hword true
  | false =>
    rw [takeArgument]
    cases hlook : look argument with
    | escape => rfl
    | long => cases takeLong action.switches action.slots given argument <;> rfl
    | letters cs =>
      dsimp only
      cases hletters : takeLetters false given cs with
      | error e => rfl
      | ok found =>
        cases found with
        | taken given => rfl
        | version => exact absurd hletters (takeLetters_ne_version given cs)
    | word => exact hword false

/-- Arguments are read one after the other, and what is pending is taken at the end. -/
theorem readCommand_eq (action : Action) (general : Given) (escaped : Bool) (given : Given)
    (arguments : List String) : readCommand action general escaped given arguments =
      (arguments.foldlM (takeArgument action) (escaped, given)).bind fun last =>
        last.2.settle.map (.run action general) := by
  induction arguments generalizing escaped given with
  | nil =>
    cases hsettle : given.settle <;>
      simp [readCommand, hsettle, pure, bind, Except.pure, Except.bind, Except.map]
  | cons argument rest ih =>
    rw [readCommand_cons, List.foldlM_cons]
    cases takeArgument action (escaped, given) argument with
    | error e => rfl
    | ok next => exact ih next.1 next.2

/-- A command is read if each of its arguments is, and the last value can be taken. -/
theorem readCommand_eq_ok_iff {action action' : Action} {general general' given given' : Given}
    {escaped : Bool} {arguments : List String} :
    readCommand action general escaped given arguments = .ok (.run action' general' given') ↔
      action' = action ∧ general' = general ∧
        ∃ last, arguments.foldlM (takeArgument action) (escaped, given) = .ok last ∧
          last.2.settle = .ok given' := by
  rw [readCommand_eq]
  constructor
  · intro h
    obtain ⟨last, hlast, hrun⟩ := bind_eq_ok_iff.1 h
    obtain ⟨settled, hsettle, hsame⟩ := map_eq_ok_iff.1 hrun
    obtain ⟨rfl, rfl, rfl⟩ := Request.run.inj hsame
    exact ⟨rfl, rfl, last, hlast, hsettle⟩
  · rintro ⟨rfl, rfl, last, hlast, hsettle⟩
    rw [hlast]
    exact map_eq_ok_iff.2 ⟨given', hsettle, rfl⟩

/-! ## Taking what is pending -/

namespace Given

variable {given settled : Given}

/-- Taking what is pending leaves nothing pending and the options without a value as they are. -/
theorem settle_eq_ok (h : given.settle = .ok settled) :
    settled.pending = none ∧ settled.switches = given.switches := by
  unfold settle at h
  split at h
  · next hpending =>
    obtain rfl := Except.ok.inj h
    exact ⟨hpending, rfl⟩
  · exact absurd h (by simp)
  · split at h
    · exact absurd h (by simp)
    · split at h
      · exact absurd h (by simp)
      · obtain rfl := Except.ok.inj h
        exact ⟨rfl, rfl⟩

/-- Where nothing is pending there is nothing to take. -/
theorem settle_of_none (h : given.pending = none) : given.settle = .ok given := by
  unfold settle
  rw [h]

/-- The options without a value do not matter when what is pending is taken. -/
theorem settle_withSwitches (given : Given) (switches : List Switch) :
    ({ given with switches := switches } : Given).settle =
      given.settle.map fun settled => { settled with switches := switches } := by
  unfold settle
  dsimp only
  split
  · next h => rw [Except.map, h]
  · rfl
  · split
    · rfl
    · split <;> rfl

/-- Where a value can be taken, no option waits for one. -/
theorem isWaiting_of_settle (h : given.settle = .ok settled) : given.isWaiting = false := by
  unfold settle at h
  unfold isWaiting
  split at h <;> simp_all

/-- A path that is taken is there as before. -/
theorem hasPath_of_settle (h : given.settle = .ok settled) : settled.hasPath = given.hasPath := by
  unfold settle at h
  split at h
  · rw [Except.ok.inj h]
  · exact absurd h (by simp)
  · next slot value hpending =>
    have hsymm : (Slot.path == slot) = (slot == Slot.path) := by cases slot <;> rfl
    split at h
    · exact absurd h (by simp)
    · split at h
      · exact absurd h (by simp)
      · rw [← Except.ok.inj h]
        unfold hasPath
        rw [hpending, List.lookup_cons, hsymm]
        cases hslot : slot == Slot.path <;> simp [hslot]

/-- An option without a value is added to what is taken. -/
theorem addSwitch_eq_ok_iff {switch : Switch} {added : Given} :
    given.addSwitch switch = .ok added ↔ ∃ settled, given.settle = .ok settled ∧
      switch ∉ settled.switches ∧
      added = { settled with switches := switch :: settled.switches } := by
  unfold addSwitch
  rw [bind_eq_ok_iff]
  refine exists_congr fun settled => and_congr_right fun _ => ?_
  split
  · next h => simp [List.contains_iff_mem.1 h]
  · next h =>
    have hnew : switch ∉ settled.switches := fun hmem => h (List.contains_iff_mem.2 hmem)
    simp [hnew, eq_comm]

/-- An option with a value waits behind what is taken. -/
theorem addSlot_eq_ok_iff {slot : Slot} {value : Option String} {added : Given} :
    given.addSlot slot value = .ok added ↔ ∃ settled, given.settle = .ok settled ∧
      added = { settled with pending := some (slot, value) } := by
  unfold addSlot
  rw [bind_eq_ok_iff]
  exact exists_congr fun settled => and_congr_right fun _ => by rw [Except.ok.injEq, eq_comm]

end Given

/-! ## Putting in an option -/

/-- The other arguments say what these say, and that validation is to be strict. A value that these
have pending may be taken there. -/
inductive Stricter (given : Given) : Given → Prop where
  /-- They differ in the options without a value, of which one is added. -/
  | intro {base : Given} {switches : List Switch} (hbase : base = given ∨ given.settle = .ok base)
    (hswitches : ∀ s, s ∈ switches ↔ s = .strict ∨ s ∈ given.switches) :
    Stricter given { base with switches := switches }

namespace Stricter

variable {given other given' other' : Given}

/-- An option waits for its value in both or in none. -/
theorem isWaiting (h : Stricter given other) : other.isWaiting = given.isWaiting := by
  cases h with
  | @intro base switches hbase hswitches =>
    rcases hbase with rfl | hsettle
    · rfl
    · have hpending : base.pending = none := (Given.settle_eq_ok hsettle).1
      rw [Given.isWaiting_of_settle hsettle, Given.isWaiting, hpending]

/-- A path is given in both or in none. -/
theorem hasPath (h : Stricter given other) : other.hasPath = given.hasPath := by
  cases h with
  | @intro base switches hbase hswitches =>
    rcases hbase with rfl | hsettle
    · rfl
    · rw [← Given.hasPath_of_settle hsettle]
      rfl

/-- Taking what is pending in both leaves the same values. -/
theorem settle (h : Stricter given other) (hgiven : given.settle = .ok given') :
    ∃ switches, other.settle = .ok { given' with switches := switches } ∧
      ∀ s, s ∈ switches ↔ s = .strict ∨ s ∈ given'.switches := by
  cases h with
  | @intro base switches hbase hswitches =>
    have hsettle : base.settle = .ok given' := by
      rcases hbase with rfl | hsettle
      · exact hgiven
      · obtain rfl := Except.ok.inj (hsettle.symm.trans hgiven)
        exact Given.settle_of_none (Given.settle_eq_ok hsettle).1
    refine ⟨switches, ?_, ?_⟩
    · rw [Given.settle_withSwitches, hsettle]
      rfl
    · rw [(Given.settle_eq_ok hgiven).2]
      exact hswitches

/-- An option without a value is added to both. -/
theorem addSwitch (h : Stricter given other) {switch : Switch}
    (hgiven : given.addSwitch switch = .ok given') (hother : other.addSwitch switch = .ok other') :
    Stricter given' other' := by
  obtain ⟨taken, htaken, -, rfl⟩ := Given.addSwitch_eq_ok_iff.1 hgiven
  obtain ⟨_, hsettled, -, rfl⟩ := Given.addSwitch_eq_ok_iff.1 hother
  obtain ⟨switches, hsettle, hswitches⟩ := h.settle htaken
  obtain rfl := Except.ok.inj (hsettle.symm.trans hsettled)
  let added : Given := { taken with switches := switch :: taken.switches }
  refine @intro added added (switch :: switches) (.inl rfl) fun s => ?_
  rw [List.mem_cons, List.mem_cons, hswitches]
  exact or_left_comm

/-- An option with a value is added to both. -/
theorem addSlot (h : Stricter given other) {slot : Slot} {value : Option String}
    (hgiven : given.addSlot slot value = .ok given')
    (hother : other.addSlot slot value = .ok other') : Stricter given' other' := by
  obtain ⟨taken, htaken, rfl⟩ := Given.addSlot_eq_ok_iff.1 hgiven
  obtain ⟨_, hsettled, rfl⟩ := Given.addSlot_eq_ok_iff.1 hother
  obtain ⟨switches, hsettle, hswitches⟩ := h.settle htaken
  obtain rfl := Except.ok.inj (hsettle.symm.trans hsettled)
  let added : Given := { taken with pending := some (slot, value) }
  exact @intro added added switches (.inl rfl) hswitches

/-- An option that waits in both is given its value. -/
theorem supply (h : Stricter given other) (hwaiting : given.isWaiting) (value : String) :
    Stricter (given.supply value) (other.supply value) := by
  cases h with
  | @intro base switches hbase hswitches =>
    rcases hbase with rfl | hsettle
    · exact @intro (base.supply value) (base.supply value) switches (.inl rfl) hswitches
    · rw [Given.isWaiting_of_settle hsettle] at hwaiting
      exact absurd hwaiting (by decide)

/-- One-letter options are added to both. -/
theorem letters (h : Stricter given other) {cs : List Char}
    (hgiven : takeLetters false given cs = .ok (.taken given'))
    (hother : takeLetters false other cs = .ok (.taken other')) :
    Stricter given' other' := by
  induction cs generalizing given other with
  | nil =>
    obtain rfl := LetterEnd.taken.inj (Except.ok.inj hgiven)
    obtain rfl := LetterEnd.taken.inj (Except.ok.inj hother)
    exact h
  | cons c cs ih =>
    by_cases hc : c = 'v'
    · subst hc
      obtain ⟨_, hadd, hrest⟩ := bind_eq_ok_iff.1 hgiven
      obtain ⟨_, hadd', hrest'⟩ := bind_eq_ok_iff.1 hother
      exact ih (h.addSwitch hadd hadd') hrest hrest'
    · simp [takeLetters] at hgiven

/-- A long option is added to both. -/
theorem long (h : Stricter given other) {switches : List Switch} {slots : List Slot}
    {argument : String} (hgiven : takeLong switches slots given argument = .ok given')
    (hother : takeLong switches slots other argument = .ok other') :
    Stricter given' other' := by
  unfold takeLong at hgiven hother
  generalize cutValue argument = cut at hgiven hother
  obtain ⟨name, value⟩ := cut
  dsimp only at hgiven hother
  cases hswitch : switches.find? fun s => s.name == name with
  | some switch =>
    rw [hswitch] at hgiven hother
    cases value with
    | none => exact h.addSwitch hgiven hother
    | some value =>
      cases hsettle : given.settle <;> simp [hsettle, Except.bind] at hgiven
  | none =>
    rw [hswitch] at hgiven hother
    cases hslot : slots.find? fun s => s.option? == some name with
    | some slot =>
      rw [hslot] at hgiven hother
      exact h.addSlot hgiven hother
    | none =>
      rw [hslot] at hgiven
      exact absurd hgiven (by simp)

/-- An argument that is no option is read the same way in both. -/
theorem word (h : Stricter given other) {action : Action} {escaped escaped' escaped'' : Bool}
    {argument : String} (hgiven : takeWord action escaped given argument = .ok (escaped', given'))
    (hother : takeWord action escaped other argument = .ok (escaped'', other')) :
    escaped'' = escaped' ∧ Stricter given' other' := by
  unfold takeWord at hgiven hother
  rw [h.isWaiting, h.hasPath] at hother
  split at hgiven
  · next hwaiting =>
    rw [if_pos hwaiting] at hother
    obtain ⟨rfl, rfl⟩ := Prod.mk.inj (Except.ok.inj hgiven)
    obtain ⟨rfl, rfl⟩ := Prod.mk.inj (Except.ok.inj hother)
    exact ⟨rfl, h.supply hwaiting.2 argument⟩
  · next hwaiting =>
    rw [if_neg hwaiting] at hother
    split at hgiven
    · next hpath =>
      rw [if_pos hpath] at hother
      obtain ⟨_, hadd, hresult⟩ := map_eq_ok_iff.1 hgiven
      obtain ⟨_, hadd', hresult'⟩ := map_eq_ok_iff.1 hother
      obtain ⟨rfl, rfl⟩ := Prod.mk.inj hresult
      obtain ⟨rfl, rfl⟩ := Prod.mk.inj hresult'
      exact ⟨rfl, h.addSlot hadd hadd'⟩
    · exact absurd hgiven (by simp)

/-- An argument is read the same way in both. -/
theorem argument (h : Stricter given other) {action : Action} {escaped escaped' escaped'' : Bool}
    {argument : String}
    (hgiven : takeArgument action (escaped, given) argument = .ok (escaped', given'))
    (hother : takeArgument action (escaped, other) argument = .ok (escaped'', other')) :
    escaped'' = escaped' ∧ Stricter given' other' := by
  cases escaped with
  | true => exact h.word hgiven hother
  | false =>
    rw [takeArgument] at hgiven hother
    cases hlook : look argument with
    | escape =>
      rw [hlook] at hgiven hother
      obtain ⟨rfl, rfl⟩ := Prod.mk.inj (Except.ok.inj hgiven)
      obtain ⟨rfl, rfl⟩ := Prod.mk.inj (Except.ok.inj hother)
      exact ⟨rfl, h⟩
    | long =>
      rw [hlook] at hgiven hother
      obtain ⟨_, htake, hresult⟩ := map_eq_ok_iff.1 hgiven
      obtain ⟨_, htake', hresult'⟩ := map_eq_ok_iff.1 hother
      obtain ⟨rfl, rfl⟩ := Prod.mk.inj hresult
      obtain ⟨rfl, rfl⟩ := Prod.mk.inj hresult'
      exact ⟨rfl, h.long htake htake'⟩
    | letters cs =>
      rw [hlook] at hgiven hother
      obtain ⟨found, htake, hresult⟩ := bind_eq_ok_iff.1 hgiven
      obtain ⟨found', htake', hresult'⟩ := bind_eq_ok_iff.1 hother
      cases found with
      | version => exact absurd htake (takeLetters_ne_version given cs)
      | taken taken =>
        cases found' with
        | version => exact absurd htake' (takeLetters_ne_version other cs)
        | taken taken' =>
          obtain ⟨rfl, rfl⟩ := Prod.mk.inj (Except.ok.inj hresult)
          obtain ⟨rfl, rfl⟩ := Prod.mk.inj (Except.ok.inj hresult')
          exact ⟨rfl, h.letters htake htake'⟩
    | word =>
      rw [hlook] at hgiven hother
      exact h.word hgiven hother

/-- Arguments are read the same way in both, one after the other. -/
theorem arguments (h : Stricter given other) {action : Action} {arguments : List String}
    {escaped : Bool} {last last' : Bool × Given}
    (hgiven : arguments.foldlM (takeArgument action) (escaped, given) = .ok last)
    (hother : arguments.foldlM (takeArgument action) (escaped, other) = .ok last') :
    Stricter last.2 last'.2 := by
  induction arguments generalizing escaped given other with
  | nil =>
    obtain rfl := Except.ok.inj hgiven
    obtain rfl := Except.ok.inj hother
    exact h
  | cons argument rest ih =>
    rw [List.foldlM_cons] at hgiven hother
    obtain ⟨⟨e, next⟩, hstep, hrest⟩ := bind_eq_ok_iff.1 hgiven
    obtain ⟨⟨e', next'⟩, hstep', hrest'⟩ := bind_eq_ok_iff.1 hother
    obtain ⟨rfl, hnext⟩ := h.argument hstep hstep'
    exact ih hnext hrest hrest'

end Stricter

/-- Behind the mark, reading arguments adds no option without a value. -/
theorem switches_foldlM_takeArgument {action : Action} {arguments : List String} {given : Given}
    {last : Bool × Given}
    (h : arguments.foldlM (takeArgument action) (true, given) = .ok last) :
    last.2.switches = given.switches := by
  induction arguments generalizing given with
  | nil => rw [← Except.ok.inj h]
  | cons argument rest ih =>
    rw [List.foldlM_cons] at h
    obtain ⟨next, hstep, hrest⟩ := bind_eq_ok_iff.1 h
    have hnext : next.1 = true ∧ next.2.switches = given.switches := by
      change takeWord action true given argument = .ok next at hstep
      unfold takeWord at hstep
      rw [if_neg (by simp)] at hstep
      split at hstep
      · obtain ⟨_, hadd, rfl⟩ := map_eq_ok_iff.1 hstep
        obtain ⟨taken, htaken, rfl⟩ := Given.addSlot_eq_ok_iff.1 hadd
        exact ⟨rfl, (Given.settle_eq_ok htaken).2⟩
      · exact absurd hstep (by simp)
    obtain ⟨escaped, next⟩ := next
    obtain ⟨rfl, hswitches⟩ := hnext
    rw [ih hrest, hswitches]

/-- Where `--strict` is read as the option, what is read is stricter. -/
theorem stricter_of_takeArgument {action : Action} {given : Given} {next : Bool × Given}
    (h : takeArgument action (false, given) "--strict" = .ok next) :
    next.1 = false ∧ Stricter given next.2 := by
  change (takeLong action.switches action.slots given "--strict").map (false, ·) = .ok next at h
  obtain ⟨taken, htake, rfl⟩ := map_eq_ok_iff.1 h
  refine ⟨rfl, ?_⟩
  have hadd : given.addSwitch .strict = .ok taken := by
    cases action with
    | inspect => exact htake
    | detect => exact nomatch htake
    | kinds => exact nomatch htake
  obtain ⟨settled, hsettle, -, rfl⟩ := Given.addSwitch_eq_ok_iff.1 hadd
  refine @Stricter.intro given settled (.strict :: settled.switches) (.inr hsettle) fun s => ?_
  rw [List.mem_cons, (Given.settle_eq_ok hsettle).2]

section

variable {before after : List String}

/-- Arguments behind the word for the action, with `--strict` put in and read as the option, say the
same but for that. -/
theorem stricter_of_readCommand {action action' action'' : Action}
    {general general' general'' given given' given'' : Given} {escaped : Bool}
    (hplain : readCommand action general escaped given (before ++ after) =
      .ok (.run action' general' given'))
    (hstrict : readCommand action general escaped given (before ++ "--strict" :: after) =
      .ok (.run action'' general'' given''))
    (hoff : .strict ∉ general'.switches ++ given'.switches)
    (hon : .strict ∈ general''.switches ++ given''.switches) :
    action'' = action' ∧ general'' = general' ∧ given''.values = given'.values ∧
      ∀ s, s ∈ given''.switches ↔ s = .strict ∨ s ∈ given'.switches := by
  obtain ⟨rfl, rfl, last, hlast, hsettle⟩ := readCommand_eq_ok_iff.1 hplain
  obtain ⟨rfl, rfl, last', hlast', hsettle'⟩ := readCommand_eq_ok_iff.1 hstrict
  rw [List.mem_append, not_or] at hoff
  rw [List.mem_append, or_iff_right hoff.1] at hon
  refine ⟨rfl, rfl, ?_⟩
  -- Both have read the same up to where the option is put in.
  rw [List.foldlM_append] at hlast hlast'
  obtain ⟨⟨e, middle⟩, hbefore, hafter⟩ := bind_eq_ok_iff.1 hlast
  obtain ⟨_, hbefore', hafter'⟩ := bind_eq_ok_iff.1 hlast'
  obtain rfl := Except.ok.inj (hbefore.symm.trans hbefore')
  cases e with
  | true =>
    -- Behind the mark it would be a word, and no option would be added at all.
    have hswitches : last'.2.switches = last.2.switches := by
      rw [switches_foldlM_takeArgument hafter', switches_foldlM_takeArgument hafter]
    rw [(Given.settle_eq_ok hsettle').2, hswitches, ← (Given.settle_eq_ok hsettle).2] at hon
    exact absurd hon hoff.2
  | false =>
    rw [List.foldlM_cons] at hafter'
    obtain ⟨⟨e, next⟩, hstep, hrest⟩ := bind_eq_ok_iff.1 hafter'
    obtain ⟨rfl, hnext⟩ := stricter_of_takeArgument hstep
    obtain ⟨switches, hsettled, hswitches⟩ :=
      (hnext.arguments hafter hrest).settle hsettle
    obtain rfl := Except.ok.inj (hsettled.symm.trans hsettle')
    exact ⟨rfl, hswitches⟩

/-- A command line with `--strict` put in and read as the option says the same but for that. -/
theorem stricter_of_readGeneral {action' action'' : Action}
    {general general' general'' given' given'' : Given} {escaped : Bool}
    (hplain : readGeneral escaped general (before ++ after) = .ok (.run action' general' given'))
    (hstrict : readGeneral escaped general (before ++ "--strict" :: after) =
      .ok (.run action'' general'' given''))
    (hoff : .strict ∉ general'.switches ++ given'.switches)
    (hon : .strict ∈ general''.switches ++ given''.switches) :
    action'' = action' ∧ general'' = general' ∧ given''.values = given'.values ∧
      ∀ s, s ∈ given''.switches ↔ s = .strict ∨ s ∈ given'.switches := by
  induction before generalizing escaped general with
  | nil =>
    -- In front of the word for the action there is no such option.
    cases escaped <;> exact nomatch hstrict
  | cons argument before ih =>
    cases escaped with
    | true => exact nomatch hplain
    | false =>
      rw [List.cons_append, readGeneral, if_neg (by decide)] at hplain hstrict
      cases hlook : look argument with
      | escape =>
        rw [hlook] at hplain hstrict
        exact ih hplain hstrict
      | long =>
        rw [hlook] at hplain hstrict
        dsimp only at hplain hstrict
        split at hplain
        · exact absurd hplain (by simp)
        · next hversion =>
          rw [if_neg hversion] at hstrict
          obtain ⟨_, htake, hrest⟩ := bind_eq_ok_iff.1 hplain
          obtain ⟨_, htake', hrest'⟩ := bind_eq_ok_iff.1 hstrict
          obtain rfl := Except.ok.inj (htake.symm.trans htake')
          exact ih hrest hrest'
      | letters cs =>
        rw [hlook] at hplain hstrict
        obtain ⟨found, htake, hrest⟩ := bind_eq_ok_iff.1 hplain
        obtain ⟨_, htake', hrest'⟩ := bind_eq_ok_iff.1 hstrict
        obtain rfl := Except.ok.inj (htake.symm.trans htake')
        cases found with
        | version => exact nomatch hrest
        | taken given => exact ih hrest hrest'
      | word =>
        rw [hlook] at hplain hstrict
        dsimp only at hplain hstrict
        cases hword : Action.ofWord? argument with
        | none =>
          rw [hword] at hplain
          exact nomatch hplain
        | some action =>
          rw [hword] at hplain hstrict
          exact stricter_of_readCommand hplain hstrict hoff hon

/-- A command line with `--strict` put in and read as the option asks for the same, and for strict
validation. -/
theorem adding_strict_of_command? {c c' : Command} (hplain : command? (before ++ after) = some c)
    (hstrict : command? (before ++ "--strict" :: after) = some c') (hoff : ¬ c.has .strict)
    (hon : c'.has .strict) : c' = c.adding .strict := by
  obtain ⟨action, general, given, hread, rfl⟩ := command?_eq_some_iff.1 hplain
  obtain ⟨action', general', given', hread', rfl⟩ := command?_eq_some_iff.1 hstrict
  rw [Command.has_ofGiven] at hoff hon
  obtain ⟨rfl, rfl, hvalues, hswitches⟩ := stricter_of_readGeneral hread hread' hoff hon
  unfold Command.adding Command.ofGiven
  congr 1
  · funext switch
    rw [Bool.eq_iff_iff]
    simp only [Bool.or_eq_true, List.contains_iff_mem, decide_eq_true_eq, hswitches]
    exact or_left_comm
  · rw [hvalues]

end

end Manifest.CommandLine
