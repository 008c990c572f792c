import Manifest.Proofs.ExitCodes

/-!
# Command lines as they are written

A command line consists of pieces: options without a value, options with a value, and the path. Each
piece can be written in certain ways (`Writes`), none of which needs the mark behind which nothing is
an option. A command line that consists of such texts asks for what its pieces say
(`command?_of_written`), as long as no piece says again what another one has said. The exit codes of
an inspection are therefore those under the options that the pieces make up
(`exit_codes_of_written`).

Every piece adds what it says to what is given (`take_writes`). A value is pending behind its piece
until something else is read, so that what is carried along is what is given once this is taken.
-/

namespace Manifest.CommandLine

open Decode (bind_eq_ok_iff map_eq_ok_iff)

/-! ## Pieces -/

/-- What one piece of a command line says. -/
inductive Piece where
  /-- An option without a value. -/
  | switch (switch : Switch)
  /-- The value of an option or argument. -/
  | value (slot : Slot) (text : String)
  deriving DecidableEq

/-- What a piece is about. -/
def Piece.subject : Piece → Switch ⊕ Slot
  | switch s => .inl s
  | value slot _ => .inr slot

/-- The arguments that a piece may be written as where these options and perhaps a path are taken. A
value that is an argument of its own may not look like an option, and the path may not be empty. -/
inductive Writes (switches : List Switch) (slots : List Slot) (path : Bool) :
    Piece → List String → Prop where
  /-- An option by its name. -/
  | name {s : Switch} (hs : s ∈ switches) : Writes switches slots path (.switch s) [s.name]
  /-- The one-letter option. -/
  | letter : Writes switches slots path (.switch .verbose) ["-v"]
  /-- An option and its value as two arguments. -/
  | apart {slot : Slot} {name text : String} (hslot : slot ∈ slots) (hname : slot.option? = some name)
    (htext : look text = .word) : Writes switches slots path (.value slot text) [name, text]
  /-- An option and its value with an equals sign between them. -/
  | joined {slot : Slot} {name text : String} (hslot : slot ∈ slots)
    (hname : slot.option? = some name) :
    Writes switches slots path (.value slot text) [name ++ "=" ++ text]
  /-- The path. -/
  | path {text : String} (hpath : path) (htext : look text = .word) (hne : text ≠ "") :
    Writes switches slots path (.value .path text) [text]

/-- The arguments that pieces may be written as, one after the other. -/
inductive WritesAll (switches : List Switch) (slots : List Slot) (path : Bool) :
    List Piece → List String → Prop where
  /-- Nothing. -/
  | nil : WritesAll switches slots path [] []
  /-- A piece and others behind it. -/
  | cons {piece : Piece} {pieces : List Piece} {texts rest : List String}
    (hpiece : Writes switches slots path piece texts)
    (hrest : WritesAll switches slots path pieces rest) :
    WritesAll switches slots path (piece :: pieces) (texts ++ rest)

namespace Given

/-- What is given, and what a piece says. -/
def adding (given : Given) : Piece → Given
  | .switch s => { given with switches := s :: given.switches }
  | .value slot text => { given with values := (slot, text) :: given.values }

/-- Nothing is given yet of what a piece is about. -/
def Lacks (given : Given) : Piece → Prop
  | .switch s => s ∉ given.switches
  | .value slot _ => given.values.lookup slot = none

/-- Adding what a piece says leaves nothing pending where nothing was. -/
theorem pending_adding (given : Given) (piece : Piece) :
    (given.adding piece).pending = given.pending := by
  cases piece <;> rfl

/-- What is given with a piece lacks what it lacked before and the piece is not about. -/
theorem Lacks.adding {given : Given} {other : Piece} (h : given.Lacks other) {piece : Piece}
    (hne : piece.subject ≠ other.subject) : (given.adding piece).Lacks other := by
  cases piece with
  | switch s =>
    cases other with
    | switch t =>
      have hst : t ≠ s := fun heq => hne (congrArg Sum.inl heq.symm)
      exact List.not_mem_cons_of_ne_of_not_mem hst h
    | value slot text => exact h
  | value slot text =>
    cases other with
    | switch t => exact h
    | value slot' text' =>
      have hslot : (slot' == slot) = false := beq_false_of_ne fun heq => hne (congrArg Sum.inr heq.symm)
      show List.lookup slot' ((slot, text) :: given.values) = none
      rw [List.lookup_cons, hslot]
      exact h

end Given

/-! ## The texts of options -/

/-- What is looked for is found where there is nothing else like it. -/
theorem find?_of_unique {α : Type} {p : α → Bool} {x : α} {xs : List α} (hmem : x ∈ xs) (hx : p x)
    (hunique : ∀ y, p y → y = x) : xs.find? p = some x := by
  obtain ⟨y, hy⟩ := Option.isSome_iff_exists.1 (List.find?_isSome.2 ⟨x, hmem, hx⟩)
  rw [hy, hunique y (List.find?_some hy)]

/-- A name is cut off in front of the equals sign that follows it. -/
theorem cutValue_append {name : String} (h : '=' ∉ name.toList) (text : String) :
    cutValue (name ++ "=" ++ text) = (name, some text) := by
  have hname : (name ++ "=" ++ text).toList = name.toList ++ '=' :: text.toList := by
    simp [String.toList_append]
  have hfront : (name.toList ++ '=' :: text.toList).takeWhile (· != '=') = name.toList := by
    have hbefore : ∀ c ∈ name.toList, (c != '=') = true := by
      intro c hc
      refine bne_iff_ne.2 fun heq => ?_
      rw [heq] at hc
      exact h hc
    rw [List.takeWhile_append_of_pos hbefore]
    simp
  unfold cutValue
  rw [hname, hfront]
  simp [String.ofList_toList]

namespace Switch

/-- The name of an option has no value in it. -/
theorem cutValue_name (s : Switch) : cutValue s.name = (s.name, none) := by
  cases s <;> decide

/-- No two options without a value have the same name. -/
theorem name_injective : Function.Injective name := by
  intro s t h
  cases s <;> cases t <;> first | rfl | exact absurd h (by decide)

/-- An option is found by its name. -/
theorem find?_name {switches : List Switch} {s : Switch} (h : s ∈ switches) :
    (switches.find? fun t => t.name == s.name) = some s :=
  find?_of_unique h (by simp) fun _ ht => name_injective (eq_of_beq ht)

/-- The name of an option looks like one. -/
theorem look_name (s : Switch) : look s.name = .long := by
  cases s <;> rfl

end Switch

namespace Slot

variable {slot : Slot} {name : String}

/-- The path has no name of an option. -/
theorem ne_path (h : slot.option? = some name) : slot ≠ .path := by
  rintro rfl
  exact absurd h (by simp [option?])

/-- The name of an option with a value has no equals sign. -/
theorem not_mem_option? (h : slot.option? = some name) : '=' ∉ name.toList := by
  cases slot with
  | path => exact absurd rfl (ne_path h)
  | kind | remoteUrl => cases h; decide

/-- Nor does it have a value in it. -/
theorem cutValue_option? (h : slot.option? = some name) : cutValue name = (name, none) := by
  cases slot with
  | path => exact absurd rfl (ne_path h)
  | kind | remoteUrl => cases h; decide

/-- It is no name of an option without a value. -/
theorem find?_switch (h : slot.option? = some name) (switches : List Switch) :
    (switches.find? fun s => s.name == name) = none := by
  refine List.find?_eq_none.2 fun s _ hs => ?_
  obtain rfl := eq_of_beq hs
  cases slot <;> cases s <;> exact absurd h (by decide)

/-- An option with a value is found by its name. -/
theorem find?_option {slots : List Slot} (hmem : slot ∈ slots) (h : slot.option? = some name) :
    (slots.find? fun s => s.option? == some name) = some slot := by
  refine find?_of_unique hmem (by simp [h]) fun other hother => ?_
  have hsame : other.option? = slot.option? := (eq_of_beq hother).trans h.symm
  cases other <;> cases slot <;> first | rfl | exact absurd hsame (by decide)

/-- A name of an option looks like one. -/
theorem look_option? (h : slot.option? = some name) (rest : String) :
    look (name ++ rest) = .long := by
  unfold look
  rw [String.toList_append]
  cases slot with
  | path => exact absurd rfl (ne_path h)
  | kind | remoteUrl => cases h; rfl

end Slot

/-! ## What a piece adds -/

section

variable {switches : List Switch} {slots : List Slot} (given : Given)

/-- The name of an option adds this option. -/
theorem takeLong_name {s : Switch} (h : s ∈ switches) :
    takeLong switches slots given s.name = given.addSwitch s := by
  unfold takeLong
  rw [s.cutValue_name]
  dsimp only
  rw [Switch.find?_name h]

/-- The name of an option with a value, and a value behind an equals sign, start this option. -/
theorem takeLong_option {slot : Slot} {name : String} (hslot : slot ∈ slots)
    (hname : slot.option? = some name) {argument : String} {value : Option String}
    (hcut : cutValue argument = (name, value)) :
    takeLong switches slots given argument = given.addSlot slot value := by
  unfold takeLong
  rw [hcut]
  dsimp only
  rw [Slot.find?_switch hname, Slot.find?_option hslot hname]

end

namespace Given

variable {given settled : Given}

/-- An option is added if it is not there yet. -/
theorem addSwitch_of_lacks (h : given.settle = .ok settled) {s : Switch} (hs : s ∉ settled.switches) :
    given.addSwitch s = .ok (settled.adding (.switch s)) :=
  addSwitch_eq_ok_iff.2 ⟨settled, h, hs, rfl⟩

/-- An option with a value waits behind what is taken. -/
theorem addSlot_of_settle (h : given.settle = .ok settled) (slot : Slot) (value : Option String) :
    given.addSlot slot value = .ok { settled with pending := some (slot, value) } :=
  addSlot_eq_ok_iff.2 ⟨settled, h, rfl⟩

/-- A pending value is taken if there is none of its kind yet. -/
theorem settle_pending (h : given.settle = .ok settled) {slot : Slot} {text : String}
    (hlacks : settled.Lacks (.value slot text)) (hpath : slot = .path → text ≠ "") :
    ({ settled with pending := some (slot, some text) } : Given).settle =
      .ok (settled.adding (.value slot text)) := by
  have hnone : settled.values.lookup slot = none := hlacks
  have hpending := (settle_eq_ok h).1
  unfold settle
  dsimp only
  rw [if_neg fun hempty => hpath hempty.1 hempty.2, hnone, if_neg (by simp)]
  unfold adding
  rw [hpending]

end Given

/-- The letter of the option for more reports adds this option, in front of the word for the action
and behind it. -/
theorem takeLetters_verbose (general : Bool) {given settled : Given}
    (h : given.settle = .ok settled) (hlacks : settled.Lacks (.switch .verbose)) :
    takeLetters general given ['v'] = .ok (.taken (settled.adding (.switch .verbose))) :=
  bind_eq_ok_iff.2 ⟨_, Given.addSwitch_of_lacks h hlacks, rfl⟩

/-- An option with a value is read from its name, and waits with the value that is written with it. -/
theorem takeArgument_option {action : Action} {given settled : Given}
    (h : given.settle = .ok settled) {slot : Slot} {name : String} (hslot : slot ∈ action.slots)
    (hname : slot.option? = some name) {argument : String} {value : Option String}
    (hlook : look argument = .long) (hcut : cutValue argument = (name, value)) :
    takeArgument action (false, given) argument =
      .ok (false, { settled with pending := some (slot, value) }) := by
  rw [takeArgument, hlook]
  dsimp only
  rw [takeLong_option given hslot hname hcut, Given.addSlot_of_settle h]
  rfl

/-- Each piece adds what it says, once what is pending is taken. -/
theorem take_writes {action : Action} {piece : Piece} {texts : List String} {given settled : Given}
    (h : Writes action.switches action.slots action.takesPath piece texts)
    (hsettle : given.settle = .ok settled) (hlacks : settled.Lacks piece) :
    ∃ next, texts.foldlM (takeArgument action) (false, given) = .ok (false, next) ∧
      next.settle = .ok (settled.adding piece) := by
  have hpending : settled.pending = none := (Given.settle_eq_ok hsettle).1
  -- Reading a piece first takes the value that is pending, so that nothing is known of what is given
  -- but what it settles to.
  cases h with
  | @name s hs =>
    refine ⟨_, ?_, Given.settle_of_none ((settled.pending_adding (.switch s)).trans hpending)⟩
    rw [List.foldlM_cons, takeArgument, s.look_name]
    dsimp only
    rw [takeLong_name given hs, Given.addSwitch_of_lacks hsettle hlacks]
    rfl
  | letter =>
    refine ⟨_, ?_, Given.settle_of_none ((settled.pending_adding (.switch .verbose)).trans hpending)⟩
    show (takeLetters false given ['v']).bind _ >>= _ = _
    rw [takeLetters_verbose false hsettle hlacks]
    rfl
  | @apart slot name text hslot hname htext =>
    refine ⟨{ settled with pending := some (slot, some text) }, ?_,
      Given.settle_pending hsettle hlacks fun hpath => absurd hpath (Slot.ne_path hname)⟩
    have hlook : look name = .long := by
      rw [← String.append_empty (s := name)]
      exact Slot.look_option? hname ""
    -- The option waits without a value until the text behind it is read.
    have hvalue : takeArgument action (false, { settled with pending := some (slot, none) }) text =
        .ok (false, { settled with pending := some (slot, some text) }) := by
      rw [takeArgument, htext]
      rfl
    refine bind_eq_ok_iff.2 ⟨_, ?_, bind_eq_ok_iff.2 ⟨_, hvalue, rfl⟩⟩
    exact takeArgument_option hsettle hslot hname hlook (Slot.cutValue_option? hname)
  | @joined slot name text hslot hname =>
    refine ⟨{ settled with pending := some (slot, some text) }, ?_,
      Given.settle_pending hsettle hlacks fun hpath => absurd hpath (Slot.ne_path hname)⟩
    have hlook : look (name ++ "=" ++ text) = .long := by
      rw [String.append_assoc]
      exact Slot.look_option? hname _
    have hcut := cutValue_append (Slot.not_mem_option? hname) text
    rw [List.foldlM_cons, takeArgument_option hsettle hslot hname hlook hcut]
    rfl
  | @path text hpath htext hne =>
    refine ⟨{ settled with pending := some (.path, some text) }, ?_,
      Given.settle_pending hsettle hlacks fun _ => hne⟩
    have hwaiting := Given.isWaiting_of_settle hsettle
    have hfree : given.hasPath = false := by
      have hnone : settled.values.lookup .path = none := hlacks
      rw [← Given.hasPath_of_settle hsettle, Given.hasPath, hnone, hpending]
      rfl
    rw [List.foldlM_cons, takeArgument, htext]
    dsimp only
    rw [takeWord, if_neg (by simp [hwaiting]), if_pos ⟨hpath, by simp [hfree]⟩,
      Given.addSlot_of_settle hsettle]
    rfl

/-! ## What pieces add -/

namespace Given

/-- What a piece adds is not what others are about that say something else. -/
theorem lacks_adding {given : Given} {piece : Piece} {pieces : List Piece}
    (hdistinct : ((piece :: pieces).map Piece.subject).Nodup)
    (hlacks : ∀ other ∈ pieces, given.Lacks other) :
    ∀ other ∈ pieces, (given.adding piece).Lacks other := by
  intro other hother
  refine (hlacks other hother).adding fun heq => ?_
  rw [List.map_cons, List.nodup_cons, heq] at hdistinct
  exact hdistinct.1 (List.mem_map_of_mem hother)

/-- The options without a value are those that were there before and those that pieces say. -/
theorem mem_switches_foldl_adding {pieces : List Piece} {given : Given} {s : Switch} :
    s ∈ (pieces.foldl adding given).switches ↔ .switch s ∈ pieces ∨ s ∈ given.switches := by
  induction pieces generalizing given with
  | nil => simp
  | cons piece rest ih =>
    rw [List.foldl_cons, ih, List.mem_cons, or_assoc, or_left_comm]
    cases piece <;> simp [adding]

/-- The values are those that were there before and those that pieces say. -/
theorem lookup_foldl_adding {pieces : List Piece} {given : Given}
    (hdistinct : (pieces.map Piece.subject).Nodup) (hlacks : ∀ piece ∈ pieces, given.Lacks piece)
    {slot : Slot} {text : String} :
    (pieces.foldl adding given).values.lookup slot = some text ↔
      .value slot text ∈ pieces ∨ given.values.lookup slot = some text := by
  induction pieces generalizing given with
  | nil => simp
  | cons piece rest ih =>
    obtain ⟨hpiece, hrest⟩ := List.forall_mem_cons.1 hlacks
    -- The value that the first piece adds hides none, as there was none of its kind.
    have hadd : (given.adding piece).values.lookup slot = some text ↔
        .value slot text = piece ∨ given.values.lookup slot = some text := by
      cases piece with
      | switch s => simp [adding]
      | value other text' =>
        have hnone : given.values.lookup other = none := hpiece
        show List.lookup slot ((other, text') :: given.values) = some text ↔ _
        rw [List.lookup_cons]
        by_cases heq : slot = other
        · subst heq
          simp [hnone, eq_comm]
        · simp [heq, beq_false_of_ne heq]
    rw [List.foldl_cons, ih (List.nodup_cons.1 hdistinct).2 (lacks_adding hdistinct hrest), hadd,
      List.mem_cons, or_assoc, or_left_comm]

end Given

/-- Pieces add what they say, one after the other. -/
theorem take_writesAll {action : Action} {pieces : List Piece} {texts : List String}
    (h : WritesAll action.switches action.slots action.takesPath pieces texts)
    (hdistinct : (pieces.map Piece.subject).Nodup) {given settled : Given}
    (hsettle : given.settle = .ok settled) (hlacks : ∀ piece ∈ pieces, settled.Lacks piece) :
    ∃ last, texts.foldlM (takeArgument action) (false, given) = .ok (false, last) ∧
      last.settle = .ok (pieces.foldl Given.adding settled) := by
  induction h generalizing given settled with
  | nil => exact ⟨given, rfl, hsettle⟩
  | @cons piece pieces texts rest hpiece _ ih =>
    obtain ⟨hfirst, hothers⟩ := List.forall_mem_cons.1 hlacks
    obtain ⟨next, htake, hnext⟩ := take_writes hpiece hsettle hfirst
    obtain ⟨last, hlast, hsettled⟩ :=
      ih (List.nodup_cons.1 hdistinct).2 hnext (Given.lacks_adding hdistinct hothers)
    refine ⟨last, ?_, hsettled⟩
    rw [List.foldlM_append, htake]
    exact hlast

/-! ## Command lines -/

/-- In front of the word for the action each piece is an option for all commands, which is added. -/
theorem readGeneral_writes {piece : Piece} {texts : List String} {given : Given}
    (h : Writes Switch.global [] false piece texts) (hnone : given.pending = none)
    (hlacks : given.Lacks piece) (rest : List String) :
    readGeneral false given (texts ++ rest) = readGeneral false (given.adding piece) rest := by
  have hsettle := Given.settle_of_none hnone
  cases h with
  | @name s hs =>
    have hversion : s.name ≠ "--version" := by cases s <;> decide
    rw [List.singleton_append, readGeneral, if_neg (by decide), s.look_name]
    dsimp only
    rw [if_neg hversion, takeLong_name given hs, Given.addSwitch_of_lacks hsettle hlacks]
    rfl
  | letter =>
    show (takeLetters true given ['v']).bind _ = _
    rw [takeLetters_verbose true hsettle hlacks]
    rfl
  | apart hslot => exact absurd hslot List.not_mem_nil
  | joined hslot => exact absurd hslot List.not_mem_nil
  | path hpath => exact absurd hpath (by decide)

/-- The pieces in front of the word for the action add what they say, one after the other. -/
theorem readGeneral_writesAll {pieces : List Piece} {texts : List String}
    (h : WritesAll Switch.global [] false pieces texts)
    (hdistinct : (pieces.map Piece.subject).Nodup) {given : Given} (hnone : given.pending = none)
    (hlacks : ∀ piece ∈ pieces, given.Lacks piece) (rest : List String) :
    readGeneral false given (texts ++ rest) =
      readGeneral false (pieces.foldl Given.adding given) rest := by
  induction h generalizing given with
  | nil => rfl
  | @cons piece pieces texts others hpiece _ ih =>
    obtain ⟨hfirst, hothers⟩ := List.forall_mem_cons.1 hlacks
    rw [List.append_assoc, readGeneral_writes hpiece hnone hfirst]
    exact ih (List.nodup_cons.1 hdistinct).2 ((given.pending_adding piece).trans hnone)
      (Given.lacks_adding hdistinct hothers)

/-- The word for an action is read as this action. -/
theorem readGeneral_word (action : Action) (given : Given) (rest : List String) :
    readGeneral false given (action.word :: rest) = readCommand action given false {} rest := by
  cases action <;> rfl

/-- A command line asks for what it says: for the action, for the options without a value that are
written in front of its word and behind it, and for the values that are written behind it. No option
and no value may be written twice in one of the two places. -/
theorem command?_of_written {action : Action} {front behind : List Piece}
    {frontTexts texts : List String} (hfront : WritesAll Switch.global [] false front frontTexts)
    (hbehind : WritesAll action.switches action.slots action.takesPath behind texts)
    (hfrontDistinct : (front.map Piece.subject).Nodup)
    (hbehindDistinct : (behind.map Piece.subject).Nodup) :
    ∃ c, command? (frontTexts ++ action.word :: texts) = some c ∧ c.action = action ∧
      (∀ s, c.has s ↔ .switch s ∈ front ++ behind) ∧
      ∀ slot text, c.value slot = some text ↔ .value slot text ∈ behind := by
  have hlacks : ∀ piece : Piece, ({} : Given).Lacks piece := by
    intro piece
    cases piece with
    | switch s => exact List.not_mem_nil
    | value slot text => rfl
  obtain ⟨last, hlast, hsettle⟩ := take_writesAll hbehind hbehindDistinct
    (@Given.settle_of_none {} rfl) fun piece _ => hlacks piece
  have hread : readArguments (frontTexts ++ action.word :: texts) =
      .ok (.run action (front.foldl Given.adding {}) (behind.foldl Given.adding {})) := by
    rw [readArguments, readGeneral_writesAll hfront hfrontDistinct rfl fun piece _ => hlacks piece,
      readGeneral_word]
    exact readCommand_eq_ok_iff.2 ⟨rfl, rfl, _, hlast, hsettle⟩
  refine ⟨_, command?_eq_some_iff.2 ⟨_, _, _, hread, rfl⟩, rfl, fun s => ?_, fun slot text => ?_⟩
  · simp only [Command.has_ofGiven, List.mem_append, Given.mem_switches_foldl_adding,
      List.not_mem_nil, or_false]
  · refine (Given.lookup_foldl_adding hbehindDistinct fun piece _ => hlacks piece).trans ?_
    simp

/-! ## Options -/

/-- The options are those that the surroundings, the settings and the pieces of a command line make
up, in front of the word for the action and behind it. -/
structure Options.MadeOf (o : Options) (surroundings : Surroundings) (found : Settings)
    (front behind : List Piece) : Prop where
  /-- JSON is written if a piece or the settings say so. -/
  json : o.json ↔ .switch .json ∈ front ++ behind ∨ found.json
  /-- Pieces say how much is reported, unless the surroundings do. -/
  level : o.level = levelOf surroundings (decide (.switch .verbose ∈ front ++ behind))
    (decide (.switch .trace ∈ front ++ behind))
  /-- Validation is strict if a piece or the settings say so. -/
  strict : o.mode = .strict ↔ .switch .strict ∈ front ++ behind ∨ found.strict
  /-- Field errors are denied if a piece says so. -/
  denyWarnings : o.denyWarnings ↔ .switch .denyWarnings ∈ front ++ behind
  /-- The declared kind is that of a piece. -/
  kind : ∀ text, o.kind = some text ↔ .value .kind text ∈ behind
  /-- So is the address that the manifest was downloaded from. -/
  address : ∀ text, o.address = some text ↔ .value .remoteUrl text ∈ behind
  /-- So is the path. -/
  path : ∀ text, .value .path text ∈ behind → o.path = text
  /-- Without a path it is the directory of the run. -/
  noPath : (∀ text, .value .path text ∉ behind) → o.path = "."

/-- A command that asks for what pieces say has the options that these make up. -/
theorem Command.madeOf_options {c : Command} {front behind : List Piece}
    (hhas : ∀ s, c.has s ↔ .switch s ∈ front ++ behind)
    (hvalue : ∀ slot text, c.value slot = some text ↔ .value slot text ∈ behind)
    (surroundings : Surroundings) (found : Settings) :
    (c.options surroundings found).MadeOf surroundings found front behind := by
  have hdecide : ∀ s, c.has s = decide (.switch s ∈ front ++ behind) := fun s => by
    rw [Bool.eq_iff_iff, hhas, decide_eq_true_iff]
  have hpath : (c.options surroundings found).path = (c.value .path).getD "." := rfl
  constructor
  · rw [← hhas]
    exact Bool.or_eq_true_iff
  · rw [← hdecide, ← hdecide]
    rfl
  · rw [← hhas]
    exact c.mode_options_eq_strict_iff surroundings found
  · exact hhas .denyWarnings
  · exact hvalue .kind
  · exact hvalue .remoteUrl
  · intro text htext
    rw [hpath, (hvalue .path text).2 htext]
    rfl
  · intro hnone
    have hvalue : c.value .path = none :=
      Option.eq_none_iff_forall_ne_some.2 fun text htext => hnone text ((hvalue .path text).1 htext)
    rw [hpath, hvalue]
    rfl

/-- The code and the output of an inspection tell what became of the manifest under the options that
its command line and the settings make up, and the code is 1 exactly if the settings are broken. -/
theorem exit_codes_of_written {surroundings : Surroundings} {front behind : List Piece}
    {frontTexts texts : List String} (hfront : WritesAll Switch.global [] false front frontTexts)
    (hbehind : WritesAll Action.inspect.switches Action.inspect.slots true behind texts)
    (hfrontDistinct : (front.map Piece.subject).Nodup)
    (hbehindDistinct : (behind.map Piece.subject).Nodup) :
    let outcome := run surroundings (frontTexts ++ "inspect" :: texts)
    (outcome.code = 1 ↔ SettingsBroken surroundings) ∧
      (SettingsBroken surroundings → outcome.output = "") ∧
      (¬ SettingsBroken surroundings → ∃ found o, Configures surroundings found ∧
        o.MadeOf surroundings found front behind ∧ outcome.Tells surroundings o) := by
  intro outcome
  obtain ⟨c, hcommand, hinspect, hhas, hvalue⟩ :=
    @command?_of_written .inspect _ _ _ _ hfront hbehind hfrontDistinct hbehindDistinct
  obtain ⟨hcode, houtput, htells⟩ := @exit_codes_of_command? surroundings _ _ hcommand hinspect
  refine ⟨hcode, houtput, fun hright => ?_⟩
  obtain ⟨found, hfound, ho⟩ := htells hright
  exact ⟨found, _, hfound, c.madeOf_options hhas hvalue surroundings found, ho⟩

end Manifest.CommandLine
