/-!
# Arguments

The arguments of a run, and what is wrong with those that cannot be understood. Options that apply
to every command may stand in front of the command and behind it.

Arguments that ask for help (`--help`, `-h`, `help`) or for shell completions (`completions`) are not
among those that are understood here, and are refused like any others.
-/

namespace Manifest.CommandLine

/-- What a run is to do. -/
inductive Action where
  /-- Show the record of a manifest. -/
  | inspect
  /-- Show which manifest would be used. -/
  | detect
  /-- List the kinds of manifests. -/
  | kinds
  deriving DecidableEq, Repr

/-- An option without a value. -/
inductive Switch where
  /-- Write JSON. -/
  | json
  /-- Report more. -/
  | verbose
  /-- Report everything. -/
  | trace
  /-- Stop at the first field that has to be right. -/
  | strict
  /-- Fail if there are field errors. -/
  | denyWarnings
  deriving DecidableEq, Repr

/-- An option or argument with a value. -/
inductive Slot where
  /-- The manifest or its directory. -/
  | path
  /-- The declared kind. -/
  | kind
  /-- The address that the manifest was downloaded from. -/
  | remoteUrl
  deriving DecidableEq, Repr

/-- Why arguments cannot be understood. -/
inductive UsageError where
  /-- No command is given. -/
  | noCommand
  /-- A word is not a command. -/
  | unknownCommand (word : String)
  /-- An argument has no place. -/
  | unexpected (argument : String)
  /-- A value is missing. -/
  | noValue (slot : Slot)
  /-- An option without a value is given one. -/
  | surplusValue (switch : Switch) (value : String)
  /-- An option without a value is given twice. -/
  | repeatedSwitch (switch : Switch)
  /-- An option with a value is given twice. -/
  | repeatedSlot (slot : Slot)
  deriving DecidableEq, Repr

namespace Switch

/-- The name of an option. -/
def name : Switch → String
  | json => "--json"
  | verbose => "--verbose"
  | trace => "--trace"
  | strict => "--strict"
  | denyWarnings => "--deny-warnings"

/-- The options that apply to every command. -/
def global : List Switch :=
  [json, verbose, trace]

end Switch

namespace Slot

/-- How messages show an option or argument with a value. -/
def shown : Slot → String
  | path => "[PATH]"
  | kind => "--kind <KIND>"
  | remoteUrl => "--remote-url <REMOTE_URL>"

/-- The name of an option with a value. -/
def option? : Slot → Option String
  | path => none
  | kind => some "--kind"
  | remoteUrl => some "--remote-url"

end Slot

/-- What a usage error says. -/
def UsageError.message : UsageError → String
  | noCommand => "'pkgmanifest' requires a subcommand but one was not provided"
  | unknownCommand word => "unrecognized subcommand '" ++ word ++ "'"
  | unexpected argument => "unexpected argument '" ++ argument ++ "' found"
  | noValue slot => "a value is required for '" ++ slot.shown ++ "' but none was supplied"
  | surplusValue switch value =>
    "unexpected value '" ++ value ++ "' for '" ++ switch.name ++ "' found; no more were expected"
  | repeatedSwitch switch => "the argument '" ++ switch.name ++ "' cannot be used multiple times"
  | repeatedSlot slot => "the argument '" ++ slot.shown ++ "' cannot be used multiple times"

namespace Action

/-- The word for an action. -/
def word : Action → String
  | inspect => "inspect"
  | detect => "detect"
  | kinds => "kinds"

/-- The action that a word stands for. -/
def ofWord? (w : String) : Option Action :=
  [inspect, detect, kinds].find? fun action => action.word == w

/-- The options without a value that an action takes. -/
def switches : Action → List Switch
  | inspect => Switch.global ++ [.strict, .denyWarnings]
  | detect | kinds => Switch.global

/-- The options with a value that an action takes. -/
def slots : Action → List Slot
  | inspect => [.kind, .remoteUrl]
  | detect | kinds => []

/-- Whether an action takes a path. -/
def takesPath : Action → Bool
  | inspect | detect => true
  | kinds => false

end Action

/-- What the arguments of one level say so far. -/
structure Given where
  /-- The options without a value. -/
  switches : List Switch := []
  /-- The values. -/
  values : List (Slot × String) := []
  /-- A value that is read but not taken yet, or an option that waits for its value. -/
  pending : Option (Slot × Option String) := none
  deriving Repr

namespace Given

/-- Takes the pending value. -/
def settle (given : Given) : Except UsageError Given :=
  match given.pending with
  | none => .ok given
  | some (slot, none) => .error (.noValue slot)
  | some (slot, some value) =>
    if slot = .path ∧ value = "" then .error (.noValue slot)
    else if (given.values.lookup slot).isSome then .error (.repeatedSlot slot)
    else .ok { given with values := (slot, value) :: given.values, pending := none }

/-- Takes an option without a value. -/
def addSwitch (given : Given) (switch : Switch) : Except UsageError Given := do
  let given ← given.settle
  if given.switches.contains switch then .error (.repeatedSwitch switch)
  else .ok { given with switches := switch :: given.switches }

/-- Starts an option with a value. -/
def addSlot (given : Given) (slot : Slot) (value : Option String) : Except UsageError Given := do
  let given ← given.settle
  .ok { given with pending := some (slot, value) }

/-- Whether an option waits for its value. -/
def isWaiting (given : Given) : Bool :=
  match given.pending with
  | some (_, none) => true
  | _ => false

/-- Gives the waiting option its value. -/
def supply (given : Given) (value : String) : Given :=
  { given with pending := given.pending.map fun (slot, _) => (slot, some value) }

/-- Whether a path is given. -/
def hasPath (given : Given) : Bool :=
  (given.values.lookup .path).isSome || (given.pending.map (·.1)) == some .path

end Given

/-- The name and the value of a long option with a value behind an equals sign. -/
def cutValue (argument : String) : String × Option String :=
  let name := argument.toList.takeWhile (· != '=')
  match argument.toList.drop name.length with
  | [] => (argument, none)
  | _ :: value => (String.ofList name, some (String.ofList value))

/-- What a group of one-letter options ends in. -/
inductive LetterEnd where
  /-- All letters are taken. -/
  | taken (given : Given)
  /-- The version is asked for. -/
  | version

/-- Takes one-letter options. Only the top level knows the one for the version. -/
def takeLetters (top : Bool) (given : Given) : List Char → Except UsageError LetterEnd
  | [] => .ok (.taken given)
  | 'v' :: rest => do takeLetters top (← given.addSwitch .verbose) rest
  | c :: _ =>
    if c = 'V' ∧ top then given.settle.map fun _ => .version
    else .error (.unexpected (String.ofList ['-', c]))

/-- Takes a long option. -/
def takeLong (switches : List Switch) (slots : List Slot) (given : Given) (argument : String) :
    Except UsageError Given :=
  let (name, value) := cutValue argument
  match switches.find? fun s => s.name == name, slots.find? fun s => s.option? == some name with
  | some switch, _ =>
    match value with
    | none => given.addSwitch switch
    | some value => given.settle.bind fun _ => .error (.surplusValue switch value)
  | none, some slot => given.addSlot slot value
  | none, none => .error (.unexpected name)

/-- The kind of thing that an argument is by its looks. -/
inductive Look where
  /-- The mark behind which nothing is an option. -/
  | escape
  /-- A long option. -/
  | long
  /-- One-letter options. -/
  | letters (cs : List Char)
  /-- A word. -/
  | word

/-- The looks of an argument. -/
def look (argument : String) : Look :=
  match argument.toList with
  | ['-', '-'] => .escape
  | '-' :: '-' :: _ => .long
  | '-' :: c :: cs => .letters (c :: cs)
  | _ => .word

/-- What arguments ask for. -/
inductive Request where
  /-- The version of the program. -/
  | version
  /-- An action, with the options given for all commands and those given for it. -/
  | run (action : Action) (general given : Given)

/-- Reads the arguments behind a command. Behind the mark a word is not taken for the value that an
option waits for. -/
def readCommand (action : Action) (general : Given) :
    Bool → Given → List String → Except UsageError Request
  | _, given, [] => do return .run action general (← given.settle)
  | escaped, given, argument :: rest =>
    let word : Except UsageError Request :=
      if !escaped ∧ given.isWaiting then
        readCommand action general escaped (given.supply argument) rest
      else if action.takesPath ∧ !given.hasPath then do
        readCommand action general escaped (← given.addSlot .path (some argument)) rest
      else .error (.unexpected argument)
    if escaped then word
    else
      match look argument with
      | .escape => readCommand action general true given rest
      | .long => do
        readCommand action general false
          (← takeLong action.switches action.slots given argument) rest
      | .letters cs => do
        match ← takeLetters false given cs with
        | .taken given => readCommand action general false given rest
        | .version => return .version
      | .word => word

/-- Reads the arguments in front of the command and the command. -/
def readGeneral : Bool → Given → List String → Except UsageError Request
  | _, _, [] => .error .noCommand
  | escaped, given, argument :: rest =>
    -- Behind the mark even the word for a command is an argument without a place.
    if escaped then
      .error (if (Action.ofWord? argument).isSome then .unexpected argument
        else .unknownCommand argument)
    else
      match look argument with
      | .escape => readGeneral true given rest
      | .long =>
        if argument = "--version" then .ok .version
        else do readGeneral false (← takeLong Switch.global [] given argument) rest
      | .letters cs => do
        match ← takeLetters true given cs with
        | .taken given => readGeneral false given rest
        | .version => return .version
      | .word =>
        match Action.ofWord? argument with
        | some action => readCommand action given false {} rest
        | none => .error (.unknownCommand argument)

/-- Reads arguments. -/
def readArguments (arguments : List String) : Except UsageError Request :=
  readGeneral false {} arguments

end Manifest.CommandLine
