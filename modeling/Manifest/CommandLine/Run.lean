import Manifest.CommandLine.Arguments
import Manifest.CommandLine.Locate
import Manifest.CommandLine.Log
import Manifest.CommandLine.Report
import Manifest.CommandLine.Settings
import Manifest.Note

/-!
# Runs of the command line

A run looks at its arguments and its surroundings and ends in an exit code, output and messages. It
changes nothing.
-/

namespace Manifest.CommandLine

open Json (Value)

/-- What a run ends in. -/
structure Outcome where
  /-- The exit code. -/
  code : Nat
  /-- The output. -/
  output : String
  /-- The messages, in order. -/
  messages : List String
  deriving DecidableEq, Repr

/-- Lines as a text. -/
def textOfLines (lines : List String) : String :=
  String.join (lines.map fun line => line ++ "\n")

/-- A run that ends in output. -/
def succeed (lines : List String) : Outcome :=
  ⟨0, textOfLines lines, []⟩

/-- A run that ends in an error. -/
def fail (code : Nat) (message : String) : Outcome :=
  ⟨code, "", ["error: " ++ message]⟩

/-! ## Settings -/

/-- The path of the configuration file. -/
def settingsPath? (surroundings : Surroundings) : Option String :=
  match surroundings.environment "PKGMANIFEST_CONFIG" with
  | some path => some path
  | none =>
    (surroundings.environment "HOME").map fun home =>
      joinPath home ".config/pkgmanifest/config.toml"

/-- The settings at a path. -/
def settingsAt (surroundings : Surroundings) (path : String) : Except RunError Settings :=
  match surroundings.entry path with
  | .missing => .ok {}
  | .directory =>
    .error (.settings ("failed to read config " ++ path ++ ": Is a directory (os error 21)"))
  | .file none =>
    .error (.settings
      ("failed to read config " ++ path ++ ": stream did not contain valid UTF-8"))
  | .file (some text) =>
    (Settings.read text).mapError fun place =>
      .settings ("invalid config " ++ path ++ ": " ++ place.message)

/-- The settings of a run. A file that is not there sets nothing. -/
def settings (surroundings : Surroundings) : Except RunError Settings :=
  match settingsPath? surroundings with
  | none => .ok {}
  | some path => settingsAt surroundings path

/-! ## Options -/

/-- The options of a run. -/
structure Options where
  /-- Whether to write JSON. -/
  json : Bool
  /-- How much to report. -/
  level : Level
  /-- The path. -/
  path : String
  /-- The declared kind. -/
  kind : Option String
  /-- The address that the manifest was downloaded from. -/
  address : Option String
  /-- The mode of validation. -/
  mode : Mode
  /-- Whether to fail if there are field errors. -/
  denyWarnings : Bool
  deriving DecidableEq, Repr

/-- How much a run reports. The environment goes before the arguments. -/
def levelOf (surroundings : Surroundings) (verbose trace : Bool) : Level :=
  match surroundings.environment "PKGMANIFEST_LOG" with
  | some text => Level.ofText text
  | none => if trace then .trace else if verbose then .debug else .warn

/-- The options that settings make up with what is given: the options without a value that are there,
and the values. -/
def optionsOf (surroundings : Surroundings) (found : Settings) (has : Switch → Bool)
    (value : Slot → Option String) : Options where
  json := has .json || found.json
  level := levelOf surroundings (has .verbose) (has .trace)
  path := (value .path).getD "."
  kind := value .kind
  address := value .remoteUrl
  mode := if has .strict then .strict else found.mode
  denyWarnings := has .denyWarnings

/-- The options that arguments and settings make up. -/
def options (surroundings : Surroundings) (found : Settings) (general given : Given) : Options :=
  optionsOf surroundings found
    (fun switch => general.switches.contains switch || given.switches.contains switch)
    fun slot => given.values.lookup slot

/-! ## Actions -/

/-- A message if the level reports it. -/
def report (options : Options) (level : Level) (label message : String) : List String :=
  if options.level.reports level then [logLine label message] else []

/-- The log lines of notes. -/
def noteLines (options : Options) (notes : List Note) : List String :=
  notes.flatMap fun note => report options .debug "DEBUG" note.message

/-- Why a manifest at a path cannot be loaded. -/
def loadError (path : String) : Failure → RunError
  | .field cause => .validation (path ++ ": " ++ cause.message)
  | other => .manifest (path ++ ": " ++ other.message)

/-- The output of a report. -/
def inspectOutput (options : Options) (file : Located) (found : Validated) : String :=
  if options.json then
    textOfLines [(reportValue file.path file.kind options.mode found).pretty]
  else textOfLines (reportLines file.path file.kind found)

/-- Shows the record of a manifest that was found. -/
def inspectFile (options : Options) (file : Located) : Outcome :=
  match file.contents with
  | none =>
    let e := RunError.unreadable (" " ++ file.path ++ ": stream did not contain valid UTF-8")
    fail e.exitCode e.message
  | some contents =>
    let lines := noteLines options (Note.onLoading file.kind contents options.address options.mode)
    match load contents file.kind.name options.address options.mode with
    | .error e =>
      let e := loadError file.path e
      { fail e.exitCode e.message with messages := lines ++ ["error: " ++ e.message] }
    | .ok found =>
      let warning :=
        if found.errors.isEmpty then []
        else
          report options .warn " WARN"
            (file.path ++ " validated with " ++ toString found.errors.length ++ " field error(s)")
      { code := if options.denyWarnings && !found.errors.isEmpty then 3 else 0
        output := inspectOutput options file found
        messages := lines ++ warning }

/-- Shows the record of the manifest that a path leads to. -/
def inspect (surroundings : Surroundings) (options : Options) : Outcome :=
  match locate surroundings options.path options.kind with
  | .error e => fail e.exitCode e.message
  | .ok file => inspectFile options file

/-- Shows which manifest a path leads to. -/
def detect (surroundings : Surroundings) (options : Options) : Outcome :=
  match locate surroundings options.path none with
  | .error e => fail e.exitCode e.message
  | .ok file =>
    if options.json then
      let value : Value :=
        .object [("kind", .string file.kind.name), ("path", .string file.path)]
      succeed [value.pretty]
    else succeed [file.kind.name ++ "\t" ++ file.path]

/-- A text filled up with spaces to a width. -/
def padded (width : Nat) (s : String) : String :=
  s ++ String.ofList (List.replicate (width - s.length) ' ')

/-- Lists the kinds of manifests. -/
def kinds (options : Options) : Outcome :=
  if options.json then
    let entry (kind : Kind) : Value :=
      .object [("file", .string kind.fileName), ("kind", .string kind.name)]
    succeed [(Value.array (Kind.all.map entry)).pretty]
  else succeed (Kind.all.map fun kind => padded 20 kind.name ++ kind.fileName)

/-- Does what is asked for. -/
def act (surroundings : Surroundings) (options : Options) : Action → Outcome
  | .inspect => inspect surroundings options
  | .detect => detect surroundings options
  | .kinds => kinds options

/-- Runs the program. -/
def run (surroundings : Surroundings) (arguments : List String) : Outcome :=
  match readArguments arguments with
  | .error e => fail 2 e.message
  | .ok .version => succeed ["pkgmanifest 0.1.0"]
  | .ok (.run action general given) =>
    match settings surroundings with
    | .error e => fail e.exitCode e.message
    | .ok found => act surroundings (options surroundings found general given) action

end Manifest.CommandLine
