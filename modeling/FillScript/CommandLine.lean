import FillScript.EnvFile
import FillScript.Fill.Batch
import FillScript.LogFilter
import FillScript.Text.Terminal

/-!
# The command line

A run of the program as a function of its arguments, its environment and the files below the working
directory: the exit code, what is printed, and the files afterwards.
-/

namespace FillScript

/-! ## Arguments -/

/-- What a run is asked to do. -/
structure Arguments where
  files : List Path
  dryRun : Bool
  logLevel : Option String
deriving DecidableEq

/-- Why arguments are refused. -/
inductive UsageError where
  | unexpectedArgument (argument : String)
  | unexpectedValue (value option : String)
  | missingValue (option : String)
  | repeated (option : String)
deriving DecidableEq

namespace UsageError

/-- What is said about refused arguments. -/
def message : UsageError → String
  | unexpectedArgument argument =>
    "error: unexpected argument '" ++ Text.plain argument ++ "' found"
  | unexpectedValue value option =>
    "error: unexpected value '" ++ Text.plain value ++ "' for '" ++ option ++
      "' found; no more were expected"
  | missingValue option =>
    "error: a value is required for '" ++ option ++ "' but none was supplied"
  | repeated option => "error: the argument '" ++ option ++ "' cannot be used multiple times"

end UsageError

/-- What arguments ask for. -/
inductive Invocation where
  | fill (arguments : Arguments)
  | version
  | help
deriving DecidableEq

namespace CommandLine

/-- How the option for dry runs is shown. -/
def dryRunOption : String := "--dry-run"

/-- How the option for the log level is shown. -/
def logLevelOption : String := "--log-level <LOG_LEVEL>"

/-- How the script arguments are shown. -/
def filesArgument : String := "[FILES]..."

/-- An argument that begins with a dash. -/
inductive OptionArgument where
  | dryRun
  /-- The log level, with its value if that is part of the argument. -/
  | logLevel (value : Option String)
  | version
  | help
deriving DecidableEq

/-- A short option: its letter is followed by more letters or not. -/
def shortOption (letters : List Char) : Except UsageError OptionArgument :=
  match letters with
  | 'V' :: _ => .ok .version
  | 'h' :: _ => .ok .help
  | c :: _ => .error (.unexpectedArgument (String.ofList ['-', c]))
  | [] => .error (.unexpectedArgument "-")

/-- A long option, with a value after an equals sign or not. -/
def longOption (body : List Char) : Except UsageError OptionArgument :=
  let (name, value) :=
    match Text.splitFirst '=' body with
    | some (name, value) => (String.ofList name, some (String.ofList value))
    | none => (String.ofList body, none)
  let bare (option : OptionArgument) : Except UsageError OptionArgument :=
    match value with
    | some value => .error (.unexpectedValue value ("--" ++ name))
    | none => .ok option
  match name with
  | "dry-run" => bare .dryRun
  | "version" => bare .version
  | "help" => bare .help
  | "log-level" => .ok (.logLevel value)
  | _ => .error (.unexpectedArgument ("--" ++ name))

/-- The option that an argument is: one that begins with a dash and is not a dash alone. -/
def option? (argument : String) : Option (Except UsageError OptionArgument) :=
  match argument.toList with
  | '-' :: '-' :: body => some (longOption body)
  | '-' :: c :: letters => some (shortOption (c :: letters))
  | _ => none

/-- The arguments read so far. A value that is refused is reported when the argument after it has
been recognised, so that an unknown option there is reported first. -/
structure Reading where
  arguments : Arguments
  refused : Option UsageError

namespace Reading

/-- Nothing has been read. -/
def start : Reading :=
  ⟨⟨[], false, none⟩, none⟩

/-- The arguments, if all values so far are accepted. -/
def accepted (reading : Reading) : Except UsageError Arguments :=
  match reading.refused with
  | some e => .error e
  | none => .ok reading.arguments

/-- Reads a script; scripts that follow each other are one value. -/
def addFile (reading : Reading) (name : String) : Except UsageError Reading :=
  match reading.refused with
  | some (.repeated option) => .error (.repeated option)
  | some e => .ok { reading with refused := some e }
  | none =>
    if name.isEmpty then .ok { reading with refused := some (.missingValue filesArgument) }
    else
      .ok { reading with
        arguments := { reading.arguments with files := reading.arguments.files ++ [⟨name⟩] } }

/-- Reads the option for dry runs. -/
def setDryRun (reading : Reading) : Except UsageError Reading := do
  let arguments ← reading.accepted
  if arguments.dryRun then .error (.repeated dryRunOption)
  else .ok ⟨{ arguments with dryRun := true }, none⟩

/-- Reads a log level after its option. -/
def setLogLevel (reading : Reading) (level : String) : Except UsageError Reading := do
  let arguments ← reading.accepted
  match arguments.logLevel with
  | some _ => .ok ⟨arguments, some (.repeated logLevelOption)⟩
  | none => .ok ⟨{ arguments with logLevel := some level }, none⟩

end Reading

/-- Reads arguments; two dashes make all that follow them scripts. -/
def readOn (reading : Reading) : List String → Except UsageError Invocation
  | [] => reading.accepted.map .fill
  | "--" :: names => do
    let reading ← names.foldlM Reading.addFile reading
    reading.accepted.map .fill
  | argument :: rest =>
    match option? argument with
    | none => do readOn (← reading.addFile argument) rest
    | some (.error e) => .error e
    | some (.ok .version) => reading.accepted.map fun _ => .version
    | some (.ok .help) => reading.accepted.map fun _ => .help
    | some (.ok .dryRun) => do readOn (← reading.setDryRun) rest
    | some (.ok (.logLevel (some level))) => do
      let reading ← reading.setLogLevel level
      readOn ⟨← reading.accepted, none⟩ rest
    | some (.ok (.logLevel none)) =>
      match reading.accepted, rest with
      | .error e, _ => .error e
      | .ok _, [] => .error (.missingValue logLevelOption)
      | .ok _, level :: rest =>
        if level == "--" then .error (.missingValue logLevelOption)
        else
          match option? level with
          | none => do readOn (← reading.setLogLevel level) rest
          | some (.error e) => .error e
          | some (.ok _) => .error (.missingValue logLevelOption)

/-- Reads the arguments of a run. -/
def read (arguments : List String) : Except UsageError Invocation :=
  readOn .start arguments

/-! ## Runs -/

/-- Fills the scripts that are named, or else the one that the settings name. -/
def fillScripts (settings : Settings) (files : FileTree) (paths : List Path) :
    Outcome BatchSummary :=
  let paths := if paths.isEmpty then [settings.defaultInput] else paths
  let batch := fillBatch settings.dryRun files paths
  { batch with log := #[.fillingScripts paths.length] ++ batch.log }

/-- What a run of the program leaves: its exit code, what it printed, each text with a line feed
after it, and the files. -/
structure Result where
  code : UInt8
  output : List String
  errors : List String
  files : FileTree

/-- A run that stopped after it had printed `output`. -/
def Result.stopped (output : List String) (files : FileTree) : Result :=
  ⟨101, output, [""], files⟩

/-- The environment with the variables of the environment file of the working directory. -/
def environment (env : Environment) (files : FileTree) : Option Environment :=
  match files.readLeadingText ⟨".env"⟩ with
  | .ok s => EnvFile.addTo env s
  | .error _ => some env

/-- The settings with what the arguments say in the place of what the environment says. -/
def settingsFor (arguments : Arguments) (settings : Settings) : Settings :=
  { settings with
    logFilter := arguments.logLevel.getD settings.logFilter
    dryRun := settings.dryRun || arguments.dryRun }

/-- Fills scripts and prints what is reported. -/
def fill (arguments : Arguments) (env : Environment) (files : FileTree) : Result :=
  match Settings.ofEnvironment env with
  | .error e => ⟨1, [], ["Error: " ++ e.message], files⟩
  | .ok settings =>
    let settings := settingsFor arguments settings
    match LogFilter.ofText settings.logFilter with
    | .error .malformed =>
      ⟨1, [], ["Error: invalid log filter '" ++ settings.logFilter ++ "'"], files⟩
    | .error .splitCharacter => .stopped [] files
    | .ok filter =>
      let batch := fillScripts settings files arguments.files
      let shown := (batch.log.toList.filter filter.allows).map (Text.spelledOut ·.line)
      match batch.result with
      | some _ => ⟨0, shown, [], batch.files⟩
      | none => .stopped shown batch.files

/-- A run of the program. Without an environment it stops before it has read its arguments. -/
def run (arguments : List String) (env : Environment) (files : FileTree) : Result :=
  match environment env files with
  | none => .stopped [] files
  | some env =>
    match read arguments with
    | .error e => ⟨2, [], [e.message], files⟩
    | .ok .version => ⟨0, ["sheetfill 0.1.0"], [], files⟩
    | .ok .help => ⟨0, ["Fill spreadsheet documents from fill scripts"], [], files⟩
    | .ok (.fill arguments) => fill arguments env files

end CommandLine

end FillScript
