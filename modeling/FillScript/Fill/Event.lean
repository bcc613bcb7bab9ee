import FillScript.Document.Error
import FillScript.Script.Reader
import FillScript.Sheet.Coord

/-!
# Events

What is reported while scripts are read and documents are filled, each event with its severity, the
part of the program that reports it, and its message. Values in messages are shortened.
-/

namespace FillScript

/-- How much an event matters. -/
inductive Severity where
  | error
  | warn
  | info
  | debug
deriving DecidableEq, Repr

namespace Severity

/-- The word for a severity. -/
def name : Severity → String
  | error => "ERROR"
  | warn => "WARN"
  | info => "INFO"
  | debug => "DEBUG"

/-- The place of a severity: the smaller, the more it matters. -/
def rank : Severity → Nat
  | error => 1
  | warn => 2
  | info => 3
  | debug => 4

end Severity

/-- A text for a message: from 50 characters on it is cut to 47 and an ellipsis. -/
def shortened (s : String) : String :=
  if s.length < 50 then s else String.ofList (s.toList.take 47) ++ "..."

/-- Something that is reported. -/
inductive Event where
  | note (note : ScriptNote)
  | resolved (source path : Path)
  | fillingScripts (count : Nat)
  | opening (path : Path)
  | dryRun (output : Path)
  | fillingSheet (sheet : String)
  | found (value : String) (pos : Coord) (sheet : String)
  | added (value : String) (pos : Coord) (sheet : String)
  | appended (value : String) (pos : Coord) (sheet : String)
  | skipped (value : String) (sheet : String) (cause : DocumentError)
  | writeFailed (pos : Coord) (sheet : String) (cause : DocumentError)
  | appendFailed (pos : Coord) (sheet : String) (cause : DocumentError)
  | dropped (text : String) (sheet : String)
  | unrecognized (cause : FillError)
  | failed (cause : FillError)
  | sheetMissing (sheet : String)
  | saved (path : Path)
  | noOutput
  | processed (count failures : Nat)
deriving DecidableEq

namespace Event

/-- How much an event matters. -/
def severity : Event → Severity
  | note _ | resolved .. | dropped .. | unrecognized _ => .debug
  | fillingScripts _ | opening _ | dryRun _ | fillingSheet _ | found .. | added .. | appended ..
  | saved _ | processed .. => .info
  | skipped .. => .warn
  | writeFailed .. | appendFailed .. | failed _ | sheetMissing _ | noOutput => .error

/-- The part of the program that reports an event, as log filters name it. -/
def target : Event → String
  | note _ | resolved .. => "sheetfill_script::template"
  | fillingScripts _ => "sheetfill_cli"
  | opening _ | dryRun _ | processed .. => "sheetfill_engine::batch"
  | fillingSheet _ | sheetMissing _ | saved _ | noOutput => "sheetfill_engine::interpreter"
  | found .. | added .. | appended .. | skipped .. | writeFailed .. | appendFailed ..
  | unrecognized _ => "sheetfill_engine::context"
  | dropped .. => "sheetfill_engine::state"
  | failed (.cellNotFound ..) => "sheetfill_engine::context"
  | failed (.saveFailed ..) => "sheetfill_engine::interpreter"
  | failed _ => "sheetfill_engine::batch"

/-- What is said about an event. -/
def message : Event → String
  | note n => n.message
  | resolved source path => "resolved " ++ source.text ++ " relative to script: " ++ path.text
  | fillingScripts count => "Filling " ++ Digits.text count ++ " script(s)"
  | opening path => "Opening " ++ path.text
  | dryRun output => "Dry run: " ++ output.text ++ " not written"
  | fillingSheet sheet => "Filling sheet " ++ sheet
  | found value pos sheet =>
    "Found '" ++ shortened value ++ "' at " ++ pos.label ++ " in " ++ sheet
  | added value pos sheet =>
    "Added '" ++ shortened value ++ "' at " ++ pos.label ++ " in " ++ sheet
  | appended value pos sheet =>
    "Appended '" ++ shortened value ++ "' at " ++ pos.label ++ " in " ++ sheet
  | skipped value sheet cause =>
    "Skipping '" ++ shortened value ++ "' in " ++ sheet ++ ": " ++ cause.message
  | writeFailed pos sheet cause =>
    "Failed to write " ++ pos.label ++ " in " ++ sheet ++ ": " ++ cause.message
  | appendFailed pos sheet cause =>
    "Failed to append at " ++ pos.label ++ " in " ++ sheet ++ ": " ++ cause.message
  | dropped text sheet =>
    "dropping '" ++ shortened text ++ "' in " ++ sheet ++ ": no active command"
  | unrecognized cause => cause.message
  | failed cause => cause.message
  | sheetMissing sheet => (DocumentError.sheetNotFound sheet).message
  | saved path => "Saved " ++ path.text
  | noOutput => "No output path given; document not saved"
  | processed count failures =>
    "Processed " ++ Digits.text count ++ " script(s), " ++ Digits.text failures ++ " failed"

/-- An event as a line of a log. -/
def line (event : Event) : String :=
  event.severity.name ++ " " ++ event.message

end Event

/-- Events in the order in which they happened. -/
abbrev Log := Array Event

end FillScript
