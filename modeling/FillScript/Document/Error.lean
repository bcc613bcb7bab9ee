import FillScript.Files.Tree
import FillScript.Sheet.Fault

/-!
# What can go wrong

The faults of documents and scripts by their causes, and what is said about each.
-/

namespace FillScript

/-- Why a document cannot be opened, changed or saved. -/
inductive DocumentError where
  | notFound (path : Path)
  | unsupportedFormat (path : Path)
  | sheetNotFound (name : String)
  | invalidPosition (row col : Int)
  | file (path : Path) (cause : FileError)
  /-- A file is no stored workbook; the place is given if it is that of a key. -/
  | json (cause : ReadError) (place : Option Text.Place)
  /-- A file is no book, or a book cannot be written. -/
  | book
deriving DecidableEq

namespace DocumentError

/-- What is said about a fault. -/
def message : DocumentError → String
  | notFound path => "Cannot find " ++ path.text
  | unsupportedFormat path => "Unsupported document format: " ++ path.text
  | sheetNotFound name => "Sheet not found: " ++ name
  | invalidPosition row col =>
    "Invalid cell position (" ++ (Numeral.ofInt row).text ++ ", " ++ (Numeral.ofInt col).text ++ ")"
  | file path cause => "I/O error on " ++ path.text ++ ": " ++ cause.message
  | json cause place => cause.message ++ (place.elim "" fun place => " at " ++ place.text)
  | book => "xlsx error"

end DocumentError

/-- Why a document is not saved. -/
inductive SaveFault where
  | failed (cause : DocumentError)
  /-- The name of the file does not tell a format. There is no way on from here: the program stops.
  -/
  | unnamedFormat
deriving DecidableEq

/-- Why a script cannot be loaded. -/
inductive ScriptError where
  | notFound (path : Path)
  | unreadable (path : Path) (cause : FileError)
deriving DecidableEq

namespace ScriptError

/-- What is said about a fault. -/
def message : ScriptError → String
  | notFound path => "Cannot find " ++ path.text
  | unreadable path cause => "Failed to read " ++ path.text ++ ": " ++ cause.message

end ScriptError

/-- What goes wrong when a document is filled. -/
inductive FillError where
  | documentNotFound (path : Path)
  | cellNotFound (sheet value : String)
  | saveFailed (path : Path) (cause : DocumentError)
  | unrecognizedCommand (sheet line : String)
  | openFailed (path : Path) (cause : DocumentError)
  | script (cause : ScriptError)
deriving DecidableEq

namespace FillError

/-- What is said about a fault. -/
def message : FillError → String
  | documentNotFound path => "Cannot find " ++ path.text
  | cellNotFound sheet value => "Cannot find '" ++ value ++ "' in sheet " ++ sheet
  | saveFailed path cause => "Failed to save " ++ path.text ++ ": " ++ cause.message
  | unrecognizedCommand sheet line => "Unrecognized command in sheet " ++ sheet ++ ": " ++ line
  | openFailed path cause => "Failed to open " ++ path.text ++ ": " ++ cause.message
  | script cause => cause.message

/-- A script that is not there is missing like a document; other faults are its own. -/
def ofScriptError : ScriptError → FillError
  | .notFound path => documentNotFound path
  | cause => script cause

/-- A document that is not there is missing; other faults come with opening it. -/
def ofOpenError (path : Path) : DocumentError → FillError
  | .notFound path => documentNotFound path
  | cause => openFailed path cause

end FillError

end FillScript
