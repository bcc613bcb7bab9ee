import FillScript.Document.Error

/-!
# Documents

What filling needs of a document: its sheets by name, the text at a position and how far each sheet
is used, and the two ways to change a cell. Workbooks and open books are documents. Reading a sheet
that is not there finds it blank; changing one is an error.
-/

namespace FillScript

/-- A document of named sheets with texts in their cells. -/
class Document (δ : Type) where
  /-- The names of the sheets, in order. -/
  sheetNames : δ → List String
  /-- The last row with a text. -/
  lastUsedRow : δ → String → Option UInt32
  /-- The last column with a text in a row. -/
  lastUsedCol : δ → String → UInt32 → Option UInt32
  /-- The text at a position. -/
  text : δ → String → Coord → String
  /-- The titles: the texts of row 0 up to its last column with a text. -/
  header : δ → String → List String := fun doc sheet =>
    match lastUsedCol doc sheet 0 with
    | some last => (indicesUpTo last).map fun col => text doc sheet ⟨0, col⟩
    | none => []
  /-- Stores a text and merges a format into that of the cell. -/
  setText : δ → String → Coord → String → CellFormat → Except DocumentError δ
  /-- Merges a format into that of a cell and leaves its text. -/
  applyFormat : δ → String → Coord → CellFormat → Except DocumentError δ
  /-- Writes the document to a file. -/
  save : δ → FileTree → Path → Except SaveFault FileTree

namespace Document

variable {δ : Type} [Document δ]

/-- Whether there is a sheet with a name. -/
def hasSheet (doc : δ) (sheet : String) : Bool :=
  (sheetNames doc).contains sheet

end Document

namespace Workbook

/-- The workbook with a sheet changed, if there is one with this name. -/
def change (workbook : Workbook) (name : String) (f : Sheet → Sheet) :
    Except DocumentError Workbook :=
  match workbook.sheet? name with
  | some _ => .ok (workbook.modifySheet name f)
  | none => .error (.sheetNotFound name)

/-- Writes a workbook to a file as text. -/
def save (workbook : Workbook) (files : FileTree) (path : Path) : Except SaveFault FileTree :=
  match files.write path (.text workbook.text) with
  | .ok files => .ok files
  | .error e => .error (.failed (.file path e))

instance : Document Workbook where
  sheetNames := sheetNames
  lastUsedRow workbook name := (workbook.sheet? name).bind Sheet.lastUsedRow
  lastUsedCol workbook name row := (workbook.sheet? name).bind (·.lastUsedCol row)
  text workbook name pos := ((workbook.sheet? name).map (·.text pos)).getD ""
  header workbook name := ((workbook.sheet? name).map Sheet.header).getD []
  setText workbook name pos text request :=
    workbook.change name fun sheet => (sheet.setText pos text).applyFormat pos request
  applyFormat workbook name pos request := workbook.change name (·.applyFormat pos request)
  save := save

end Workbook

namespace OpenBook

/-- The changed document, if there is a sheet with this name. -/
def change (doc : OpenBook) (name : String) (changed : OpenBook) : Except DocumentError OpenBook :=
  match doc.book.sheet? name with
  | some _ => .ok changed
  | none => .error (.sheetNotFound name)

/-- Writes a book to a file, the extension of whose name tells the format. The file is made ready
under another name, whatever is there, and then moved to its own. It is assumed that a write that
fails has changed nothing, also where it is the move that fails: what was made ready is not kept
then. -/
def save (doc : OpenBook) (files : FileTree) (path : Path) : Except SaveFault FileTree :=
  match path.fileName?.bind Path.extensionOf with
  | none => .error .unnamedFormat
  | some _ =>
    match files.write path.draft (.book doc.book.written) with
    | .error _ => .error (.failed .book)
    | .ok drafted =>
      match drafted.move path.draft path with
      | .ok files => .ok files
      | .error _ => .error (.failed .book)

instance : Document OpenBook where
  sheetNames doc := doc.book.sheets.map (·.name)
  lastUsedRow doc name := (BoundsTable.find? doc.bounds name).bind RowBounds.lastRow
  lastUsedCol doc name row := (BoundsTable.find? doc.bounds name).bind (·.find? row)
  text := text
  setText doc name pos text request := doc.change name (doc.write name pos text request)
  applyFormat doc name pos request := doc.change name (doc.format name pos request)
  save := save

end OpenBook

/-- A document of either kind. -/
inductive OpenDocument where
  | workbook (doc : Workbook)
  | book (doc : OpenBook)
deriving DecidableEq

namespace OpenDocument

instance : Document OpenDocument where
  sheetNames
    | workbook doc => Document.sheetNames doc
    | book doc => Document.sheetNames doc
  lastUsedRow
    | workbook doc => Document.lastUsedRow doc
    | book doc => Document.lastUsedRow doc
  lastUsedCol
    | workbook doc => Document.lastUsedCol doc
    | book doc => Document.lastUsedCol doc
  text
    | workbook doc => Document.text doc
    | book doc => Document.text doc
  header
    | workbook doc => Document.header doc
    | book doc => Document.header doc
  setText
    | workbook doc, sheet, pos, text, request =>
      (Document.setText doc sheet pos text request).map workbook
    | book doc, sheet, pos, text, request =>
      (Document.setText doc sheet pos text request).map book
  applyFormat
    | workbook doc, sheet, pos, request => (Document.applyFormat doc sheet pos request).map workbook
    | book doc, sheet, pos, request => (Document.applyFormat doc sheet pos request).map book
  save
    | workbook doc => Document.save doc
    | book doc => Document.save doc

/-- Opens the document at a path. The extension of the path tells its kind. -/
def openAt (files : FileTree) (path : Path) : Except DocumentError OpenDocument :=
  match files.read path with
  | .error _ => .error (.notFound path)
  | .ok contents =>
    match path.extension with
    | "json" =>
      match contents with
      | .text s =>
        match Workbook.ofText s with
        | .ok doc => .ok (workbook doc)
        | .error e => .error (.json e (Workbook.faultPlace? s e))
      | _ => .error (.file path .notText)
    | "xlsx" | "xlsm" =>
      match contents with
      | .book b => .ok (book (.ofBook b.opened))
      | _ => .error .book
    | _ => .error (.unsupportedFormat path)

end OpenDocument

end FillScript
