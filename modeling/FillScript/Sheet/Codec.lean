import FillScript.Json.Decode
import FillScript.Json.Printer
import FillScript.Number.Reading
import FillScript.Sheet.Workbook
import FillScript.Text.Split

/-!
# Workbooks as JSON

The stored form of workbooks, sheets and cells. A record is an object with a key per field; on
reading, keys without a meaning are passed over, and an array of the fields in their order is
accepted in the place of an object. The cells of a sheet are an object whose keys are row and
column, joined by a comma.
-/

namespace FillScript

open Json

namespace CellFormat

/-- The stored form: only what differs from the plain format. -/
def toJson (format : CellFormat) : Json :=
  .ofEntries
    ((if format.wrapText then [("wrap_text", .bool true)] else []) ++
      (if format.verticalAlign = .bottom then []
        else [("vertical_align", .string format.verticalAlign.name)]))

/-- Decodes an alignment. -/
def alignOfJson (value : Json) : Except ReadError VerticalAlign :=
  asCase VerticalAlign.name VerticalAlign.all value

/-- A format of which some fields may be missing. -/
def ofFields (wrapText : Option Bool) (align : Option VerticalAlign) : CellFormat :=
  ⟨wrapText.getD false, align.getD .bottom⟩

/-- Decodes a format. -/
def ofJson : Json → Except ReadError CellFormat
  | .object entries => do
    let (wrap, align) ← foldEntries
      (fun (wrap, align) key value =>
        match key with
        | "wrap_text" => return (← fillOnce wrap (asBool value), align)
        | "vertical_align" => return (wrap, ← fillOnce align (alignOfJson value))
        | _ => do
          ignore value
          return (wrap, align))
      (none, none) entries
    return ofFields wrap align
  | .array [] => return ofFields none none
  | .array [wrap] => return ofFields (← asBool wrap) none
  | .array [wrap, align] => return ofFields (← asBool wrap) (← alignOfJson align)
  | _ => .error .malformed

end CellFormat

/-- The cases of a cell value. -/
inductive ValueCase where
  | empty
  | number
  | text
  | boolean
deriving DecidableEq

namespace ValueCase

/-- The word for a case. -/
def name : ValueCase → String
  | empty => "Empty"
  | number => "Number"
  | text => "Text"
  | boolean => "Boolean"

/-- All cases. -/
def all : List ValueCase :=
  [empty, number, text, boolean]

end ValueCase

namespace CellValue

/-- The case of a value. -/
def case : CellValue → ValueCase
  | empty => .empty
  | number _ => .number
  | text _ => .text
  | boolean _ => .boolean

/-- What a value holds beyond its case. -/
def content? : CellValue → Option Json
  | empty => none
  | number value => some (.number value.stored)
  | text value => some (.string value)
  | boolean value => some (.bool value)

/-- The stored form: the case, and the content if there is one. -/
def toJson (value : CellValue) : Json :=
  .ofEntries (("type", .string value.case.name) ::
    (value.content?.map fun content => ("value", content)).toList)

/-- The value of a case with a content. -/
def ofContent (valueCase : ValueCase) (content : Option Json) : Except ReadError CellValue :=
  match valueCase, content with
  | .empty, none => .ok empty
  | .empty, some .null => .ok empty
  | .number, some (.number numeral) => (required numeral.toBinary64?).map number
  | .text, some (.string value) => .ok (text value)
  | .boolean, some (.bool value) => .ok (boolean value)
  | _, _ => .error .malformed

/-- Decodes the case of a value. -/
def caseOfJson (value : Json) : Except ReadError ValueCase :=
  asCase ValueCase.name ValueCase.all value

/-- Decodes a value: a record, in which case and content may come in either order, or a list of the
two. In a list the case is a plain word. -/
def ofJson : Json → Except ReadError CellValue
  | .object entries => do
    let (valueCase, content) ← foldEntries
      (fun (valueCase, content) key value =>
        match key with
        | "type" => return (← fillOnce valueCase (caseOfJson value), content)
        | "value" => return (valueCase, ← fillOnce content (.ok value))
        | _ => do
          ignore value
          return (valueCase, content))
      (none, none) entries
    ofContent (← required valueCase) content
  | .array [.string word, content] => do
    ofContent (← caseNamed ValueCase.name ValueCase.all word) (some content)
  | _ => .error .malformed

end CellValue

namespace Cell

/-- The stored form. -/
def toJson (cell : Cell) : Json :=
  .ofEntries [("value", cell.value.toJson), ("format", cell.format.toJson)]

/-- Decodes a cell. The format may be missing. -/
def ofJson : Json → Except ReadError Cell
  | .object entries => do
    let (value, format) ← foldEntries
      (fun (value, format) key json =>
        match key with
        | "value" => return (← fillOnce value (CellValue.ofJson json), format)
        | "format" => return (value, ← fillOnce format (CellFormat.ofJson json))
        | _ => do
          ignore json
          return (value, format))
      (none, none) entries
    return ⟨← required value, format.getD .plain⟩
  | .array [value] => return ⟨← CellValue.ofJson value, .plain⟩
  | .array [value, format] => return ⟨← CellValue.ofJson value, ← CellFormat.ofJson format⟩
  | _ => .error .malformed

/-- Reads the stored form of a cell. -/
def ofText (s : String) : Except ReadError Cell :=
  decodeText ofJson s

end Cell

namespace Sheet

/-- The key of a position: row and column. -/
def keyOf (pos : Coord) : String :=
  Digits.text pos.row.toNat ++ "," ++ Digits.text pos.col.toNat

/-- The position that a key stands for: two numbers with a comma between them and perhaps blanks
around each. -/
def coordOfKey? (key : String) : Option Coord := do
  let (row, col) ← Text.splitFirst ',' key.toList
  let row ← Digits.readWord? (Text.trimmed row)
  let col ← Digits.readWord? (Text.trimmed col)
  return ⟨row, col⟩

/-- The stored form of the cells. -/
def cellsToJson (cells : Sparse Coord Cell) : Json :=
  .ofEntries (cells.entries.map fun (pos, cell) => (keyOf pos, cell.toJson))

/-- The stored form. -/
def toJson (sheet : Sheet) : Json :=
  .ofEntries [("name", .string sheet.name), ("cells", cellsToJson sheet.cells)]

/-- Takes over an entry of the stored cells: a later cell replaces an earlier one, and an empty cell
says nothing. -/
def addEntry (cells : Sparse Coord Cell) (key : String) (value : Json) :
    Except ReadError (Sparse Coord Cell) :=
  match Cell.ofJson value with
  | .error e => .error e
  | .ok cell =>
    match coordOfKey? key with
    | none => .error (.cellKey key)
    | some pos => .ok (if cell.isEmpty then cells else cells.put pos (some cell))

/-- Decodes the cells of a sheet. -/
def cellsOfJson : Json → Except ReadError (Sparse Coord Cell)
  | .object entries => foldEntries addEntry .empty entries
  | _ => .error .malformed

/-- Decodes a sheet. The cells may be missing. -/
def ofJson : Json → Except ReadError Sheet
  | .object entries => do
    let (name, cells) ← foldEntries
      (fun (name, cells) key json =>
        match key with
        | "name" => return (← fillOnce name (asText json), cells)
        | "cells" => return (name, ← fillOnce cells (cellsOfJson json))
        | _ => do
          ignore json
          return (name, cells))
      (none, none) entries
    return ⟨← required name, cells.getD .empty⟩
  | .array (name :: rest) => do
    let name ← asText name
    match rest with
    | [] => return ⟨name, .empty⟩
    | cells :: rest =>
      let cells ← cellsOfJson cells
      if rest.isEmpty then return ⟨name, cells⟩ else .error .malformed
  | _ => .error .malformed

/-- Reads the stored form of a sheet. -/
def ofText (s : String) : Except ReadError Sheet :=
  decodeText ofJson s

end Sheet

namespace Workbook

/-- The stored form. -/
def toJson (workbook : Workbook) : Json :=
  .ofEntries
    [("name", .string workbook.name), ("sheets", .array (workbook.sheets.map Sheet.toJson))]

/-- Decodes a workbook. -/
def ofJson : Json → Except ReadError Workbook
  | .object entries => do
    let (name, sheets) ← foldEntries
      (fun (name, sheets) key json =>
        match key with
        | "name" => return (← fillOnce name (asText json), sheets)
        | "sheets" => return (name, ← fillOnce sheets (asListOf Sheet.ofJson json))
        | _ => do
          ignore json
          return (name, sheets))
      (none, none) entries
    return ⟨← required name, ← required sheets⟩
  | .array (name :: sheets :: rest) => do
    let name ← asText name
    let sheets ← asListOf Sheet.ofJson sheets
    if rest.isEmpty then return ⟨name, sheets⟩ else .error .malformed
  | _ => .error .malformed

/-- Reads the stored form of a workbook. -/
def ofText (s : String) : Except ReadError Workbook :=
  decodeText ofJson s

/-- The text a workbook is stored as. -/
def text (workbook : Workbook) : String :=
  workbook.toJson.pretty

end Workbook

end FillScript
