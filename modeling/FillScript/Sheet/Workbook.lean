import FillScript.Sheet.Basic

/-!
# Workbooks

A workbook is a list of sheets. Names may repeat: a name stands for the first sheet that has it.
-/

namespace FillScript

/-- A named list of sheets. -/
structure Workbook where
  name : String
  sheets : List Sheet
deriving DecidableEq

/-- The list with its first element that satisfies `p` changed by `f`. -/
def modifyFirst {α : Type} (p : α → Bool) (f : α → α) : List α → List α
  | [] => []
  | a :: as => if p a then f a :: as else a :: modifyFirst p f as

namespace Workbook

/-- A workbook with one blank sheet. -/
def blank (name : String) : Workbook :=
  ⟨name, [.blank "Sheet1"]⟩

/-- The workbook that nobody named. -/
def untitled : Workbook :=
  blank "Untitled"

instance : Inhabited Workbook := ⟨untitled⟩

/-- The sheet that a name stands for. -/
def sheet? (workbook : Workbook) (name : String) : Option Sheet :=
  workbook.sheets.find? (·.name == name)

/-- The workbook with the sheet that a name stands for changed by `f`. -/
def modifySheet (workbook : Workbook) (name : String) (f : Sheet → Sheet) : Workbook :=
  { workbook with sheets := modifyFirst (·.name == name) f workbook.sheets }

/-- The names of the sheets. -/
def sheetNames (workbook : Workbook) : List String :=
  workbook.sheets.map (·.name)

end Workbook

end FillScript
