import FillScript.Main
import FillScript.Proofs.Document.SameDocument
import FillScript.Proofs.Document.ShownRanges
import FillScript.Proofs.Document.UsedRanges
import FillScript.Proofs.Fill.Accounts
import FillScript.Proofs.Fill.Blocks
import FillScript.Proofs.Fill.Effects
import FillScript.Proofs.Fill.LostCursor
import FillScript.Proofs.Fill.Repetition
import FillScript.Proofs.Fill.SheetSearch
import FillScript.Proofs.Fill.Walks
import FillScript.Proofs.Script.Layout
import FillScript.Proofs.Script.Sections
import FillScript.Proofs.Script.Writing
import FillScript.Proofs.Sheet.CellTable
import FillScript.Proofs.Sheet.LabelOrder
import FillScript.Proofs.Sheet.Reference
import FillScript.Proofs.Sheet.Storage
