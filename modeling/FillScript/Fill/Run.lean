import FillScript.Fill.Dispatch
import FillScript.Script.Template

/-!
# Filling a document

The sections of a template are carried out one after the other, each on the sheet of its name from a
fresh start. A section without a sheet is reported and passed over.
-/

namespace FillScript

/-- What happened while a document was filled. -/
structure FillReport where
  sheetsProcessed : Nat
  /-- The names of sections without a sheet. -/
  sheetsMissing : List String
  stats : Stats
  saved : Bool
deriving DecidableEq, Repr

namespace FillReport

/-- Nothing happened. -/
def empty : FillReport :=
  ⟨0, [], .zero, false⟩

end FillReport

/-- A document that has been filled, with what happened. -/
structure Filled (δ : Type) where
  doc : δ
  report : FillReport
  log : Log

namespace Template

variable {δ : Type} [Document δ]

/-- The session in which the lines for a sheet have been carried out. -/
def runSheet (template : Template) (doc : δ) (sheet : String) (lines : List String) : Session δ :=
  (dispatchAll .start (.start doc sheet template.fillColumns)
    (lines.map (Command.ofLine template.useTitle))).2

/-- Carries out a section. -/
def runSection (template : Template) (filled : Filled δ) (part : Section) : Filled δ :=
  if Document.hasSheet filled.doc part.name then
    let s := template.runSheet filled.doc part.name part.lines
    { doc := s.doc
      report := { filled.report with
        sheetsProcessed := filled.report.sheetsProcessed + 1
        stats := filled.report.stats + s.stats }
      log := filled.log.push (.fillingSheet part.name) ++ s.log }
  else
    { filled with
      report := { filled.report with
        sheetsMissing := filled.report.sheetsMissing ++ [part.name] }
      log := filled.log.push (.sheetMissing part.name) }

/-- Carries out all sections and saves nothing. -/
def run (template : Template) (doc : δ) : Filled δ :=
  template.sections.list.foldl template.runSection ⟨doc, .empty, #[]⟩

/-- Saves a document under the output path of the template: the files after that, whether it was
saved, and what is reported. A document that cannot be saved is reported, and the files are assumed
to be as before, even if a draft of it was written (`OpenBook.save`). There is nothing after that if
the program stops. -/
def save (template : Template) (doc : δ) (files : FileTree) : Option (FileTree × Bool × Event) :=
  if template.output.isEmpty then some (files, false, .noOutput)
  else
    match Document.save doc files template.output with
    | .ok files => some (files, true, .saved template.output)
    | .error (.failed e) => some (files, false, .failed (.saveFailed template.output e))
    | .error .unnamedFormat => none

/-- Carries out all sections and saves the document. There are no files after that if the program
stops at saving. -/
def apply (template : Template) (doc : δ) (files : FileTree) : Filled δ × Option FileTree :=
  let filled := template.run doc
  match template.save filled.doc files with
  | some (files, saved, event) =>
    ({ filled with
      report := { filled.report with saved }
      log := filled.log.push event }, some files)
  | none => (filled, none)

end Template

end FillScript
