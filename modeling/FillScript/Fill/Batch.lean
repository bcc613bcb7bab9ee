import FillScript.Fill.Run

/-!
# Filling files

A script file names the document to fill and the file to save it to. Scripts are filled in order,
each on the files that the ones before it left; one that fails is reported and the next one follows.
A script at which the program stops is the last.
-/

namespace FillScript

namespace Template

/-- The template with its source looked up next to the script, in `base`, if it is not there as
given; and what is reported of that. -/
def resolveSource (template : Template) (files : FileTree) (base : Path) : Template × Log :=
  let source := template.source
  if source.isEmpty || source.isAbsolute || files.exists? source then (template, #[])
  else ({ template with source := base.join source }, #[.resolved source (base.join source)])

/-- Loads a script file. -/
def load (files : FileTree) (path : Path) : Except ScriptError Template × Log :=
  if files.isFile path then
    match files.readText path with
    | .error e => (.error (.unreadable path e), #[])
    | .ok s =>
      let notes := ((notesOfText s).map Event.note).toArray
      let (template, log) := (ofText s).resolveSource files (path.parent?.getD .empty)
      (.ok template, notes ++ log)
  else (.error (.notFound path), #[])

end Template

/-- What a part of a run came to. -/
structure Outcome (α : Type) where
  /-- Nothing if the program stopped. -/
  result : Option α
  log : Log
  files : FileTree

/-- Fills the document that a script names. In a dry run nothing is saved. -/
def fillFile (dryRun : Bool) (files : FileTree) (path : Path) :
    Outcome (Except FillError FillReport) :=
  match Template.load files path with
  | (.error e, log) => ⟨some (.error (.ofScriptError e)), log, files⟩
  | (.ok template, log) =>
    let log := log.push (.opening template.source)
    match OpenDocument.openAt files template.source with
    | .error e => ⟨some (.error (.ofOpenError template.source e)), log, files⟩
    | .ok doc =>
      if dryRun then
        let filled := template.run doc
        ⟨some (.ok filled.report), log.push (.dryRun template.output) ++ filled.log, files⟩
      else
        match template.apply doc files with
        | (filled, some files) => ⟨some (.ok filled.report), log ++ filled.log, files⟩
        | (filled, none) => ⟨none, log ++ filled.log, files⟩

/-- What became of a list of scripts. -/
structure BatchSummary where
  completed : List (Path × FillReport)
  failed : List (Path × FillError)

namespace BatchSummary

/-- No script yet. -/
def empty : BatchSummary :=
  ⟨[], []⟩

/-- How many scripts were attempted. -/
def attempted (summary : BatchSummary) : Nat :=
  summary.completed.length + summary.failed.length

/-- Whether no script failed. -/
def isClean (summary : BatchSummary) : Bool :=
  summary.failed.isEmpty

end BatchSummary

/-- Fills one more script of a batch, unless the program has stopped. -/
def fillNext (dryRun : Bool) (batch : Outcome BatchSummary) (path : Path) :
    Outcome BatchSummary :=
  match batch.result with
  | none => batch
  | some summary =>
    let ⟨result, log, files⟩ := fillFile dryRun batch.files path
    match result with
    | some (.ok report) =>
      ⟨some { summary with completed := summary.completed ++ [(path, report)] },
        batch.log ++ log, files⟩
    | some (.error e) =>
      ⟨some { summary with failed := summary.failed ++ [(path, e)] },
        (batch.log ++ log).push (.failed e), files⟩
    | none => ⟨none, batch.log ++ log, files⟩

/-- Fills scripts in order. -/
def fillBatch (dryRun : Bool) (files : FileTree) (paths : List Path) : Outcome BatchSummary :=
  let batch := paths.foldl (fillNext dryRun) ⟨some .empty, #[], files⟩
  match batch.result with
  | some summary =>
    { batch with log := batch.log.push (.processed summary.attempted summary.failed.length) }
  | none => batch

end FillScript
