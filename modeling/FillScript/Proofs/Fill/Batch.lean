import FillScript.Fill.Batch
import FillScript.Proofs.Document.Simulation
import FillScript.Proofs.Files.Tree

/-!
# Scripts in a batch

Filling a script comes to one of a few things (`Fills`), and wherever it fails or the program stops
the files are as they were. The scripts of a batch are filled in turn, each on the files that the
ones before it left (`FillsInTurn`), and the summary has the ones that were filled and the ones that
failed, in their order. So a script that fails may be left out: nothing else changes
(`FillsInTurn.eraseIdx`). In a dry run the files stay as they are, and what becomes of a script
depends on them alone (`FillsInTurn.rehearsed`).

There is one way for the program to stop: a book is saved under a name that does not tell a format
(`result_fillFile_eq_none_iff`). A batch runs to its end where no script does that
(`result_fillBatch_eq_none_iff`).
-/

namespace FillScript

/-! ## Scripts that can be loaded -/

/-- A script whose source is there as it is named is loaded as it is written. -/
theorem Template.load_of_read {files : FileTree} {path : Path} {s : String} {contents : Contents}
    (hread : files.read path = .ok (.text s))
    (hsource : files.read (ofText s).source = .ok contents) :
    load files path = (.ok (ofText s), ((notesOfText s).map Event.note).toArray) := by
  have htext : files.readText path = .ok s := by rw [FileTree.readText, hread]
  have hresolve : (ofText s).resolveSource files (path.parent?.getD .empty) = (ofText s, #[]) := by
    rw [resolveSource, FileTree.exists?_of_read hsource]
    simp
  rw [load, if_pos (FileTree.isFile_of_read hread), htext]
  simp [hresolve]

/-! ## Documents of either kind -/

theorem sameOutcome_map {α : Type} (wrap : α → OpenDocument) (change : Except DocumentError α) :
    SameOutcome (fun doc a => doc = wrap a) (change.map wrap) change := by
  cases change with
  | ok a => exact .ok rfl
  | error e => exact .error e

/-- A document that is a workbook is filled like the workbook. -/
theorem simulation_workbook :
    Simulation fun (doc : OpenDocument) (workbook : Workbook) => doc = .workbook workbook where
  sheetNames := by rintro _ workbook rfl; rfl
  lastUsedRow := by rintro _ workbook rfl sheet; rfl
  lastUsedCol := by rintro _ workbook rfl sheet row; rfl
  text := by rintro _ workbook rfl sheet pos; rfl
  header := by rintro _ workbook rfl sheet; rfl
  setText := by rintro _ workbook rfl sheet pos text request; exact sameOutcome_map _ _
  applyFormat := by rintro _ workbook rfl sheet pos request; exact sameOutcome_map _ _

/-- A document that is a book is filled like the book. -/
theorem simulation_book :
    Simulation fun (doc : OpenDocument) (book : OpenBook) => doc = .book book where
  sheetNames := by rintro _ book rfl; rfl
  lastUsedRow := by rintro _ book rfl sheet; rfl
  lastUsedCol := by rintro _ book rfl sheet row; rfl
  text := by rintro _ book rfl sheet pos; rfl
  header := by rintro _ book rfl sheet; rfl
  setText := by rintro _ book rfl sheet pos text request; exact sameOutcome_map _ _
  applyFormat := by rintro _ book rfl sheet pos request; exact sameOutcome_map _ _

/-! ## What filling a script comes to -/

/-- What filling a script comes to, nothing if the program stops, and the files after that. -/
inductive Fills (dryRun : Bool) (files : FileTree) (path : Path) :
    Option (Except FillError FillReport) → FileTree → Prop where
  | notLoaded {e : ScriptError} {log : Log} (hload : Template.load files path = (.error e, log)) :
    Fills dryRun files path (some (.error (.ofScriptError e))) files
  | notOpened {template : Template} {log : Log} {e : DocumentError}
    (hload : Template.load files path = (.ok template, log))
    (hopen : OpenDocument.openAt files template.source = .error e) :
    Fills dryRun files path (some (.error (.ofOpenError template.source e))) files
  | rehearsed {template : Template} {log : Log} {doc : OpenDocument} (hdry : dryRun = true)
    (hload : Template.load files path = (.ok template, log))
    (hopen : OpenDocument.openAt files template.source = .ok doc) :
    Fills dryRun files path (some (.ok (template.run doc).report)) files
  | filled {template : Template} {log : Log} {doc : OpenDocument} {after : FileTree} {saved : Bool}
    {event : Event} (hdry : dryRun = false)
    (hload : Template.load files path = (.ok template, log))
    (hopen : OpenDocument.openAt files template.source = .ok doc)
    (hsave : template.save (template.run doc).doc files = some (after, saved, event)) :
    Fills dryRun files path (some (.ok { (template.run doc).report with saved })) after
  | stopped {template : Template} {log : Log} {doc : OpenDocument} (hdry : dryRun = false)
    (hload : Template.load files path = (.ok template, log))
    (hopen : OpenDocument.openAt files template.source = .ok doc)
    (hsave : template.save (template.run doc).doc files = none) :
    Fills dryRun files path none files

theorem fills_fillFile (dryRun : Bool) (files : FileTree) (path : Path) :
    Fills dryRun files path (fillFile dryRun files path).result
      (fillFile dryRun files path).files := by
  unfold fillFile
  cases hload : Template.load files path with
  | mk loaded log =>
    cases loaded with
    | error e => exact .notLoaded hload
    | ok template =>
      dsimp only
      cases hopen : OpenDocument.openAt files template.source with
      | error e => exact .notOpened hload hopen
      | ok doc =>
        cases dryRun with
        | true => exact .rehearsed rfl hload hopen
        | false =>
          simp only [Template.apply, Bool.false_eq_true, if_false]
          cases hsave : template.save (template.run doc).doc files with
          | none => exact .stopped rfl hload hopen hsave
          | some outcome => exact .filled rfl hload hopen hsave

/-- Where nothing is reported of a script, the files are as they were. -/
theorem files_of_unreported {dryRun : Bool} {files : FileTree} {path : Path}
    (hresult : ∀ report, (fillFile dryRun files path).result ≠ some (.ok report)) :
    (fillFile dryRun files path).files = files := by
  have hfills := fills_fillFile dryRun files path
  generalize (fillFile dryRun files path).files = after at hfills
  generalize (fillFile dryRun files path).result = result at hfills hresult
  cases hfills with
  | notLoaded hload => rfl
  | notOpened hload hopen => rfl
  | rehearsed hdry hload hopen => rfl
  | filled hdry hload hopen hsave => exact absurd rfl (hresult _)
  | stopped hdry hload hopen hsave => rfl

/-- A script that fails leaves the files as they were. -/
theorem files_of_failed {dryRun : Bool} {files : FileTree} {path : Path} {e : FillError}
    (hresult : (fillFile dryRun files path).result = some (.error e)) :
    (fillFile dryRun files path).files = files :=
  files_of_unreported fun report => by simp [hresult]

/-- Where the program stops, the files are as they were. -/
theorem files_of_stopped {dryRun : Bool} {files : FileTree} {path : Path}
    (hresult : (fillFile dryRun files path).result = none) :
    (fillFile dryRun files path).files = files :=
  files_of_unreported fun report => by simp [hresult]

/-- A dry run leaves the files as they were, and does not stop. -/
theorem fillFile_dryRun (files : FileTree) (path : Path) :
    (fillFile true files path).files = files ∧
      ∃ outcome, (fillFile true files path).result = some outcome := by
  have hfills := fills_fillFile true files path
  generalize (fillFile true files path).files = after at hfills
  generalize (fillFile true files path).result = result at hfills
  cases hfills with
  | notLoaded hload => exact ⟨rfl, _, rfl⟩
  | notOpened hload hopen => exact ⟨rfl, _, rfl⟩
  | rehearsed hdry hload hopen => exact ⟨rfl, _, rfl⟩
  | filled hdry hload hopen hsave => contradiction
  | stopped hdry hload hopen hsave => contradiction

/-! ## Where the program stops -/

/-- Whether a script saves a book under a name that does not tell a format. -/
def SavesUnnamed (files : FileTree) (path : Path) : Prop :=
  ∃ template log book, Template.load files path = (.ok template, log) ∧
    OpenDocument.openAt files template.source = .ok (.book book) ∧
    template.output.isEmpty = false ∧ template.output.fileName?.bind Path.extensionOf = none

theorem Template.save_eq_none_iff {δ : Type} [Document δ] {template : Template} {doc : δ}
    {files : FileTree} :
    template.save doc files = none ↔ template.output.isEmpty = false ∧
      Document.save doc files template.output = .error .unnamedFormat := by
  unfold save
  by_cases houtput : template.output.isEmpty = true
  · simp [houtput]
  · rw [if_neg houtput]
    cases hsave : Document.save doc files template.output with
    | ok after => simp
    | error fault => cases fault <;> simp [houtput]

theorem OpenBook.save_eq_unnamedFormat_iff {book : OpenBook} {files : FileTree} {path : Path} :
    book.save files path = .error .unnamedFormat ↔
      path.fileName?.bind Path.extensionOf = none := by
  unfold save
  cases path.fileName?.bind Path.extensionOf with
  | none => simp
  | some suffix =>
    dsimp only
    split
    · simp
    · split <;> simp

theorem Workbook.save_ne_unnamedFormat (workbook : Workbook) (files : FileTree) (path : Path) :
    workbook.save files path ≠ .error .unnamedFormat := by
  unfold save
  split <;> simp

/-- Filling an opened document stops the program if it is a book that is saved under a name without
a format. -/
theorem Template.save_run_eq_none_iff {template : Template} {doc : OpenDocument}
    {files : FileTree} :
    template.save (template.run doc).doc files = none ↔ ∃ book, doc = .book book ∧
      template.output.isEmpty = false ∧ template.output.fileName?.bind Path.extensionOf = none := by
  rw [save_eq_none_iff]
  cases doc with
  | workbook workbook =>
    obtain ⟨hdoc, -⟩ := simulation_workbook.run rfl template (a := .workbook workbook)
    rw [hdoc]
    constructor
    · rintro ⟨-, hsave⟩
      exact absurd hsave (Workbook.save_ne_unnamedFormat _ _ _)
    · rintro ⟨book, hbook, -⟩
      contradiction
  | book book =>
    obtain ⟨hdoc, -⟩ := simulation_book.run rfl template (a := .book book)
    rw [hdoc]
    constructor
    · rintro ⟨houtput, hsave⟩
      exact ⟨book, rfl, houtput, OpenBook.save_eq_unnamedFormat_iff.1 hsave⟩
    · rintro ⟨-, -, houtput, hname⟩
      exact ⟨houtput, OpenBook.save_eq_unnamedFormat_iff.2 hname⟩

/-- The program stops at a script that saves a book under a name that does not tell a format, and at
no other. -/
theorem result_fillFile_eq_none_iff {dryRun : Bool} {files : FileTree} {path : Path} :
    (fillFile dryRun files path).result = none ↔ dryRun = false ∧ SavesUnnamed files path := by
  constructor
  · intro hresult
    have hfills := fills_fillFile dryRun files path
    rw [hresult] at hfills
    generalize (fillFile dryRun files path).files = after at hfills
    cases hfills with
    | stopped hdry hload hopen hsave =>
      obtain ⟨book, rfl, houtput⟩ := Template.save_run_eq_none_iff.1 hsave
      exact ⟨hdry, _, _, book, hload, hopen, houtput⟩
  · rintro ⟨rfl, template, log, book, hload, hopen, houtput⟩
    have hsave : template.save (template.run (OpenDocument.book book)).doc files = none :=
      Template.save_run_eq_none_iff.2 ⟨book, rfl, houtput⟩
    simp [fillFile, hload, hopen, Template.apply, hsave]

/-! ## Scripts in turn -/

/-- What scripts come to, one after the other on the files that the ones before it left, and the
files after the last. -/
inductive FillsInTurn (dryRun : Bool) :
    FileTree → List Path → List (Path × Except FillError FillReport) → FileTree → Prop where
  | nil (files : FileTree) : FillsInTurn dryRun files [] [] files
  | cons {files after : FileTree} {path : Path} {paths : List Path}
    {outcome : Except FillError FillReport} {outcomes : List (Path × Except FillError FillReport)}
    (hfirst : (fillFile dryRun files path).result = some outcome)
    (hrest : FillsInTurn dryRun (fillFile dryRun files path).files paths outcomes after) :
    FillsInTurn dryRun files (path :: paths) ((path, outcome) :: outcomes) after

/-- Whether no script saves, when it is its turn, a book under a name without a format. -/
def NoneStops (dryRun : Bool) : FileTree → List Path → Prop
  | _, [] => True
  | files, path :: paths =>
    ¬(dryRun = false ∧ SavesUnnamed files path) ∧
      NoneStops dryRun (fillFile dryRun files path).files paths

/-- The scripts that were filled, with what happened. -/
def completedOf (outcomes : List (Path × Except FillError FillReport)) : List (Path × FillReport) :=
  outcomes.filterMap fun
    | (path, .ok report) => some (path, report)
    | (_, .error _) => none

/-- The scripts that failed, with the reasons. -/
def failedOf (outcomes : List (Path × Except FillError FillReport)) : List (Path × FillError) :=
  outcomes.filterMap fun
    | (_, .ok _) => none
    | (path, .error e) => some (path, e)

theorem length_completedOf_add_failedOf (outcomes : List (Path × Except FillError FillReport)) :
    (completedOf outcomes).length + (failedOf outcomes).length = outcomes.length := by
  induction outcomes with
  | nil => rfl
  | cons entry outcomes ih =>
    obtain ⟨path, outcome⟩ := entry
    cases outcome with
    | ok report =>
      simp only [completedOf, failedOf, List.filterMap_cons, List.length_cons] at ih ⊢
      omega
    | error e =>
      simp only [completedOf, failedOf, List.filterMap_cons, List.length_cons] at ih ⊢
      omega

theorem completedOf_append (before after : List (Path × Except FillError FillReport)) :
    completedOf (before ++ after) = completedOf before ++ completedOf after :=
  List.filterMap_append

theorem failedOf_append (before after : List (Path × Except FillError FillReport)) :
    failedOf (before ++ after) = failedOf before ++ failedOf after :=
  List.filterMap_append

/-- Without a failed entry, what was filled is the same, and the others failed as before. -/
theorem eraseIdx_of_failed {outcomes : List (Path × Except FillError FillReport)} {i : Nat}
    {path : Path} {e : FillError} (hfailed : outcomes[i]? = some (path, .error e)) :
    completedOf (outcomes.eraseIdx i) = completedOf outcomes ∧
      ∃ earlier later, failedOf outcomes = earlier ++ (path, e) :: later ∧
        failedOf (outcomes.eraseIdx i) = earlier ++ later := by
  obtain ⟨hi, hentry⟩ := List.getElem?_eq_some_iff.1 hfailed
  have hsplit : outcomes = outcomes.take i ++ (path, .error e) :: outcomes.drop (i + 1) := by
    rw [← hentry, ← List.drop_eq_getElem_cons hi, List.take_append_drop]
  have hcompleted : completedOf outcomes =
      completedOf (outcomes.take i) ++ completedOf (outcomes.drop (i + 1)) := by
    conv_lhs => rw [hsplit, completedOf_append]
    rfl
  have hfailedOf : failedOf outcomes =
      failedOf (outcomes.take i) ++ (path, e) :: failedOf (outcomes.drop (i + 1)) := by
    conv_lhs => rw [hsplit, failedOf_append]
    rfl
  rw [List.eraseIdx_eq_take_drop_succ, completedOf_append, failedOf_append, hcompleted]
  exact ⟨rfl, _, _, hfailedOf, rfl⟩

/-- In a dry run none stops. -/
theorem noneStops_dryRun (files : FileTree) (paths : List Path) : NoneStops true files paths := by
  induction paths generalizing files with
  | nil => trivial
  | cons path paths ih => exact ⟨fun hstops => absurd hstops.1 (by decide), ih _⟩

/-- Where none stops, every script comes to something. -/
theorem exists_fillsInTurn {dryRun : Bool} {files : FileTree} {paths : List Path}
    (hnone : NoneStops dryRun files paths) :
    ∃ outcomes after, FillsInTurn dryRun files paths outcomes after := by
  induction paths generalizing files with
  | nil => exact ⟨[], files, .nil files⟩
  | cons path paths ih =>
    obtain ⟨hfirst, hrest⟩ := hnone
    rw [← result_fillFile_eq_none_iff] at hfirst
    obtain ⟨outcome, hfirst⟩ := Option.ne_none_iff_exists'.1 hfirst
    obtain ⟨outcomes, after, hrest⟩ := ih hrest
    exact ⟨(path, outcome) :: outcomes, after, .cons hfirst hrest⟩

namespace FillsInTurn

variable {dryRun : Bool} {files after : FileTree} {paths : List Path}
  {outcomes : List (Path × Except FillError FillReport)}

/-- Every script is attempted once, in its order. -/
theorem map_fst (h : FillsInTurn dryRun files paths outcomes after) :
    outcomes.map (·.1) = paths := by
  induction h with
  | nil => rfl
  | cons _ _ ih => rw [List.map_cons, ih]

/-- Without a script that fails, the others come to the same and leave the same files. -/
theorem eraseIdx (h : FillsInTurn dryRun files paths outcomes after) {i : Nat} {path : Path}
    {e : FillError} (hfailed : outcomes[i]? = some (path, .error e)) :
    FillsInTurn dryRun files (paths.eraseIdx i) (outcomes.eraseIdx i) after := by
  induction h generalizing i with
  | nil => simp at hfailed
  | cons hfirst hrest ih =>
    cases i with
    | zero =>
      -- the next script starts from the files that this one started from
      obtain ⟨rfl, rfl⟩ := Prod.mk.inj (Option.some.inj hfailed)
      rwa [files_of_failed hfirst] at hrest
    | succ i => exact .cons hfirst (ih hfailed)

/-- In a dry run the files stay as they are, and every script comes to what it comes to alone. -/
theorem rehearsed (h : FillsInTurn true files paths outcomes after) :
    after = files ∧ ∀ entry ∈ outcomes, (fillFile true files entry.1).result = some entry.2 := by
  generalize hdry : true = dryRun at h
  induction h with
  | nil => exact ⟨rfl, fun entry hentry => by simp at hentry⟩
  | cons hfirst hrest ih =>
    obtain rfl := hdry
    obtain ⟨hafter, houtcomes⟩ := ih
    rw [(fillFile_dryRun _ _).1] at hafter houtcomes
    refine ⟨hafter, fun entry hentry => ?_⟩
    rcases List.mem_cons.1 hentry with rfl | hentry
    · exact hfirst
    · exact houtcomes entry hentry

end FillsInTurn

/-! ## Batches -/

theorem foldl_fillNext_of_none (dryRun : Bool) {batch : Outcome BatchSummary}
    (hstopped : batch.result = none) (paths : List Path) :
    paths.foldl (fillNext dryRun) batch = batch := by
  induction paths with
  | nil => rfl
  | cons path paths ih =>
    have hnext : fillNext dryRun batch path = batch := by rw [fillNext, hstopped]
    rw [List.foldl_cons, hnext, ih]

/-- Scripts that come to something in turn are added to the summary of a batch. -/
theorem foldl_fillNext_of_fillsInTurn {dryRun : Bool} {files after : FileTree} {paths : List Path}
    {outcomes : List (Path × Except FillError FillReport)}
    (h : FillsInTurn dryRun files paths outcomes after) (batch : Outcome BatchSummary)
    (hfiles : batch.files = files) {summary : BatchSummary} (hbatch : batch.result = some summary) :
    (paths.foldl (fillNext dryRun) batch).result =
        some ⟨summary.completed ++ completedOf outcomes, summary.failed ++ failedOf outcomes⟩ ∧
      (paths.foldl (fillNext dryRun) batch).files = after := by
  induction h generalizing batch summary with
  | nil files =>
    simp [hbatch, hfiles, completedOf, failedOf]
  | @cons files after path paths outcome outcomes hfirst hrest ih =>
    have hnext : (fillNext dryRun batch path).files = (fillFile dryRun files path).files ∧
        (fillNext dryRun batch path).result =
          some ⟨summary.completed ++ completedOf [(path, outcome)],
            summary.failed ++ failedOf [(path, outcome)]⟩ := by
      cases outcome with
      | ok report => simp [fillNext, hbatch, hfiles, hfirst, completedOf, failedOf]
      | error e => simp [fillNext, hbatch, hfiles, hfirst, completedOf, failedOf]
    rw [List.foldl_cons]
    obtain ⟨hresult, hafter⟩ := ih _ hnext.1 hnext.2
    refine ⟨?_, hafter⟩
    rw [hresult]
    simp only [List.append_assoc, ← completedOf_append, ← failedOf_append, List.singleton_append]

/-- A batch sums up what its scripts come to in turn. -/
theorem fillBatch_of_fillsInTurn {dryRun : Bool} {files after : FileTree} {paths : List Path}
    {outcomes : List (Path × Except FillError FillReport)}
    (h : FillsInTurn dryRun files paths outcomes after) :
    (fillBatch dryRun files paths).result = some ⟨completedOf outcomes, failedOf outcomes⟩ ∧
      (fillBatch dryRun files paths).files = after := by
  obtain ⟨hresult, hafter⟩ :=
    foldl_fillNext_of_fillsInTurn h ⟨some .empty, #[], files⟩ rfl rfl
  simp only [fillBatch, hresult]
  exact ⟨rfl, hafter⟩

/-- A batch runs to its end if and only if none of its scripts stops the program. -/
theorem result_fillBatch_eq_none_iff {dryRun : Bool} {files : FileTree} {paths : List Path} :
    (fillBatch dryRun files paths).result = none ↔ ¬NoneStops dryRun files paths := by
  constructor
  · intro hresult hnone
    obtain ⟨outcomes, after, h⟩ := exists_fillsInTurn hnone
    rw [(fillBatch_of_fillsInTurn h).1] at hresult
    contradiction
  · intro hstops
    suffices hfold : ∀ batch : Outcome BatchSummary, ¬NoneStops dryRun batch.files paths →
        (paths.foldl (fillNext dryRun) batch).result = none by
      simp only [fillBatch, hfold ⟨some .empty, #[], files⟩ hstops]
    clear hstops
    induction paths with
    | nil => exact fun batch hstops => absurd trivial hstops
    | cons path paths ih =>
      intro batch hstops
      rw [List.foldl_cons]
      cases hbatch : batch.result with
      | none =>
        have hnext : fillNext dryRun batch path = batch := by rw [fillNext, hbatch]
        rw [hnext, foldl_fillNext_of_none dryRun hbatch, hbatch]
      | some summary =>
        cases hfirst : (fillFile dryRun batch.files path).result with
        | none =>
          have hnext : (fillNext dryRun batch path).result = none := by
            simp only [fillNext, hbatch, hfirst]
          rw [foldl_fillNext_of_none dryRun hnext, hnext]
        | some outcome =>
          refine ih _ fun hrest => hstops ⟨?_, ?_⟩
          · rw [← result_fillFile_eq_none_iff, hfirst]
            exact Option.some_ne_none outcome
          · cases outcome with
            | ok report => simpa [fillNext, hbatch, hfirst] using hrest
            | error e => simpa [fillNext, hbatch, hfirst] using hrest

/-- Where none stops the program, every script of a batch is attempted once, and the summary has
what each comes to on the files that the ones before it left. A script that fails may be left out:
the rest of the summary and the files are the same. In a dry run the files stay as they are, and no
script depends on the others. -/
theorem fillBatch_isolated {dryRun : Bool} {files : FileTree} {paths : List Path}
    (hnone : NoneStops dryRun files paths) :
    ∃ outcomes after, FillsInTurn dryRun files paths outcomes after ∧
      outcomes.map (·.1) = paths ∧
      (completedOf outcomes).length + (failedOf outcomes).length = paths.length ∧
      (fillBatch dryRun files paths).result = some ⟨completedOf outcomes, failedOf outcomes⟩ ∧
      (fillBatch dryRun files paths).files = after ∧
      (∀ i path e, outcomes[i]? = some (path, .error e) →
        ∃ earlier later, failedOf outcomes = earlier ++ (path, e) :: later ∧
          (fillBatch dryRun files (paths.eraseIdx i)).result =
            some ⟨completedOf outcomes, earlier ++ later⟩ ∧
          (fillBatch dryRun files (paths.eraseIdx i)).files = after) ∧
      (dryRun = true → after = files ∧
        ∀ others, ∃ outcomes', FillsInTurn true files others outcomes' files ∧
          ∀ path outcome outcome', (path, outcome) ∈ outcomes → (path, outcome') ∈ outcomes' →
            outcome = outcome') := by
  obtain ⟨outcomes, after, h⟩ := exists_fillsInTurn hnone
  obtain ⟨hresult, hfiles⟩ := fillBatch_of_fillsInTurn h
  have hcount : (completedOf outcomes).length + (failedOf outcomes).length = paths.length := by
    rw [length_completedOf_add_failedOf, ← h.map_fst, List.length_map]
  refine ⟨outcomes, after, h, h.map_fst, hcount, hresult, hfiles, ?_, ?_⟩
  · intro i path e hfailed
    obtain ⟨hcompleted, earlier, later, hfailedOf, hothers⟩ := eraseIdx_of_failed hfailed
    obtain ⟨hresult', hfiles'⟩ := fillBatch_of_fillsInTurn (h.eraseIdx hfailed)
    rw [hcompleted, hothers] at hresult'
    exact ⟨earlier, later, hfailedOf, hresult', hfiles'⟩
  · rintro rfl
    obtain ⟨hafter, houtcomes⟩ := h.rehearsed
    refine ⟨hafter, fun others => ?_⟩
    obtain ⟨outcomes', after', h'⟩ := exists_fillsInTurn (noneStops_dryRun files others)
    obtain ⟨rfl, houtcomes'⟩ := h'.rehearsed
    refine ⟨outcomes', h', fun path outcome outcome' hentry hentry' => ?_⟩
    have halone := houtcomes (path, outcome) hentry
    rw [houtcomes' (path, outcome') hentry'] at halone
    exact (Option.some.inj halone).symm

/-- A book of cranes. -/
def cranes : Book :=
  ⟨[(BookSheet.mk "Cranes" .empty).setText ⟨0, 0⟩ "North"]⟩

/-- A script that notes something in the book and stores it under another name. -/
def swingText : String :=
  "file: cranes.xlsx\noutput: swung.xlsx\n#Cranes\ncell equals:North\nadd-r:swung"

/-- A script that stores it under a name that does not tell a format. -/
def liftText : String :=
  "file: cranes.xlsx\noutput: lifted\n#Cranes\ncell equals:North\nadd-r:lifted"

/-- The book with both scripts. -/
def craneYard : FileTree :=
  ⟨[(["cranes.xlsx"], .file (.book cranes)), (["swing"], .file (.text swingText)),
    (["lift"], .file (.text liftText))]⟩

theorem read_craneYard_cranes : craneYard.read ⟨"cranes.xlsx"⟩ = .ok (.book cranes) :=
  FileTree.read_of_node? (FileTree.locate_eq_ok_iff.2 ⟨by decide +kernel, rfl⟩) rfl

/-- A script for the book is loaded as it is written, and the book is opened. -/
theorem opens_cranes {files : FileTree} (hcranes : files.read ⟨"cranes.xlsx"⟩ = .ok (.book cranes))
    {path : Path} {s : String} (hread : files.read path = .ok (.text s))
    (hsource : (Template.ofText s).source = ⟨"cranes.xlsx"⟩) (hnotes : Template.notesOfText s = []) :
    Template.load files path = (.ok (.ofText s), #[]) ∧
      OpenDocument.openAt files (Template.ofText s).source =
        .ok (.book (.ofBook cranes.opened)) := by
  have hextension : Path.extension ⟨"cranes.xlsx"⟩ = "xlsx" := by decide +kernel
  constructor
  · rw [Template.load_of_read hread (hsource ▸ hcranes), hnotes]
    rfl
  · rw [hsource]
    simp only [OpenDocument.openAt, hcranes, hextension]

theorem opens_swing {files : FileTree} (hcranes : files.read ⟨"cranes.xlsx"⟩ = .ok (.book cranes))
    {path : Path} (hread : files.read path = .ok (.text swingText)) :
    Template.load files path = (.ok (.ofText swingText), #[]) ∧
      OpenDocument.openAt files (Template.ofText swingText).source =
        .ok (.book (.ofBook cranes.opened)) :=
  opens_cranes hcranes hread (by decide +kernel) (by decide +kernel)

theorem opens_lift {files : FileTree} (hcranes : files.read ⟨"cranes.xlsx"⟩ = .ok (.book cranes))
    {path : Path} (hread : files.read path = .ok (.text liftText)) :
    Template.load files path = (.ok (.ofText liftText), #[]) ∧
      OpenDocument.openAt files (Template.ofText liftText).source =
        .ok (.book (.ofBook cranes.opened)) :=
  opens_cranes hcranes hread (by decide +kernel) (by decide +kernel)

theorem load_craneYard_swing :
    Template.load craneYard ⟨"swing"⟩ = (.ok (.ofText swingText), #[]) :=
  (opens_swing read_craneYard_cranes
    (FileTree.read_of_node? (FileTree.locate_eq_ok_iff.2 ⟨by decide +kernel, rfl⟩) rfl)).1

theorem not_savesUnnamed_swing : ¬SavesUnnamed craneYard ⟨"swing"⟩ := by
  rintro ⟨template, log, book, hload, -, -, hname⟩
  rw [load_craneYard_swing] at hload
  obtain ⟨htemplate, -⟩ := Prod.mk.inj hload
  obtain rfl := Except.ok.inj htemplate
  revert hname
  decide +kernel

theorem fillBatch_isolated_craneYard :
    NoneStops false craneYard [⟨"gone"⟩, ⟨"swing"⟩] ∧
      ∃ completed earlier later,
        (fillBatch false craneYard [⟨"gone"⟩, ⟨"swing"⟩]).result =
          some ⟨completed, earlier ++ (⟨"gone"⟩, .documentNotFound ⟨"gone"⟩) :: later⟩ ∧
        (fillBatch false craneYard [⟨"swing"⟩]).result = some ⟨completed, earlier ++ later⟩ ∧
        (fillBatch false craneYard [⟨"swing"⟩]).files =
          (fillBatch false craneYard [⟨"gone"⟩, ⟨"swing"⟩]).files := by
  have hmissing : craneYard.isFile ⟨"gone"⟩ = false := by
    have hlocate : craneYard.locate ⟨"gone"⟩ = .ok ["gone"] :=
      FileTree.locate_eq_ok_iff.2 ⟨by decide +kernel, rfl⟩
    have hnode : craneYard.node? ["gone"] = none := rfl
    simp only [FileTree.isFile, FileTree.resolve, hlocate, hnode]
  have hgone : (fillFile false craneYard ⟨"gone"⟩).result =
      some (.error (.documentNotFound ⟨"gone"⟩)) := by
    simp [fillFile, Template.load, hmissing, FillError.ofScriptError]
  have hnone : NoneStops false craneYard [⟨"gone"⟩, ⟨"swing"⟩] := by
    refine ⟨?_, ?_⟩
    · rw [← result_fillFile_eq_none_iff, hgone]
      exact Option.some_ne_none _
    · rw [files_of_failed hgone]
      exact ⟨fun hstops => not_savesUnnamed_swing hstops.2, trivial⟩
  obtain ⟨outcomes, after, h, -, -, hresult, hfiles, hremove, -⟩ := fillBatch_isolated hnone
  have hfailed : outcomes[0]? = some (⟨"gone"⟩, .error (.documentNotFound ⟨"gone"⟩)) := by
    cases h with
    | cons hfirst hrest =>
      rw [hgone] at hfirst
      rw [← Option.some.inj hfirst]
      rfl
  obtain ⟨earlier, later, hfailedOf, hresult', hfiles'⟩ := hremove 0 _ _ hfailed
  rw [hfailedOf] at hresult
  exact ⟨hnone, _, earlier, later, hresult, hresult', hfiles'.trans hfiles.symm⟩

/-- At a script that saves a book under a name without a format, the program stops, and the scripts
after it are not attempted, although they could be filled. -/
theorem fillBatch_stops_craneYard :
    (fillBatch false craneYard [⟨"lift"⟩, ⟨"swing"⟩]).result = none ∧
      (fillBatch false craneYard [⟨"swing"⟩]).result ≠ none := by
  have hlift : craneYard.read ⟨"lift"⟩ = .ok (.text liftText) :=
    FileTree.read_of_node? (FileTree.locate_eq_ok_iff.2 ⟨by decide +kernel, rfl⟩) rfl
  obtain ⟨hload, hopen⟩ := opens_lift read_craneYard_cranes hlift
  constructor
  · rw [result_fillBatch_eq_none_iff]
    rintro ⟨hlift, -⟩
    exact hlift ⟨rfl, _, _, _, hload, hopen, by decide +kernel, by decide +kernel⟩
  · rw [Ne, result_fillBatch_eq_none_iff, not_not]
    exact ⟨fun hstops => not_savesUnnamed_swing hstops.2, trivial⟩

end FillScript
