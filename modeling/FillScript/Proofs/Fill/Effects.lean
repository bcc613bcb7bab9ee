import FillScript.Proofs.Fill.Saving

/-!
# What filling a script does to the files

All that filling a script does to the files is to save the document at the end. A workbook is
written under the output path; a book is made ready beside that and then moved there, so that what
was under the name for the draft is gone (`OpenDocument.SavesAt`). Nothing changes where the script
fails, where the program stops, where nothing is saved and in a dry run, and a dry run tells what
the run itself comes to (`fillFile_effects`).
-/

namespace FillScript

/-! ## Saving a document -/

theorem OpenBook.save_eq_ok_iff {book : OpenBook} {files after : FileTree} {path : Path} :
    book.save files path = .ok after ↔
      path.fileName?.bind Path.extensionOf ≠ none ∧
        ∃ drafted, files.write path.draft (.book book.book.written) = .ok drafted ∧
          drafted.move path.draft path = .ok after := by
  unfold save
  cases path.fileName?.bind Path.extensionOf with
  | none => simp
  | some suffix =>
    dsimp only
    cases files.write path.draft (.book book.book.written) with
    | error e => simp
    | ok drafted => cases hmove : drafted.move path.draft path <;> simp [hmove]

namespace OpenDocument

variable {files after : FileTree} {path : Path} {doc : OpenDocument} {loc : Location}

/-- The places that are changed where a document is saved under a path: the one that the path leads
to and, if it is a book, the one where that is made ready. -/
inductive SavesAt (files : FileTree) (path : Path) : OpenDocument → Location → Prop where
  | own {doc : OpenDocument} {loc : Location} (hlocate : files.locate path = .ok loc) :
    SavesAt files path doc loc
  | draft {book : OpenBook} {loc : Location} (hlocate : files.locate path.draft = .ok loc) :
    SavesAt files path (.book book) loc

/-- Saving changes nothing anywhere else. -/
theorem node?_save (hsave : Document.save doc files path = .ok after)
    (hloc : ¬SavesAt files path doc loc) : after.node? loc = files.node? loc := by
  cases doc with
  | workbook workbook =>
    obtain ⟨-, own, hown, hdir, rfl⟩ :=
      FileTree.write_eq_ok_iff.1 (Workbook.save_eq_ok_iff.1 hsave)
    have hne : loc ≠ own := by
      rintro rfl
      exact hloc (.own hown)
    rw [FileTree.node?_put files (FileTree.isGiven_eq_false hdir), if_neg hne]
  | book book =>
    obtain ⟨-, drafted, hwrite, hmove⟩ := OpenBook.save_eq_ok_iff.1 hsave
    obtain ⟨own, beside, hown, hbeside, hnode⟩ := FileTree.node?_move_write hwrite hmove
    have hne : loc ≠ own := by
      rintro rfl
      exact hloc (.own hown)
    have hne' : loc ≠ beside := by
      rintro rfl
      exact hloc (.draft hbeside)
    rw [hnode, if_neg hne, if_neg hne']

/-- A document stays of its kind when it is filled, and so is saved at the same places. -/
theorem SavesAt.of_run {template : Template} (h : SavesAt files path (template.run doc).doc loc) :
    SavesAt files path doc loc := by
  cases doc with
  | workbook workbook =>
    rw [(simulation_workbook.run rfl template (a := .workbook workbook)).1] at h
    cases h with
    | own hlocate => exact .own hlocate
  | book book =>
    rw [(simulation_book.run rfl template (a := .book book)).1] at h
    cases h with
    | own hlocate => exact .own hlocate
    | draft hlocate => exact .draft hlocate

end OpenDocument

/-! ## Saving under the output path -/

namespace Template

variable {δ : Type} [Document δ] {template : Template} {files after : FileTree}

/-- Where a template reports that it saved nothing, the files are as they were. -/
theorem save_eq_unsaved {doc : δ} {event : Event}
    (hsave : template.save doc files = some (after, false, event)) : after = files := by
  unfold save at hsave
  split at hsave
  · simpa using (congrArg (Option.map Prod.fst) hsave).symm
  · split at hsave
    · simp at hsave
    · simpa using (congrArg (Option.map Prod.fst) hsave).symm
    · contradiction

/-- Without an output path nothing is saved. -/
theorem saved_eq_false_of_isEmpty {doc : δ} {saved : Bool} {event : Event}
    (houtput : template.output.isEmpty = true)
    (hsave : template.save doc files = some (after, saved, event)) : saved = false := by
  rw [save, if_pos houtput] at hsave
  simpa using (congrArg (Option.map fun outcome => outcome.2.1) hsave).symm

theorem saved_runSection (filled : Filled δ) (part : Section) :
    (template.runSection filled part).report.saved = filled.report.saved := by
  unfold runSection
  split <;> rfl

/-- Carrying out the sections saves nothing. -/
theorem saved_run (doc : δ) : (template.run doc).report.saved = false := by
  suffices hall : ∀ (parts : List Section) (filled : Filled δ),
      (parts.foldl template.runSection filled).report.saved = filled.report.saved from
    hall _ _
  intro parts
  induction parts with
  | nil => exact fun _ => rfl
  | cons part parts ih => exact fun filled => (ih _).trans (saved_runSection filled part)

end Template

/-! ## Filling a script -/

section Filling

variable {files : FileTree} {path : Path} {report : FillReport}

/-- A dry run reports that nothing was saved. -/
theorem saved_of_dryRun (hresult : (fillFile true files path).result = some (.ok report)) :
    report.saved = false := by
  have hfills := fills_fillFile true files path
  rw [hresult] at hfills
  generalize (fillFile true files path).files = after at hfills
  cases hfills with
  | rehearsed hdry hload hopen => exact Template.saved_run _
  | filled hdry hload hopen hsave => contradiction

/-- A script that is filled changes the files only by saving the document that it names under its
output path. -/
theorem node?_fillFile (hresult : (fillFile false files path).result = some (.ok report)) :
    (report.saved = false → (fillFile false files path).files = files) ∧
      ∃ template log doc, Template.load files path = (.ok template, log) ∧
        OpenDocument.openAt files template.source = .ok doc ∧
        (template.output.isEmpty = true → report.saved = false) ∧
        ∀ loc, (fillFile false files path).files.node? loc ≠ files.node? loc →
          doc.SavesAt files template.output loc := by
  have hfills := fills_fillFile false files path
  rw [hresult] at hfills
  generalize (fillFile false files path).files = after at hfills
  cases hfills with
  | rehearsed hdry hload hopen => contradiction
  | @filled template log doc after saved event hdry hload hopen hsave =>
    refine ⟨?_, template, log, doc, hload, hopen,
      fun houtput => Template.saved_eq_false_of_isEmpty houtput hsave, fun loc hchanged => ?_⟩
    · rintro rfl
      exact Template.save_eq_unsaved hsave
    · by_contra hloc
      cases saved with
      | false => exact hchanged (by rw [Template.save_eq_unsaved hsave])
      | true =>
        exact hchanged
          (OpenDocument.node?_save (Template.save_eq_saved hsave) fun hrun => hloc hrun.of_run)

/-- Where the program does not stop, a dry run comes to what the run itself comes to, except that
nothing is saved. -/
theorem result_fillFile_dryRun_of_not_savesUnnamed (hnamed : ¬SavesUnnamed files path) :
    (∃ e, (fillFile true files path).result = some (.error e) ∧
        (fillFile false files path).result = some (.error e)) ∨
      ∃ (report : FillReport) (saved : Bool),
        (fillFile true files path).result = some (.ok { report with saved := false }) ∧
          (fillFile false files path).result = some (.ok { report with saved }) := by
  have hfills := fills_fillFile false files path
  generalize (fillFile false files path).files = after at hfills
  cases hresult : (fillFile false files path).result with
  | none => exact absurd (result_fillFile_eq_none_iff.1 hresult).2 hnamed
  | some outcome =>
    rw [hresult] at hfills
    cases hfills with
    | @notLoaded e log hload => exact .inl ⟨_, by simp only [fillFile, hload], rfl⟩
    | notOpened hload hopen => exact .inl ⟨_, by simp only [fillFile, hload, hopen], rfl⟩
    | rehearsed hdry hload hopen => contradiction
    | @filled template log doc after saved event hdry hload hopen hsave =>
      refine .inr ⟨(template.run doc).report, saved, ?_, rfl⟩
      have hsaved : (template.run doc).report.saved = false := Template.saved_run doc
      rw [result_fillFile_dryRun hload hopen, ← hsaved]

end Filling

/-- Filling a script changes the files only where it reports that the document was saved, and then
at most where the output path leads to and, if the document is a book, where that is made ready. A
script that fails, one that stops the program and a dry run change nothing. Unless the program
stops, a dry run fails in the same way as the run itself or reports the same, except that nothing is
saved. -/
theorem fillFile_effects (files : FileTree) (path : Path) :
    (∀ dryRun e, (fillFile dryRun files path).result = some (.error e) →
        (fillFile dryRun files path).files = files) ∧
      (∀ dryRun, (fillFile dryRun files path).result = none →
        (fillFile dryRun files path).files = files) ∧
      ((fillFile true files path).files = files ∧
        ∀ report, (fillFile true files path).result = some (.ok report) → report.saved = false) ∧
      (∀ report, (fillFile false files path).result = some (.ok report) →
        (report.saved = false → (fillFile false files path).files = files) ∧
          ∃ template log doc, Template.load files path = (.ok template, log) ∧
            OpenDocument.openAt files template.source = .ok doc ∧
            (template.output.isEmpty = true → report.saved = false) ∧
            ∀ loc, (fillFile false files path).files.node? loc ≠ files.node? loc →
              doc.SavesAt files template.output loc) ∧
      (¬SavesUnnamed files path →
        (∃ e, (fillFile true files path).result = some (.error e) ∧
            (fillFile false files path).result = some (.error e)) ∨
          ∃ (report : FillReport) (saved : Bool),
            (fillFile true files path).result = some (.ok { report with saved := false }) ∧
              (fillFile false files path).result = some (.ok { report with saved })) :=
  ⟨fun _ _ hfailed => files_of_failed hfailed, fun _ hstopped => files_of_stopped hstopped,
    ⟨(fillFile_dryRun files path).1, fun _ hresult => saved_of_dryRun hresult⟩,
    fun _ hresult => node?_fillFile hresult, result_fillFile_dryRun_of_not_savesUnnamed⟩

/-- The yard with a note in the place where the book is made ready. -/
def crowdedYard : FileTree :=
  ⟨(["swung.xlsxtmp"], .file (.text "north crane at noon")) :: craneYard.entries⟩

theorem read_crowdedYard_cranes : crowdedYard.read ⟨"cranes.xlsx"⟩ = .ok (.book cranes) :=
  FileTree.read_of_node? (FileTree.locate_eq_ok_iff.2 ⟨by decide +kernel, rfl⟩) rfl

theorem opens_crowdedYard_swing :
    Template.load crowdedYard ⟨"swing"⟩ = (.ok (.ofText swingText), #[]) ∧
      OpenDocument.openAt crowdedYard (Template.ofText swingText).source =
        .ok (.book (.ofBook cranes.opened)) :=
  opens_swing read_crowdedYard_cranes
    (FileTree.read_of_node? (FileTree.locate_eq_ok_iff.2 ⟨by decide +kernel, rfl⟩) rfl)

theorem output_swingText : (Template.ofText swingText).output = ⟨"swung.xlsx"⟩ := by
  decide +kernel

theorem locate_crowdedYard_output : crowdedYard.locate ⟨"swung.xlsx"⟩ = .ok ["swung.xlsx"] :=
  FileTree.locate_eq_ok_iff.2 ⟨by decide +kernel, rfl⟩

theorem locate_crowdedYard_draft :
    crowdedYard.locate (Path.draft ⟨"swung.xlsx"⟩) = .ok ["swung.xlsxtmp"] :=
  FileTree.locate_eq_ok_iff.2 ⟨by decide +kernel, by decide +kernel⟩

/-- The book is saved, and what was in the place where it is made ready is gone. -/
theorem swing_crowdedYard :
    (fillFile false crowdedYard ⟨"swing"⟩).result =
        some (.ok ⟨1, [], ⟨1, 0, 1, 0, 0, 0⟩, true⟩) ∧
      (fillFile false crowdedYard ⟨"swing"⟩).files.node? ["swung.xlsxtmp"] = none := by
  obtain ⟨hload, hopen⟩ := opens_crowdedYard_swing
  obtain ⟨hdoc, hreport, -⟩ := simulation_book.run rfl (Template.ofText swingText)
    (a := .book (.ofBook cranes.opened))
  obtain ⟨drafted, after, hwrite, hmove⟩ : ∃ drafted after,
      crowdedYard.write (Path.draft ⟨"swung.xlsx"⟩)
        (.book ((Template.ofText swingText).run (OpenBook.ofBook cranes.opened)).doc.book.written) =
          .ok drafted ∧ drafted.move (Path.draft ⟨"swung.xlsx"⟩) ⟨"swung.xlsx"⟩ = .ok after :=
    FileTree.exists_move_write (by decide +kernel) locate_crowdedYard_draft
      (by decide +kernel) (by decide +kernel) locate_crowdedYard_output (by decide +kernel) _
  have hsave : Document.save ((Template.ofText swingText).run
      (OpenDocument.book (.ofBook cranes.opened))).doc crowdedYard
        (Template.ofText swingText).output = .ok after := by
    rw [hdoc, output_swingText]
    exact OpenBook.save_eq_ok_iff.2 ⟨by decide +kernel, drafted, hwrite, hmove⟩
  have hnamed : (Template.ofText swingText).output.isEmpty = false := by
    rw [output_swingText]
    rfl
  have hreport' : ((Template.ofText swingText).run (OpenBook.ofBook cranes.opened)).report =
      ⟨1, [], ⟨1, 0, 1, 0, 0, 0⟩, false⟩ := by decide +kernel
  have hafter : (fillFile false crowdedYard ⟨"swing"⟩).files = after := by
    simp [fillFile, hload, hopen, Template.apply, Template.save, hnamed, hsave]
  constructor
  · simp [fillFile, hload, hopen, Template.apply, Template.save, hnamed, hsave, hreport, hreport']
  · obtain ⟨own, beside, hown, hbeside, hnode⟩ := FileTree.node?_move_write hwrite hmove
    rw [locate_crowdedYard_output] at hown
    rw [locate_crowdedYard_draft] at hbeside
    rw [hafter, hnode, ← Except.ok.inj hown, ← Except.ok.inj hbeside, if_neg (by decide),
      if_pos rfl]

/-- A book is to be saved under a name without a format, and so the run stops, but a dry run does
not. -/
theorem stops_lift :
    (fillFile true crowdedYard ⟨"lift"⟩).result ≠ none ∧
      (fillFile false crowdedYard ⟨"lift"⟩).result = none := by
  have hlift : crowdedYard.read ⟨"lift"⟩ = .ok (.text liftText) :=
    FileTree.read_of_node? (FileTree.locate_eq_ok_iff.2 ⟨by decide +kernel, rfl⟩) rfl
  obtain ⟨hload, hopen⟩ := opens_lift read_crowdedYard_cranes hlift
  constructor
  · rw [result_fillFile_dryRun hload hopen]
    exact Option.some_ne_none _
  · exact result_fillFile_eq_none_iff.2
      ⟨rfl, _, _, _, hload, hopen, by decide +kernel, by decide +kernel⟩

theorem fillFile_effects_swing :
    ¬SavesUnnamed crowdedYard ⟨"swing"⟩ ∧
      (fillFile true crowdedYard ⟨"swing"⟩).result =
        some (.ok ⟨1, [], ⟨1, 0, 1, 0, 0, 0⟩, false⟩) ∧
      (fillFile false crowdedYard ⟨"swing"⟩).result =
        some (.ok ⟨1, [], ⟨1, 0, 1, 0, 0, 0⟩, true⟩) ∧
      (∀ loc, loc ≠ ["swung.xlsx"] → loc ≠ ["swung.xlsxtmp"] →
        (fillFile false crowdedYard ⟨"swing"⟩).files.node? loc = crowdedYard.node? loc) ∧
      (fillFile false crowdedYard ⟨"lift"⟩).result = none ∧
      (fillFile false crowdedYard ⟨"lift"⟩).files = crowdedYard := by
  obtain ⟨hresult, -⟩ := swing_crowdedYard
  have hnamed : ¬SavesUnnamed crowdedYard ⟨"swing"⟩ := fun hsaves => by
    rw [result_fillFile_eq_none_iff.2 ⟨rfl, hsaves⟩] at hresult
    contradiction
  obtain ⟨-, -, -, heffects, hdry⟩ := fillFile_effects crowdedYard ⟨"swing"⟩
  obtain ⟨-, hstopped, -⟩ := fillFile_effects crowdedYard ⟨"lift"⟩
  refine ⟨hnamed, ?_, hresult, fun loc hown hbeside => ?_, stops_lift.2, hstopped _ stops_lift.2⟩
  · rcases hdry hnamed with ⟨e, -, hfailed⟩ | ⟨report, saved, hrehearsed, hfilled⟩
    · rw [hresult] at hfailed
      simp at hfailed
    · obtain ⟨sheets, missing, stats, before⟩ := report
      rw [hresult] at hfilled
      simp only [Option.some.injEq, Except.ok.injEq, FillReport.mk.injEq] at hfilled
      obtain ⟨rfl, rfl, rfl, -⟩ := hfilled
      exact hrehearsed
  · obtain ⟨-, template, log, doc, hload, -, -, hchanged⟩ := heffects _ hresult
    rw [opens_crowdedYard_swing.1] at hload
    obtain rfl := Except.ok.inj (Prod.mk.inj hload).1
    by_contra hne
    rcases hchanged loc hne with ⟨hlocate⟩ | ⟨hlocate⟩
    · rw [output_swingText, locate_crowdedYard_output] at hlocate
      exact hown (Except.ok.inj hlocate).symm
    · rw [output_swingText, locate_crowdedYard_draft] at hlocate
      exact hbeside (Except.ok.inj hlocate).symm

/-- Where a book is saved, a file in another place than the one of the output path can be lost; and
where a book is saved under a name without a format the run stops, although a dry run does not. -/
theorem fillFile_loses_draft :
    (∃ template log report, Template.load crowdedYard ⟨"swing"⟩ = (.ok template, log) ∧
        (fillFile false crowdedYard ⟨"swing"⟩).result = some (.ok report) ∧
        crowdedYard.locate template.output = .ok ["swung.xlsx"] ∧
        crowdedYard.node? ["swung.xlsxtmp"] = some (.file (.text "north crane at noon")) ∧
        (fillFile false crowdedYard ⟨"swing"⟩).files.node? ["swung.xlsxtmp"] = none) ∧
      (fillFile true crowdedYard ⟨"lift"⟩).result ≠ none ∧
      (fillFile false crowdedYard ⟨"lift"⟩).result = none := by
  obtain ⟨hresult, hdraft⟩ := swing_crowdedYard
  refine ⟨⟨_, _, _, opens_crowdedYard_swing.1, hresult, ?_, rfl, hdraft⟩, stops_lift⟩
  rw [output_swingText, locate_crowdedYard_output]

end FillScript
