import FillScript.Proofs.Text.Cutting
import FillScript.Script.Reader
import Mathlib.Data.List.Induction

/-!
# The sections of a script

A script is read line by line, and a section is committed when the next marker or the end is met.
Here the sections are told by the lines as a whole. A named marker and the lines up to the next
marker are a block (`Script.blocks`), and reading comes to committing the blocks in order
(`Script.sections_readLines`). Of the blocks of one name the last one is kept, in the place of the
first (`Sections.mem_commitAll_empty`, `Sections.names_commitAll_empty`). So the names are those of
the markers, in the order in which they come up, and the lines of a section are those between the
last marker of its name and the marker that follows it (`Template.sections_ofText`).
-/

namespace FillScript

/-! ## Committing in order -/

namespace Sections

theorem store_of_notMem {new : Section} {list : List Section}
    (hnew : new.name ∉ list.map (·.name)) : store new list = list ++ [new] := by
  induction list with
  | nil => rfl
  | cons old rest ih =>
    rw [List.map_cons, List.mem_cons, not_or] at hnew
    rw [store, if_neg fun heq => hnew.1 heq.symm, ih hnew.2]
    rfl

theorem names_store_of_mem {new : Section} {list : List Section}
    (hnew : new.name ∈ list.map (·.name)) :
    (store new list).map (·.name) = list.map (·.name) := by
  induction list with
  | nil => simp at hnew
  | cons old rest ih =>
    rw [store]
    by_cases heq : old.name = new.name
    · rw [if_pos heq, List.map_cons, List.map_cons, heq]
    · rw [List.map_cons, List.mem_cons] at hnew
      have hrest := hnew.resolve_left fun h => heq h.symm
      rw [if_neg heq, List.map_cons, List.map_cons, ih hrest]

/-- Where names are distinct, what is stored takes the place of what had its name. -/
theorem mem_store {new part : Section} {list : List Section}
    (hdistinct : (list.map (·.name)).Nodup) :
    part ∈ store new list ↔ part = new ∨ part ∈ list ∧ part.name ≠ new.name := by
  induction list with
  | nil => simp [store]
  | cons old rest ih =>
    rw [List.map_cons, List.nodup_cons] at hdistinct
    rw [store]
    by_cases heq : old.name = new.name
    · -- no section after this one has the name
      have hother : part ∈ rest → part.name ≠ new.name := fun hpart hname =>
        hdistinct.1 (heq.trans hname.symm ▸ List.mem_map_of_mem hpart)
      rw [if_pos heq]
      grind
    · rw [if_neg heq, List.mem_cons, ih hdistinct.2]
      grind

variable (sections : Sections) (name : String) (lines : List String)

theorem mem_commit {part : Section} :
    part ∈ (sections.commit name lines).list ↔
      part = ⟨name, lines⟩ ∨ part ∈ sections.list ∧ part.name ≠ name :=
  mem_store sections.distinct

theorem names_commit :
    (sections.commit name lines).names =
      if name ∈ sections.names then sections.names else sections.names ++ [name] := by
  by_cases hname : name ∈ sections.names
  · rw [if_pos hname]
    exact names_store_of_mem hname
  · rw [if_neg hname]
    have hstore : store ⟨name, lines⟩ sections.list = sections.list ++ [⟨name, lines⟩] :=
      store_of_notMem hname
    simp only [names, commit, hstore, List.map_append, List.map_cons, List.map_nil]

/-- The sections after parts were committed in order. -/
def commitAll (sections : Sections) (parts : List Section) : Sections :=
  parts.foldl (fun sections part => sections.commit part.name part.lines) sections

theorem commitAll_concat (parts : List Section) (part : Section) :
    sections.commitAll (parts ++ [part]) =
      (sections.commitAll parts).commit part.name part.lines := by
  rw [commitAll, List.foldl_append]
  rfl

/-- The names are kept in the order in which they come up. -/
theorem names_commitAll_empty (parts : List Section) :
    (empty.commitAll parts).names = (parts.map (·.name)).eraseDups := by
  induction parts using List.reverseRecOn with
  | nil => rfl
  | append_singleton parts part ih =>
    rw [commitAll_concat, names_commit, ih, List.map_append, List.eraseDups_append]
    by_cases hname : part.name ∈ parts.map (·.name)
    · have hgone : (List.map (·.name) [part]).removeAll (parts.map (·.name)) = [] := by
        simpa [List.removeAll] using hname
      rw [if_pos (List.mem_eraseDups.2 hname), hgone]
      simp
    · have hkept : (List.map (·.name) [part]).removeAll (parts.map (·.name)) = [part.name] := by
        simpa [List.removeAll] using hname
      rw [if_neg fun h => hname (List.mem_eraseDups.1 h), hkept]
      rfl

/-- Of the parts of one name, the last is kept. -/
theorem mem_commitAll_empty {parts : List Section} {part : Section} :
    part ∈ (empty.commitAll parts).list ↔
      ∃ before after, parts = before ++ part :: after ∧ part.name ∉ after.map (·.name) := by
  induction parts using List.reverseRecOn with
  | nil => simp [commitAll, empty]
  | append_singleton parts last ih =>
    rw [commitAll_concat, mem_commit, ih]
    constructor
    · rintro (rfl | ⟨⟨before, after, rfl, hafter⟩, hname⟩)
      · exact ⟨parts, [], rfl, by simp⟩
      · refine ⟨before, after ++ [last], by simp, ?_⟩
        rw [List.map_append, List.mem_append, not_or]
        exact ⟨hafter, by simpa using hname⟩
    · rintro ⟨before, after, hparts, hafter⟩
      rcases List.eq_nil_or_concat after with rfl | ⟨front, other, rfl⟩
      · obtain ⟨-, rfl⟩ := List.append_singleton_inj.1 hparts
        exact .inl rfl
      · rw [List.concat_eq_append, ← List.cons_append, ← List.append_assoc] at hparts
        obtain ⟨rfl, rfl⟩ := List.append_singleton_inj.1 hparts
        rw [List.concat_eq_append, List.map_append, List.mem_append, not_or] at hafter
        exact .inr ⟨⟨before, front, rfl, hafter.1⟩, by simpa using hafter.2⟩

end Sections

/-! ## Blocks -/

namespace Script

/-- The name in a sheet marker that has one. -/
def namedMarker? (line : List Char) : Option String :=
  (marker? line).bind fun name => if name.isEmpty then none else some (String.ofList name)

/-- The names in the sheet markers among lines, in order. -/
def markerNames (lines : List (List Char)) : List String :=
  lines.filterMap namedMarker?

/-- Whether a line is a sheet marker, with or without a name. -/
def isMarker (line : List Char) : Bool :=
  (marker? line).isSome

/-- The lines up to the next marker. -/
def upToMarker (lines : List (List Char)) : List (List Char) :=
  lines.takeWhile fun line => !isMarker line

/-- The named markers among lines, each with the lines up to the next marker. -/
def blocks : List (List Char) → List Section
  | [] => []
  | line :: rest =>
    match namedMarker? line with
    | some name => ⟨name, (upToMarker rest).map String.ofList⟩ :: blocks rest
    | none => blocks rest

/-- A section made from the last marker of its name and the lines up to the marker after it. -/
def IsLastBlock (lines : List (List Char)) (part : Section) : Prop :=
  ∃ before marker after, lines = before ++ marker :: after ∧
    namedMarker? marker = some part.name ∧ part.name ∉ markerNames after ∧
    part.lines = (upToMarker after).map String.ofList

theorem isMarker_of_namedMarker? {line : List Char} {name : String}
    (hline : namedMarker? line = some name) : isMarker line = true := by
  obtain ⟨cs, hmarker, -⟩ := Option.bind_eq_some_iff.1 hline
  rw [isMarker, hmarker]
  rfl

theorem namedMarker?_of_isMarker {line : List Char} (hline : isMarker line = false) :
    namedMarker? line = none := by
  rw [isMarker, Option.isSome_eq_false_iff, Option.isNone_iff_eq_none] at hline
  rw [namedMarker?, hline]
  rfl

theorem isMarker_eq_false_iff {line : List Char} :
    isMarker line = false ↔ line.head? ≠ some '#' := by
  match line with
  | [] => simp [isMarker, marker?]
  | c :: rest =>
    by_cases hc : c = '#'
    · subst hc
      simp [isMarker, marker?]
    · have hnone : marker? (c :: rest) = none := by
        unfold marker?
        split
        · simp_all
        · rfl
      simp [isMarker, hnone, hc]

theorem names_blocks (lines : List (List Char)) :
    (blocks lines).map (·.name) = markerNames lines := by
  induction lines with
  | nil => rfl
  | cons line rest ih =>
    rw [blocks, markerNames, List.filterMap_cons]
    cases namedMarker? line with
    | none => exact ih
    | some name => exact congrArg (name :: ·) ih

/-- The body of a block ends where a marker stands. -/
theorem upToMarker_append_marker {marker : List Char} (hmarker : isMarker marker = true)
    (before after : List (List Char)) :
    upToMarker (before ++ marker :: after) = upToMarker before := by
  induction before with
  | nil => simp [upToMarker, hmarker]
  | cons line before ih =>
    simp only [upToMarker, List.cons_append, List.takeWhile_cons] at ih ⊢
    rw [ih]

theorem blocks_append_marker {marker : List Char} (hmarker : isMarker marker = true)
    (before after : List (List Char)) :
    blocks (before ++ marker :: after) = blocks before ++ blocks (marker :: after) := by
  induction before with
  | nil => rfl
  | cons line before ih =>
    rw [List.cons_append, blocks, blocks.eq_2 line before, ih, upToMarker_append_marker hmarker]
    cases namedMarker? line <;> rfl

/-- Every block comes from a marker, and the blocks after it from the lines after this marker. -/
theorem exists_marker_of_blocks {lines : List (List Char)} {front back : List Section}
    {part : Section} (hblocks : blocks lines = front ++ part :: back) :
    ∃ before marker after, lines = before ++ marker :: after ∧
      namedMarker? marker = some part.name ∧ blocks after = back ∧
      part.lines = (upToMarker after).map String.ofList := by
  induction lines generalizing front with
  | nil => simp [blocks] at hblocks
  | cons line rest ih =>
    rw [blocks] at hblocks
    cases hline : namedMarker? line with
    | none =>
      rw [hline] at hblocks
      obtain ⟨before, marker, after, rfl, hmarker⟩ := ih hblocks
      exact ⟨line :: before, marker, after, rfl, hmarker⟩
    | some name =>
      rw [hline] at hblocks
      cases front with
      | nil =>
        obtain ⟨rfl, rfl⟩ := List.cons.inj hblocks
        exact ⟨[], line, rest, rfl, hline, rfl, rfl⟩
      | cons head front =>
        obtain ⟨before, marker, after, rfl, hmarker⟩ := ih (List.cons.inj hblocks).2
        exact ⟨line :: before, marker, after, rfl, hmarker⟩

theorem isLastBlock_iff {lines : List (List Char)} {part : Section} :
    IsLastBlock lines part ↔
      ∃ front back, blocks lines = front ++ part :: back ∧ part.name ∉ back.map (·.name) := by
  constructor
  · rintro ⟨before, marker, after, rfl, hmarker, hlast, hlines⟩
    refine ⟨blocks before, blocks after, ?_, by rwa [names_blocks]⟩
    rw [blocks_append_marker (isMarker_of_namedMarker? hmarker), blocks, hmarker, ← hlines]
  · rintro ⟨front, back, hblocks, hlast⟩
    obtain ⟨before, marker, after, hsplit, hmarker, rfl, hlines⟩ :=
      exists_marker_of_blocks hblocks
    exact ⟨before, marker, after, hsplit, hmarker, by rwa [names_blocks] at hlast, hlines⟩

/-! ## Reading comes to committing the blocks -/

namespace Draft

/-- The sections of a draft if the one that is being read goes on with lines. -/
def sectionsWith (draft : Draft) (lines : List (List Char)) : Sections :=
  match draft.current with
  | some reading =>
    draft.template.sections.commit reading.name (reading.lines.reverse ++ lines.map String.ofList)
  | none => draft.template.sections

theorem sectionsWith_nil (draft : Draft) : draft.sectionsWith [] = draft.committed.sections := by
  unfold sectionsWith committed
  cases draft.current with
  | none => rfl
  | some reading => simp only [List.map_nil, List.append_nil]

theorem sections_applyDirective (template : Template) (said : Directive) :
    (applyDirective template said).sections = template.sections := by
  cases said <;> rfl

/-- No section is being read in the header. -/
def IsOrderly (draft : Draft) : Prop :=
  draft.inHeader = true → draft.current = none

/-- A line that is no marker goes on with the section that is being read, if there is one. -/
theorem sectionsWith_feed {draft : Draft} (horderly : draft.IsOrderly) {line : List Char}
    (hline : isMarker line = false) :
    (draft.feed line).IsOrderly ∧
      ∀ lines, (draft.feed line).sectionsWith lines = draft.sectionsWith (line :: lines) := by
  rw [isMarker, Option.isSome_eq_false_iff, Option.isNone_iff_eq_none] at hline
  simp only [feed, hline]
  by_cases hheader : draft.inHeader = true
  · have hcurrent := horderly hheader
    rw [if_pos hheader]
    unfold feedHeader sectionsWith
    split
    · simp [IsOrderly, hcurrent]
    · simp [IsOrderly, hcurrent, sections_applyDirective]
  · rw [if_neg hheader]
    unfold feedBody sectionsWith
    cases draft.current with
    | none => simp [IsOrderly]
    | some reading => simp [IsOrderly, hheader]

/-- A marker commits the section that is being read, and begins one if it has a name. -/
theorem sectionsWith_feed_marker {draft : Draft} {line : List Char}
    (hline : isMarker line = true) :
    (draft.feed line).IsOrderly ∧
      ∀ lines, (draft.feed line).sectionsWith lines = draft.committed.sections.commitAll
        ((namedMarker? line).map (⟨·, lines.map String.ofList⟩)).toList := by
  obtain ⟨name, hname⟩ := Option.isSome_iff_exists.1 hline
  simp only [feed, hname, mark, namedMarker?, Option.bind_some]
  by_cases hempty : name.isEmpty = true
  · rw [if_pos hempty, if_pos hempty]
    exact ⟨fun _ => rfl, fun lines => rfl⟩
  · rw [if_neg hempty, if_neg hempty]
    exact ⟨by simp [IsOrderly], fun lines => rfl⟩

end Draft

theorem sections_foldl_feed {draft : Draft} (horderly : draft.IsOrderly)
    (lines : List (List Char)) :
    (lines.foldl Draft.feed draft).committed.sections =
      (draft.sectionsWith (upToMarker lines)).commitAll (blocks lines) := by
  induction lines generalizing draft with
  | nil => exact draft.sectionsWith_nil.symm
  | cons line rest ih =>
    rw [List.foldl_cons]
    cases hline : isMarker line with
    | false =>
      obtain ⟨hnext, hfeed⟩ := Draft.sectionsWith_feed horderly hline
      rw [ih hnext, hfeed, blocks, namedMarker?_of_isMarker hline]
      simp [upToMarker, hline]
    | true =>
      obtain ⟨hnext, hfeed⟩ := Draft.sectionsWith_feed_marker hline
      have hbody : upToMarker (line :: rest) = [] := by simp [upToMarker, hline]
      rw [ih hnext, hfeed, hbody, Draft.sectionsWith_nil, blocks]
      cases namedMarker? line <;> rfl

/-- The sections of a script are its blocks, committed in order. -/
theorem sections_readLines (lines : List (List Char)) :
    (readLines lines).committed.sections = Sections.empty.commitAll (blocks lines) :=
  sections_foldl_feed (fun _ => rfl) lines

/-! ## Lines that belong to no section -/

/-- Lines at the start that are no markers are in no block. -/
theorem blocks_stray_append {stray : List (List Char)}
    (hstray : ∀ line ∈ stray, isMarker line = false) (after : List (List Char)) :
    blocks (stray ++ after) = blocks after := by
  induction stray with
  | nil => rfl
  | cons line stray ih =>
    rw [List.cons_append, blocks, namedMarker?_of_isMarker (hstray line List.mem_cons_self)]
    exact ih fun other hother => hstray other (List.mem_cons_of_mem _ hother)

/-- Lines that are no markers, in front of which nothing stands or a marker without a name, are in
no block. -/
theorem blocks_append_stray {before stray : List (List Char)}
    (hstray : ∀ line ∈ stray, isMarker line = false)
    (hbefore : ∀ line ∈ before.getLast?, marker? line = some []) (after : List (List Char)) :
    blocks (before ++ stray ++ after) = blocks (before ++ after) := by
  rcases List.eq_nil_or_concat before with rfl | ⟨front, marker, rfl⟩
  · exact blocks_stray_append hstray after
  · have hname : marker? marker = some [] := hbefore marker (by simp)
    have hmarker : isMarker marker = true := by rw [isMarker, hname]; rfl
    have hskip (rest : List (List Char)) : blocks (marker :: rest) = blocks rest := by
      rw [blocks, namedMarker?, hname]
      rfl
    simp only [List.concat_eq_append, List.append_assoc, List.cons_append, List.nil_append]
    rw [blocks_append_marker hmarker, blocks_append_marker hmarker, hskip, hskip,
      blocks_stray_append hstray]

/-! ## Lines that are kept -/

/-- The lines of a script that say something are trimmed and have no inline comment. -/
theorem of_mem_normalisedLines {s : String} {line : List Char} (hline : line ∈ normalisedLines s) :
    line ≠ [] ∧ Text.trimmed line = line ∧ ¬inlineComment.toList <:+: line := by
  obtain ⟨hmem, hempty⟩ := List.mem_filter.1 hline
  obtain ⟨raw, -, rfl⟩ := List.mem_map.1 hmem
  refine ⟨by simpa using hempty, Text.trimmed_trimmed _, fun hcomment => ?_⟩
  have hmarker : inlineComment.toList ≠ [] := by decide
  have hcut := Text.not_isInfix_cutAt hmarker raw
  exact hcut (hcomment.trans (Text.trimmed_infix _))

end Script

/-! ## Scripts -/

/-- The sections of a script. Their names are distinct, and are the names of the markers in the
order in which they come up first. The lines of a section are those between the last marker of its
name and the next marker. Lines at the start, or behind a marker without a name, may be left out.
Every line of a section says something, is trimmed, has no inline comment and is no marker. -/
theorem Template.sections_ofText (s : String) :
    (ofText s).sections.names.Nodup ∧
    (ofText s).sections.names = (Script.markerNames (Script.normalisedLines s)).eraseDups ∧
    (∀ part, part ∈ (ofText s).sections.list ↔
      Script.IsLastBlock (Script.normalisedLines s) part) ∧
    (∀ before stray after, Script.normalisedLines s = before ++ stray ++ after →
      (∀ line ∈ stray, Script.isMarker line = false) →
      (∀ line ∈ before.getLast?, Script.marker? line = some []) →
        (Script.readLines (before ++ after)).committed.sections = (ofText s).sections) ∧
    ∀ part ∈ (ofText s).sections.list, ∀ line ∈ part.lines,
      line ≠ "" ∧ Text.trim line = line ∧ ¬Script.inlineComment.toList <:+: line.toList ∧
        line.toList.head? ≠ some '#' := by
  have hsections : (ofText s).sections =
      Sections.empty.commitAll (Script.blocks (Script.normalisedLines s)) :=
    Script.sections_readLines _
  have hmem (part : Section) : part ∈ (ofText s).sections.list ↔
      Script.IsLastBlock (Script.normalisedLines s) part := by
    rw [hsections, Sections.mem_commitAll_empty, Script.isLastBlock_iff]
  refine ⟨(ofText s).sections.distinct, ?_, hmem, ?_, ?_⟩
  · rw [hsections, Sections.names_commitAll_empty, Script.names_blocks]
  · intro before stray after hlines hstray hbefore
    rw [hsections, hlines, Script.sections_readLines, Script.blocks_append_stray hstray hbefore]
  · intro part hpart line hline
    obtain ⟨before, marker, after, hlines, -, -, hbody⟩ := (hmem part).1 hpart
    rw [hbody] at hline
    obtain ⟨cs, hcs, rfl⟩ := List.mem_map.1 hline
    have hplain : Script.isMarker cs = false := by
      simpa using List.mem_takeWhile_imp hcs
    have hmemAfter : cs ∈ after := (List.takeWhile_prefix _).subset hcs
    have hnormal : cs ∈ Script.normalisedLines s := by
      rw [hlines]
      exact List.mem_append_right _ (List.mem_cons_of_mem _ hmemAfter)
    obtain ⟨hne, htrim, hcomment⟩ := Script.of_mem_normalisedLines hnormal
    refine ⟨?_, ?_, ?_, ?_⟩
    · simpa using hne
    · rw [Text.trim, String.toList_ofList, htrim]
    · rwa [String.toList_ofList]
    · rw [String.toList_ofList]
      exact Script.isMarker_eq_false_iff.1 hplain

/-- A script in which a name is repeated and some lines belong to no sheet. -/
def choresText : String :=
  "stray\n---\n#Home\nSweep: now\n##\nlost\n# Yard #comment later\nRake: soon\n#Home\n Dust: never "

/-- The lines of the script up to a marker without a name. -/
def choresBefore : List (List Char) :=
  ["stray", "---", "#Home", "Sweep: now", "##"].map String.toList

/-- The lines of the script from the first marker after that on. -/
def choresAfter : List (List Char) :=
  ["# Yard", "Rake: soon", "#Home", "Dust: never"].map String.toList

theorem sections_ofText_chores :
    (Template.ofText choresText).sections.names = ["Home", "Yard"] ∧
      ⟨"Home", ["Dust: never"]⟩ ∈ (Template.ofText choresText).sections.list ∧
      Script.normalisedLines choresText = choresBefore ++ ["lost".toList] ++ choresAfter ∧
      (Script.readLines (choresBefore ++ choresAfter)).committed.sections =
        (Template.ofText choresText).sections ∧
      Text.trim "Dust: never" = "Dust: never" := by
  obtain ⟨-, hnames, hmem, hstray, hlines⟩ := Template.sections_ofText choresText
  have hsplit : Script.normalisedLines choresText =
      choresBefore ++ ["lost".toList] ++ choresAfter := by decide +kernel
  have hlast : Script.IsLastBlock (Script.normalisedLines choresText)
      ⟨"Home", ["Dust: never"]⟩ :=
    ⟨choresBefore ++ ["lost", "# Yard", "Rake: soon"].map String.toList, "#Home".toList,
      ["Dust: never".toList], by decide +kernel, by decide +kernel, by decide +kernel,
      by decide +kernel⟩
  refine ⟨?_, (hmem _).2 hlast, hsplit, ?_, ?_⟩
  · rw [hnames]
    decide +kernel
  · exact hstray _ _ _ hsplit (by decide +kernel) (by decide +kernel)
  · exact (hlines _ ((hmem _).2 hlast) _ List.mem_cons_self).2.1

end FillScript
