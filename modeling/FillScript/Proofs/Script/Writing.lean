import FillScript.Proofs.Script.Header
import FillScript.Proofs.Text.Joining
import Mathlib.Data.List.Infix

/-!
# Scripts that are written down

A template can be written down as a script: its directives, the line that ends the header, and for
every section a marker with the lines behind it (`Template.script`). Reading the script gives the
template back if every part of it fits in its place (`Template.Fits`, `Template.ofText_script`).

A text fits on a line if no blank stands at its ends, nothing ends the line and no inline comment
begins in it (`Script.FitsLine`); an item of a list holds no comma, and the name in a marker and a
command do not begin like a marker. Under that every line comes back as it was written
(`Script.normalisedLines_of_fits`). The header is read off line by line (`Script.header_readLines`),
and no line behind it changes what the header said, also one that looks like a directive. The
sections are the blocks of the script (`Script.blocks_sectionChars`).
-/

namespace FillScript

/-! ## Templates as scripts -/

namespace Template

/-- The lines of the header in which a template is written down. -/
def headerLines (template : Template) : List String :=
  ["file:" ++ template.source.text, "output:" ++ template.output.text,
    "params:" ++ ",".intercalate template.params, "fill:" ++ ",".intercalate template.fillColumns]

/-- The lines in which a section is written down. -/
def sectionLines (part : Section) : List String :=
  ("#" ++ part.name) :: part.lines

/-- The lines in which a template is written down. -/
def scriptLines (template : Template) : List String :=
  template.headerLines ++ [Script.headerEnd] ++ template.sections.list.flatMap sectionLines

/-- The script in which a template is written down. -/
def script (template : Template) : String :=
  "\n".intercalate template.scriptLines

end Template

namespace Script

/-! ## Texts that fit -/

/-- Whether a text comes back from a line that ends in it. -/
structure FitsLine (cs : List Char) : Prop where
  trimmed : Text.trimmed cs = cs
  oneLine : '\n' ∉ cs
  noComment : ¬inlineComment.toList <:+: cs

/-- Whether a text is an item of a list, which commas separate. -/
structure FitsItem (cs : List Char) : Prop extends FitsLine cs where
  ne_nil : cs ≠ []
  noComma : ',' ∉ cs

/-- Whether a text is the name in a sheet marker. -/
structure FitsMarker (cs : List Char) : Prop extends FitsLine cs where
  ne_nil : cs ≠ []
  noMark : cs.head? ≠ some '#'
  notComment : ¬"comment".toList <+: cs

/-- Whether a text is a line for a sheet. -/
structure FitsBody (cs : List Char) : Prop extends FitsLine cs where
  ne_nil : cs ≠ []
  noMark : cs.head? ≠ some '#'

instance (cs : List Char) : Decidable (FitsLine cs) :=
  decidable_of_iff (Text.trimmed cs = cs ∧ '\n' ∉ cs ∧ ¬inlineComment.toList <:+: cs)
    ⟨fun ⟨h₁, h₂, h₃⟩ => ⟨h₁, h₂, h₃⟩, fun h => ⟨h.1, h.2, h.3⟩⟩

instance (cs : List Char) : Decidable (FitsItem cs) :=
  decidable_of_iff (FitsLine cs ∧ cs ≠ [] ∧ ',' ∉ cs)
    ⟨fun ⟨h₁, h₂, h₃⟩ => ⟨h₁, h₂, h₃⟩, fun h => ⟨h.1, h.2, h.3⟩⟩

instance (cs : List Char) : Decidable (FitsMarker cs) :=
  decidable_of_iff (FitsLine cs ∧ cs ≠ [] ∧ cs.head? ≠ some '#' ∧ ¬"comment".toList <+: cs)
    ⟨fun ⟨h₁, h₂, h₃, h₄⟩ => ⟨h₁, h₂, h₃, h₄⟩, fun h => ⟨h.1, h.2, h.3, h.4⟩⟩

instance (cs : List Char) : Decidable (FitsBody cs) :=
  decidable_of_iff (FitsLine cs ∧ cs ≠ [] ∧ cs.head? ≠ some '#')
    ⟨fun ⟨h₁, h₂, h₃⟩ => ⟨h₁, h₂, h₃⟩, fun h => ⟨h.1, h.2, h.3⟩⟩

theorem fitsLine_nil : FitsLine [] := by decide +kernel

/-- Texts that fit on a line do so when a comma joins them. -/
theorem FitsLine.join {before after : List Char} (hbefore : FitsLine before)
    (hafter : FitsLine after) : FitsLine (before ++ ',' :: after) where
  trimmed := by
    have hcomma : Text.trimmed [','] = [','] := by decide
    exact Text.trimmed_append hbefore.trimmed (Text.trimmed_append hcomma hafter.trimmed)
  oneLine := by
    simp only [List.mem_append, List.mem_cons, not_or]
    exact ⟨hbefore.oneLine, by decide, hafter.oneLine⟩
  noComment hin := by
    rcases Text.isInfix_append_cons (by decide) hin with hin | hin
    · exact hbefore.noComment hin
    · exact hafter.noComment hin

/-- A text that fits on a line does so behind a word. -/
theorem FitsLine.behind {word cs : List Char} (h : FitsLine cs) (hword : FitsLine word)
    (hmark : '#' ∉ word) : FitsLine (word ++ cs) where
  trimmed := Text.trimmed_append hword.trimmed h.trimmed
  oneLine := by
    rw [List.mem_append, not_or]
    exact ⟨hword.oneLine, h.oneLine⟩
  noComment hin := h.noComment (Text.isInfix_of_append hmark hin)

/-- A marker with a name that fits is a line as it should be. -/
theorem FitsMarker.line {name : List Char} (h : FitsMarker name) : FitsLine ('#' :: name) where
  trimmed := by
    have hmark : Text.trimmed ['#'] = ['#'] := by decide
    exact Text.trimmed_append hmark h.trimmed
  oneLine := by
    rw [List.mem_cons, not_or]
    exact ⟨by decide, h.oneLine⟩
  noComment hin := by
    rcases List.infix_cons_iff.1 hin with hhere | hlater
    · have hcomment : inlineComment.toList = '#' :: "comment".toList := rfl
      rw [hcomment] at hhere
      exact h.notComment (List.cons_prefix_cons.1 hhere).2
    · exact h.noComment hlater

/-! ## Lines that come back -/

/-- The lines of a text that was put together from lines that fit are those lines. -/
theorem normalisedLines_of_fits {lines : List String} (hne : lines ≠ [])
    (hlines : ∀ line ∈ lines, FitsLine line.toList ∧ line ≠ "") :
    normalisedLines ("\n".intercalate lines) = lines.map String.toList := by
  have hsplit : Text.lines ("\n".intercalate lines) = lines.map String.toList := by
    rw [Text.lines, String.toList_intercalate]
    refine Text.splitAll_intercalate (by simpa using hne) fun piece hpiece => ?_
    obtain ⟨line, hline, rfl⟩ := List.mem_map.1 hpiece
    exact (hlines line hline).1.oneLine
  have hsame : (lines.map String.toList).map normalised = lines.map String.toList := by
    rw [List.map_map]
    refine List.map_congr_left fun line hline => ?_
    have hfits := (hlines line hline).1
    rw [Function.comp_apply, normalised, Text.cutAt_eq_self hfits.noComment, hfits.trimmed]
  rw [normalisedLines, hsplit, hsame, List.filter_eq_self]
  intro cs hcs
  obtain ⟨line, hline, rfl⟩ := List.mem_map.1 hcs
  simpa using (hlines line hline).2

/-- The items of a list come back when commas join them. -/
theorem items_intercalate {texts : List String} (htexts : ∀ text ∈ texts, FitsItem text.toList) :
    items (",".intercalate texts).toList = texts := by
  cases texts with
  | nil => rfl
  | cons first rest =>
    have hsplit : Text.splitAll ',' (",".intercalate (first :: rest)).toList =
        (first :: rest).map String.toList := by
      rw [String.toList_intercalate]
      refine Text.splitAll_intercalate (by simp) fun piece hpiece => ?_
      obtain ⟨text, htext, rfl⟩ := List.mem_map.1 hpiece
      exact (htexts text htext).noComma
    have hsame : ((first :: rest).map String.toList).map Text.trimmed =
        (first :: rest).map String.toList := by
      rw [List.map_map]
      exact List.map_congr_left fun text htext => (htexts text htext).trimmed
    have hkept : ((first :: rest).map String.toList).filter (!·.isEmpty) =
        (first :: rest).map String.toList := by
      rw [List.filter_eq_self]
      intro cs hcs
      obtain ⟨text, htext, rfl⟩ := List.mem_map.1 hcs
      simpa using (htexts text htext).ne_nil
    rw [items, hsplit, hsame, hkept, List.map_map]
    simp [Function.comp_def]

/-- A list of items fits on a line. -/
theorem fitsLine_intercalate {texts : List String}
    (htexts : ∀ text ∈ texts, FitsItem text.toList) :
    FitsLine (",".intercalate texts).toList := by
  rw [String.toList_intercalate]
  refine Text.forall_intercalate fitsLine_nil (fun _ _ => FitsLine.join) fun piece hpiece => ?_
  obtain ⟨text, htext, rfl⟩ := List.mem_map.1 hpiece
  exact (htexts text htext).toFitsLine

/-- A list of items in lower case is in lower case. -/
theorem lowerAfter_intercalate {texts : List String}
    (htexts : ∀ text ∈ texts, Text.lower text = text) :
    Text.lowerAfter [] (",".intercalate texts).toList = (",".intercalate texts).toList := by
  rw [Text.lowerAfter_eq_self_iff, String.toList_intercalate]
  refine Text.forall_intercalate (P := fun cs => ∀ c ∈ cs, Text.IsLowerChar c) (by simp)
    (fun before after hbefore hafter => ?_) fun piece hpiece => ?_
  · have hcomma : Text.IsLowerChar ',' := ⟨by decide, by decide⟩
    exact List.forall_mem_append.2 ⟨hbefore, List.forall_mem_cons.2 ⟨hcomma, hafter⟩⟩
  · obtain ⟨text, htext, rfl⟩ := List.mem_map.1 hpiece
    exact Text.lower_eq_self_iff.1 (htexts text htext)

/-! ## The header -/

/-- The header of a script is what its lines say up to the line that ends it. -/
theorem header_readLines {lines : List (List Char)} (hlines : ∀ line ∈ lines, IsHeaderLine line)
    (body : List (List Char)) :
    (readLines (lines ++ [headerEnd.toList] ++ body)).committed.header =
      ((lines.map directive).foldl applyDirective .empty).header := by
  have hfront : ∀ line ∈ lines, (!endsHeader line) = true := fun line hline => by
    rw [isHeaderLine_iff.1 (hlines line hline)]
    rfl
  have hheader : headerOf (lines ++ [headerEnd.toList] ++ body) = lines := by
    rw [headerOf, List.append_assoc, List.takeWhile_append_of_pos hfront]
    exact List.append_nil lines
  rw [header_committed_readLines, hheader]

/-- What the lines of the header say in which a template was written down. -/
theorem map_directive_headerLines (template : Template) :
    (template.headerLines.map String.toList).map directive =
      [.file (pathOf template.source.text.toList), .output (pathOf template.output.text.toList),
        .params (items (Text.lowerAfter [] (",".intercalate template.params).toList)),
        .fill (items (",".intercalate template.fillColumns).toList)] := by
  simp only [Template.headerLines, List.map_cons, List.map_nil, String.toList_append]
  rfl

/-- A directive, with a text that fits, is a line of the header. -/
theorem fits_directive {word text : String}
    (hword : FitsLine word.toList ∧ word ≠ "" ∧ '#' ∉ word.toList ∧ '-' ∉ word.toList)
    (htext : FitsLine text.toList) :
    FitsLine (word ++ text).toList ∧ word ++ text ≠ "" ∧ IsHeaderLine (word ++ text).toList := by
  obtain ⟨hfits, hne, hmark, hdash⟩ := hword
  have hchars : word.toList ≠ [] := by simpa using hne
  have hhead {c : Char} (hc : c ∉ word.toList) : (word.toList ++ text.toList).head? ≠ some c := by
    rw [List.head?_append_of_ne_nil _ hchars]
    exact fun hhead => hc (List.mem_of_mem_head? hhead)
  rw [String.toList_append]
  refine ⟨htext.behind hfits hmark, by simp [hne], ?_, fun hend => ?_⟩
  · exact isMarker_eq_false_iff.2 (hhead hmark)
  · exact hhead hdash (by rw [hend]; rfl)

/-! ## The sections -/

theorem namedMarker?_of_fits {name : String} (h : FitsMarker name.toList) :
    namedMarker? ('#' :: name.toList) = some name := by
  have hkeep : name.toList.dropWhile (· == '#') = name.toList := by
    rw [List.dropWhile_eq_self_iff]
    intro hlength hmark
    refine h.noMark ?_
    rw [List.head?_eq_getElem?, List.getElem?_eq_getElem hlength, beq_iff_eq.1 hmark]
  have hne : ¬name.toList.isEmpty = true := by simpa using h.ne_nil
  rw [namedMarker?, marker?, hkeep, h.trimmed, Option.bind_some, if_neg hne, String.ofList_toList]

theorem isMarker_of_fitsBody {cs : List Char} (h : FitsBody cs) : isMarker cs = false :=
  isMarker_eq_false_iff.2 h.noMark

/-- Whether a section comes back when it is written down. -/
structure FitsSection (part : Section) : Prop where
  name : FitsMarker part.name.toList
  lines : ∀ line ∈ part.lines, FitsBody line.toList

instance (part : Section) : Decidable (FitsSection part) :=
  decidable_of_iff (FitsMarker part.name.toList ∧ ∀ line ∈ part.lines, FitsBody line.toList)
    ⟨fun ⟨h₁, h₂⟩ => ⟨h₁, h₂⟩, fun h => ⟨h.1, h.2⟩⟩

/-- The characters of the lines in which sections are written down. -/
def sectionChars (parts : List Section) : List (List Char) :=
  (parts.flatMap Template.sectionLines).map String.toList

theorem sectionChars_cons (part : Section) (parts : List Section) :
    sectionChars (part :: parts) =
      ('#' :: part.name.toList) :: (part.lines.map String.toList ++ sectionChars parts) := by
  simp [sectionChars, Template.sectionLines]

/-- What is written down for sections begins with a marker. -/
theorem upToMarker_sectionChars {parts : List Section} (hparts : ∀ part ∈ parts, FitsSection part) :
    upToMarker (sectionChars parts) = [] := by
  cases parts with
  | nil => rfl
  | cons part parts =>
    have hmarker := isMarker_of_namedMarker?
      (namedMarker?_of_fits (hparts part List.mem_cons_self).name)
    rw [sectionChars_cons, upToMarker, List.takeWhile_cons, hmarker]
    rfl

/-- The blocks of what is written down for sections are the sections. -/
theorem blocks_sectionChars {parts : List Section} (hparts : ∀ part ∈ parts, FitsSection part) :
    blocks (sectionChars parts) = parts := by
  induction parts with
  | nil => rfl
  | cons part parts ih =>
    obtain ⟨hname, hlines⟩ := hparts part List.mem_cons_self
    have hrest : ∀ other ∈ parts, FitsSection other :=
      fun other hother => hparts other (List.mem_cons_of_mem _ hother)
    have hplain : ∀ line ∈ part.lines.map String.toList, isMarker line = false := by
      intro cs hcs
      obtain ⟨line, hline, rfl⟩ := List.mem_map.1 hcs
      exact isMarker_of_fitsBody (hlines line hline)
    have hbody : upToMarker (part.lines.map String.toList ++ sectionChars parts) =
        part.lines.map String.toList := by
      have hend : (sectionChars parts).takeWhile (fun line => !isMarker line) = [] :=
        upToMarker_sectionChars hrest
      rw [upToMarker, List.takeWhile_append_of_pos fun line hline => by rw [hplain line hline]; rfl,
        hend, List.append_nil]
    have hskip : blocks (part.lines.map String.toList ++ sectionChars parts) =
        blocks (sectionChars parts) :=
      blocks_stray_append hplain _
    rw [sectionChars_cons, blocks, namedMarker?_of_fits hname, hbody, hskip, ih hrest, List.map_map]
    simp [Function.comp_def]

end Script

/-- Sections of distinct names are committed as they are. -/
theorem Sections.commitAll_empty_list (sections : Sections) :
    empty.commitAll sections.list = sections := by
  obtain ⟨parts, hdistinct⟩ := sections
  suffices hlist : (empty.commitAll parts).list = parts by
    cases hall : empty.commitAll parts
    simp_all
  induction parts using List.reverseRecOn with
  | nil => rfl
  | append_singleton parts part ih =>
    rw [List.map_append, List.nodup_append] at hdistinct
    obtain ⟨hparts, -, hother⟩ := hdistinct
    have hnew : part.name ∉ ((empty.commitAll parts).list).map (·.name) := by
      rw [ih hparts]
      exact fun hmem => hother _ hmem _ (by simp) rfl
    rw [commitAll_concat, commit]
    dsimp only
    rw [store_of_notMem hnew, ih hparts]

/-! ## Reading what was written -/

namespace Template

/-- Whether every part of a template fits in its place in a script. -/
structure Fits (template : Template) : Prop where
  source : Script.FitsLine template.source.text.toList
  output : Script.FitsLine template.output.text.toList
  params : ∀ param ∈ template.params, Script.FitsItem param.toList ∧ Text.lower param = param
  useTitle : template.useTitle = true ↔ Script.useTitleParam ∈ template.params
  fillColumns : ∀ title ∈ template.fillColumns, Script.FitsItem title.toList
  sections : ∀ part ∈ template.sections.list, Script.FitsSection part

instance (template : Template) : Decidable template.Fits :=
  decidable_of_iff (Script.FitsLine template.source.text.toList ∧
    Script.FitsLine template.output.text.toList ∧
    (∀ param ∈ template.params, Script.FitsItem param.toList ∧ Text.lower param = param) ∧
    (template.useTitle = true ↔ Script.useTitleParam ∈ template.params) ∧
    (∀ title ∈ template.fillColumns, Script.FitsItem title.toList) ∧
    ∀ part ∈ template.sections.list, Script.FitsSection part)
    ⟨fun ⟨h₁, h₂, h₃, h₄, h₅, h₆⟩ => ⟨h₁, h₂, h₃, h₄, h₅, h₆⟩,
      fun h => ⟨h.1, h.2, h.3, h.4, h.5, h.6⟩⟩

namespace Fits

variable {template : Template} (h : template.Fits)
include h

/-- The lines of the header fit and are told from what ends it. -/
theorem headerLines {line : String} (hline : line ∈ template.headerLines) :
    Script.FitsLine line.toList ∧ line ≠ "" ∧ Script.IsHeaderLine line.toList := by
  simp only [Template.headerLines, List.mem_cons, List.not_mem_nil, or_false] at hline
  rcases hline with rfl | rfl | rfl | rfl
  · exact Script.fits_directive (by decide +kernel) h.source
  · exact Script.fits_directive (by decide +kernel) h.output
  · refine Script.fits_directive (by decide +kernel) (Script.fitsLine_intercalate ?_)
    exact fun param hparam => (h.params param hparam).1
  · refine Script.fits_directive (by decide +kernel) (Script.fitsLine_intercalate ?_)
    exact h.fillColumns

/-- All lines of the script fit. -/
theorem scriptLines {line : String} (hline : line ∈ template.scriptLines) :
    Script.FitsLine line.toList ∧ line ≠ "" := by
  simp only [Template.scriptLines, List.mem_append, List.mem_singleton, List.mem_flatMap] at hline
  rcases hline with (hline | rfl) | ⟨part, hpart, hline⟩
  · obtain ⟨hfits, hne, -⟩ := h.headerLines hline
    exact ⟨hfits, hne⟩
  · decide +kernel
  · obtain ⟨hname, hlines⟩ := h.sections part hpart
    rcases List.mem_cons.1 hline with rfl | hline
    · rw [String.toList_append]
      exact ⟨hname.line, by simp⟩
    · have hbody := hlines line hline
      exact ⟨hbody.toFitsLine, fun hempty => hbody.ne_nil (congrArg String.toList hempty)⟩

end Fits

/-- Reading the script in which a template was written down gives the template back. -/
theorem ofText_script {template : Template} (h : template.Fits) :
    ofText template.script = template := by
  have hlines : Script.normalisedLines template.script =
      template.headerLines.map String.toList ++ [Script.headerEnd.toList] ++
        Script.sectionChars template.sections.list := by
    have hne : template.scriptLines ≠ [] := by simp [scriptLines, headerLines]
    rw [script, Script.normalisedLines_of_fits hne fun line hline => h.scriptLines hline]
    simp only [scriptLines, Script.sectionChars, List.map_append, List.map_cons, List.map_nil]
  have hheaderLines : ∀ line ∈ template.headerLines.map String.toList, Script.IsHeaderLine line := by
    intro cs hcs
    obtain ⟨line, hline, rfl⟩ := List.mem_map.1 hcs
    exact (h.headerLines hline).2.2
  refine eq_of_header ?_ ?_
  · rw [ofText, hlines, Script.header_readLines hheaderLines]
    have hparams : Script.items (Text.lowerAfter [] (",".intercalate template.params).toList) =
        template.params := by
      rw [Script.lowerAfter_intercalate fun param hparam => (h.params param hparam).2]
      exact Script.items_intercalate fun param hparam => (h.params param hparam).1
    have huse : (false || template.params.contains Script.useTitleParam) = template.useTitle := by
      rw [Bool.false_or, Bool.eq_iff_iff, List.contains_iff_mem, h.useTitle]
    have hpath {path : Path} (hpath : Script.FitsLine path.text.toList) :
        Script.pathOf path.text.toList = path := by
      rw [Script.pathOf, hpath.trimmed, String.ofList_toList]
    rw [Script.map_directive_headerLines, hparams, Script.items_intercalate h.fillColumns,
      hpath h.source, hpath h.output]
    simp only [List.foldl_cons, List.foldl_nil, Script.applyDirective, header, empty, huse]
  · have hstray : ∀ line ∈ template.headerLines.map String.toList ++ [Script.headerEnd.toList],
        Script.isMarker line = false := by
      intro line hline
      rcases List.mem_append.1 hline with hline | hline
      · exact (hheaderLines line hline).1
      · rw [List.mem_singleton.1 hline]
        rfl
    rw [ofText, hlines, Script.sections_readLines, Script.blocks_stray_append hstray,
      Script.blocks_sectionChars h.sections,
      Sections.commitAll_empty_list]

/-- A template in which lines for a sheet look like directives and like the end of the header. -/
def nightWatch : Template :=
  ⟨⟨"dock 1/log #7.json"⟩, .empty, true, ["use-title", "πόλις"], ["Ship", "Berth #2"],
    ⟨[⟨"Night: a#b", ["file: other.json", "---", "Ship: Argo, early", "fill:Ship"]⟩, ⟨"fill:", []⟩],
      by decide⟩⟩

theorem ofText_script_nightWatch :
    nightWatch.Fits ∧
      nightWatch.script = "file:dock 1/log #7.json\noutput:\nparams:use-title,πόλις\n" ++
        "fill:Ship,Berth #2\n---\n#Night: a#b\nfile: other.json\n---\nShip: Argo, early\n" ++
        "fill:Ship\n#fill:" ∧
      ofText nightWatch.script = nightWatch := by
  have hfits : nightWatch.Fits := by decide +kernel
  exact ⟨hfits, by decide +kernel, ofText_script hfits⟩

end Template

end FillScript
