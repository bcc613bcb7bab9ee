import FillScript.Proofs.Script.Sections

/-!
# The header of a script

A script begins with a header, which ends before the first line that is `---` or begins with `#`
(`Script.headerOf`). What the header says is what its lines say, one after the other
(`Script.header_committed_readLines`): of the directives of one kind the last one counts
(`Script.field_foldl_eq`), but columns are addressed by title if any of them asks for it
(`Script.useTitle_foldl_iff`). No line behind the header changes what it said, also one that looks
like a directive, and no line of the header is in a section (`Template.ofText_header`).
-/

namespace FillScript

namespace Template

/-- What the header of a script says. -/
def header (template : Template) : Template :=
  { template with sections := .empty }

theorem eq_of_header {first second : Template} (hheader : first.header = second.header)
    (hsections : first.sections = second.sections) : first = second := by
  cases first
  cases second
  simp_all [header]

end Template

namespace Script

/-! ## Where the header ends -/

/-- Whether a line ends the header: the separator does, and every line that begins like a marker. -/
def endsHeader (line : List Char) : Bool :=
  line == headerEnd.toList || line.head? == some '#'

/-- The lines before the one that ends the header. -/
def headerOf (lines : List (List Char)) : List (List Char) :=
  lines.takeWhile fun line => !endsHeader line

/-- The lines from the one on that ends the header. -/
def bodyOf (lines : List (List Char)) : List (List Char) :=
  lines.dropWhile fun line => !endsHeader line

/-- Whether a line of the header is a directive or is ignored: it is no marker and does not end the
header. -/
def IsHeaderLine (line : List Char) : Prop :=
  isMarker line = false ∧ line ≠ headerEnd.toList

theorem isHeaderLine_iff {line : List Char} : IsHeaderLine line ↔ endsHeader line = false := by
  rw [IsHeaderLine, isMarker_eq_false_iff, endsHeader, Bool.or_eq_false_iff, beq_eq_false_iff_ne,
    beq_eq_false_iff_ne, and_comm]

theorem isHeaderLine_of_mem_headerOf {lines : List (List Char)} {line : List Char}
    (hline : line ∈ headerOf lines) : IsHeaderLine line := by
  have hends := List.mem_takeWhile_imp hline
  exact isHeaderLine_iff.2 (by simpa using hends)

theorem headerOf_append_bodyOf (lines : List (List Char)) :
    headerOf lines ++ bodyOf lines = lines :=
  List.takeWhile_append_dropWhile

/-! ## Reading the header -/

namespace Draft

/-- Lines of the header are applied one after the other. -/
theorem template_foldl_feed_header (draft : Draft) (hheader : draft.inHeader = true)
    {lines : List (List Char)} (hlines : ∀ line ∈ lines, IsHeaderLine line) :
    (lines.foldl feed draft).inHeader = true ∧
      (lines.foldl feed draft).template =
        (lines.map directive).foldl applyDirective draft.template := by
  induction lines generalizing draft with
  | nil => exact ⟨hheader, rfl⟩
  | cons line rest ih =>
    obtain ⟨hmarker, hend⟩ := hlines line List.mem_cons_self
    rw [isMarker, Option.isSome_eq_false_iff, Option.isNone_iff_eq_none] at hmarker
    have hfeed : draft.feed line = draft.feedHeader line := by
      simp only [feed, hmarker, hheader, if_true]
    rw [List.foldl_cons, hfeed, feedHeader, if_neg hend]
    exact ih _ hheader fun other hother => hlines other (List.mem_cons_of_mem _ hother)

theorem header_committed (draft : Draft) : draft.committed.header = draft.template.header := by
  unfold committed
  cases draft.current with
  | none => rfl
  | some reading => rfl

/-- The line that ends the header, and every line behind it, leaves what it said. -/
theorem header_feed {draft : Draft} {line : List Char}
    (hend : draft.inHeader = true → endsHeader line = true) :
    (draft.feed line).inHeader = false ∧
      (draft.feed line).template.header = draft.template.header := by
  unfold feed
  cases hmarker : marker? line with
  | some name =>
    dsimp only
    unfold mark
    split
    · exact ⟨rfl, draft.header_committed⟩
    · exact ⟨rfl, draft.header_committed⟩
  | none =>
    by_cases hheader : draft.inHeader = true
    · -- a line that is no marker and ends the header is the separator
      have hseparator : line = headerEnd.toList := by
        by_contra hne
        have hline : IsHeaderLine line := ⟨by rw [isMarker, hmarker]; rfl, hne⟩
        rw [isHeaderLine_iff, hend hheader] at hline
        contradiction
      dsimp only
      rw [if_pos hheader, feedHeader, if_pos hseparator]
      exact ⟨rfl, rfl⟩
    · dsimp only
      rw [if_neg hheader]
      rw [Bool.not_eq_true] at hheader
      unfold feedBody
      cases draft.current with
      | none => exact ⟨hheader, rfl⟩
      | some reading => exact ⟨hheader, rfl⟩

/-- Behind the header no lines change what it said. -/
theorem header_foldl_feed {draft : Draft} {lines : List (List Char)}
    (hend : draft.inHeader = true → ∀ line ∈ lines.head?, endsHeader line = true) :
    (lines.foldl feed draft).committed.header = draft.template.header := by
  induction lines generalizing draft with
  | nil => exact draft.header_committed
  | cons line rest ih =>
    obtain ⟨hnext, hheader⟩ := header_feed fun h => hend h line rfl
    rw [List.foldl_cons, ih (by simp [hnext]), hheader]

end Draft

/-- What the header of a script says is what its lines say, one after the other. -/
theorem header_committed_readLines (lines : List (List Char)) :
    (readLines lines).committed.header =
      (((headerOf lines).map directive).foldl applyDirective .empty).header := by
  have hlines : ∀ line ∈ headerOf lines, IsHeaderLine line := fun _ => isHeaderLine_of_mem_headerOf
  obtain ⟨-, htemplate⟩ := Draft.template_foldl_feed_header .start rfl hlines
  have hend : ∀ line ∈ (bodyOf lines).head?, endsHeader line = true := by
    intro line hline
    have hfirst := List.head?_dropWhile_not (fun line => !endsHeader line) lines
    rw [show (lines.dropWhile fun line => !endsHeader line).head? = some line from hline] at hfirst
    simpa using hfirst
  have hread : ((bodyOf lines).foldl Draft.feed
      ((headerOf lines).foldl Draft.feed .start)).committed.header =
        ((headerOf lines).foldl Draft.feed .start).template.header :=
    Draft.header_foldl_feed fun _ => hend
  rwa [← List.foldl_append, headerOf_append_bodyOf, htemplate] at hread

/-! ## What the directives say -/

/-- What follows a word on the last of the lines that begin with it. -/
def lastAfter? (word : String) (lines : List (List Char)) : Option (List Char) :=
  (lines.filterMap fun line => word.toList.isPrefixOf? line).getLast?

/-- The flags that a list of them asks for, in small letters. -/
def flagsOf (cs : List Char) : List String :=
  items (Text.lowerAfter [] cs)

/-- What a line of the header says, by the word that it begins with. -/
inductive DirectiveForm : List Char → Directive → Prop where
  | file (rest : List Char) : DirectiveForm ("file:".toList ++ rest) (.file (pathOf rest))
  | output (rest : List Char) : DirectiveForm ("output:".toList ++ rest) (.output (pathOf rest))
  | params (rest : List Char) : DirectiveForm ("params:".toList ++ rest) (.params (flagsOf rest))
  | fill (rest : List Char) : DirectiveForm ("fill:".toList ++ rest) (.fill (items rest))
  | other {line : List Char}
    (hword : ∀ word ∈ ["file:", "output:", "params:", "fill:"],
      word.toList.isPrefixOf? line = none) :
    DirectiveForm line (.other (String.ofList line))

theorem directiveForm_directive (line : List Char) : DirectiveForm line (directive line) := by
  have happend {word : String} {rest : List Char}
      (hrest : word.toList.isPrefixOf? line = some rest) : line = word.toList ++ rest :=
    (List.isPrefixOf?_eq_some_iff_append_eq.1 hrest).symm
  unfold directive
  split
  · next rest hfile => exact happend hfile ▸ .file rest
  next hfile =>
  split
  · next rest houtput => exact happend houtput ▸ .output rest
  next houtput =>
  split
  · next rest hparams => exact happend hparams ▸ .params rest
  next hparams =>
  split
  · next rest hfill => exact happend hfill ▸ .fill rest
  next hfill =>
  refine .other fun word hword => ?_
  simp only [List.mem_cons, List.not_mem_nil, or_false] at hword
  rcases hword with rfl | rfl | rfl | rfl
  · exact hfile
  · exact houtput
  · exact hparams
  · exact hfill

/-- What a line of the header sets: the field of the word that it begins with, and no other one. -/
theorem applyDirective_directive (template : Template) (line : List Char) :
    let set := applyDirective template (directive line)
    set.source = (("file:".toList.isPrefixOf? line).map pathOf).getD template.source ∧
    set.output = (("output:".toList.isPrefixOf? line).map pathOf).getD template.output ∧
    set.params = (("params:".toList.isPrefixOf? line).map flagsOf).getD template.params ∧
    set.fillColumns = (("fill:".toList.isPrefixOf? line).map items).getD template.fillColumns ∧
    set.useTitle = (template.useTitle ||
      (("params:".toList.isPrefixOf? line).map flagsOf).any (·.contains useTitleParam)) := by
  have hform := directiveForm_directive line
  generalize directive line = said at hform
  cases hform with
  | file rest => exact ⟨rfl, rfl, rfl, rfl, (Bool.or_false _).symm⟩
  | output rest => exact ⟨rfl, rfl, rfl, rfl, (Bool.or_false _).symm⟩
  | params rest => exact ⟨rfl, rfl, rfl, rfl, rfl⟩
  | fill rest => exact ⟨rfl, rfl, rfl, rfl, (Bool.or_false _).symm⟩
  | other hword =>
    dsimp only
    rw [hword "file:" (by simp), hword "output:" (by simp), hword "params:" (by simp),
      hword "fill:" (by simp)]
    exact ⟨rfl, rfl, rfl, rfl, (Bool.or_false _).symm⟩

/-- A field that a directive sets is what the last line with its word says. -/
theorem field_foldl_eq {α : Type} {field : Template → α} {word : String} {read : List Char → α}
    (hline : ∀ template line, field (applyDirective template (directive line)) =
      ((word.toList.isPrefixOf? line).map read).getD (field template))
    (lines : List (List Char)) (template : Template) :
    field ((lines.map directive).foldl applyDirective template) =
      ((lastAfter? word lines).map read).getD (field template) := by
  induction lines using List.reverseRecOn with
  | nil => rfl
  | append_singleton lines line ih =>
    rw [List.map_append, List.foldl_append]
    simp only [List.map_cons, List.map_nil, List.foldl_cons, List.foldl_nil]
    rw [hline, ih, lastAfter?, lastAfter?, List.filterMap_append]
    cases hword : word.toList.isPrefixOf? line with
    | none => simp [hword]
    | some rest => simp [hword]

/-- Columns are addressed by title if one of the lists of flags asks for it. -/
theorem useTitle_foldl_iff {lines : List (List Char)} {template : Template} :
    ((lines.map directive).foldl applyDirective template).useTitle = true ↔
      template.useTitle = true ∨
        ∃ rest, "params:".toList ++ rest ∈ lines ∧ useTitleParam ∈ flagsOf rest := by
  induction lines generalizing template with
  | nil => simp
  | cons line lines ih =>
    obtain ⟨-, -, -, -, hset⟩ := applyDirective_directive template line
    have hline : (("params:".toList.isPrefixOf? line).map flagsOf).any
        (·.contains useTitleParam) = true ↔
          ∃ rest, "params:".toList ++ rest = line ∧ useTitleParam ∈ flagsOf rest := by
      simp only [Option.any_eq_true, Option.map_eq_some_iff, List.isPrefixOf?_eq_some_iff_append_eq,
        List.contains_iff_mem]
      constructor
      · rintro ⟨_, ⟨rest, hrest, rfl⟩, hflag⟩
        exact ⟨rest, hrest, hflag⟩
      · rintro ⟨rest, hrest, hflag⟩
        exact ⟨_, ⟨rest, hrest, rfl⟩, hflag⟩
    rw [List.map_cons, List.foldl_cons, ih, hset, Bool.or_eq_true, hline, or_assoc]
    simp only [List.mem_cons, or_and_right, exists_or]

end Script

/-- What a script says about itself. Source, output and columns to fill are what the last directive
of each kind in the header says, and so are the flags, in small letters; columns are addressed by
title if any list of flags in the header asks for it. The lines behind the header have no part in
this, and the lines of the header have none in the sections. -/
theorem Template.ofText_header (s : String) :
    let lines := Script.normalisedLines s
    let header := Script.headerOf lines
    let template := ofText s
    template.source = ((Script.lastAfter? "file:" header).map Script.pathOf).getD .empty ∧
    template.output = ((Script.lastAfter? "output:" header).map Script.pathOf).getD .empty ∧
    template.fillColumns = ((Script.lastAfter? "fill:" header).map Script.items).getD [] ∧
    template.params = ((Script.lastAfter? "params:" header).map Script.flagsOf).getD [] ∧
    (template.useTitle = true ↔
      ∃ rest, "params:".toList ++ rest ∈ header ∧ Script.useTitleParam ∈ Script.flagsOf rest) ∧
    (∀ other, Script.headerOf (Script.normalisedLines other) = header →
      (ofText other).header = template.header) ∧
    ∀ other, Script.bodyOf (Script.normalisedLines other) = Script.bodyOf lines →
      (ofText other).sections = template.sections := by
  intro lines header template
  have hheader (s : String) : (ofText s).header =
      (((Script.headerOf (Script.normalisedLines s)).map Script.directive).foldl
        Script.applyDirective .empty).header :=
    Script.header_committed_readLines _
  have hsections (s : String) : (ofText s).sections =
      Sections.empty.commitAll (Script.blocks (Script.bodyOf (Script.normalisedLines s))) := by
    rw [ofText, Script.sections_readLines]
    conv_lhs => rw [← Script.headerOf_append_bodyOf (Script.normalisedLines s)]
    rw [Script.blocks_stray_append fun line hline =>
      (Script.isHeaderLine_of_mem_headerOf hline).1]
  have hset := Script.applyDirective_directive
  -- a field other than the sections is that of the header
  have hfield {α : Type} (field : Template → α) (hkept : ∀ t, field t.header = field t) :
      field template =
        field ((header.map Script.directive).foldl Script.applyDirective .empty) := by
    rw [← hkept template, hheader s, hkept]
  refine ⟨?_, ?_, ?_, ?_, ?_, ?_, ?_⟩
  · rw [hfield source fun _ => rfl]
    exact Script.field_foldl_eq (fun t line => (hset t line).1) header .empty
  · rw [hfield output fun _ => rfl]
    exact Script.field_foldl_eq (fun t line => (hset t line).2.1) header .empty
  · rw [hfield fillColumns fun _ => rfl]
    exact Script.field_foldl_eq (fun t line => (hset t line).2.2.2.1) header .empty
  · rw [hfield params fun _ => rfl]
    exact Script.field_foldl_eq (fun t line => (hset t line).2.2.1) header .empty
  · rw [hfield useTitle fun _ => rfl, Script.useTitle_foldl_iff]
    simp [empty]
  · intro other hsame
    rw [hheader, hheader s, hsame]
  · intro other hsame
    rw [hsections, hsections s, hsame]

/-- A script that asks for titles in the first of its lists of flags only, and in which lines behind
the header look like directives. -/
def rosterText : String :=
  "params: Use-Title, strict\nfile: old.json\nfill: A\nfile: b.json #comment new\n" ++
    " params:Strict,\nfill: Notes,, Notes ,Status\nnote\n---\nfile: c.json\n#S\nfill: X\n" ++
    "params: none"

theorem Template.ofText_header_roster :
    (ofText rosterText).source = ⟨"b.json"⟩ ∧ (ofText rosterText).output = .empty ∧
      (ofText rosterText).fillColumns = ["Notes", "Notes", "Status"] ∧
      (ofText rosterText).params = ["strict"] ∧ (ofText rosterText).useTitle = true ∧
      (ofText "#S\nfill: X\nparams: none").header = (ofText "").header ∧
      (ofText ("fill: Q\n---\nfile: c.json\n#S\nfill: X\nparams: none")).sections =
        (ofText rosterText).sections := by
  have hheader : Script.headerOf (Script.normalisedLines rosterText) =
      ["params: Use-Title, strict".toList, "file: old.json".toList, "fill: A".toList,
        "file: b.json".toList, "params:Strict,".toList, "fill: Notes,, Notes ,Status".toList,
        "note".toList] := by
    decide +kernel
  obtain ⟨hsource, houtput, hfill, hparams, huse, -, hsections⟩ := ofText_header rosterText
  obtain ⟨-, -, -, -, -, hsame, -⟩ := ofText_header ""
  rw [hheader] at hsource houtput hfill hparams huse
  refine ⟨?_, ?_, ?_, ?_, ?_, ?_, ?_⟩
  · rw [hsource]
    decide +kernel
  · rw [houtput]
    decide +kernel
  · rw [hfill]
    decide +kernel
  · rw [hparams]
    decide +kernel
  · exact huse.2 ⟨" Use-Title, strict".toList, by decide +kernel, by decide +kernel⟩
  · exact hsame _ (by decide +kernel)
  · exact hsections _ (by decide +kernel)

end FillScript
