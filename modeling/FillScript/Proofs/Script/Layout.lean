import FillScript.Proofs.Text.Joining
import FillScript.Script.Reader
import Mathlib.Logic.Relation

/-!
# The layout of a script

What a script says does not depend on its layout: blank lines, blanks around lines, the ends of
lines and comments. The edits are made on the text as a whole, before it is cut into lines
(`Script.LayoutEdit`). Each of them leaves the lines that say something
(`Script.LayoutEdit.saidLines_eq`), and so does a sequence of edits, some of them taken back
(`Script.saidLines_eq_of_layoutEdits`). These lines are all that is read of a text.
-/

namespace FillScript

namespace Script

/-! ## Edits -/

/-- Whether a line begins behind a text. -/
def LineBeginsAfter (before : List Char) : Prop :=
  before = [] ∨ ∃ front, before = front ++ ['\n']

/-- Whether a line ends in front of a text. -/
def LineEndsBefore (after : List Char) : Prop :=
  after = [] ∨ (∃ rest, after = '\n' :: rest) ∨ ∃ rest, after = '\r' :: '\n' :: rest

/-- White space that stays on one line. -/
def IsLineBlank (cs : List Char) : Prop :=
  ∀ c ∈ cs, Text.isBlank c = true ∧ c ≠ '\n'

instance : DecidablePred IsLineBlank :=
  fun cs => List.decidableBAll (fun c => Text.isBlank c = true ∧ c ≠ '\n') cs

/-- An edit of the layout, from the text in which something is missing to the one that has it. -/
inductive LayoutEdit : List Char → List Char → Prop where
  /-- A line that is blank. -/
  | blankLine (before blanks after : List Char) (hbefore : LineBeginsAfter before)
    (hblanks : IsLineBlank blanks) :
    LayoutEdit (before ++ after) (before ++ (blanks ++ '\n' :: after))
  /-- Blanks at the start of a line. -/
  | blankStart (before blanks after : List Char) (hbefore : LineBeginsAfter before)
    (hblanks : IsLineBlank blanks) :
    LayoutEdit (before ++ after) (before ++ (blanks ++ after))
  /-- Blanks at the end of a line. -/
  | blankEnd (before blanks after : List Char) (hblanks : IsLineBlank blanks)
    (hafter : LineEndsBefore after) :
    LayoutEdit (before ++ after) (before ++ (blanks ++ after))
  /-- A carriage return in front of a line feed. -/
  | carriageReturn (before after : List Char) :
    LayoutEdit (before ++ '\n' :: after) (before ++ '\r' :: '\n' :: after)
  /-- An end for the last line. -/
  | finalLineEnd (before : List Char) : LayoutEdit before (before ++ ['\n'])
  /-- A comment at the end of a line. -/
  | comment (before text after : List Char) (htext : '\n' ∉ text) (hafter : LineEndsBefore after) :
    LayoutEdit (before ++ after) (before ++ (inlineComment.toList ++ text ++ after))
  /-- A line that is a comment. -/
  | commentLine (before blanks text after : List Char) (hbefore : LineBeginsAfter before)
    (hblanks : IsLineBlank blanks) (htext : '\n' ∉ text) :
    LayoutEdit (before ++ after)
      (before ++ (blanks ++ (inlineComment.toList ++ text) ++ '\n' :: after))

/-! ## One line -/

theorem IsLineBlank.isBlank {blanks : List Char} (hblanks : IsLineBlank blanks) :
    ∀ c ∈ blanks, Text.isBlank c = true :=
  fun c hc => (hblanks c hc).1

theorem IsLineBlank.notMem {blanks : List Char} (hblanks : IsLineBlank blanks) : '\n' ∉ blanks :=
  fun hmem => (hblanks '\n' hmem).2 rfl

theorem inlineComment_toList : inlineComment.toList = '#' :: "comment".toList := rfl

theorem IsLineBlank.numberSign_notMem {blanks : List Char} (hblanks : IsLineBlank blanks) :
    '#' ∉ blanks :=
  fun hmem => absurd (hblanks.isBlank '#' hmem) (by decide)

theorem normalised_blanks_append {blanks : List Char} (hblanks : IsLineBlank blanks)
    (line : List Char) : normalised (blanks ++ line) = normalised line := by
  rw [normalised, normalised, inlineComment_toList,
    Text.cutAt_append_of_notMem hblanks.numberSign_notMem,
    Text.trimmed_blanks_append hblanks.isBlank]

theorem normalised_append_blanks (line : List Char) {blanks : List Char}
    (hblanks : IsLineBlank blanks) : normalised (line ++ blanks) = normalised line := by
  by_cases hin : inlineComment.toList <:+: line
  · rw [normalised, Text.cutAt_append_of_isInfix hin, normalised]
  · have hmarker : inlineComment.toList.tail.filter Text.isBlank = [] := by decide
    have hnone : ∀ c ∈ blanks.head?, c ∉ inlineComment.toList.tail := fun c hc hmem =>
      List.filter_eq_nil_iff.1 hmarker c hmem (hblanks.isBlank c (List.mem_of_mem_head? hc))
    have huncut : Text.cutAt inlineComment.toList blanks = blanks :=
      Text.cutAt_eq_self fun hcomment =>
        hblanks.numberSign_notMem (hcomment.subset List.mem_cons_self)
    rw [normalised, Text.cutAt_append_of_not_isInfix hin hnone, huncut,
      Text.trimmed_append_blanks hblanks.isBlank, normalised, Text.cutAt_eq_self hin]

/-- Nothing of a line is lost to a comment behind it. -/
theorem normalised_append_comment (line text : List Char) :
    normalised (line ++ (inlineComment.toList ++ text)) = normalised line := by
  by_cases hin : inlineComment.toList <:+: line
  · rw [normalised, Text.cutAt_append_of_isInfix hin, normalised]
  · -- the end of the line, such as a lone `#`, is not the start of an earlier comment
    have hnone : ∀ c ∈ (inlineComment.toList ++ text).head?, c ∉ inlineComment.toList.tail := by
      simp [inlineComment_toList]
    rw [normalised, Text.cutAt_append_of_not_isInfix hin hnone,
      Text.cutAt_of_isPrefix (List.prefix_append _ text), List.append_nil, normalised,
      Text.cutAt_eq_self hin]

theorem normalised_nil : normalised [] = [] := rfl

theorem normalised_of_isLineBlank {blanks : List Char} (hblanks : IsLineBlank blanks) :
    normalised blanks = [] := by
  rw [← List.nil_append blanks, normalised_append_blanks [] hblanks, normalised_nil]

/-! ## Lines in a text -/

/-- The lines of a text that say something. -/
def saidLines (cs : List Char) : List (List Char) :=
  ((Text.splitAll '\n' cs).map normalised).filter (!·.isEmpty)

theorem normalisedLines_eq (s : String) : normalisedLines s = saidLines s.toList := rfl

theorem saidLines_append_cons (before after : List Char) :
    saidLines (before ++ '\n' :: after) = saidLines before ++ saidLines after := by
  rw [saidLines, Text.splitAll_append_cons, List.map_append, List.filter_append]
  rfl

theorem saidLines_nil : saidLines [] = [] := rfl

/-- What a line says is all that matters of it. -/
theorem saidLines_line {line : List Char} (hline : '\n' ∉ line) :
    saidLines line = [normalised line].filter (!·.isEmpty) := by
  rw [saidLines, Text.splitAll_of_notMem hline, List.map_singleton]

theorem saidLines_append_of_lineStart {before : List Char} (hbefore : LineBeginsAfter before)
    (after : List Char) : saidLines (before ++ after) = saidLines before ++ saidLines after := by
  rcases hbefore with rfl | ⟨front, rfl⟩
  · rfl
  · rw [List.append_assoc, List.singleton_append, saidLines_append_cons, saidLines_append_cons,
      saidLines_nil, List.append_nil]

theorem exists_lastLine (cs : List Char) :
    ∃ before line, cs = before ++ line ∧ LineBeginsAfter before ∧ '\n' ∉ line := by
  induction cs using List.reverseRecOn with
  | nil => exact ⟨[], [], rfl, .inl rfl, List.not_mem_nil⟩
  | append_singleton cs c ih =>
    by_cases hc : c = '\n'
    · exact ⟨cs ++ [c], [], (List.append_nil _).symm, .inr ⟨cs, by rw [hc]⟩, List.not_mem_nil⟩
    · obtain ⟨before, line, rfl, hbefore, hline⟩ := ih
      refine ⟨before, line ++ [c], List.append_assoc .., hbefore, ?_⟩
      simp [hline, Ne.symm hc]

theorem LineEndsBefore.exists_ending {after : List Char} (hafter : LineEndsBefore after) :
    ∃ ending, IsLineBlank ending ∧ (after = ending ∨ ∃ rest, after = ending ++ '\n' :: rest) := by
  rcases hafter with rfl | ⟨rest, rfl⟩ | ⟨rest, rfl⟩
  · exact ⟨[], by decide, .inl rfl⟩
  · exact ⟨[], by decide, .inr ⟨rest, rfl⟩⟩
  · exact ⟨['\r'], by decide, .inr ⟨rest, rfl⟩⟩

/-! ## One edit -/

variable {before after : List Char}

/-- A line that says nothing may stand anywhere. -/
theorem saidLines_insert_line {line : List Char} (hbefore : LineBeginsAfter before)
    (hline : '\n' ∉ line) (hnothing : normalised line = []) :
    saidLines (before ++ (line ++ '\n' :: after)) = saidLines (before ++ after) := by
  rw [saidLines_append_of_lineStart hbefore, saidLines_append_cons, saidLines_line hline,
    hnothing, saidLines_append_of_lineStart hbefore]
  rfl

theorem saidLines_insert_start {blanks : List Char} (hbefore : LineBeginsAfter before)
    (hblanks : IsLineBlank blanks) :
    saidLines (before ++ (blanks ++ after)) = saidLines (before ++ after) := by
  have hline {line : List Char} (hline : '\n' ∉ line) :
      saidLines (blanks ++ line) = saidLines line := by
    have hlonger : '\n' ∉ blanks ++ line := List.not_mem_append hblanks.notMem hline
    rw [saidLines_line hlonger, normalised_blanks_append hblanks, saidLines_line hline]
  rw [saidLines_append_of_lineStart hbefore, saidLines_append_of_lineStart hbefore]
  by_cases hmem : '\n' ∈ after
  · obtain ⟨line, rest, rfl, hfirst⟩ := List.eq_append_cons_of_mem hmem
    rw [← List.append_assoc, saidLines_append_cons, hline hfirst, saidLines_append_cons]
  · rw [hline hmem]

/-- What is dropped at the end of every line may stand at the end of any. -/
theorem saidLines_insert_end {inserted : List Char} (hinserted : '\n' ∉ inserted)
    (hdropped : ∀ line, normalised (line ++ inserted) = normalised line)
    (hafter : LineEndsBefore after) :
    saidLines (before ++ (inserted ++ after)) = saidLines (before ++ after) := by
  obtain ⟨front, line, rfl, hfront, hline⟩ := exists_lastLine before
  obtain ⟨ending, hending, hafter⟩ := hafter.exists_ending
  have hwhole : saidLines (line ++ (inserted ++ ending)) = saidLines (line ++ ending) := by
    have hshort : '\n' ∉ line ++ ending := List.not_mem_append hline hending.notMem
    have hlong : '\n' ∉ line ++ (inserted ++ ending) :=
      List.not_mem_append hline (List.not_mem_append hinserted hending.notMem)
    rw [saidLines_line hlong, ← List.append_assoc, normalised_append_blanks _ hending, hdropped,
      saidLines_line hshort, normalised_append_blanks _ hending]
  rw [List.append_assoc, List.append_assoc, saidLines_append_of_lineStart hfront,
    saidLines_append_of_lineStart hfront]
  rcases hafter with rfl | ⟨rest, rfl⟩
  · rw [hwhole]
  · rw [← List.append_assoc inserted, ← List.append_assoc line, saidLines_append_cons, hwhole,
      ← List.append_assoc line, saidLines_append_cons]

/-- The lines that say something are the same after an edit. -/
theorem LayoutEdit.saidLines_eq {cs edited : List Char} (hedit : LayoutEdit cs edited) :
    saidLines edited = saidLines cs := by
  cases hedit with
  | blankLine before blanks after hbefore hblanks =>
    exact saidLines_insert_line hbefore hblanks.notMem (normalised_of_isLineBlank hblanks)
  | blankStart before blanks after hbefore hblanks =>
    exact saidLines_insert_start hbefore hblanks
  | blankEnd before blanks after hblanks hafter =>
    exact saidLines_insert_end hblanks.notMem (normalised_append_blanks · hblanks) hafter
  | carriageReturn before after =>
    have hblank : IsLineBlank ['\r'] := by decide
    exact saidLines_insert_end hblank.notMem (normalised_append_blanks · hblank)
      (.inr (.inl ⟨after, rfl⟩))
  | finalLineEnd =>
    rw [saidLines_append_cons, saidLines_nil, List.append_nil]
  | comment before text after htext hafter =>
    have hcomment : '\n' ∉ inlineComment.toList ++ text :=
      List.not_mem_append (by decide) htext
    exact saidLines_insert_end hcomment (normalised_append_comment · text) hafter
  | commentLine before blanks text after hbefore hblanks htext =>
    have hcomment : '\n' ∉ inlineComment.toList ++ text :=
      List.not_mem_append (by decide) htext
    refine saidLines_insert_line hbefore (List.not_mem_append hblanks.notMem hcomment) ?_
    rw [normalised_append_comment, normalised_of_isLineBlank hblanks]

/-! ## Any sequence of edits -/

/-- The lines that say something are the same after edits that are made or taken back. -/
theorem saidLines_eq_of_layoutEdits {cs edited : List Char}
    (hedits : Relation.EqvGen LayoutEdit cs edited) : saidLines cs = saidLines edited := by
  induction hedits with
  | rel cs edited hedit => exact hedit.saidLines_eq.symm
  | refl cs => rfl
  | symm cs edited _ ih => exact ih.symm
  | trans cs between edited _ _ hfirst hsecond => exact hfirst.trans hsecond

end Script

namespace Template

open Script

/-- The template that a text is does not depend on its layout. -/
theorem ofText_eq_of_layoutEdits {s t : String}
    (hedits : Relation.EqvGen LayoutEdit s.toList t.toList) : ofText s = ofText t := by
  rw [ofText, ofText, normalisedLines_eq, normalisedLines_eq, saidLines_eq_of_layoutEdits hedits]

theorem ofText_eq_of_layoutEdits_numberSign :
    Relation.EqvGen LayoutEdit "#S \nadd-r:x#".toList
        "\r\n\t#S\n #comment c\nadd-r:x##comment d\n".toList ∧
      ofText "#S \nadd-r:x#" = ofText "\r\n\t#S\n #comment c\nadd-r:x##comment d\n" := by
  have hend : LayoutEdit "#S\nadd-r:x#".toList "#S \nadd-r:x#".toList :=
    .blankEnd "#S".toList [' '] "\nadd-r:x#".toList (by decide) (.inr (.inl ⟨_, rfl⟩))
  have hline : LayoutEdit "#S\nadd-r:x#".toList "\n#S\nadd-r:x#".toList :=
    .blankLine [] [] "#S\nadd-r:x#".toList (.inl rfl) (by decide)
  have hreturn : LayoutEdit "\n#S\nadd-r:x#".toList "\r\n#S\nadd-r:x#".toList :=
    .carriageReturn [] "#S\nadd-r:x#".toList
  have hstart : LayoutEdit "\r\n#S\nadd-r:x#".toList "\r\n\t#S\nadd-r:x#".toList :=
    .blankStart "\r\n".toList ['\t'] "#S\nadd-r:x#".toList (.inr ⟨['\r'], rfl⟩) (by decide)
  have hcommentLine : LayoutEdit "\r\n\t#S\nadd-r:x#".toList
      "\r\n\t#S\n #comment c\nadd-r:x#".toList :=
    .commentLine "\r\n\t#S\n".toList [' '] " c".toList "add-r:x#".toList
      (.inr ⟨"\r\n\t#S".toList, rfl⟩) (by decide) (by decide)
  have hcomment : LayoutEdit "\r\n\t#S\n #comment c\nadd-r:x#".toList
      "\r\n\t#S\n #comment c\nadd-r:x##comment d".toList :=
    .comment "\r\n\t#S\n #comment c\nadd-r:x#".toList " d".toList [] (by decide) (.inl rfl)
  have hfinal : LayoutEdit "\r\n\t#S\n #comment c\nadd-r:x##comment d".toList
      "\r\n\t#S\n #comment c\nadd-r:x##comment d\n".toList :=
    .finalLineEnd _
  have hedits : Relation.EqvGen LayoutEdit "#S \nadd-r:x#".toList
      "\r\n\t#S\n #comment c\nadd-r:x##comment d\n".toList :=
    .trans _ _ _ (.symm _ _ (.rel _ _ hend)) <| .trans _ _ _ (.rel _ _ hline) <|
      .trans _ _ _ (.rel _ _ hreturn) <| .trans _ _ _ (.rel _ _ hstart) <|
      .trans _ _ _ (.rel _ _ hcommentLine) <| .trans _ _ _ (.rel _ _ hcomment) <|
      .rel _ _ hfinal
  exact ⟨hedits, ofText_eq_of_layoutEdits hedits⟩

end Template

end FillScript
