import FillScript.Proofs.Text.Joining
import FillScript.Script.Command

/-!
# The lines of commands

Which lines ask for which command, told by the text of a line without the blanks around it
(`Command.TitleForm`, `Command.RawForm`). Every line has the form of its command, and of no other
one (`Command.ofLine_eq_iff`). Where cells are found this is so because what stands before the first
colon tells the words apart, and because no line begins with two of `//`, `cell` and `add-`.
-/

namespace FillScript

open Text

/-! ## Words -/

namespace FindMode

theorem mem_all (mode : FindMode) : mode ∈ all := by
  cases mode <;> decide

theorem keyword_injective : Function.Injective keyword := by
  rintro (_ | _) (_ | _) <;> decide

theorem colon_notMem_keyword (mode : FindMode) : ':' ∉ mode.keyword.toList := by
  cases mode <;> decide

theorem cell_prefix_keyword (mode : FindMode) : "cell".toList <+: mode.keyword.toList := by
  cases mode <;> decide

theorem trim_keyword (mode : FindMode) : trim mode.keyword = mode.keyword := by
  cases mode <;> decide

end FindMode

namespace Direction

theorem mem_all (direction : Direction) : direction ∈ all := by
  cases direction <;> decide

theorem token_injective : Function.Injective token := by
  rintro (_ | _ | _ | _) (_ | _ | _ | _) <;> decide

theorem colon_notMem_token (direction : Direction) : ':' ∉ direction.token.toList := by
  cases direction <;> decide

theorem add_prefix_token (direction : Direction) : "add-".toList <+: direction.token.toList := by
  cases direction <;> decide

theorem trim_token (direction : Direction) : trim direction.token = direction.token := by
  cases direction <;> decide

end Direction

namespace Command

/-! ## Forms -/

/-- The lines of commands where columns are addressed by title. -/
inductive TitleForm : List Char → Command → Prop where
  | comment {line : List Char} (hremark : "//".toList <+: line) : TitleForm line .comment
  /-- The first colon separates the title from the value. -/
  | titleAssign {title value : List Char} (hremark : ¬"//".toList <+: title ++ ':' :: value)
    (htitle : title ≠ []) (hfirst : ':' ∉ title) :
    TitleForm (title ++ ':' :: value) (.titleAssign (valueOf title) (valueOf value))
  | continuation {line : List Char} (hremark : ¬"//".toList <+: line)
    (hcolon : ':' ∉ line ∨ line.head? = some ':') :
    TitleForm line (.continuation (String.ofList line))

/-- Whether a line has the form of a find. -/
def IsFind (line : List Char) : Prop :=
  ∃ (mode : FindMode) (rest : List Char), line = mode.keyword.toList ++ ':' :: rest

/-- Whether a line has the form of a move, with a value. -/
def IsMove (line : List Char) : Prop :=
  ∃ (direction : Direction) (rest : List Char),
    line = direction.token.toList ++ ':' :: rest ∧ rest.all isBlank = false

/-- The lines of commands where cells are found. -/
inductive RawForm : List Char → Command → Prop where
  | comment {line : List Char} (hremark : "//".toList <+: line) : RawForm line .comment
  | rawFind (mode : FindMode) (rest : List Char) :
    RawForm (mode.keyword.toList ++ ':' :: rest) (.rawFind mode (valueOf rest))
  | move (direction : Direction) {rest : List Char} (hrest : rest.all isBlank = false) :
    RawForm (direction.token.toList ++ ':' :: rest) (.move direction (valueOf rest))
  | badMove {line : List Char} (hadd : "add-".toList <+: line) (hmove : ¬IsMove line) :
    RawForm line (.badMove (String.ofList line))
  | unrecognized {line : List Char} (hcell : "cell".toList <+: line) (hfind : ¬IsFind line) :
    RawForm line (.unrecognized (String.ofList line))
  | continuation {line : List Char} (hremark : ¬"//".toList <+: line)
    (hadd : ¬"add-".toList <+: line) (hcell : ¬"cell".toList <+: line) :
    RawForm line (.continuation (String.ofList line))

/-! ## Lines that address columns by title -/

/-- A title is what stands before the first colon of a line, if anything does. -/
theorem assign?_append {title : List Char} (value : List Char) (hfirst : ':' ∉ title) :
    assign? (title ++ ':' :: value) =
      if title.all isBlank then none else some (titleAssign (valueOf title) (valueOf value)) := by
  rw [assign?, splitFirst_append hfirst, Option.bind_some]

theorem valueOf_ne_empty {cs : List Char} (hcs : cs.all isBlank = false) : valueOf cs ≠ "" := by
  intro hempty
  have hchars := congrArg String.toList hempty
  rw [valueOf, String.toList_ofList] at hchars
  exact Bool.eq_false_iff.1 hcs (trimmed_eq_nil_iff.1 hchars)

/-- A trimmed line has no blank title. -/
theorem all_isBlank_eq_false {title rest : List Char}
    (htrim : trimmed (title ++ rest) = title ++ rest) (htitle : title ≠ []) :
    title.all isBlank = false := by
  cases title with
  | nil => exact absurd rfl htitle
  | cons c title =>
    obtain ⟨hhead, -⟩ := trimmed_eq_self_iff.1 htrim
    rw [List.all_cons, hhead c rfl, Bool.false_and]

theorem ofTitleLine_eq (line : List Char) :
    ofTitleLine line =
      if "//".toList <+: line then comment
      else (assign? line).getD (continuation (String.ofList line)) := by
  simp only [ofTitleLine, List.isPrefixOf_iff_prefix]

theorem titleForm_ofTitleLine {line : List Char} (htrim : trimmed line = line) :
    TitleForm line (ofTitleLine line) := by
  rw [ofTitleLine_eq]
  by_cases hremark : "//".toList <+: line
  · rw [if_pos hremark]
    exact .comment hremark
  rw [if_neg hremark]
  by_cases hcolon : ':' ∈ line
  · obtain ⟨title, value, rfl, hfirst⟩ := List.eq_append_cons_of_mem hcolon
    rw [assign?_append value hfirst]
    by_cases htitle : title = []
    · subst htitle
      exact .continuation hremark (.inr rfl)
    · rw [if_neg (Bool.eq_false_iff.1 (all_isBlank_eq_false htrim htitle)), Option.getD_some]
      exact .titleAssign hremark htitle hfirst
  · rw [assign?, splitFirst_eq_none_iff.2 hcolon]
    exact .continuation hremark (.inl hcolon)

theorem TitleForm.ofTitleLine_eq {line : List Char} {command : Command}
    (htrim : trimmed line = line) (h : TitleForm line command) : ofTitleLine line = command := by
  rw [Command.ofTitleLine_eq]
  cases h with
  | comment hremark => rw [if_pos hremark]
  | titleAssign hremark htitle hfirst =>
    rw [if_neg hremark, assign?_append _ hfirst,
      if_neg (Bool.eq_false_iff.1 (all_isBlank_eq_false htrim htitle)), Option.getD_some]
  | continuation hremark hcolon =>
    rw [if_neg hremark]
    rcases hcolon with hnone | hhead
    · rw [assign?, splitFirst_eq_none_iff.2 hnone, Option.bind_none, Option.getD_none]
    · obtain ⟨value, rfl⟩ := List.head?_eq_some_iff.1 hhead
      rw [← List.nil_append (':' :: value), assign?_append value List.not_mem_nil]
      rfl

theorem TitleForm.title_ne_empty {line : List Char} {title value : String}
    (htrim : trimmed line = line) (h : TitleForm line (.titleAssign title value)) :
    title ≠ "" := by
  cases h with
  | titleAssign _ htitle _ => exact valueOf_ne_empty (all_isBlank_eq_false htrim htitle)

/-! ## Lines that find cells -/

theorem after?_eq_some_iff {word : String} {line rest : List Char} :
    after? word line = some rest ↔ line = word.toList ++ ':' :: rest := by
  rw [after?, List.isPrefixOf?_eq_some_iff_append_eq, List.append_assoc, List.singleton_append,
    eq_comm]

section

variable {α : Type} {word : α → String} {all : List α} {line : List Char} {command : Command}

/-- A line begins with one word at most, as the first colon ends it. -/
theorem findSome?_after?_eq_some_iff (hcolon : ∀ a, ':' ∉ (word a).toList)
    (hword : Function.Injective word) (hall : ∀ a, a ∈ all)
    (read : α → List Char → Option Command) :
    (all.findSome? fun a => (after? (word a) line).bind (read a)) = some command ↔
      ∃ a rest, line = (word a).toList ++ ':' :: rest ∧ read a rest = some command := by
  constructor
  · intro hfound
    obtain ⟨a, -, hread⟩ := List.exists_of_findSome?_eq_some hfound
    obtain ⟨rest, hafter, hcommand⟩ := Option.bind_eq_some_iff.1 hread
    exact ⟨a, rest, after?_eq_some_iff.1 hafter, hcommand⟩
  · rintro ⟨a, rest, hline, hcommand⟩
    obtain ⟨before, later, hparts, hfirst⟩ := List.eq_append_cons_of_mem (hall a)
    refine List.findSome?_eq_some_iff.2 ⟨before, a, later, hparts, ?_, fun other hother => ?_⟩
    · rw [after?_eq_some_iff.2 hline, Option.bind_some, hcommand]
    · cases hafter : after? (word other) line with
      | none => rfl
      | some rest' =>
        have hsplit := splitFirst_append (hcolon other) rest'
        rw [← after?_eq_some_iff.1 hafter, hline, splitFirst_append (hcolon a)] at hsplit
        have hsame : word a = word other := by
          simp only [Option.some.injEq, Prod.mk.injEq, String.toList_inj] at hsplit
          exact hsplit.1
        exact absurd (hword hsame ▸ hother) hfirst

end

section

variable {line : List Char} {command : Command}

theorem find?_eq_some_iff :
    find? line = some command ↔
      ∃ (mode : FindMode) (rest : List Char),
        line = mode.keyword.toList ++ ':' :: rest ∧ rawFind mode (valueOf rest) = command := by
  simp only [find?, Option.map_eq_bind]
  rw [findSome?_after?_eq_some_iff FindMode.colon_notMem_keyword FindMode.keyword_injective
    FindMode.mem_all]
  simp only [Function.comp_apply, Option.some.injEq]

theorem move?_eq_some_iff :
    move? line = some command ↔
      ∃ (direction : Direction) (rest : List Char), line = direction.token.toList ++ ':' :: rest ∧
        rest.all isBlank = false ∧ move direction (valueOf rest) = command := by
  rw [move?, findSome?_after?_eq_some_iff Direction.colon_notMem_token Direction.token_injective
    Direction.mem_all]
  simp only [Option.ite_none_left_eq_some, Option.some.injEq, Bool.not_eq_true]

theorem find?_eq_none_iff : find? line = none ↔ ¬IsFind line := by
  simp only [Option.eq_none_iff_forall_ne_some, ne_eq, find?_eq_some_iff, IsFind]
  constructor
  · rintro hnone ⟨mode, rest, hline⟩
    exact hnone _ ⟨mode, rest, hline, rfl⟩
  · rintro hnone command ⟨mode, rest, hline, -⟩
    exact hnone ⟨mode, rest, hline⟩

theorem move?_eq_none_iff : move? line = none ↔ ¬IsMove line := by
  simp only [Option.eq_none_iff_forall_ne_some, ne_eq, move?_eq_some_iff, IsMove]
  constructor
  · rintro hnone ⟨direction, rest, hline, hrest⟩
    exact hnone _ ⟨direction, rest, hline, hrest, rfl⟩
  · rintro hnone command ⟨direction, rest, hline, hrest, -⟩
    exact hnone ⟨direction, rest, hline, hrest⟩

theorem IsFind.cell (h : IsFind line) : "cell".toList <+: line := by
  obtain ⟨mode, rest, rfl⟩ := h
  exact mode.cell_prefix_keyword.trans (List.prefix_append _ _)

theorem IsMove.add (h : IsMove line) : "add-".toList <+: line := by
  obtain ⟨direction, rest, rfl, -⟩ := h
  exact direction.add_prefix_token.trans (List.prefix_append _ _)

/-- A line does not begin with two words of which neither begins with the other. -/
theorem prefix_excludes {word : List Char} (hword : word <+: line) (other : List Char)
    (hapart : ¬word <+: other ∧ ¬other <+: word) : ¬other <+: line := fun hother =>
  (List.prefix_or_prefix_of_prefix hword hother).elim hapart.1 hapart.2

end

theorem ofRawLine_eq (line : List Char) :
    ofRawLine line =
      if "//".toList <+: line then comment
      else ((find? line).or (move? line)).getD
        (if "add-".toList <+: line then badMove (String.ofList line)
        else if "cell".toList <+: line then unrecognized (String.ofList line)
        else continuation (String.ofList line)) := by
  simp only [ofRawLine, List.isPrefixOf_iff_prefix]
  cases (find? line).or (move? line) with
  | none => rfl
  | some command => rfl

theorem rawForm_ofRawLine (line : List Char) : RawForm line (ofRawLine line) := by
  rw [ofRawLine_eq]
  by_cases hremark : "//".toList <+: line
  · rw [if_pos hremark]
    exact .comment hremark
  rw [if_neg hremark]
  cases hfind : find? line with
  | some command =>
    obtain ⟨mode, rest, rfl, rfl⟩ := find?_eq_some_iff.1 hfind
    exact .rawFind mode rest
  | none =>
    rw [Option.none_or]
    cases hmove : move? line with
    | some command =>
      obtain ⟨direction, rest, rfl, hrest, rfl⟩ := move?_eq_some_iff.1 hmove
      exact .move direction hrest
    | none =>
      rw [Option.getD_none]
      by_cases hadd : "add-".toList <+: line
      · rw [if_pos hadd]
        exact .badMove hadd (move?_eq_none_iff.1 hmove)
      rw [if_neg hadd]
      by_cases hcell : "cell".toList <+: line
      · rw [if_pos hcell]
        exact .unrecognized hcell (find?_eq_none_iff.1 hfind)
      · rw [if_neg hcell]
        exact .continuation hremark hadd hcell

theorem RawForm.ofRawLine_eq {line : List Char} {command : Command} (h : RawForm line command) :
    ofRawLine line = command := by
  rw [Command.ofRawLine_eq]
  -- what the line begins with rules out the other words
  cases h with
  | comment hremark => rw [if_pos hremark]
  | rawFind mode rest =>
    have hcell := IsFind.cell ⟨mode, rest, rfl⟩
    rw [if_neg (prefix_excludes hcell "//".toList (by decide)),
      find?_eq_some_iff.2 ⟨mode, rest, rfl, rfl⟩, Option.some_or, Option.getD_some]
  | @move direction rest hrest =>
    have hadd := IsMove.add ⟨direction, rest, rfl, hrest⟩
    have hcell := prefix_excludes hadd "cell".toList (by decide)
    rw [if_neg (prefix_excludes hadd "//".toList (by decide)),
      find?_eq_none_iff.2 fun h => hcell h.cell,
      move?_eq_some_iff.2 ⟨direction, rest, rfl, hrest, rfl⟩, Option.none_or, Option.getD_some]
  | badMove hadd hmove =>
    have hcell := prefix_excludes hadd "cell".toList (by decide)
    rw [if_neg (prefix_excludes hadd "//".toList (by decide)),
      find?_eq_none_iff.2 fun h => hcell h.cell, move?_eq_none_iff.2 hmove, Option.none_or,
      Option.getD_none, if_pos hadd]
  | unrecognized hcell hfind =>
    have hadd := prefix_excludes hcell "add-".toList (by decide)
    rw [if_neg (prefix_excludes hcell "//".toList (by decide)), find?_eq_none_iff.2 hfind,
      move?_eq_none_iff.2 fun h => hadd h.add, Option.none_or, Option.getD_none, if_neg hadd,
      if_pos hcell]
  | continuation hremark hadd hcell =>
    rw [if_neg hremark, find?_eq_none_iff.2 fun h => hcell h.cell,
      move?_eq_none_iff.2 fun h => hadd h.add, Option.none_or, Option.getD_none, if_neg hadd,
      if_neg hcell]

/-! ## Lines and commands -/

theorem ofLine_true_eq_iff {line : String} {command : Command} :
    ofLine true line = command ↔ TitleForm (trimmed line.toList) command := by
  have htrim := trimmed_trimmed line.toList
  exact ⟨fun h => h ▸ titleForm_ofTitleLine htrim, TitleForm.ofTitleLine_eq htrim⟩

/-- No line assigns to the empty title. -/
theorem title_ne_empty_of_ofLine {line title value : String}
    (hline : ofLine true line = .titleAssign title value) : title ≠ "" :=
  (ofLine_true_eq_iff.1 hline).title_ne_empty (trimmed_trimmed _)

theorem ofLine_false_eq_iff {line : String} {command : Command} :
    ofLine false line = command ↔ RawForm (trimmed line.toList) command :=
  ⟨fun h => h ▸ rawForm_ofRawLine _, RawForm.ofRawLine_eq⟩

/-! ## Commands that are written down -/

/-- A word, a colon and a value are a line without blanks around it. -/
theorem trimmed_word_colon {word value : String} (hword : trim word = word)
    (hvalue : trim value = value) :
    trimmed (word ++ ":" ++ value).toList = word.toList ++ ':' :: value.toList := by
  have hcolon : trimmed [':'] = [':'] := by decide
  rw [trim_eq_self_iff] at hword hvalue
  rw [String.toList_append, String.toList_append, List.append_assoc]
  exact trimmed_append hword (trimmed_append hcolon hvalue)

theorem ofLine_rawFind (mode : FindMode) {value : String} (hvalue : trim value = value) :
    ofLine false (mode.keyword ++ ":" ++ value) = .rawFind mode value := by
  rw [ofLine_false_eq_iff, trimmed_word_colon mode.trim_keyword hvalue]
  have hform := RawForm.rawFind mode value.toList
  rwa [show valueOf value.toList = value from hvalue] at hform

theorem ofLine_move (direction : Direction) {value : String} (hvalue : trim value = value)
    (hne : value ≠ "") :
    ofLine false (direction.token ++ ":" ++ value) = .move direction value := by
  have hrest : value.toList.all isBlank = false := by
    refine Bool.eq_false_iff.2 fun hblank => hne ?_
    rw [← hvalue, trim, trimmed_eq_nil_iff.2 hblank, String.ofList_nil]
  rw [ofLine_false_eq_iff, trimmed_word_colon direction.trim_token hvalue]
  have hform := RawForm.move direction hrest
  rwa [show valueOf value.toList = value from hvalue] at hform

theorem ofLine_titleAssign {title value : String} (htitle : trim title = title)
    (hvalue : trim value = value) (hne : title ≠ "") (hcolon : ':' ∉ title.toList)
    (hremark : ¬"//".toList <+: title.toList) :
    ofLine true (title ++ ":" ++ value) = .titleAssign title value := by
  have hstart : ¬"//".toList <+: title.toList ++ ':' :: value.toList :=
    fun h => hremark (prefix_of_append_cons (by decide) h)
  rw [ofLine_true_eq_iff, trimmed_word_colon htitle hvalue]
  have hform := TitleForm.titleAssign hstart (String.toList_eq_nil_iff.not.2 hne) hcolon
  rwa [show valueOf title.toList = title from htitle,
    show valueOf value.toList = value from hvalue] at hform

/-- A line asks for a command if it has its form, and for no other one; no line assigns to the empty
title. A find, a move or an assignment that is written down is read again. -/
theorem ofLine_eq_iff :
    (∀ line command, ofLine true line = command ↔ TitleForm (trimmed line.toList) command) ∧
    (∀ line command, ofLine false line = command ↔ RawForm (trimmed line.toList) command) ∧
    (∀ line title value, ofLine true line = .titleAssign title value → title ≠ "") ∧
    (∀ mode value, trim value = value →
      ofLine false (mode.keyword ++ ":" ++ value) = .rawFind mode value) ∧
    (∀ direction value, trim value = value → value ≠ "" →
      ofLine false (direction.token ++ ":" ++ value) = .move direction value) ∧
    ∀ title value, trim title = title → trim value = value → title ≠ "" → ':' ∉ title.toList →
      ¬"//".toList <+: title.toList →
        ofLine true (title ++ ":" ++ value) = .titleAssign title value :=
  ⟨fun _ _ => ofLine_true_eq_iff, fun _ _ => ofLine_false_eq_iff,
    fun _ _ _ => title_ne_empty_of_ofLine, fun mode _ => ofLine_rawFind mode,
    fun direction _ => ofLine_move direction, fun _ _ => ofLine_titleAssign⟩

theorem ofLine_eq_iff_link :
    TitleForm "http://pier".toList (.titleAssign "http" "//pier") ∧
      ofLine true "Link:http://pier" = .titleAssign "Link" "http://pier" ∧
      RawForm "add-r:".toList (.badMove "add-r:") ∧
      ofLine false "add-r:Gull: noon" = .move .right "Gull: noon" ∧
      ofLine false "cell equals:" = .rawFind .equals "" ∧
      ofLine false "cell starts:Gull" = .rawFind .startsWith "Gull" := by
  obtain ⟨htitle, hraw, -, hfinds, hmoves, hassigns⟩ := ofLine_eq_iff
  refine ⟨?_, ?_, ?_, ?_, ?_, ?_⟩
  · exact (htitle "http://pier" _).1 (by decide)
  · exact hassigns "Link" "http://pier" (by decide) (by decide) (by decide) (by decide) (by decide)
  · exact (hraw "add-r:" _).1 (by decide)
  · exact hmoves .right "Gull: noon" (by decide) (by decide)
  · exact hfinds .equals "" (by decide)
  · exact hfinds .startsWith "Gull" (by decide)

end Command
end FillScript
