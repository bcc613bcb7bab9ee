import FillScript.Proofs.Script.Grammar

/-!
# The commands of lines

What a line of a script may ask for, told from the forms of lines. Where columns are addressed by
title, a line is a remark, an assignment or a continuation (`Command.isTitle_ofLine`), and only a
blank line is an empty continuation (`Command.ofLine_ne_continuation`). Where cells are found, no
line assigns to a title (`Command.inMode_ofLine`). No line assigns to the empty title
(`Command.named_ofLine`).
-/

namespace FillScript

namespace Command

/-! ## Commands that address columns by title -/

/-- The commands of a script that addresses columns by title. -/
inductive IsTitle : Command → Prop where
  | comment : IsTitle .comment
  | titleAssign (title value : String) : IsTitle (.titleAssign title value)
  | continuation (text : String) : IsTitle (.continuation text)

theorem TitleForm.isTitle {line : List Char} {command : Command} (h : TitleForm line command) :
    command.IsTitle := by
  cases h with
  | comment _ => exact .comment
  | titleAssign _ _ _ => exact .titleAssign _ _
  | continuation _ _ => exact .continuation _

theorem isTitle_ofLine (line : String) : (ofLine true line).IsTitle :=
  (ofLine_true_eq_iff.1 rfl).isTitle

/-- A continuation adds the whole line. -/
theorem TitleForm.text_eq {line : List Char} {text : String}
    (h : TitleForm line (.continuation text)) : text = String.ofList line := by
  cases h
  rfl

/-- Only a blank line adds an empty one. -/
theorem ofLine_ne_continuation {line : String} (hline : Text.isBlankText line = false) :
    ofLine true line ≠ .continuation "" := by
  intro hempty
  have htext : "" = valueOf line.toList := (ofLine_true_eq_iff.1 hempty).text_eq
  exact valueOf_ne_empty hline htext.symm

/-! ## Both modes -/

/-- The commands of one of the two modes: where cells are found, no line assigns to a title. -/
def InMode (useTitle : Bool) (command : Command) : Prop :=
  if useTitle then command.IsTitle else ∀ title value, command ≠ .titleAssign title value

theorem InMode.useTitle {useTitle : Bool} {title value : String}
    (hcommand : (titleAssign title value).InMode useTitle) : useTitle = true := by
  cases useTitle with
  | true => rfl
  | false =>
    have hnone : ∀ t v, titleAssign title value ≠ .titleAssign t v := hcommand
    exact absurd rfl (hnone title value)

theorem not_rawForm_titleAssign (line : List Char) (title value : String) :
    ¬RawForm line (.titleAssign title value) :=
  nofun

theorem ofLine_false_ne_titleAssign (line title value : String) :
    ofLine false line ≠ .titleAssign title value := fun h =>
  not_rawForm_titleAssign _ title value (ofLine_false_eq_iff.1 h)

/-- Every line is read in the mode of its script. -/
theorem inMode_ofLine (useTitle : Bool) (line : String) :
    (ofLine useTitle line).InMode useTitle := by
  cases useTitle with
  | true => exact isTitle_ofLine line
  | false => exact ofLine_false_ne_titleAssign line

/-- A command that does not assign to the empty title. -/
def Named (command : Command) : Prop :=
  ∀ value, command ≠ .titleAssign "" value

/-- Whoever assigns to a title names it. -/
theorem named_ofLine (useTitle : Bool) (line : String) : (ofLine useTitle line).Named := by
  intro value heq
  cases useTitle with
  | false => exact ofLine_false_ne_titleAssign line "" value heq
  | true => exact title_ne_empty_of_ofLine heq rfl

end Command

end FillScript
