import FillScript.Text.Blank
import FillScript.Text.Split
import Mathlib.Data.List.DropRight
import Mathlib.Data.List.TakeWhile

/-!
# What cutting and trimming leave

What stands before the first occurrence of a marker holds no occurrence of it (`not_isInfix_cutAt`).
A trimmed text has no blanks to trim (`trimmed_trimmed`). Both leave a piece of the text, so that
what the text does not hold is not in the piece either.
-/

namespace FillScript.Text

/-! ## Cutting at a marker -/

theorem cutAt_prefix (marker cs : List Char) : cutAt marker cs <+: cs := by
  induction cs with
  | nil => exact List.prefix_rfl
  | cons c cs ih =>
    rw [cutAt]
    split
    · exact List.nil_prefix
    · exact List.cons_prefix_cons.2 ⟨rfl, ih⟩

/-- A marker does not occur in what stands before its first occurrence. -/
theorem not_isInfix_cutAt {marker : List Char} (hmarker : marker ≠ []) (cs : List Char) :
    ¬marker <:+: cutAt marker cs := by
  induction cs with
  | nil =>
    intro hin
    exact hmarker (List.infix_nil.1 hin)
  | cons c cs ih =>
    rw [cutAt]
    split
    · intro hin
      exact hmarker (List.infix_nil.1 hin)
    · next hnot =>
      intro hin
      rcases List.infix_cons_iff.1 hin with hhere | hlater
      · -- the marker would begin where the text begins
        have hcut : c :: cutAt marker cs <+: c :: cs :=
          List.cons_prefix_cons.2 ⟨rfl, cutAt_prefix marker cs⟩
        exact hnot (List.isPrefixOf_iff_prefix.2 (hhere.trans hcut))
      · exact ih hlater

/-! ## Trimming -/

theorem dropBlankEnd_eq (cs : List Char) : dropBlankEnd cs = cs.rdropWhile isBlank := rfl

theorem trimmed_infix (cs : List Char) : trimmed cs <:+: cs :=
  (List.rdropWhile_prefix isBlank _).isInfix.trans (List.dropWhile_suffix isBlank).isInfix

theorem trimmed_blanks_append {blanks : List Char} (hblanks : ∀ c ∈ blanks, isBlank c = true)
    (cs : List Char) : trimmed (blanks ++ cs) = trimmed cs := by
  rw [trimmed, trimmed, List.dropWhile_append_of_pos hblanks]

theorem trimmed_append_blanks {blanks : List Char} (hblanks : ∀ c ∈ blanks, isBlank c = true)
    (cs : List Char) : trimmed (cs ++ blanks) = trimmed cs := by
  rw [trimmed, trimmed, List.dropWhile_append]
  split
  · next hempty =>
    rw [List.isEmpty_iff.1 hempty, List.dropWhile_eq_nil_iff.2 hblanks]
  · have hreverse : ∀ c ∈ blanks.reverse, isBlank c = true :=
      fun c hc => hblanks c (List.mem_reverse.1 hc)
    rw [dropBlankEnd, dropBlankEnd, List.reverse_append, List.dropWhile_append_of_pos hreverse]

/-- No blank stands in front of a trimmed text. -/
theorem dropWhile_trimmed (cs : List Char) : (trimmed cs).dropWhile isBlank = trimmed cs := by
  rw [List.dropWhile_eq_self_iff]
  intro hlength
  have hfront : trimmed cs <+: cs.dropWhile isBlank := List.rdropWhile_prefix isBlank _
  have hrest : 0 < (cs.dropWhile isBlank).length :=
    Nat.lt_of_lt_of_le hlength hfront.length_le
  rw [hfront.getElem hlength]
  exact List.dropWhile_get_zero_not isBlank cs hrest

/-- Nothing is left of a text that holds nothing but blanks, and of no other one. -/
theorem trimmed_eq_nil_iff {cs : List Char} : trimmed cs = [] ↔ cs.all isBlank = true := by
  rw [trimmed, dropBlankEnd_eq, List.rdropWhile_eq_nil_iff, List.all_eq_true]
  constructor
  · intro hrest
    cases hdrop : cs.dropWhile isBlank with
    | nil => exact List.dropWhile_eq_nil_iff.1 hdrop
    | cons c rest =>
      have hhead := List.head?_dropWhile_not isBlank cs
      rw [hdrop] at hrest hhead
      have hblank := hrest c List.mem_cons_self
      simp [hblank] at hhead
  · intro hall c hc
    exact hall c ((List.dropWhile_suffix isBlank).subset hc)

theorem trimmed_trimmed (cs : List Char) : trimmed (trimmed cs) = trimmed cs := by
  rw [trimmed, dropWhile_trimmed, trimmed, dropBlankEnd_eq, dropBlankEnd_eq,
    List.rdropWhile_idempotent]

end FillScript.Text
