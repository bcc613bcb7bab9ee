/-!
# Cutting text

A separator splits a text into its pieces, its first occurrence into two; a marker cuts the rest of
a text off. `splitAll` loses nothing but the separators: see `intercalate_splitAll`.
-/

namespace FillScript.Text

/-- The pieces between the occurrences of `sep`: one more than there are occurrences. -/
def splitAll {α : Type} [DecidableEq α] (sep : α) : List α → List (List α)
  | [] => [[]]
  | c :: cs =>
    match splitAll sep cs with
    | [] => [[c]]
    | piece :: pieces => if c = sep then [] :: piece :: pieces else (c :: piece) :: pieces

/-- What stands before and after the first `sep`, if there is one. -/
def splitFirst (sep : Char) : List Char → Option (List Char × List Char)
  | [] => none
  | c :: cs =>
    if c = sep then some ([], cs)
    else (splitFirst sep cs).map fun (before, after) => (c :: before, after)

/-- The text up to the first place where `marker` begins. -/
def cutAt (marker : List Char) : List Char → List Char
  | [] => []
  | c :: cs => if marker.isPrefixOf (c :: cs) then [] else c :: cutAt marker cs

/-- The lines of a text: the pieces between its line feeds. -/
def lines (s : String) : List (List Char) :=
  splitAll '\n' s.toList

theorem splitAll_ne_nil {α : Type} [DecidableEq α] (sep : α) (cs : List α) :
    splitAll sep cs ≠ [] := by
  cases cs with
  | nil => simp [splitAll]
  | cons c cs =>
    simp only [splitAll]
    split
    · simp
    · split <;> simp

theorem intercalate_splitAll {α : Type} [DecidableEq α] (sep : α) (cs : List α) :
    [sep].intercalate (splitAll sep cs) = cs := by
  induction cs with
  | nil => rfl
  | cons c cs ih =>
    simp only [splitAll]
    split
    · next hnil => exact absurd hnil (splitAll_ne_nil sep cs)
    · next piece pieces hpieces =>
      rw [hpieces] at ih
      split
      · next hsep =>
        subst hsep
        rw [← ih]
        rfl
      · rw [← ih]
        cases pieces <;> rfl

theorem append_of_splitFirst {sep : Char} {cs before after : List Char}
    (hsplit : splitFirst sep cs = some (before, after)) :
    cs = before ++ sep :: after ∧ sep ∉ before := by
  induction cs generalizing before with
  | nil => simp [splitFirst] at hsplit
  | cons c cs ih =>
    simp only [splitFirst] at hsplit
    split at hsplit
    · next hsep => simp_all
    · next hsep =>
      simp only [Option.map_eq_some_iff, Prod.mk.injEq, Prod.exists] at hsplit
      obtain ⟨rest, after', hrest, rfl, rfl⟩ := hsplit
      obtain ⟨hcs, hnot⟩ := ih hrest
      refine ⟨by simp [hcs], ?_⟩
      simp only [List.mem_cons, not_or]
      exact ⟨fun h => hsep h.symm, hnot⟩

theorem splitFirst_append {sep : Char} {before : List Char} (hsep : sep ∉ before)
    (after : List Char) : splitFirst sep (before ++ sep :: after) = some (before, after) := by
  induction before with
  | nil => simp [splitFirst]
  | cons c before ih =>
    simp only [List.mem_cons, not_or] at hsep
    have hne : ¬c = sep := fun h => hsep.1 h.symm
    rw [List.cons_append, splitFirst, if_neg hne, ih hsep.2, Option.map_some]

theorem splitFirst_eq_none_iff {sep : Char} {cs : List Char} :
    splitFirst sep cs = none ↔ sep ∉ cs := by
  constructor
  · intro hnone hmem
    obtain ⟨before, after, rfl, hsep⟩ := List.eq_append_cons_of_mem hmem
    rw [splitFirst_append hsep] at hnone
    contradiction
  · intro hsep
    cases hsplit : splitFirst sep cs with
    | none => rfl
    | some parts =>
      obtain ⟨rfl, -⟩ := append_of_splitFirst hsplit
      exact absurd (List.mem_append_right _ List.mem_cons_self) hsep

end FillScript.Text
