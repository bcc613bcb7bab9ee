import FillScript.Proofs.Text.Cutting
import FillScript.Text.LetterCase
import Mathlib.Data.List.Infix

/-!
# Texts that are kept

When cutting, trimming and lower case leave a text as it is. A text is cut nowhere if the marker
does not occur in it (`cutAt_eq_self`), it is trimmed if it has no blank at either end
(`trimmed_eq_self_iff`), and it is in lower case if all its characters are (`lower_eq_self_iff`).
The last is told by the characters one by one, although a capital sigma looks at its neighbours: it
is never left as it is. So all three hold of texts joined by a separator if they hold of the pieces
(`forall_intercalate`, `isInfix_append_cons`), and the separator tells the pieces apart again
(`splitAll_intercalate`). Where two texts are joined without one, the second is cut by itself if it
does not complete a marker that the first one ends in (`cutAt_append_of_not_isInfix`).
-/

namespace FillScript.Text

/-! ## Joined texts -/

theorem splitAll_eq_splitOn (sep : Char) (cs : List Char) : splitAll sep cs = cs.splitOn sep := by
  induction cs with
  | nil => rfl
  | cons c cs ih =>
    rw [splitAll, ih, List.splitOn, List.splitOn, List.splitOnP_cons_eq_if_modifyHead]
    cases hsplit : List.splitOnP (· == sep) cs with
    | nil => exact absurd hsplit (List.splitOnP_ne_nil _ cs)
    | cons piece pieces => simp only [beq_iff_eq, List.modifyHead_cons]

/-- Pieces that do not hold the separator are told apart by it. -/
theorem splitAll_intercalate {sep : Char} {pieces : List (List Char)} (hne : pieces ≠ [])
    (hsep : ∀ piece ∈ pieces, sep ∉ piece) : splitAll sep ([sep].intercalate pieces) = pieces := by
  rw [splitAll_eq_splitOn, List.splitOn_intercalate sep hsep hne]

/-- Texts that the separator joins have the pieces of both. -/
theorem splitAll_append_cons (sep : Char) (before after : List Char) :
    splitAll sep (before ++ sep :: after) = splitAll sep before ++ splitAll sep after := by
  simp only [splitAll_eq_splitOn, List.splitOn_append_cons_self]

/-- A text that does not hold the separator is its only piece. -/
theorem splitAll_of_notMem {sep : Char} {cs : List Char} (hsep : sep ∉ cs) :
    splitAll sep cs = [cs] := by
  have hone := splitAll_intercalate (List.cons_ne_nil cs []) (by simpa using hsep)
  rwa [List.intercalate_singleton] at hone

/-- What holds of the pieces, and is kept when two texts are joined, holds of the joined text. -/
theorem forall_intercalate {P : List Char → Prop} {sep : Char} {pieces : List (List Char)}
    (hnil : P []) (hjoin : ∀ before after, P before → P after → P (before ++ sep :: after))
    (hpieces : ∀ piece ∈ pieces, P piece) : P ([sep].intercalate pieces) := by
  induction pieces with
  | nil => exact hnil
  | cons piece pieces ih =>
    have hpiece := hpieces piece List.mem_cons_self
    have hrest := ih fun other hother => hpieces other (List.mem_cons_of_mem _ hother)
    cases pieces with
    | nil => simpa using hpiece
    | cons next pieces =>
      rw [List.intercalate_cons_cons, List.append_assoc]
      exact hjoin _ _ hpiece hrest

/-- Only the empty word begins a text that begins with another character than the word holds. -/
theorem eq_nil_of_prefix_cons {word after : List Char} {sep : Char} (hsep : sep ∉ word)
    (hat : word <+: sep :: after) : word = [] := by
  cases word with
  | nil => rfl
  | cons c word =>
    obtain ⟨rfl, -⟩ := List.cons_prefix_cons.1 hat
    exact absurd List.mem_cons_self hsep

/-- A marker that does not hold the separator occurs on one side of it. -/
theorem isInfix_append_cons {marker before after : List Char} {sep : Char} (hsep : sep ∉ marker)
    (hin : marker <:+: before ++ sep :: after) : marker <:+: before ∨ marker <:+: after := by
  rcases List.infix_append_iff.1 hin with hbefore | hafter | ⟨front, back, rfl, hfront, hback⟩
  · exact .inl hbefore
  · rcases List.infix_cons_iff.1 hafter with hat | hafter
    · exact .inr (eq_nil_of_prefix_cons hsep hat ▸ List.nil_infix)
    · exact .inr hafter
  · have hnothing : sep ∉ back := fun hmem => hsep (List.mem_append_right front hmem)
    obtain rfl := eq_nil_of_prefix_cons hnothing hback
    rw [List.append_nil]
    exact .inl hfront.isInfix

/-- A marker that stands in front in part is not completed by a text that begins with none of the
characters behind its first one. -/
theorem prefix_of_append {marker cs rest : List Char} (hcs : cs ≠ [])
    (hrest : ∀ c ∈ rest.head?, c ∉ marker.tail) (hat : marker <+: cs ++ rest) :
    marker <+: cs := by
  rcases List.prefix_or_prefix_of_prefix hat (List.prefix_append cs rest) with hin | ⟨back, rfl⟩
  · exact hin
  · obtain ⟨c, cs, rfl⟩ := List.exists_cons_of_ne_nil hcs
    obtain ⟨others, rfl⟩ := (List.prefix_append_right_inj _).1 hat
    cases back with
    | nil => simp
    | cons d back => exact absurd (by simp) (hrest d rfl)

/-- A word that does not hold the separator begins a text in front of it. -/
theorem prefix_of_append_cons {word before after : List Char} {sep : Char} (hsep : sep ∉ word)
    (hword : word <+: before ++ sep :: after) : word <+: before := by
  cases before with
  | nil => exact eq_nil_of_prefix_cons hsep hword ▸ List.nil_prefix
  | cons c before =>
    refine prefix_of_append (List.cons_ne_nil c before) (fun d hd => ?_) hword
    obtain rfl : sep = d := by simpa using hd
    exact fun hmem => hsep (List.mem_of_mem_tail hmem)

/-- A marker that begins with another character than those in front occurs after them. -/
theorem isInfix_of_append {c : Char} {marker front rest : List Char} (hfront : c ∉ front)
    (hin : c :: marker <:+: front ++ rest) : c :: marker <:+: rest := by
  rcases List.infix_append_iff.1 hin with hbefore | hafter | ⟨first, second, heq, hfirst, hsecond⟩
  · exact absurd (hbefore.subset List.mem_cons_self) hfront
  · exact hafter
  · cases first with
    | nil => exact heq ▸ hsecond.isInfix
    | cons d first =>
      obtain ⟨rfl, -⟩ := List.cons.inj heq
      exact absurd (hfirst.subset List.mem_cons_self) hfront

/-! ## Cutting and trimming -/

theorem cutAt_of_isPrefix {marker cs : List Char} (hat : marker <+: cs) : cutAt marker cs = [] := by
  cases cs with
  | nil => rfl
  | cons c cs => rw [cutAt, if_pos (List.isPrefixOf_iff_prefix.2 hat)]

theorem cutAt_cons_of_not_isPrefix {marker cs : List Char} {c : Char} (hnot : ¬marker <+: c :: cs) :
    cutAt marker (c :: cs) = c :: cutAt marker cs := by
  rw [cutAt, if_neg fun hat => hnot (List.isPrefixOf_iff_prefix.1 hat)]

theorem cutAt_eq_self {marker cs : List Char} (hnot : ¬marker <:+: cs) : cutAt marker cs = cs := by
  induction cs with
  | nil => rfl
  | cons c cs ih =>
    rw [List.infix_cons_iff, not_or] at hnot
    rw [cutAt_cons_of_not_isPrefix hnot.1, ih hnot.2]

/-- What comes behind a marker does not matter. -/
theorem cutAt_append_of_isInfix {marker cs : List Char} (hin : marker <:+: cs)
    (rest : List Char) : cutAt marker (cs ++ rest) = cutAt marker cs := by
  induction cs with
  | nil =>
    obtain rfl := List.infix_nil.1 hin
    exact cutAt_of_isPrefix List.nil_prefix
  | cons c cs ih =>
    have hlonger : marker <+: c :: (cs ++ rest) ↔ marker <+: c :: cs :=
      List.isPrefix_append_of_length hin.length_le
    by_cases hat : marker <+: c :: cs
    · rw [cutAt_of_isPrefix hat]
      exact cutAt_of_isPrefix (hlonger.2 hat)
    · have hlater := (List.infix_cons_iff.1 hin).resolve_left hat
      rw [cutAt_cons_of_not_isPrefix hat, ← ih hlater]
      exact cutAt_cons_of_not_isPrefix (mt hlonger.1 hat)

/-- Where no marker stands in front, and none is completed, the text behind is cut. -/
theorem cutAt_append_of_not_isInfix {marker cs rest : List Char} (hnot : ¬marker <:+: cs)
    (hrest : ∀ c ∈ rest.head?, c ∉ marker.tail) :
    cutAt marker (cs ++ rest) = cs ++ cutAt marker rest := by
  induction cs with
  | nil => rfl
  | cons c cs ih =>
    rw [List.infix_cons_iff, not_or] at hnot
    have hlonger : ¬marker <+: c :: (cs ++ rest) :=
      fun hat => hnot.1 (prefix_of_append (List.cons_ne_nil c cs) hrest hat)
    rw [List.cons_append, List.cons_append, cutAt_cons_of_not_isPrefix hlonger, ih hnot.2]

/-- A marker that begins with another character than those in front is cut behind them. -/
theorem cutAt_append_of_notMem {c : Char} {marker front : List Char} (hfront : c ∉ front)
    (rest : List Char) :
    cutAt (c :: marker) (front ++ rest) = front ++ cutAt (c :: marker) rest := by
  induction front with
  | nil => rfl
  | cons d front ih =>
    rw [List.mem_cons, not_or] at hfront
    have hnot : ¬c :: marker <+: d :: (front ++ rest) :=
      fun hat => hfront.1 (List.cons_prefix_cons.1 hat).1
    rw [List.cons_append, List.cons_append, cutAt_cons_of_not_isPrefix hnot, ih hfront.2]

theorem dropWhile_eq_self_iff {cs : List Char} :
    cs.dropWhile isBlank = cs ↔ ∀ c ∈ cs.head?, isBlank c = false := by
  rw [List.dropWhile_eq_self_iff]
  cases cs with
  | nil => simp
  | cons c cs => simp

theorem dropBlankEnd_eq_self_iff {cs : List Char} :
    dropBlankEnd cs = cs ↔ ∀ c ∈ cs.getLast?, isBlank c = false := by
  rw [dropBlankEnd, List.reverse_eq_iff, dropWhile_eq_self_iff, List.head?_reverse]

/-- A text is trimmed if neither end of it is blank. -/
theorem trimmed_eq_self_iff {cs : List Char} :
    trimmed cs = cs ↔
      (∀ c ∈ cs.head?, isBlank c = false) ∧ ∀ c ∈ cs.getLast?, isBlank c = false := by
  rw [← dropWhile_eq_self_iff, ← dropBlankEnd_eq_self_iff]
  constructor
  · intro htrim
    have hfront : cs.dropWhile isBlank = cs := by
      have := dropWhile_trimmed cs
      rwa [htrim] at this
    exact ⟨hfront, by rwa [trimmed, hfront] at htrim⟩
  · rintro ⟨hfront, hend⟩
    rw [trimmed, hfront, hend]

/-- A text without blanks is trimmed. -/
theorem trimmed_of_isBlank {cs : List Char} (hcs : ∀ c ∈ cs, isBlank c = false) :
    trimmed cs = cs :=
  trimmed_eq_self_iff.2 ⟨fun c hc => hcs c (List.mem_of_mem_head? hc),
    fun c hc => hcs c (List.mem_of_getLast? hc)⟩

theorem trim_eq_self_iff {s : String} : trim s = s ↔ trimmed s.toList = s.toList := by
  rw [trim, ← String.toList_inj, String.toList_ofList]

/-- Trimmed texts that are joined are trimmed. -/
theorem trimmed_append {before after : List Char} (hbefore : trimmed before = before)
    (hafter : trimmed after = after) : trimmed (before ++ after) = before ++ after := by
  obtain ⟨hhead, hend⟩ := trimmed_eq_self_iff.1 hbefore
  obtain ⟨hnext, hlast⟩ := trimmed_eq_self_iff.1 hafter
  refine trimmed_eq_self_iff.2 ⟨?_, ?_⟩
  · cases before with
    | nil => exact hnext
    | cons c before => exact hhead
  · rw [List.getLast?_append]
    cases hcs : after.getLast? with
    | none => simpa using hend
    | some c => simpa using hlast c hcs

/-! ## Lower case -/

/-- Whether a character is its own lower-case form wherever it stands. -/
def IsLowerChar (c : Char) : Prop :=
  c ≠ 'Σ' ∧ lowerChar c = [c]

theorem lowerChar_ne_nil (c : Char) : lowerChar c ≠ [] := by
  unfold lowerChar
  split
  · simp
  · split
    · simp
    · split <;> simp

/-- No text has fewer characters in lower case. -/
theorem length_le_lowerAfter (before cs : List Char) :
    cs.length ≤ (lowerAfter before cs).length := by
  induction cs generalizing before with
  | nil => exact Nat.le_refl _
  | cons c cs ih =>
    have hrest := ih (c :: before)
    have hlow := List.length_pos_iff.2 (lowerChar_ne_nil c)
    simp only [lowerAfter, List.length_append, List.length_cons]
    split
    · split <;> simp only [List.length_singleton] <;> omega
    · omega

theorem lowerAfter_eq_self_iff (before : List Char) {cs : List Char} :
    lowerAfter before cs = cs ↔ ∀ c ∈ cs, IsLowerChar c := by
  induction cs generalizing before with
  | nil => simp [lowerAfter]
  | cons c cs ih =>
    rw [List.forall_mem_cons, lowerAfter, ← ih (c :: before)]
    constructor
    · intro hlower
      -- the first character has one character in its place, or too many are left
      have hlength := congrArg List.length hlower
      have hrest := length_le_lowerAfter (c :: before) cs
      simp only [List.length_append, List.length_cons] at hlength
      by_cases hsigma : c = 'Σ'
      · subst hsigma
        rw [if_pos rfl] at hlower
        split at hlower
        · simp at hlower
        · simp at hlower
      · rw [if_neg hsigma] at hlower hlength
        have hlow := List.length_pos_iff.2 (lowerChar_ne_nil c)
        have hone : (lowerChar c).length = [c].length := by
          rw [List.length_singleton]
          omega
        obtain ⟨hc, hcs⟩ := List.append_inj (hlower.trans List.singleton_append.symm) hone
        exact ⟨⟨hsigma, hc⟩, hcs⟩
    · rintro ⟨⟨hsigma, hc⟩, hcs⟩
      rw [if_neg hsigma, hc, hcs]
      rfl

/-- A text is in lower case if all its characters are. -/
theorem lower_eq_self_iff {s : String} : lower s = s ↔ ∀ c ∈ s.toList, IsLowerChar c := by
  rw [← lowerAfter_eq_self_iff [], lower, ← String.toList_inj, String.toList_ofList]

end FillScript.Text
