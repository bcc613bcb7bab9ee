import FillScript.Proofs.Sheet.Label
import Mathlib.Data.List.Shortlex

/-!
# The order of column labels

Labels come in the order of their columns, shorter ones first and those of one length as in a
dictionary. This order of words in capitals is the order of the numbers that they spell
(`Label.shortlex_iff_spelled_lt`). As no letter counts nothing, a longer word spells a higher number
than any shorter one (`Label.spelled_lt_of_length_lt`). So the columns are labelled with the words
in capitals up to the one that spells the number of the last column, each of them once
(`Label.ofIndex_enumerates`).
-/

namespace FillScript.Label

/-! ## Words in capitals -/

theorem toUpper_of_isUpper {c : Char} (hc : c.isUpper = true) : c.toUpper = c := by
  obtain ⟨k, rfl | rfl⟩ := exists_letter (isAlpha_of_isUpper hc)
  · exact toUpper_capital k
  · revert k
    decide

/-- A capital counts its place in the alphabet, from one to 26. -/
theorem letterCount_of_isUpper {c : Char} (hc : c.isUpper = true) :
    letterCount c + 64 = c.toNat ∧ 1 ≤ letterCount c ∧ letterCount c ≤ 26 := by
  obtain ⟨hlow, hhigh⟩ := isUpper_iff.1 hc
  rw [letterCount, toUpper_of_isUpper hc]
  omega

theorem spelled_cons (c : Char) (cs : List Char) :
    spelled (c :: cs) = 26 ^ cs.length * letterCount c + spelled cs :=
  Text.spelled_cons 26 letterCount cs c

variable {cs ds : List Char} (hcs : ∀ c ∈ cs, c.isUpper = true)
  (hds : ∀ d ∈ ds, d.isUpper = true)
include hcs hds

/-- The numbers that words of one length spell lie within a power of 26. -/
theorem spelled_lt_add (hlength : cs.length = ds.length) :
    spelled cs < 26 ^ cs.length + spelled ds := by
  induction cs generalizing ds with
  | nil => exact Nat.lt_of_lt_of_le Nat.zero_lt_one (Nat.le_add_right _ _)
  | cons c cs ih =>
    cases ds with
    | nil => simp at hlength
    | cons d ds =>
      obtain ⟨hc, hcs⟩ := List.forall_mem_cons.1 hcs
      obtain ⟨hd, hds⟩ := List.forall_mem_cons.1 hds
      rw [List.length_cons, List.length_cons, Nat.succ_inj] at hlength
      have hrest := ih hcs hds hlength
      have hhigh : 26 ^ cs.length * letterCount c ≤ 26 ^ cs.length * 26 :=
        Nat.mul_le_mul_left _ (letterCount_of_isUpper hc).2.2
      have hlow : 26 ^ cs.length * 1 ≤ 26 ^ cs.length * letterCount d :=
        Nat.mul_le_mul_left _ (letterCount_of_isUpper hd).2.1
      rw [spelled_cons, spelled_cons, List.length_cons, Nat.pow_succ, ← hlength]
      omega

/-- A longer word spells a higher number. -/
theorem spelled_lt_of_length_lt (hlength : cs.length < ds.length) : spelled cs < spelled ds := by
  induction ds with
  | nil => simp at hlength
  | cons d ds ih =>
    obtain ⟨hd, hds⟩ := List.forall_mem_cons.1 hds
    have hfirst : 26 ^ ds.length * 1 ≤ 26 ^ ds.length * letterCount d :=
      Nat.mul_le_mul_left _ (letterCount_of_isUpper hd).2.1
    rw [spelled_cons]
    rcases Nat.lt_or_eq_of_le (Nat.le_of_lt_succ hlength) with hshorter | hsame
    · have hrest := ih hds hshorter
      omega
    · have hrest := spelled_lt_add hcs hds hsame
      rw [hsame] at hrest
      omega

/-- Of two words of one length, the one that comes first in a dictionary spells the lower number. -/
theorem spelled_lt_of_lex (hlength : cs.length = ds.length) (hlex : List.Lex (· < ·) cs ds) :
    spelled cs < spelled ds := by
  induction hlex with
  | nil => simp at hlength
  | @cons c cs ds _ ih =>
    have hrest := ih (List.forall_mem_cons.1 hcs).2 (List.forall_mem_cons.1 hds).2
      (Nat.succ_inj.1 hlength)
    rw [spelled_cons, spelled_cons, Nat.succ_inj.1 hlength]
    omega
  | @rel c cs d ds hlt =>
    obtain ⟨hc, hcs⟩ := List.forall_mem_cons.1 hcs
    obtain ⟨hd, hds⟩ := List.forall_mem_cons.1 hds
    rw [List.length_cons, List.length_cons, Nat.succ_inj] at hlength
    have hrest := spelled_lt_add hcs hds hlength
    -- the first letters differ by one at least
    have hfirst : letterCount c + 1 ≤ letterCount d := by
      have hcount := (letterCount_of_isUpper hc).1
      have hcount' := (letterCount_of_isUpper hd).1
      have hchar : c.toNat < d.toNat := hlt
      omega
    have hpower := Nat.mul_le_mul_left (26 ^ cs.length) hfirst
    rw [Nat.mul_add, Nat.mul_one] at hpower
    rw [spelled_cons, spelled_cons, ← hlength]
    omega

/-- Words come in the order of the numbers that they spell. -/
theorem shortlex_iff_spelled_lt : List.Shortlex (· < ·) cs ds ↔ spelled cs < spelled ds := by
  have hforward {cs ds : List Char} (hcs : ∀ c ∈ cs, c.isUpper = true)
      (hds : ∀ d ∈ ds, d.isUpper = true) (hshortlex : List.Shortlex (· < ·) cs ds) :
      spelled cs < spelled ds := by
    rcases List.shortlex_def.1 hshortlex with hshorter | ⟨hlength, hlex⟩
    · exact spelled_lt_of_length_lt hcs hds hshorter
    · exact spelled_lt_of_lex hcs hds hlength hlex
  refine ⟨hforward hcs hds, fun hlt => ?_⟩
  have htotal : List.Shortlex (· < ·) cs ds ∨ cs = ds ∨ List.Shortlex (· < ·) ds cs :=
    Std.Trichotomous.rel_or_eq_or_rel_swap
  rcases htotal with hbefore | rfl | hafter
  · exact hbefore
  · exact absurd hlt (Nat.lt_irrefl _)
  · exact absurd hlt (Nat.not_lt_of_lt (hforward hds hcs hafter))

omit hcs hds

/-! ## Labels of columns -/

/-- Whether a label comes before another one: it is shorter, or it has the same length and comes
first in a dictionary. -/
def Precedes (label other : String) : Prop :=
  List.Shortlex (· < ·) label.toList other.toList

/-- A word in capitals that spells a number from one up to the number of the last column, counted
from one. -/
structure IsLabel (label : String) : Prop where
  ne_empty : label ≠ ""
  isUpper : ∀ c ∈ label.toList, c.isUpper = true
  spelled_le : spelled label.toList ≤ UInt32.size

theorem toList_ofIndex (col : UInt32) :
    (∀ c ∈ (ofIndex col).toList, c.isUpper = true) ∧
      spelled (ofIndex col).toList = col.toNat + 1 := by
  rw [ofIndex, String.toList_ofList]
  exact spelled_letters col

theorem isLabel_ofIndex (col : UInt32) : IsLabel (ofIndex col) := by
  obtain ⟨hupper, hspelled⟩ := toList_ofIndex col
  refine ⟨?_, hupper, ?_⟩
  · -- no letters spell zero
    intro hempty
    rw [hempty] at hspelled
    exact absurd hspelled.symm (Nat.succ_ne_zero _)
  · rw [hspelled]
    exact col.toNat_lt

/-- A word in capitals is the label of the column whose number, counted from one, it spells. -/
theorem IsLabel.exists_ofIndex {label : String} (h : IsLabel label) :
    ∃ col, ofIndex col = label := by
  have hletters : letters (UInt32.ofNat (spelled label.toList - 1)) = label.toList := by
    have hsame : label.toList.map Char.toUpper = label.toList :=
      (List.map_congr_left fun c hc => toUpper_of_isUpper (h.isUpper c hc)).trans (List.map_id _)
    have hlonger : ([] : List Char).length < label.toList.length :=
      List.length_pos_iff.2 (by simpa using h.ne_empty)
    have hpos : 0 < spelled label.toList :=
      Nat.zero_lt_of_lt (spelled_lt_of_length_lt (by simp) h.isUpper hlonger)
    have hlast := h.spelled_le
    rw [letters, UInt32.toNat_ofNat_of_lt' (by omega), Nat.sub_add_cancel hpos,
      lettersOnto_spelled fun c hc => isAlpha_of_isUpper (h.isUpper c hc), hsame, List.append_nil]
  exact ⟨_, by rw [ofIndex, hletters, String.ofList_toList]⟩

theorem ofIndex_injective : Function.Injective ofIndex := by
  intro a b hsame
  have ha := (toList_ofIndex a).2
  have hb := (toList_ofIndex b).2
  rw [hsame, hb, Nat.succ_inj] at ha
  exact UInt32.toNat_inj.1 ha.symm

/-- Columns are labelled in order, with words in capitals up to the one that spells the number of
the last column, and with each of them one column. -/
theorem ofIndex_enumerates :
    (∀ a b : UInt32, Precedes (ofIndex a) (ofIndex b) ↔ a < b) ∧
    Set.range ofIndex = {label | IsLabel label} ∧
    ∀ label, IsLabel label → ∃! col, ofIndex col = label := by
  refine ⟨fun a b => ?_, ?_, fun label h => ?_⟩
  · obtain ⟨ha, hspelled⟩ := toList_ofIndex a
    obtain ⟨hb, hspelled'⟩ := toList_ofIndex b
    rw [Precedes, shortlex_iff_spelled_lt ha hb, hspelled, hspelled', UInt32.lt_iff_toNat_lt]
    exact Nat.add_lt_add_iff_right
  · ext label
    constructor
    · rintro ⟨col, rfl⟩
      exact isLabel_ofIndex col
    · exact IsLabel.exists_ofIndex
  · obtain ⟨col, rfl⟩ := h.exists_ofIndex
    exact ⟨col, rfl, fun other hother => ofIndex_injective hother⟩

theorem ofIndex_enumerates_edges :
    (701 : UInt32) < 702 ∧ Precedes (ofIndex 701) (ofIndex 702) ∧ ofIndex 701 = "ZZ" ∧
      ofIndex 702 = "AAA" ∧ IsLabel "MWLQKWV" ∧ "MWLQKWV" ∈ Set.range ofIndex ∧
      (∃! col, ofIndex col = "MWLQKWV") ∧ "MWLQKWW" ∉ Set.range ofIndex := by
  obtain ⟨horder, hrange, hunique⟩ := ofIndex_enumerates
  have hlast : IsLabel "MWLQKWV" := ⟨by decide, List.all_eq_true.1 (by decide), by decide⟩
  have hbeyond : ¬IsLabel "MWLQKWW" := fun h => absurd h.spelled_le (by decide)
  refine ⟨by decide, (horder 701 702).2 (by decide), ?_, ?_, hlast, ?_, hunique _ hlast, ?_⟩
  · decide +kernel
  · decide +kernel
  · exact hrange ▸ hlast
  · exact hrange ▸ hbeyond

end FillScript.Label
