import FillScript.Proofs.Sheet.Label
import FillScript.Proofs.Text.Joining
import FillScript.Sheet.Coord
import Mathlib.Data.List.TakeDrop

/-!
# References of positions

Which texts are references, of which position, and how a position is written as one. A reference is
letters followed by digits that spell column and row, counted from one
(`Coord.ofLabel?_eq_some_iff`). The reference that is written for a position is the one without
small letters and without zeros in front of the row (`Coord.IsReference.label_eq`). It is read back,
but for positions on the far edges, whose number has more than 32 bits (`Coord.ofLabel?_label`).
-/

namespace FillScript.Coord

open Digits (decimal toChars)
open Text (trimmed)

/-- Letters and digits that are a reference of a position: they spell its column and its row,
counted from one, as numbers of 32 bits. -/
structure IsReference (letters digits : List Char) (c : Coord) : Prop where
  letters_ne_nil : letters ≠ []
  isAlpha : ∀ l ∈ letters, l.isAlpha = true
  digits_ne_nil : digits ≠ []
  isDigit : ∀ d ∈ digits, d.isDigit = true
  col : c.col.toNat + 1 = Label.spelled letters
  col_lt : Label.spelled letters < UInt32.size
  row : c.row.toNat + 1 = decimal digits
  row_lt : decimal digits < UInt32.size

/-! ## Telling letters and digits apart -/

theorem not_isDigit_of_isAlpha {c : Char} (hc : c.isAlpha = true) : c.isDigit = false := by
  obtain ⟨k, rfl | rfl⟩ := Label.exists_letter hc
  · revert k
    decide
  · revert k
    decide

/-- Letters end where digits begin. -/
theorem span_append {letters digits : List Char} (hletters : ∀ l ∈ letters, l.isAlpha = true)
    (hdigits : ∀ d ∈ digits, d.isDigit = true) :
    (letters ++ digits).span (fun c => !Digit.isDigit c) = (letters, digits) := by
  have hfront : ∀ l ∈ letters, (!Digit.isDigit l) = true := by
    intro l hl
    rw [Digit.isDigit_eq, not_isDigit_of_isAlpha (hletters l hl)]
    rfl
  have hback : digits.takeWhile (fun c => !Digit.isDigit c) = [] ∧
      digits.dropWhile (fun c => !Digit.isDigit c) = digits := by
    cases digits with
    | nil => exact ⟨rfl, rfl⟩
    | cons d digits =>
      have hd : (!Digit.isDigit d) = false := by
        rw [Digit.isDigit_eq, hdigits d List.mem_cons_self]
        rfl
      exact ⟨List.takeWhile_cons_of_neg (by simp [hd]), List.dropWhile_cons_of_neg (by simp [hd])⟩
  rw [List.span_eq_takeWhile_dropWhile, List.takeWhile_append_of_pos hfront,
    List.dropWhile_append_of_pos hfront, hback.1, hback.2, List.append_nil]

/-! ## Reading -/

/-- The number before another one, which is not zero. -/
theorem sub_one_eq_iff {row before : UInt32} :
    row ≠ 0 ∧ row - 1 = before ↔ before.toNat + 1 = row.toNat := by
  have hrow := row.toNat_lt
  have hbefore := before.toNat_lt
  have hone : (1 : UInt32).toNat = 1 := rfl
  have hzero : (0 : UInt32).toNat = 0 := rfl
  rw [Ne, ← UInt32.toNat_inj, ← UInt32.toNat_inj, UInt32.toNat_sub, hone, hzero]
  omega

/-- Digits that spell the number of a row, counted from one. -/
theorem readWord?_row_iff {digits : List Char} {row : UInt32} (hsign : digits.head? ≠ some '+') :
    (∃ word, Digits.readWord? digits = some word ∧ word ≠ 0 ∧ word - 1 = row) ↔
      digits ≠ [] ∧ (∀ d ∈ digits, d.isDigit = true) ∧ row.toNat + 1 = decimal digits ∧
        decimal digits < UInt32.size := by
  simp only [Digits.readWord?_eq_some_iff_spellsWord, sub_one_eq_iff]
  constructor
  · rintro ⟨word, ⟨spelled, hspelled, hne, hdigits, hword⟩, hrow⟩
    rcases hspelled with rfl | rfl
    · exact ⟨hne, hdigits, hrow.trans hword.symm, hword ▸ word.toNat_lt⟩
    · exact absurd rfl hsign
  · rintro ⟨hne, hdigits, hrow, hlt⟩
    have hword := UInt32.toNat_ofNat_of_lt' hlt
    exact ⟨UInt32.ofNat (decimal digits), ⟨digits, .inl rfl, hne, hdigits, hword.symm⟩,
      hrow.trans hword.symm⟩

theorem isReference_iff {letters digits : List Char} {c : Coord}
    (hsign : digits.head? ≠ some '+') :
    IsReference letters digits c ↔
      Label.index? letters = some c.col ∧
        ∃ row, Digits.readWord? digits = some row ∧ row ≠ 0 ∧ row - 1 = c.row := by
  rw [Label.index?_eq_some_iff, readWord?_row_iff hsign]
  constructor
  · rintro ⟨-, halpha, hdigits, hdigit, hcol, hcolLt, hrow, hrowLt⟩
    exact ⟨⟨halpha, hcolLt, hcol⟩, hdigits, hdigit, hrow, hrowLt⟩
  · rintro ⟨⟨halpha, hcolLt, hcol⟩, hdigits, hdigit, hrow, hrowLt⟩
    refine ⟨?_, halpha, hdigits, hdigit, hcol, hcolLt, hrow, hrowLt⟩
    -- no letters at all spell zero
    rintro rfl
    exact absurd hcol (Nat.succ_ne_zero _)

/-- A text is a reference if it is letters and digits that spell a column and a row. -/
theorem ofLabel?_eq_some_iff {reference : String} {c : Coord} :
    ofLabel? reference = some c ↔
      ∃ letters digits, trimmed reference.toList = letters ++ digits ∧
        IsReference letters digits c := by
  have hread {letters digits : List Char}
      (hspan : (trimmed reference.toList).span (fun c => !Digit.isDigit c) = (letters, digits)) :
      ofLabel? reference = some c ↔ Label.index? letters = some c.col ∧
        ∃ row, Digits.readWord? digits = some row ∧ row ≠ 0 ∧ row - 1 = c.row := by
    obtain ⟨row, col⟩ := c
    simp only [ofLabel?, hspan, Option.bind_eq_bind, Option.bind_eq_some_iff,
      Option.ite_none_left_eq_some, Option.some.injEq, mk.injEq]
    constructor
    · rintro ⟨col', hindex, word, hread, hzero, hrow, rfl⟩
      exact ⟨hindex, word, hread, hzero, hrow⟩
    · rintro ⟨hindex, word, hread, hzero, hrow⟩
      exact ⟨col, hindex, word, hread, hzero, hrow, rfl⟩
  constructor
  · intro hlabel
    have hspan := List.span_eq_takeWhile_dropWhile (fun c => !Digit.isDigit c)
      (trimmed reference.toList)
    have hsign : ((trimmed reference.toList).dropWhile fun c => !Digit.isDigit c).head? ≠
        some '+' := by
      intro hhead
      have hdigit := List.head?_dropWhile_not (fun c => !Digit.isDigit c) (trimmed reference.toList)
      rw [hhead] at hdigit
      revert hdigit
      decide
    exact ⟨_, _, List.takeWhile_append_dropWhile.symm,
      (isReference_iff hsign).2 ((hread hspan).1 hlabel)⟩
  · rintro ⟨letters, digits, hparts, href⟩
    have hspan := hparts ▸ span_append href.isAlpha href.isDigit
    have hsign : digits.head? ≠ some '+' := by
      intro hhead
      have hdigit := href.isDigit '+' (List.mem_of_mem_head? hhead)
      revert hdigit
      decide
    exact (hread hspan).2 ((isReference_iff hsign).1 href)

/-! ## Writing -/

/-- What letters and digits spell tells them apart from all others of the same text. -/
theorem append_inj {letters digits letters' digits' : List Char}
    (hletters : ∀ l ∈ letters, l.isAlpha = true) (hdigits : ∀ d ∈ digits, d.isDigit = true)
    (hletters' : ∀ l ∈ letters', l.isAlpha = true) (hdigits' : ∀ d ∈ digits', d.isDigit = true)
    (hsame : letters ++ digits = letters' ++ digits') : letters = letters' ∧ digits = digits' := by
  have hspan := span_append hletters hdigits
  rw [hsame, span_append hletters' hdigits', Prod.mk.injEq] at hspan
  exact ⟨hspan.1.symm, hspan.2.symm⟩

/-- A reference in capitals and without zeros in front of the row is the one that is written. -/
theorem IsReference.label_eq {letters digits : List Char} {c : Coord}
    (h : IsReference letters digits c) :
    c.label = String.ofList (letters.map Char.toUpper ++ digits.dropWhile (· == '0')) := by
  obtain ⟨ds, rfl⟩ := Digits.exists_toChars_iff.2 h.isDigit
  have hrow := h.row
  rw [Digits.decimal_toChars] at hrow
  rw [label, Label.ofIndex, Label.letters, Digits.text, h.col, hrow,
    Label.lettersOnto_spelled h.isAlpha, Digits.toChars_ofNat_value (by omega), List.append_nil,
    ← String.ofList_append]

/-- The letters and the digits of the reference that is written for a position. -/
theorem toList_label (c : Coord) :
    ∃ letters digits, c.label.toList = letters ++ digits ∧
      (∀ l ∈ letters, l.isAlpha = true) ∧ (∀ d ∈ digits, d.isDigit = true) ∧
      Label.spelled letters = c.col.toNat + 1 ∧ decimal digits = c.row.toNat + 1 := by
  obtain ⟨hupper, hcol⟩ := Label.spelled_letters c.col
  refine ⟨Label.letters c.col, toChars (Digits.ofNat (c.row.toNat + 1)), ?_, ?_, ?_, hcol, ?_⟩
  · simp [label, Label.ofIndex, Digits.text]
  · exact fun l hl => Label.isAlpha_of_isUpper (hupper l hl)
  · exact Digits.exists_toChars_iff.1 ⟨_, rfl⟩
  · rw [Digits.decimal_toChars, Digits.value_ofNat]

/-- No two positions are written alike. -/
theorem label_injective : Function.Injective label := by
  intro a b hsame
  obtain ⟨letters, digits, hparts, hletters, hdigits, hcol, hrow⟩ := a.toList_label
  obtain ⟨letters', digits', hparts', hletters', hdigits', hcol', hrow'⟩ := b.toList_label
  rw [hsame, hparts'] at hparts
  obtain ⟨rfl, rfl⟩ := append_inj hletters' hdigits' hletters hdigits hparts
  obtain ⟨row, col⟩ := a
  obtain ⟨row', col'⟩ := b
  simp only [mk.injEq, ← UInt32.toNat_inj]
  dsimp only at *
  omega

theorem isBlank_eq_false {c : Char} (hc : c.isAlpha = true ∨ c.isDigit = true) :
    Text.isBlank c = false := by
  rcases hc with halpha | hdigit
  · obtain ⟨k, rfl | rfl⟩ := Label.exists_letter halpha
    · revert k
      decide
    · revert k
      decide
  · obtain ⟨d, rfl⟩ := Digit.toChar_of_isDigit hdigit
    revert d
    decide

/-- The reference of a position is read back, unless the position is in the last row or the last
column that there are. -/
theorem ofLabel?_label (c : Coord) :
    ofLabel? c.label =
      if c.row.toNat + 1 < UInt32.size ∧ c.col.toNat + 1 < UInt32.size then some c else none := by
  obtain ⟨letters, digits, hparts, hletters, hdigits, hcol, hrow⟩ := c.toList_label
  have htrim : trimmed c.label.toList = letters ++ digits := by
    rw [hparts]
    refine Text.trimmed_of_isBlank fun l hl => isBlank_eq_false ?_
    exact (List.mem_append.1 hl).imp (hletters l) (hdigits l)
  by_cases hedge : c.row.toNat + 1 < UInt32.size ∧ c.col.toNat + 1 < UInt32.size
  · rw [if_pos hedge]
    refine ofLabel?_eq_some_iff.2 ⟨letters, digits, htrim, ?_, hletters, ?_, hdigits, hcol.symm,
      hcol ▸ hedge.2, hrow.symm, hrow ▸ hedge.1⟩
    · rintro rfl
      exact absurd hcol.symm (Nat.succ_ne_zero _)
    · rintro rfl
      exact absurd hrow.symm (Nat.succ_ne_zero _)
  · rw [if_neg hedge, Option.eq_none_iff_forall_ne_some]
    intro other hread
    obtain ⟨letters', digits', hparts', href⟩ := ofLabel?_eq_some_iff.1 hread
    rw [htrim] at hparts'
    obtain ⟨rfl, rfl⟩ := append_inj hletters hdigits href.isAlpha href.isDigit hparts'
    exact hedge ⟨hrow ▸ href.row_lt, hcol ▸ href.col_lt⟩

/-- A text is a reference if it is letters and digits that spell column and row in 32 bits, and it
is written with capitals and without zeros in front of the row. The reference of a position is read
back, unless the position is in the last row or column that there are, and is that of no other one.
-/
theorem ofLabel?_grammar :
    (∀ reference c, ofLabel? reference = some c ↔
      ∃ letters digits, trimmed reference.toList = letters ++ digits ∧
        IsReference letters digits c) ∧
    (∀ letters digits c, IsReference letters digits c →
      c.label = String.ofList (letters.map Char.toUpper ++ digits.dropWhile (· == '0'))) ∧
    (∀ c : Coord, c.row.toNat + 1 < UInt32.size → c.col.toNat + 1 < UInt32.size →
      ofLabel? c.label = some c) ∧
    (∀ c : Coord, c.row.toNat + 1 = UInt32.size ∨ c.col.toNat + 1 = UInt32.size →
      ofLabel? c.label = none) ∧
    Function.Injective label := by
  refine ⟨fun _ _ => ofLabel?_eq_some_iff, fun _ _ _ => IsReference.label_eq, ?_, ?_,
    label_injective⟩
  · intro c hrow hcol
    rw [ofLabel?_label, if_pos ⟨hrow, hcol⟩]
  · intro c hedge
    rw [ofLabel?_label, if_neg (by omega)]

theorem ofLabel?_grammar_berth :
    IsReference "aB".toList "007".toList ⟨6, 27⟩ ∧
      ofLabel? " aB007\t" = some ⟨6, 27⟩ ∧ (⟨6, 27⟩ : Coord).label = "AB7" ∧
      ofLabel? (⟨6, 27⟩ : Coord).label = some ⟨6, 27⟩ ∧
      ofLabel? (⟨0, 4294967295⟩ : Coord).label = none := by
  obtain ⟨hread, hwritten, hback, hedge, -⟩ := ofLabel?_grammar
  have href : IsReference "aB".toList "007".toList ⟨6, 27⟩ :=
    ⟨by decide, by simp, by decide, by simp, by decide, by decide, by decide, by decide⟩
  refine ⟨href, (hread _ _).2 ⟨_, _, by decide, href⟩, ?_, ?_, ?_⟩
  · rw [hwritten _ _ _ href]
    decide
  · exact hback _ (by decide) (by decide)
  · exact hedge _ (.inr (by decide))

end FillScript.Coord
