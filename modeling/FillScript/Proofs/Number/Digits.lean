import FillScript.Proofs.Number.Writing
import Mathlib.Data.List.Induction
import Mathlib.Data.Nat.Digits.Defs

/-!
# Numbers spelled by characters

Which characters are read as digits, and as which number. Characters are read as digits exactly if
they are the characters of these digits (`Digits.ofChars?_eq_some_iff`), which all characters from
`0` to `9` are (`Digits.exists_toChars_iff`). A 32-bit number is read from the digits that spell it,
with any number of zeros in front (`Digits.readWord?_eq_some_iff_spellsWord`), and is written
without these (`Digits.toChars_ofNat_value`).
-/

namespace FillScript

/-! ## Spelling in a base -/

/-- The number that characters spell in a base, the first with the highest power, where each counts
what `count` says. -/
def Text.spelled (base : Nat) (count : Char → Nat) (cs : List Char) : Nat :=
  Nat.ofDigits base (cs.reverse.map count)

namespace Text

variable (base : Nat) (count : Char → Nat) (cs : List Char) (c : Char)

theorem spelled_append_singleton :
    spelled base count (cs ++ [c]) = base * spelled base count cs + count c := by
  rw [spelled, List.reverse_append, List.reverse_singleton, List.singleton_append, List.map_cons,
    Nat.ofDigits_cons, Nat.add_comm]
  rfl

theorem spelled_cons :
    spelled base count (c :: cs) = base ^ cs.length * count c + spelled base count cs := by
  rw [spelled, List.reverse_cons, List.map_append, Nat.ofDigits_append, List.length_map,
    List.length_reverse, List.map_singleton, Nat.ofDigits_singleton, Nat.add_comm]
  rfl

end Text

/-! ## Characters of digits -/

namespace Digit

@[simp]
theorem toNat_toChar (d : Digit) : d.toChar.toNat = 48 + d.val := by
  revert d
  decide

@[simp]
theorem isDigit_toChar (d : Digit) : d.toChar.isDigit = true := by
  revert d
  decide

theorem toChar_eq_zero_iff (d : Digit) : d.toChar = '0' ↔ d = zero := by
  revert d
  decide

theorem toChar_of_isDigit {c : Char} (hc : c.isDigit = true) : ∃ d : Digit, c = d.toChar := by
  simp only [Char.isDigit, Bool.and_eq_true, decide_eq_true_eq, ge_iff_le,
    UInt32.le_iff_toNat_le] at hc
  obtain ⟨hlow, hhigh⟩ := hc
  change 48 ≤ c.toNat at hlow
  change c.toNat ≤ 57 at hhigh
  refine ⟨⟨c.toNat - 48, by omega⟩, ?_⟩
  rw [toChar, Nat.add_sub_cancel' hlow, Char.ofNat_toNat]

/-- A character is read as the digit that it is the character of. -/
theorem ofChar?_eq_some_iff {c : Char} {d : Digit} : ofChar? c = some d ↔ c = d.toChar := by
  refine ⟨fun hread => ?_, fun hc => hc ▸ ofChar?_toChar d⟩
  unfold ofChar? at hread
  split at hread
  · next hrange =>
    obtain rfl := Option.some.inj hread
    rw [toChar, Nat.add_sub_cancel' hrange.1, Char.ofNat_toNat]
  · contradiction

theorem isDigit_eq (c : Char) : isDigit c = c.isDigit := by
  rw [Bool.eq_iff_iff, isDigit, Option.isSome_iff_exists]
  constructor
  · rintro ⟨d, hread⟩
    rw [ofChar?_eq_some_iff.1 hread, isDigit_toChar]
  · intro hc
    obtain ⟨d, rfl⟩ := toChar_of_isDigit hc
    exact ⟨d, ofChar?_toChar d⟩

end Digit

namespace Digits

/-- Characters are read as the digits that they are the characters of. -/
theorem ofChars?_eq_some_iff {cs : List Char} {ds : List Digit} :
    ofChars? cs = some ds ↔ cs = toChars ds := by
  refine ⟨fun hread => ?_, fun hcs => hcs ▸ ofChars?_toChars ds⟩
  induction cs generalizing ds with
  | nil =>
    obtain rfl : [] = ds := by simpa [ofChars?] using hread
    rfl
  | cons c cs ih =>
    simp only [ofChars?, List.mapM_cons, Option.bind_eq_bind, Option.bind_eq_some_iff,
      Option.pure_def, Option.some.injEq] at hread
    obtain ⟨d, hd, rest, hrest, rfl⟩ := hread
    rw [Digit.ofChar?_eq_some_iff.1 hd, ih hrest]
    rfl

theorem exists_toChars_iff {cs : List Char} :
    (∃ ds, cs = toChars ds) ↔ ∀ c ∈ cs, c.isDigit = true := by
  constructor
  · rintro ⟨ds, rfl⟩ c hc
    obtain ⟨d, -, rfl⟩ := List.mem_map.1 hc
    exact d.isDigit_toChar
  · intro hcs
    induction cs with
    | nil => exact ⟨[], rfl⟩
    | cons c cs ih =>
      obtain ⟨hc, hrest⟩ := List.forall_mem_cons.1 hcs
      obtain ⟨d, rfl⟩ := Digit.toChar_of_isDigit hc
      obtain ⟨ds, rfl⟩ := ih hrest
      exact ⟨d :: ds, rfl⟩

/-! ## The number that digits spell -/

/-- The number that characters from `0` to `9` spell in base ten. -/
def decimal (digits : List Char) : Nat :=
  Text.spelled 10 (fun d => d.toNat - 48) digits

theorem value_append_singleton (ds : List Digit) (d : Digit) :
    value (ds ++ [d]) = 10 * value ds + d.val := by
  rw [value, valueFrom_append]
  rfl

theorem toChars_append_singleton (ds : List Digit) (d : Digit) :
    toChars (ds ++ [d]) = toChars ds ++ [d.toChar] :=
  List.map_append

theorem decimal_toChars (ds : List Digit) : decimal (toChars ds) = value ds := by
  induction ds using List.reverseRecOn with
  | nil => rfl
  | append_singleton ds d ih =>
    rw [value_append_singleton, ← ih, toChars_append_singleton, decimal,
      Text.spelled_append_singleton, Digit.toNat_toChar, Nat.add_sub_cancel_left]
    rfl

/-- A word of digits is read as the 32-bit number that they spell. -/
theorem bind_ofChars?_eq_some_iff {cs : List Char} {w : UInt32} :
    ((ofChars? cs).bind fun ds =>
      if ds.isEmpty || UInt32.size ≤ value ds then none else some (UInt32.ofNat (value ds))) =
        some w ↔ ∃ ds, ds ≠ [] ∧ cs = toChars ds ∧ value ds = w.toNat := by
  simp only [Option.bind_eq_some_iff, ofChars?_eq_some_iff, Option.ite_none_left_eq_some,
    Bool.or_eq_true, not_or, List.isEmpty_iff, decide_eq_true_eq, Nat.not_le, Option.some.injEq]
  refine exists_congr fun ds => ⟨?_, ?_⟩
  · rintro ⟨hcs, ⟨hne, hlt⟩, rfl⟩
    exact ⟨hne, hcs, (UInt32.toNat_ofNat_of_lt' hlt).symm⟩
  · rintro ⟨hne, hcs, hvalue⟩
    refine ⟨hcs, ⟨hne, hvalue ▸ w.toNat_lt⟩, ?_⟩
    rw [hvalue, UInt32.ofNat_toNat]

/-- A 32-bit number is read from the digits that spell it, behind a plus sign or not. -/
theorem readWord?_eq_some_iff {cs : List Char} {w : UInt32} :
    readWord? cs = some w ↔
      ∃ ds, ds ≠ [] ∧ (cs = toChars ds ∨ cs = '+' :: toChars ds) ∧ value ds = w.toNat := by
  by_cases hplus : ∃ rest, cs = '+' :: rest
  · obtain ⟨rest, rfl⟩ := hplus
    have hdigits (ds : List Digit) : '+' :: rest ≠ toChars ds := by
      intro hcs
      have hsign := exists_toChars_iff.1 ⟨ds, hcs⟩ '+' List.mem_cons_self
      simp at hsign
    rw [readWord?.eq_1, Option.bind_eq_bind, bind_ofChars?_eq_some_iff]
    simp only [hdigits, false_or, List.cons.injEq, true_and]
  · rw [not_exists] at hplus
    rw [readWord?.eq_2 cs hplus, Option.bind_eq_bind, bind_ofChars?_eq_some_iff]
    simp only [hplus, or_false]

/-- Characters that spell a 32-bit number: digits, behind a plus sign or not. -/
def SpellsWord (cs : List Char) (w : UInt32) : Prop :=
  ∃ digits, (cs = digits ∨ cs = '+' :: digits) ∧ digits ≠ [] ∧
    (∀ d ∈ digits, d.isDigit = true) ∧ decimal digits = w.toNat

theorem readWord?_eq_some_iff_spellsWord {cs : List Char} {w : UInt32} :
    readWord? cs = some w ↔ SpellsWord cs w := by
  rw [readWord?_eq_some_iff]
  constructor
  · rintro ⟨ds, hne, hcs, hvalue⟩
    refine ⟨toChars ds, hcs, by simpa [toChars] using hne, exists_toChars_iff.1 ⟨ds, rfl⟩, ?_⟩
    rw [decimal_toChars, hvalue]
  · rintro ⟨digits, hcs, hne, hdigits, hvalue⟩
    obtain ⟨ds, rfl⟩ := exists_toChars_iff.2 hdigits
    refine ⟨ds, by simpa [toChars] using hne, hcs, ?_⟩
    rw [← decimal_toChars, hvalue]

/-- The digits of a text from the first one on that is not zero are those that their number is
written with. -/
theorem dropWhile_zero (ds : List Digit) :
    ds.dropWhile (· == Digit.zero) = if value ds = 0 then [] else ofNat (value ds) := by
  induction ds using List.reverseRecOn with
  | nil => rfl
  | append_singleton ds d ih =>
    rw [List.dropWhile_append, value_append_singleton, ih]
    by_cases hzero : value ds = 0
    · rw [if_pos hzero, hzero, if_pos List.isEmpty_nil, Nat.mul_zero, Nat.zero_add,
        ofNat_of_lt_ten d.isLt]
      revert d
      decide
    · have hdrop : (ofNat (value ds)).isEmpty = false := by simpa using ofNat_ne_nil (value ds)
      have hten : 10 ≤ 10 * value ds + d.val := by omega
      have htenth : (10 * value ds + d.val) / 10 = value ds := by omega
      have hlast : Fin.ofNat 10 (10 * value ds + d.val) = d := by
        rw [Fin.ext_iff, Fin.val_ofNat]
        omega
      rw [if_neg hzero, hdrop, if_neg Bool.false_ne_true, if_neg (by omega),
        ofNat_of_ten_le hten, htenth, hlast]

/-- A number is written as a text of digits that spells it, without the zeros in front. -/
theorem toChars_ofNat_value {ds : List Digit} (hvalue : value ds ≠ 0) :
    toChars (ofNat (value ds)) = (toChars ds).dropWhile (· == '0') := by
  have hzero : (fun c => c == '0') ∘ Digit.toChar = (· == Digit.zero) := by
    funext d
    rw [Function.comp_apply, Bool.eq_iff_iff, beq_iff_eq, beq_iff_eq, Digit.toChar_eq_zero_iff]
  rw [toChars, toChars, List.dropWhile_map, hzero, dropWhile_zero, if_neg hvalue]

end Digits

end FillScript
