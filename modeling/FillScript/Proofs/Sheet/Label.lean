import FillScript.Proofs.Number.Digits
import FillScript.Sheet.Label

/-!
# Column labels as numbers

A label is a number in bijective base 26 (`Label.spelled`), in which `A` counts one. Letters name
the column whose number, counted from one, they spell (`Label.index?_eq_some_iff`), and a column is
labelled with the capitals that spell its number (`Label.spelled_letters`). No other capitals do, so
that letters, made capitals, are the label of what they name (`Label.lettersOnto_spelled`).
-/

namespace FillScript.Label

/-! ## Letters -/

/-- What a letter counts in a label: its place in the alphabet, also of a small letter. -/
def letterCount (c : Char) : Nat :=
  c.toUpper.toNat - 64

/-- The capital letter with an index in the alphabet. -/
def capital (k : Fin 26) : Char :=
  Char.ofNat (65 + k.val)

/-- The small letter with an index in the alphabet. -/
def small (k : Fin 26) : Char :=
  Char.ofNat (97 + k.val)

theorem isUpper_iff {c : Char} : c.isUpper = true ↔ 65 ≤ c.toNat ∧ c.toNat ≤ 90 :=
  decide_eq_true_iff

theorem isLower_iff {c : Char} : c.isLower = true ↔ 97 ≤ c.toNat ∧ c.toNat ≤ 122 :=
  Bool.and_eq_true_iff.trans (and_congr decide_eq_true_iff decide_eq_true_iff)

theorem isAlpha_of_isUpper {c : Char} (hc : c.isUpper = true) : c.isAlpha = true :=
  Bool.or_eq_true_iff.2 (.inl hc)

/-- A letter is one of the 26 capitals or of the 26 small letters. -/
theorem isAlpha_iff {c : Char} :
    c.isAlpha = true ↔ 65 ≤ c.toNat ∧ c.toNat ≤ 90 ∨ 97 ≤ c.toNat ∧ c.toNat ≤ 122 :=
  Bool.or_eq_true_iff.trans (or_congr isUpper_iff isLower_iff)

theorem exists_letter {c : Char} (hc : c.isAlpha = true) :
    ∃ k : Fin 26, c = capital k ∨ c = small k := by
  rcases isAlpha_iff.1 hc with ⟨hlow, hhigh⟩ | ⟨hlow, hhigh⟩
  · refine ⟨⟨c.toNat - 65, by omega⟩, .inl ?_⟩
    rw [capital, Nat.add_sub_cancel' hlow, Char.ofNat_toNat]
  · refine ⟨⟨c.toNat - 97, by omega⟩, .inr ?_⟩
    rw [small, Nat.add_sub_cancel' hlow, Char.ofNat_toNat]

theorem isUpper_capital (k : Fin 26) : (capital k).isUpper = true := by
  revert k
  decide

theorem toUpper_capital (k : Fin 26) : (capital k).toUpper = capital k := by
  revert k
  decide

theorem letterCount_capital (k : Fin 26) : letterCount (capital k) = k.val + 1 := by
  revert k
  decide

/-- A letter as a capital is the one at the place that it counts. -/
theorem toUpper_eq_capital {c : Char} (hc : c.isAlpha = true) :
    ∃ k : Fin 26, c.toUpper = capital k ∧ letterCount c = k.val + 1 := by
  obtain ⟨k, rfl | rfl⟩ := exists_letter hc
  · exact ⟨k, toUpper_capital k, letterCount_capital k⟩
  · refine ⟨k, ?_⟩
    revert k
    decide

theorem letterValue?_of_isAlpha {c : Char} (hc : c.isAlpha = true) :
    letterValue? c = some (letterCount c) := by
  obtain ⟨k, rfl | rfl⟩ := exists_letter hc
  · revert k
    decide
  · revert k
    decide

theorem isAlpha_of_letterValue? {c : Char} {v : Nat} (hread : letterValue? c = some v) :
    c.isAlpha = true := by
  unfold letterValue? at hread
  split at hread
  · next hupper => exact isAlpha_iff.2 (.inl hupper)
  · split at hread
    · next hlower => exact isAlpha_iff.2 (.inr hlower)
    · contradiction

/-! ## Reading letters -/

/-- The number that letters spell in bijective base 26. -/
def spelled (letters : List Char) : Nat :=
  Text.spelled 26 letterCount letters

/-- Letters that follow a number are read as the number that they spell together. -/
theorem valueFrom?_eq_some_iff {cs : List Char} {n m : Nat} :
    valueFrom? n cs = some m ↔
      (∀ c ∈ cs, c.isAlpha = true) ∧ 26 ^ cs.length * n + spelled cs = m := by
  induction cs generalizing n with
  | nil => simp [valueFrom?, spelled, Text.spelled]
  | cons c cs ih =>
    have hsum : 26 ^ (c :: cs).length * n + spelled (c :: cs) =
        26 ^ cs.length * (26 * n + letterCount c) + spelled cs := by
      rw [spelled, spelled, Text.spelled_cons, List.length_cons]
      ring
    rw [List.forall_mem_cons, hsum, valueFrom?, Option.bind_eq_some_iff]
    constructor
    · rintro ⟨v, hv, hread⟩
      have hc := isAlpha_of_letterValue? hv
      obtain rfl := Option.some.inj ((letterValue?_of_isAlpha hc).symm.trans hv)
      obtain ⟨hcs, hm⟩ := ih.1 hread
      exact ⟨⟨hc, hcs⟩, hm⟩
    · rintro ⟨⟨hc, hcs⟩, hm⟩
      exact ⟨_, letterValue?_of_isAlpha hc, ih.2 ⟨hcs, hm⟩⟩

/-- Letters name the column whose number, counted from one, they spell. -/
theorem index?_eq_some_iff {cs : List Char} {col : UInt32} :
    index? cs = some col ↔
      (∀ c ∈ cs, c.isAlpha = true) ∧ spelled cs < UInt32.size ∧ col.toNat + 1 = spelled cs := by
  have hread (m : Nat) :
      valueFrom? 0 cs = some m ↔ (∀ c ∈ cs, c.isAlpha = true) ∧ spelled cs = m := by
    rw [valueFrom?_eq_some_iff, Nat.mul_zero, Nat.zero_add]
  unfold index?
  constructor
  · intro hindex
    split at hindex
    · next n hvalue =>
      obtain ⟨hcs, hspelled⟩ := (hread _).1 hvalue
      rw [Option.ite_none_right_eq_some, Option.some.injEq] at hindex
      obtain ⟨hlt, rfl⟩ := hindex
      refine ⟨hcs, hspelled ▸ hlt, ?_⟩
      rw [hspelled, UInt32.toNat_ofNat_of_lt' (by omega)]
    · contradiction
  · rintro ⟨hcs, hlt, hcol⟩
    rw [(hread _).2 ⟨hcs, hcol.symm⟩]
    simp only [hcol, if_pos hlt, UInt32.ofNat_toNat]

/-! ## Writing letters -/

theorem spelled_append_singleton (cs : List Char) (c : Char) :
    spelled (cs ++ [c]) = 26 * spelled cs + letterCount c :=
  Text.spelled_append_singleton 26 letterCount cs c

/-- The letters of the number that letters spell are these, as capitals. -/
theorem lettersOnto_spelled {cs : List Char} (hcs : ∀ c ∈ cs, c.isAlpha = true)
    (rest : List Char) : lettersOnto (spelled cs) rest = cs.map Char.toUpper ++ rest := by
  induction cs using List.reverseRecOn generalizing rest with
  | nil =>
    rw [lettersOnto]
    rfl
  | append_singleton cs c ih =>
    obtain ⟨hfront, hlast⟩ := List.forall_mem_append.1 hcs
    obtain ⟨k, hk, hcount⟩ := toUpper_eq_capital (hlast c List.mem_cons_self)
    have hk' : k.val < 26 := k.isLt
    rw [spelled_append_singleton, hcount, lettersOnto, if_neg (by omega)]
    have hdiv : (26 * spelled cs + (k.val + 1) - 1) / 26 = spelled cs := by omega
    have hmod : (26 * spelled cs + (k.val + 1) - 1) % 26 = k.val := by omega
    rw [hdiv, hmod, ih hfront]
    simp [hk, capital]

/-- Every number is spelled by capitals. -/
theorem exists_spelled_capital (n : Nat) : ∃ ks : List (Fin 26), spelled (ks.map capital) = n := by
  induction n using Nat.strongRecOn with
  | _ n ih =>
    by_cases hn : n = 0
    · exact ⟨[], hn ▸ rfl⟩
    · obtain ⟨ks, hks⟩ := ih ((n - 1) / 26) (by omega)
      let k : Fin 26 := ⟨(n - 1) % 26, by omega⟩
      have hcount : letterCount (capital k) = (n - 1) % 26 + 1 := letterCount_capital k
      refine ⟨ks ++ [k], ?_⟩
      rw [List.map_append, List.map_singleton, spelled_append_singleton, hks, hcount]
      omega

/-- A column is labelled with the capitals that spell its number, counted from one. -/
theorem spelled_letters (col : UInt32) :
    (∀ c ∈ letters col, c.isUpper = true) ∧ spelled (letters col) = col.toNat + 1 := by
  obtain ⟨ks, hks⟩ := exists_spelled_capital (col.toNat + 1)
  have halpha : ∀ c ∈ ks.map capital, c.isAlpha = true := by
    intro c hc
    obtain ⟨k, -, rfl⟩ := List.mem_map.1 hc
    exact isAlpha_of_isUpper (isUpper_capital k)
  have hsame : (ks.map capital).map Char.toUpper = ks.map capital := by
    rw [List.map_map]
    exact List.map_congr_left fun k _ => toUpper_capital k
  have hletters : letters col = ks.map capital := by
    rw [letters, ← hks, lettersOnto_spelled halpha, hsame, List.append_nil]
  rw [hletters]
  refine ⟨fun c hc => ?_, hks⟩
  obtain ⟨k, -, rfl⟩ := List.mem_map.1 hc
  exact isUpper_capital k

end FillScript.Label
