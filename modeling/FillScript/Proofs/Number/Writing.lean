import FillScript.Json.Reader
import FillScript.Number.Writing

/-!
# The form of written numbers

Every numeral that a number is written as has digits before its point, and no leading zero where
there is more than one: the numerals that JSON text can hold (`isProper_stored`, `isProper_shown`).
The one number that could break this is zero, which is written with one digit because the search for
its fewest digits does not start at all (`isReduced_shortest`).
-/

namespace FillScript

open Json (isWholePart)

/-! ## Digits -/

namespace Digits

/-- The last digit of a number stands behind those of its tenth part. -/
theorem ofNat_of_ten_le {n : Nat} (hten : 10 ≤ n) :
    ofNat n = ofNat (n / 10) ++ [Fin.ofNat 10 n] := by
  rw [ofNat, ofNatOnto, if_neg (by omega), ofNatOnto_eq_append]

theorem ofNat_of_lt_ten {n : Nat} (hten : n < 10) : ofNat n = [Fin.ofNat 10 n] := by
  rw [ofNat, ofNatOnto, if_pos hten]

/-- The digits of a number other than zero begin with another digit. -/
theorem head?_ofNat {n : Nat} (hn : n ≠ 0) : ∃ d, (ofNat n).head? = some d ∧ d ≠ Digit.zero := by
  induction n using Nat.strongRecOn with
  | ind n ih =>
    by_cases hten : n < 10
    · rw [ofNat_of_lt_ten hten]
      refine ⟨Fin.ofNat 10 n, rfl, fun hzero => hn ?_⟩
      have hval := congrArg Fin.val hzero
      simp only [Fin.val_ofNat, Digit.val_zero] at hval
      omega
    · obtain ⟨d, hhead, hd⟩ := ih (n / 10) (by omega) (by omega)
      refine ⟨d, ?_, hd⟩
      rw [ofNat_of_ten_le (by omega), List.head?_append, hhead]
      rfl

end Digits

/-! ## Whole parts -/

theorem isWholePart_of_head? {ds : List Digit} {d : Digit} (hhead : ds.head? = some d)
    (hd : d ≠ Digit.zero) : isWholePart ds = true := by
  match ds with
  | [] => simp at hhead
  | [_] => rfl
  | d' :: _ :: _ =>
    obtain rfl : d' = d := by simpa using hhead
    simpa [isWholePart] using hd

theorem isWholePart_ofNat (n : Nat) : isWholePart (Digits.ofNat n) = true := by
  by_cases hn : n = 0
  · rw [hn, Digits.ofNat_of_lt_ten (by omega)]
    rfl
  · obtain ⟨d, hhead, hd⟩ := Digits.head?_ofNat hn
    exact isWholePart_of_head? hhead hd

theorem ne_nil_of_isWholePart {ds : List Digit} (hwhole : isWholePart ds = true) : ds ≠ [] := by
  intro hnil
  subst hnil
  simp [isWholePart] at hwhole

namespace Decimal

/-- Zero is written without a scale. -/
def IsReduced (d : Decimal) : Prop :=
  d.coefficient = 0 → d.exponent = 0

theorem length_digits_pos (d : Decimal) : 0 < d.digits.length :=
  List.length_pos_iff.2 (Digits.ofNat_ne_nil d.coefficient)

theorem isWholePart_wholePart {d : Decimal} (hreduced : d.IsReduced) :
    isWholePart d.wholePart = true := by
  unfold wholePart
  by_cases hsmall : d.leadingPower < 0
  · rw [if_pos hsmall]
    rfl
  rw [if_neg hsmall]
  by_cases hzero : d.coefficient = 0
  · have hdigits : d.digits = [Digit.zero] := by
      rw [digits, hzero, Digits.ofNat_of_lt_ten (by omega)]
      rfl
    rw [hdigits, hreduced hzero]
    simp [isWholePart]
  · obtain ⟨c, hhead, hc⟩ := Digits.head?_ofNat hzero
    refine isWholePart_of_head? (d := c) ?_ hc
    rw [List.head?_append, List.head?_take, if_neg (by omega), digits, hhead]
    rfl

end Decimal

/-! ## The fewest digits -/

namespace Magnitude

theorem nearest?_of_firstOnGrids {tie : TieRule} {x : Magnitude} {steps : Nat} {e : Int}
    {d : Decimal} (hfirst : firstOnGrids tie x steps e = some d) : d.nearest? = some x := by
  induction steps generalizing e with
  | zero =>
    unfold firstOnGrids at hfirst
    split at hfirst
    · next hfind =>
      obtain rfl : _ = d := by simpa using hfirst
      simpa using List.find?_some hfind
    · simp at hfirst
  | succ steps ih =>
    unfold firstOnGrids at hfirst
    split at hfirst
    · next hfind =>
      obtain rfl : _ = d := by simpa using hfirst
      simpa using List.find?_some hfind
    · exact ih hfirst

/-- Only zero is nearest to a decimal number without a coefficient. -/
theorem nearest?_of_coefficient {d : Decimal} (hzero : d.coefficient = 0) :
    d.nearest? = some zero := by
  rw [Decimal.nearest?, hzero, Nat.zero_mul, ofRatio?, if_pos rfl]

/-- The shortest decimal number is zero without a scale, or not zero at all. -/
theorem isReduced_shortest (tie : TieRule) (x : Magnitude) : (x.shortest tie).IsReduced := by
  intro hzero
  unfold shortest at hzero ⊢
  by_cases hx : x.mantissa = 0
  · rw [if_pos hx]
  rw [if_neg hx] at hzero ⊢
  dsimp only at hzero ⊢
  cases hfirst : firstOnGrids tie x ((Digits.ofNat (x.num / x.den)).length + 1074)
      (Digits.ofNat (x.num / x.den)).length with
  | none => rfl
  | some d =>
    rw [hfirst, Option.getD_some] at hzero
    have hnearest := nearest?_of_firstOnGrids hfirst
    rw [nearest?_of_coefficient hzero] at hnearest
    have hx' : x = zero := by simpa using hnearest.symm
    exact absurd (hx' ▸ rfl) hx

end Magnitude

/-! ## Numerals -/

namespace Numeral

/-- A numeral that JSON text can hold: there are digits before the point, without leading zeros. -/
def IsProper (n : Numeral) : Prop :=
  isWholePart n.whole = true

theorem text_ne_empty {n : Numeral} (hn : n.IsProper) : n.text ≠ "" := by
  intro hempty
  have hchars : n.chars = [] := by
    have := congrArg String.toList hempty
    simpa [text] using this
  simp only [chars, List.append_eq_nil_iff, Digits.toChars, List.map_eq_nil_iff] at hchars
  exact ne_nil_of_isWholePart hn hchars.1.1.2

end Numeral

namespace Decimal

theorem isProper_positional {d : Decimal} (hreduced : d.IsReduced) (negative : Bool)
    (whenWhole : List Digit) : (d.positional negative whenWhole).IsProper :=
  isWholePart_wholePart hreduced

theorem isProper_scientific (d : Decimal) (negative : Bool) :
    (d.scientific negative).IsProper := by
  have hpos := d.length_digits_pos
  unfold Numeral.IsProper scientific
  cases hdigits : d.digits with
  | nil => simp [hdigits] at hpos
  | cons c rest => rfl

end Decimal

namespace Binary64

/-- The numerals of documents can stand in JSON text. -/
theorem isProper_stored (x : Binary64) : x.stored.IsProper := by
  have hreduced := x.magnitude.isReduced_shortest .even
  unfold stored
  dsimp only
  split
  · exact Decimal.isProper_positional hreduced _ _
  · exact Decimal.isProper_scientific _ _

theorem isProper_plain (x : Binary64) : x.plain.IsProper :=
  Decimal.isProper_positional (x.magnitude.isReduced_shortest .up) _ _

theorem isProper_shown (x : Binary64) : x.shown.IsProper := by
  unfold shown
  split
  · exact isWholePart_ofNat _
  · exact x.isProper_plain

end Binary64

end FillScript
