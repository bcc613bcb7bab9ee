/-!
# Decimal digits

Natural numbers as lists of decimal digits, most significant first, and as text. `ofNat` writes a
number without leading zeros, `value` reads any list of digits back.
-/

namespace FillScript

/-- A decimal digit. -/
abbrev Digit := Fin 10

namespace Digit

/-- The digit nought. -/
def zero : Digit := 0

/-- The character of a digit. -/
def toChar (d : Digit) : Char :=
  Char.ofNat (48 + d.val)

/-- The digit a character stands for; only the ten of ASCII stand for one. -/
def ofChar? (c : Char) : Option Digit :=
  if h : 48 ≤ c.toNat ∧ c.toNat < 58 then some ⟨c.toNat - 48, by omega⟩ else none

/-- Whether a character is one of the ten digits of ASCII. -/
def isDigit (c : Char) : Bool :=
  (ofChar? c).isSome

@[simp]
theorem val_zero : zero.val = 0 := rfl

@[simp]
theorem ofChar?_toChar (d : Digit) : ofChar? d.toChar = some d := by
  revert d
  decide

end Digit

namespace Digits

/-- The number that digits spell when they follow a number `start`. -/
def valueFrom (start : Nat) (ds : List Digit) : Nat :=
  ds.foldl (fun n d => 10 * n + d.val) start

/-- The number that digits spell. -/
def value (ds : List Digit) : Nat :=
  valueFrom 0 ds

/-- The digits of a number in front of `rest`. -/
def ofNatOnto (n : Nat) (rest : List Digit) : List Digit :=
  if n < 10 then Fin.ofNat 10 n :: rest
  else ofNatOnto (n / 10) (Fin.ofNat 10 n :: rest)

/-- The digits of a number, without leading zeros; zero has one digit. -/
def ofNat (n : Nat) : List Digit :=
  ofNatOnto n []

theorem valueFrom_append (start : Nat) (ds es : List Digit) :
    valueFrom start (ds ++ es) = valueFrom (valueFrom start ds) es := by
  simp [valueFrom]

theorem ofNatOnto_eq_append (n : Nat) (rest : List Digit) :
    ofNatOnto n rest = ofNat n ++ rest := by
  induction n using Nat.strongRecOn generalizing rest with
  | _ n ih =>
    unfold ofNat
    rw [ofNatOnto, ofNatOnto.eq_def n []]
    split
    · rfl
    · next hten =>
      rw [ih (n / 10) (by omega), ih (n / 10) (by omega) [Fin.ofNat 10 n]]
      simp

theorem value_ofNat (n : Nat) : value (ofNat n) = n := by
  induction n using Nat.strongRecOn with
  | _ n ih =>
    rw [ofNat, ofNatOnto]
    split
    · simp [value, valueFrom]; omega
    · next hten =>
      rw [ofNatOnto_eq_append, value, valueFrom_append]
      have hdiv := ih (n / 10) (by omega)
      rw [value] at hdiv
      rw [hdiv]
      simp [valueFrom]
      omega

theorem ofNat_ne_nil (n : Nat) : ofNat n ≠ [] := by
  rw [ofNat, ofNatOnto]
  split
  · simp
  · rw [ofNatOnto_eq_append]; simp

/-- The digits that characters stand for, if each stands for one. -/
def ofChars? (cs : List Char) : Option (List Digit) :=
  cs.mapM Digit.ofChar?

/-- The characters of digits. -/
def toChars (ds : List Digit) : List Char :=
  ds.map Digit.toChar

theorem ofChars?_toChars (ds : List Digit) : ofChars? (toChars ds) = some ds := by
  induction ds with
  | nil => rfl
  | cons d ds ih =>
    simp only [ofChars?, toChars, List.map_cons, List.mapM_cons, Digit.ofChar?_toChar] at *
    simp [ih]

/-- A number in decimal. -/
def text (n : Nat) : String :=
  String.ofList (toChars (ofNat n))

/-- Reads a 32-bit number: one or more digits, with a plus sign in front or not. -/
def readWord? (cs : List Char) : Option UInt32 := do
  let digits ← ofChars? (match cs with | '+' :: rest => rest | cs => cs)
  if digits.isEmpty || UInt32.size ≤ value digits then none
  else some (UInt32.ofNat (value digits))

end Digits

end FillScript
