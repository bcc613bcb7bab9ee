/-!
# Column labels

Columns are labelled by letters in bijective base 26: `A` to `Z`, then `AA` to `ZZ`, and so on. The
letter `A` counts as one, so there is no letter for nothing and every label is that of one number.
-/

namespace FillScript.Label

/-- The letters of a column counted from one, in front of `rest`. -/
def lettersOnto (n : Nat) (rest : List Char) : List Char :=
  if n = 0 then rest
  else lettersOnto ((n - 1) / 26) (Char.ofNat (65 + (n - 1) % 26) :: rest)
termination_by n
decreasing_by omega

/-- The letters of the column with index `col`. -/
def letters (col : UInt32) : List Char :=
  lettersOnto (col.toNat + 1) []

/-- The label of the column with index `col`. -/
def ofIndex (col : UInt32) : String :=
  String.ofList (letters col)

/-- What a letter counts; capitals and small letters count the same. -/
def letterValue? (c : Char) : Option Nat :=
  if 'A' ≤ c ∧ c ≤ 'Z' then some (c.toNat - 64)
  else if 'a' ≤ c ∧ c ≤ 'z' then some (c.toNat - 96)
  else none

/-- The number that letters following a number `n` spell. -/
def valueFrom? (n : Nat) : List Char → Option Nat
  | [] => some n
  | c :: cs => (letterValue? c).bind fun v => valueFrom? (26 * n + v) cs

/-- The index of the column with the given letters. There is none for other characters, for no
letters at all, and beyond the columns that can be counted in 32 bits. -/
def index? (letters : List Char) : Option UInt32 :=
  match valueFrom? 0 letters with
  | some (n + 1) => if n + 1 < UInt32.size then some (UInt32.ofNat n) else none
  | _ => none

end FillScript.Label
