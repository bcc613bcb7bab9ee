import FillScript.Sheet.Codec
import FillScript.Text.Place

/-!
# Where a stored workbook is at fault

A faulty key of a cell table is found once its cell has been read: the texts that begin like the
stored one have the fault from some length on, and that length is looked for by halving
(`leastFrom_le`, `apply_leastFrom`).
-/

namespace FillScript.Workbook

/-- The least number from `low` up to `low + width` that satisfies `p`, if all numbers from some one
of them on do. -/
def leastFrom (p : Nat → Bool) (low width : Nat) : Nat :=
  if width = 0 then low
  else if p (low + width / 2) then leastFrom p low (width / 2)
  else leastFrom p (low + width / 2 + 1) (width - width / 2 - 1)
termination_by width

/-- No number that satisfies `p` is less. -/
theorem leastFrom_le {p : Nat → Bool} {low width n : Nat}
    (hmono : ∀ m k, m ≤ k → p m = true → p k = true) (hlow : low ≤ n) (hn : p n = true) :
    leastFrom p low width ≤ n := by
  induction width using Nat.strongRecOn generalizing low with
  | ind width ih =>
    unfold leastFrom
    split
    · exact hlow
    · split
      · exact ih _ (by omega) hlow
      · next hhalf =>
        refine ih _ (by omega) ?_
        by_cases hle : n ≤ low + width / 2
        · exact absurd (hmono n _ hle hn) hhalf
        · omega

/-- The number found satisfies `p`. -/
theorem apply_leastFrom {p : Nat → Bool} {low width : Nat} (hlast : p (low + width) = true) :
    p (leastFrom p low width) = true := by
  induction width using Nat.strongRecOn generalizing low with
  | ind width ih =>
    unfold leastFrom
    split
    · next hzero => simpa [hzero] using hlast
    · split
      · next hhalf => exact ih _ (by omega) hhalf
      · refine ih _ (by omega) ?_
        rwa [show low + width / 2 + 1 + (width - width / 2 - 1) = low + width by omega]

/-- Whether reading characters comes to a fault. -/
def hasFault (fault : ReadError) (cs : List Char) : Bool :=
  match ofText (String.ofList cs) with
  | .error found => found == fault
  | .ok _ => false

/-- The place up to which a text has been read when it is refused for a key: after its cell, the
space there, and the end of the table if it stands there. -/
def faultPlace? (s : String) : ReadError → Option Text.Place
  | .malformed => none
  | .cellKey key =>
    let cs := s.toList
    let length := leastFrom (fun n => hasFault (.cellKey key) (cs.take n)) 0 cs.length
    let rest := Json.skipSpace (cs.drop length)
    let rest := if rest.head? == some '\x7d' then rest.tail else rest
    some (.after (cs.take (cs.length - rest.length)))

end FillScript.Workbook
