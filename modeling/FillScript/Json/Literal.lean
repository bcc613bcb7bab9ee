import FillScript.Number.Digits

/-!
# JSON string literals

Inside the quotes of a literal a character stands for itself or is written as an escape. An escape
`\u` gives a unit of UTF-16, so a literal is first read as a list of units, and these spell a text
unless half a surrogate pair stands alone. `escape` writes a character the way documents store it:
only quotes, backslashes and control characters are escaped.
-/

namespace FillScript.Json.Literal

/-- The value of a hexadecimal digit. -/
def hexValue? (c : Char) : Option Nat :=
  let n := c.toNat
  if 48 ≤ n && n ≤ 57 then some (n - 48)
  else if 65 ≤ n && n ≤ 70 then some (n - 55)
  else if 97 ≤ n && n ≤ 102 then some (n - 87)
  else none

/-- The number that four hexadecimal digits spell. -/
def hexValues? (a b c d : Char) : Option Nat := do
  let a ← hexValue? a
  let b ← hexValue? b
  let c ← hexValue? c
  let d ← hexValue? d
  return ((a * 16 + b) * 16 + c) * 16 + d

/-- The character that a letter after a backslash stands for. -/
def escaped? (c : Char) : Option Char :=
  match c with
  | '"' => some '"'
  | '\\' => some '\\'
  | '/' => some '/'
  | 'b' => some '\x08'
  | 'f' => some '\x0c'
  | 'n' => some '\n'
  | 'r' => some '\r'
  | 't' => some '\t'
  | _ => none

/-- The units of a literal up to its closing quote, in front of which `read` were read, last first,
and what follows the quote. A unit is a character or half a surrogate pair, as a number. -/
def units? (read : List Nat) : List Char → Option (List Nat × List Char)
  | '"' :: rest => some (read.reverse, rest)
  | '\\' :: 'u' :: a :: b :: c :: d :: rest =>
    match hexValues? a b c d with
    | some n => units? (n :: read) rest
    | none => none
  | '\\' :: c :: rest =>
    match escaped? c with
    | some c => units? (c.toNat :: read) rest
    | none => none
  | c :: rest => if c.toNat < 0x20 || c = '\\' then none else units? (c.toNat :: read) rest
  | [] => none

theorem length_of_units? {read : List Nat} {cs : List Char} {units : List Nat} {rest : List Char}
    (hread : units? read cs = some (units, rest)) : rest.length < cs.length := by
  fun_induction units? read cs with
  | case1 => simp_all
  | case2 | case4 | case7 => rename_i ih; have := ih hread; simp; omega
  | case3 | case5 | case6 | case8 => simp_all

/-- Whether a unit is the first half of a surrogate pair. -/
def isHighHalf (n : Nat) : Bool :=
  0xD800 ≤ n && n ≤ 0xDBFF

/-- Whether a unit is the second half of a surrogate pair. -/
def isLowHalf (n : Nat) : Bool :=
  0xDC00 ≤ n && n ≤ 0xDFFF

/-- The characters that units spell, after those in `spelled`, last first. -/
def spell? (spelled : List Char) : List Nat → Option (List Char)
  | [] => some spelled.reverse
  | [n] =>
    if isHighHalf n || isLowHalf n then none else some (Char.ofNat n :: spelled).reverse
  | high :: low :: rest =>
    if isHighHalf high then
      if isLowHalf low then
        spell? (Char.ofNat (0x10000 + (high - 0xD800) * 0x400 + (low - 0xDC00)) :: spelled) rest
      else none
    else if isLowHalf high then none
    else spell? (Char.ofNat high :: spelled) (low :: rest)

/-- Reads a literal whose opening quote is read already: its text, if it spells one, and what
follows it. -/
def read? (cs : List Char) : Option (Option String × List Char) :=
  (units? [] cs).map fun (units, rest) => ((spell? [] units).map String.ofList, rest)

theorem length_of_read? {cs : List Char} {text : Option String} {rest : List Char}
    (hread : read? cs = some (text, rest)) : rest.length < cs.length := by
  simp only [read?, Option.map_eq_some_iff, Prod.mk.injEq, Prod.exists] at hread
  obtain ⟨units, rest', hunits, -, rfl⟩ := hread
  exact length_of_units? hunits

/-- A digit of hexadecimal notation, in lower case. -/
def hexDigit (n : Nat) : Char :=
  Char.ofNat (if n < 10 then 48 + n else 87 + n)

/-- A character as it stands in a literal. -/
def escape (c : Char) : List Char :=
  match c with
  | '"' => ['\\', '"']
  | '\\' => ['\\', '\\']
  | '\x08' => ['\\', 'b']
  | '\x0c' => ['\\', 'f']
  | '\n' => ['\\', 'n']
  | '\r' => ['\\', 'r']
  | '\t' => ['\\', 't']
  | c =>
    if c.toNat < 0x20 then
      ['\\', 'u', '0', '0', hexDigit (c.toNat / 16), hexDigit (c.toNat % 16)]
    else [c]

/-- The literal of a text, quotes included. -/
def write (s : String) : List Char :=
  '"' :: s.toList.flatMap escape ++ ['"']

end FillScript.Json.Literal
