import FillScript.Json.Printer
import FillScript.Proofs.Number.Writing

/-!
# Tokens are read as they were written

The tokens of JSON text, written and read again. A literal gives its text back, whatever characters
it holds (`Literal.read?_write`): every character comes back from its escape, and no character is
half a surrogate pair. A numeral comes back if nothing after it can be taken for a part of it
(`takeNumeral?_chars`), which is said of the text after it by `EndsNumeral`.
-/

namespace FillScript

namespace Json

/-! ## Literals -/

namespace Literal

/-- Control characters come back from their hexadecimal digits. -/
theorem hexValues?_hexDigit {n : Nat} (hn : n < 0x20) :
    hexValues? '0' '0' (hexDigit (n / 16)) (hexDigit (n % 16)) = some n := by
  revert n
  decide

/-- An escaped character is read as one unit. -/
theorem units?_escape (read : List Nat) (c : Char) (cs : List Char) :
    units? read (escape c ++ cs) = units? (c.toNat :: read) cs := by
  by_cases hcontrol : c.toNat < 0x20
  · -- a control character has an escape of its own or four hexadecimal digits
    unfold escape
    split
    all_goals try simp [units?, escaped?]
    rw [if_pos hcontrol]
    show units? read ('\\' :: 'u' :: '0' :: '0' :: hexDigit (c.toNat / 16) ::
      hexDigit (c.toNat % 16) :: cs) = _
    rw [units?, hexValues?_hexDigit hcontrol]
  · unfold escape
    split
    all_goals try simp [units?, escaped?]
    next hquote hbackslash _ _ _ _ _ =>
      rw [if_neg hcontrol]
      show units? read (c :: cs) = _
      rw [units?.eq_4 read c cs hquote (fun _ _ _ _ _ h _ => hbackslash h)
        fun _ _ h _ => hbackslash h]
      have hplain : ¬(decide (c.toNat < 32) || decide (c = '\\')) = true := by
        simpa using ⟨Nat.not_lt.1 hcontrol, hbackslash⟩
      rw [if_neg hplain]

theorem units?_flatMap_escape (read : List Nat) (cs rest : List Char) :
    units? read (cs.flatMap escape ++ '"' :: rest) =
      some (read.reverse ++ cs.map Char.toNat, rest) := by
  induction cs generalizing read with
  | nil => simp [units?]
  | cons c cs ih =>
    rw [List.flatMap_cons, List.append_assoc, units?_escape, ih]
    simp

theorem not_half (c : Char) : isHighHalf c.toNat = false ∧ isLowHalf c.toNat = false := by
  have hvalid : c.toNat < 0xD800 ∨ (0xDFFF < c.toNat ∧ c.toNat < 0x110000) := c.valid
  simp only [isHighHalf, isLowHalf, Bool.and_eq_false_iff, decide_eq_false_iff_not]
  omega

/-- Characters as units spell themselves. -/
theorem spell?_map_toNat (spelled cs : List Char) :
    spell? spelled (cs.map Char.toNat) = some (spelled.reverse ++ cs) := by
  induction cs generalizing spelled with
  | nil => simp [spell?]
  | cons c cs ih =>
    obtain ⟨hhigh, hlow⟩ := not_half c
    cases cs with
    | nil => simp [spell?, hhigh, hlow]
    | cons next cs =>
      rw [List.map_cons, List.map_cons, spell?, hhigh, hlow, Char.ofNat_toNat]
      have hrest := ih (c :: spelled)
      rw [List.map_cons] at hrest
      simpa using hrest

/-- A literal gives its text back. -/
theorem read?_write (s : String) (rest : List Char) :
    read? (s.toList.flatMap escape ++ '"' :: rest) = some (some s, rest) := by
  rw [read?, units?_flatMap_escape, List.reverse_nil, List.nil_append, Option.map_some]
  simp [spell?_map_toNat]

end Literal

/-! ## Numerals -/

/-- Nothing at the beginning of a text can be taken for a part of a numeral in front of it. -/
def EndsNumeral (rest : List Char) : Prop :=
  ∀ c ∈ rest.head?, Digit.ofChar? c = none ∧ c ≠ '.' ∧ c ≠ 'e' ∧ c ≠ 'E'

theorem takeDigits_toChars (ds : List Digit) {rest : List Char}
    (hrest : ∀ c ∈ rest.head?, Digit.ofChar? c = none) :
    takeDigits (Digits.toChars ds ++ rest) = (ds, rest) := by
  induction ds with
  | nil =>
    cases rest with
    | nil => rfl
    | cons c rest =>
      have hc : Digit.ofChar? c = none := hrest c rfl
      show takeDigits (c :: rest) = _
      rw [takeDigits, hc]
  | cons d ds ih =>
    show takeDigits (d.toChar :: (Digits.toChars ds ++ rest)) = _
    rw [takeDigits, Digit.ofChar?_toChar, ih]

theorem signedValue_natAbs (e : Int) :
    signedValue (e < 0) (Digits.ofNat e.natAbs) = e := by
  rw [signedValue, Digits.value_ofNat]
  by_cases he : e < 0
  · rw [if_pos (by simpa using he)]
    omega
  · rw [if_neg (by simpa using he)]
    omega

/-- The characters of an exponent, if there is one. -/
def exponentChars : Option Int → List Char
  | some e => Numeral.exponentText e
  | none => []

theorem takeSign_exponent (e : Int) (cs : List Char) :
    takeSign ((if e < 0 then '-' else '+') :: cs) = (decide (e < 0), cs) := by
  by_cases he : e < 0
  · rw [if_pos he, takeSign, decide_eq_true he]
  · rw [if_neg he, takeSign, decide_eq_false he]

theorem takeExponent?_chars (exponent : Option Int) {rest : List Char}
    (hrest : EndsNumeral rest) :
    takeExponent? (exponentChars exponent ++ rest) = some (exponent, rest) := by
  cases exponent with
  | none =>
    cases rest with
    | nil => rfl
    | cons c rest =>
      obtain ⟨-, -, he, hE⟩ := hrest c rfl
      show takeExponent? (c :: rest) = _
      rw [takeExponent?, if_neg (by simp [he, hE])]
  | some e =>
    show takeExponent? ('e' :: (if e < 0 then '-' else '+') ::
      (Digits.toChars (Digits.ofNat e.natAbs) ++ rest)) = _
    rw [takeExponent?, if_pos (by decide), takeSign_exponent]
    dsimp only
    rw [takeDigits_toChars _ fun c hc => (hrest c hc).1]
    cases hdigits : Digits.ofNat e.natAbs with
    | nil => exact absurd hdigits (Digits.ofNat_ne_nil _)
    | cons d ds =>
      dsimp only
      rw [← hdigits, signedValue_natAbs]

/-- The characters of a fraction: a point stands only before digits. -/
def fractionChars (ds : List Digit) : List Char :=
  if ds.isEmpty then [] else '.' :: Digits.toChars ds

theorem takeFraction?_chars (ds : List Digit) {rest : List Char}
    (hrest : ∀ c ∈ rest.head?, Digit.ofChar? c = none ∧ c ≠ '.') :
    takeFraction? (fractionChars ds ++ rest) = some (ds, rest) := by
  cases ds with
  | nil =>
    cases rest with
    | nil => rfl
    | cons c rest =>
      have hpoint : c ≠ '.' := (hrest c rfl).2
      show takeFraction? (c :: rest) = _
      rw [takeFraction?]
      exact fun _ h => hpoint (List.cons.inj h).1
  | cons d ds =>
    show takeFraction? ('.' :: (Digits.toChars (d :: ds) ++ rest)) = _
    rw [takeFraction?, takeDigits_toChars _ fun c hc => (hrest c hc).1]

theorem head?_exponentChars (exponent : Option Int) {rest : List Char}
    (hrest : EndsNumeral rest) :
    ∀ c ∈ (exponentChars exponent ++ rest).head?, Digit.ofChar? c = none ∧ c ≠ '.' := by
  intro c hc
  cases exponent with
  | none => exact ⟨(hrest c hc).1, (hrest c hc).2.1⟩
  | some e =>
    obtain rfl : 'e' = c := by simpa [exponentChars, Numeral.exponentText] using hc
    decide

theorem head?_fractionChars (ds : List Digit) {rest : List Char}
    (hrest : ∀ c ∈ rest.head?, Digit.ofChar? c = none ∧ c ≠ '.') :
    ∀ c ∈ (fractionChars ds ++ rest).head?, Digit.ofChar? c = none := by
  intro c hc
  cases ds with
  | nil => exact (hrest c hc).1
  | cons d ds =>
    obtain rfl : '.' = c := by simpa [fractionChars] using hc
    decide

/-- The characters of a numeral, part by part. -/
theorem chars_append (n : Numeral) (rest : List Char) :
    n.chars ++ rest = (if n.negative then ['-'] else []) ++ (Digits.toChars n.whole ++
      (fractionChars n.fraction ++ (exponentChars n.exponent ++ rest))) := by
  simp only [Numeral.chars, fractionChars, List.append_assoc]
  cases n.exponent <;> rfl

theorem toChar_ne (d : Digit) : d.toChar ≠ '-' ∧ isSpace d.toChar = false ∧
    d.toChar ∉ ['"', 'n', 't', 'f', '[', '{', ']'] := by
  revert d
  decide

/-- A proper numeral begins with a minus or with a digit. -/
theorem chars_eq_cons {n : Numeral} (hn : n.IsProper) :
    ∃ c cs, n.chars = c :: cs ∧ (c = '-' ∨ ∃ d : Digit, c = d.toChar) := by
  have hchars := chars_append n []
  rw [List.append_nil] at hchars
  rw [hchars]
  cases n.negative with
  | true => exact ⟨'-', _, rfl, .inl rfl⟩
  | false =>
    cases hwhole : n.whole with
    | nil => exact absurd hwhole (ne_nil_of_isWholePart hn)
    | cons d ds => exact ⟨d.toChar, _, rfl, .inr ⟨d, rfl⟩⟩

theorem takeMinus_chars (negative : Bool) {whole : List Digit} (hwhole : whole ≠ [])
    (rest : List Char) :
    takeMinus ((if negative then ['-'] else []) ++ (Digits.toChars whole ++ rest)) =
      (negative, Digits.toChars whole ++ rest) := by
  cases negative with
  | true => rfl
  | false =>
    cases whole with
    | nil => exact absurd rfl hwhole
    | cons d ds =>
      show takeMinus (d.toChar :: (Digits.toChars ds ++ rest)) = _
      rw [takeMinus]
      · rfl
      · exact fun _ h => (toChar_ne d).1 (List.cons.inj h).1

/-- A proper numeral gives itself back. -/
theorem takeNumeral?_chars {n : Numeral} (hn : n.IsProper) {rest : List Char}
    (hrest : EndsNumeral rest) : takeNumeral? (n.chars ++ rest) = some (n, rest) := by
  have hfraction := head?_exponentChars n.exponent hrest
  have hwhole := head?_fractionChars n.fraction hfraction
  rw [chars_append, takeNumeral?, takeMinus_chars _ (ne_nil_of_isWholePart hn)]
  dsimp only
  rw [takeDigits_toChars _ hwhole]
  dsimp only
  rw [if_pos (show isWholePart n.whole = true from hn), takeFraction?_chars _ hfraction]
  dsimp only [bind, Option.bind]
  rw [takeExponent?_chars _ hrest]
  rfl

/-! ## Scalars -/

theorem takeScalar?_string (s : String) (rest : List Char) :
    takeScalar? (scalarChars (.string s) ++ rest) = some (.string s, rest) := by
  show takeScalar? ('"' :: (s.toList.flatMap Literal.escape ++ ['"'] ++ rest)) = _
  rw [takeScalar?, List.append_assoc]
  show (Literal.read? (s.toList.flatMap Literal.escape ++ '"' :: rest)).map _ = _
  rw [Literal.read?_write]
  rfl

/-- A numeral is no other scalar and no bracket. -/
theorem chars_head {n : Numeral} (hn : n.IsProper) :
    ∃ c cs, n.chars = c :: cs ∧ isSpace c = false ∧ c ∉ ['"', 'n', 't', 'f', '[', '{', ']'] := by
  obtain ⟨c, cs, hchars, rfl | ⟨d, rfl⟩⟩ := chars_eq_cons hn
  · exact ⟨'-', cs, hchars, by decide, by decide⟩
  · exact ⟨d.toChar, cs, hchars, (toChar_ne d).2⟩

theorem takeScalar?_number {n : Numeral} (hn : n.IsProper) {rest : List Char}
    (hrest : EndsNumeral rest) :
    takeScalar? (scalarChars (.number n) ++ rest) = some (.number n, rest) := by
  obtain ⟨c, cs, hchars, -, hc⟩ := chars_head hn
  have hother (other : Char) (hmem : other ∈ ['"', 'n', 't', 'f', '[', '{', ']'])
      (tail : List Char) : n.chars ++ rest ≠ other :: tail := by
    rw [hchars]
    intro heq
    exact hc ((List.cons.inj heq).1 ▸ hmem)
  show takeScalar? (n.chars ++ rest) = _
  rw [takeScalar?.eq_5 _ (hother _ (by decide)) (fun _ => hother _ (by decide) _)
    (fun _ => hother _ (by decide) _) fun _ => hother _ (by decide) _,
    takeNumeral?_chars hn hrest]
  rfl

end Json

end FillScript
