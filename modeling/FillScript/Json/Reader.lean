import FillScript.Json.Value
import FillScript.Json.Literal

/-!
# Reading JSON text

`Json.read` gives every text a value and what follows it. Arrays and objects that are still open are
kept as a list of frames, innermost first, so that nesting costs no recursion. Where the text stops
being JSON, the open frames are closed around a `cut`, and nothing is left to read.
-/

namespace FillScript.Json

/-! ## Tokens -/

/-- Whether a character may stand between the tokens of a text. -/
def isSpace (c : Char) : Bool :=
  c == ' ' || c == '\n' || c == '\t' || c == '\r'

/-- The text from the next token on. -/
def skipSpace (cs : List Char) : List Char :=
  cs.dropWhile isSpace

theorem length_skipSpace_le (cs : List Char) : (skipSpace cs).length ≤ cs.length :=
  (List.dropWhile_sublist isSpace).length_le

/-- The digits that a text begins with, and what follows them. -/
def takeDigits : List Char → List Digit × List Char
  | [] => ([], [])
  | c :: cs =>
    match Digit.ofChar? c with
    | some d => let (ds, rest) := takeDigits cs; (d :: ds, rest)
    | none => ([], c :: cs)

theorem length_takeDigits (cs : List Char) :
    (takeDigits cs).1.length + (takeDigits cs).2.length = cs.length := by
  induction cs with
  | nil => rfl
  | cons c cs ih =>
    simp only [takeDigits]
    split
    · simp only [List.length_cons]
      omega
    · simp

/-- The digits of a fraction, if a point stands here: at least one has to follow it. -/
def takeFraction? : List Char → Option (List Digit × List Char)
  | '.' :: cs =>
    match takeDigits cs with
    | ([], _) => none
    | (ds, rest) => some (ds, rest)
  | cs => some ([], cs)

theorem length_takeFraction?_le {cs : List Char} {ds : List Digit} {rest : List Char}
    (htake : takeFraction? cs = some (ds, rest)) : rest.length ≤ cs.length := by
  unfold takeFraction? at htake
  split at htake
  · next tail =>
    have hlength := length_takeDigits tail
    split at htake
    · simp at htake
    · next hdigits =>
      simp only [Option.some.injEq, Prod.mk.injEq] at htake
      simp_all
      omega
  · simp_all

/-- The number that digits write with a sign. -/
def signedValue (negative : Bool) (ds : List Digit) : Int :=
  if negative then -Digits.value ds else Digits.value ds

/-- The sign of an exponent: whether it is negative, and what follows it. -/
def takeSign : List Char → Bool × List Char
  | '-' :: cs => (true, cs)
  | '+' :: cs => (false, cs)
  | cs => (false, cs)

theorem length_takeSign_le (cs : List Char) : (takeSign cs).2.length ≤ cs.length := by
  unfold takeSign
  split <;> simp

/-- An exponent, if one is announced here: a sign may stand before its digits. -/
def takeExponent? : List Char → Option (Option Int × List Char)
  | c :: cs =>
    if c = 'e' || c = 'E' then
      let (negative, cs) := takeSign cs
      match takeDigits cs with
      | ([], _) => none
      | (ds, rest) => some (some (signedValue negative ds), rest)
    else some (none, c :: cs)
  | [] => some (none, [])

theorem length_takeExponent?_le {cs : List Char} {e : Option Int} {rest : List Char}
    (htake : takeExponent? cs = some (e, rest)) : rest.length ≤ cs.length := by
  unfold takeExponent? at htake
  split at htake
  · next c tail =>
    have hsign := length_takeSign_le tail
    have hlength := length_takeDigits (takeSign tail).2
    split at htake
    · simp only at htake
      split at htake
      · simp at htake
      · next hdigits =>
        simp only [Option.some.injEq, Prod.mk.injEq] at htake
        simp_all
        omega
    · simp_all
  · simp_all

/-- The minus sign of a number: whether there is one, and what follows it. -/
def takeMinus : List Char → Bool × List Char
  | '-' :: cs => (true, cs)
  | cs => (false, cs)

theorem length_takeMinus_le (cs : List Char) : (takeMinus cs).2.length ≤ cs.length := by
  unfold takeMinus
  split <;> simp

/-- Whether digits may stand before the point: there are some, and more than one of them do not
begin with a zero. -/
def isWholePart (ds : List Digit) : Bool :=
  match ds with
  | [] => false
  | [_] => true
  | d :: _ => d != Digit.zero

/-- The numeral that a text begins with, and what follows it. -/
def takeNumeral? (cs : List Char) : Option (Numeral × List Char) :=
  let (negative, cs) := takeMinus cs
  let (whole, cs) := takeDigits cs
  if isWholePart whole then do
    let (fraction, cs) ← takeFraction? cs
    let (exponent, cs) ← takeExponent? cs
    return (⟨negative, whole, fraction, exponent⟩, cs)
  else none

theorem length_takeNumeral?_lt {cs : List Char} {n : Numeral} {rest : List Char}
    (htake : takeNumeral? cs = some (n, rest)) : rest.length < cs.length := by
  have hsign := length_takeMinus_le cs
  have hlength := length_takeDigits (takeMinus cs).2
  simp only [takeNumeral?] at htake
  split at htake
  · next hwhole =>
    simp only [bind, Option.bind_eq_some_iff, pure] at htake
    obtain ⟨⟨fraction, cs₁⟩, hfraction, ⟨e, cs₂⟩, hexponent, hrest⟩ := htake
    have hfirst := length_takeFraction?_le hfraction
    have hsecond := length_takeExponent?_le hexponent
    simp only [Option.some.injEq, Prod.mk.injEq] at hrest
    have hnonempty : 0 < (takeDigits (takeMinus cs).2).1.length := by
      cases hds : (takeDigits (takeMinus cs).2).1 with
      | nil => simp [hds, isWholePart] at hwhole
      | cons => simp
    rw [← hrest.2]
    simp only at hfirst hsecond ⊢
    omega
  · simp at htake

/-- A value other than an array or an object, and what follows it. -/
def takeScalar? (cs : List Char) : Option (Json × List Char) :=
  match cs with
  | '"' :: cs =>
    (Literal.read? cs).map fun (text, rest) => (text.elim .notText .string, rest)
  | 'n' :: 'u' :: 'l' :: 'l' :: rest => some (.null, rest)
  | 't' :: 'r' :: 'u' :: 'e' :: rest => some (.bool true, rest)
  | 'f' :: 'a' :: 'l' :: 's' :: 'e' :: rest => some (.bool false, rest)
  | cs => (takeNumeral? cs).map fun (numeral, rest) => (.number numeral, rest)

theorem length_takeScalar?_lt {cs : List Char} {value : Json} {rest : List Char}
    (htake : takeScalar? cs = some (value, rest)) : rest.length < cs.length := by
  unfold takeScalar? at htake
  split at htake
  · simp only [Option.map_eq_some_iff, Prod.mk.injEq, Prod.exists] at htake
    obtain ⟨text, rest', hread, -, rfl⟩ := htake
    have := Literal.length_of_read? hread
    simp
    omega
  · simp_all; omega
  · simp_all; omega
  · simp_all; omega
  · simp only [Option.map_eq_some_iff, Prod.mk.injEq, Prod.exists] at htake
    obtain ⟨numeral, rest', hnumeral, -, rfl⟩ := htake
    exact length_takeNumeral?_lt hnumeral

/-! ## Open arrays and objects -/

/-- An array or object that is still open, with what it holds so far, last first. -/
inductive Frame where
  /-- An array in which an item comes next. -/
  | item (before : List Json)
  /-- An object in which the value for `key` comes next. -/
  | entry (before : List (Option String × Json)) (key : Option String)

/-- The array or object when its last value is `value`. -/
def Frame.close (value : Json) : Frame → Json
  | .item before => .array (value :: before).reverse
  | .entry before key => .object ((key, value) :: before).reverse

/-- What is open when the text stops being JSON where `value` is the last value. -/
def closeAll (value : Json) (frames : List Frame) : Json :=
  frames.foldl Frame.close value

/-- What comes next in a text. -/
inductive Expected where
  /-- A value. -/
  | value
  /-- A value, or the end of the array that was opened just now. -/
  | firstItem
  /-- A key of an object with these entries, last first. -/
  | key (before : List (Option String × Json))
  /-- A key, or the end of the object that was opened just now. -/
  | firstKey
  /-- What follows this complete value. -/
  | afterValue (value : Json)

/-- What one step of reading leads to: a value and the text after it, or more to read. -/
inductive Progress where
  | done (value : Json) (rest : List Char)
  | more (expected : Expected) (frames : List Frame) (rest : List Char)

/-- The text stops being JSON where a value should come next. -/
def cutShort (frames : List Frame) : Progress :=
  .done (closeAll .cut frames) []

/-! ## Steps -/

/-- Reads a key and the colon after it. -/
def stepKey (before : List (Option String × Json)) (frames : List Frame) (cs : List Char) :
    Progress :=
  match cs with
  | '"' :: cs =>
    match Literal.read? cs with
    | some (key, rest) =>
      match skipSpace rest with
      | ':' :: rest => .more .value (.entry before key :: frames) rest
      | _ => cutShort (.entry before key :: frames)
    | none => cutShort (.entry before none :: frames)
  | _ => cutShort (.entry before none :: frames)

/-- Reads a value, of an array or object only the opening bracket. -/
def stepValue (frames : List Frame) (cs : List Char) : Progress :=
  match cs with
  | '[' :: rest => .more .firstItem frames rest
  | '{' :: rest => .more .firstKey frames rest
  | cs =>
    match takeScalar? cs with
    | some (value, rest) => .more (.afterValue value) frames rest
    | none => cutShort frames

/-- Reads what follows a value in the innermost open array or object. -/
def stepAfter (value : Json) (frames : List Frame) (cs : List Char) : Progress :=
  match frames with
  | [] => .done value cs
  | .item before :: frames =>
    match skipSpace cs with
    | ',' :: rest => .more .value (.item (value :: before) :: frames) rest
    | ']' :: rest => .more (.afterValue (Frame.close value (.item before))) frames rest
    | _ => cutShort (.item (value :: before) :: frames)
  | .entry before key :: frames =>
    match skipSpace cs with
    | ',' :: rest => .more (.key ((key, value) :: before)) frames rest
    | '}' :: rest => .more (.afterValue (Frame.close value (.entry before key))) frames rest
    | _ => cutShort (.entry ((key, value) :: before) none :: frames)

/-- One step of reading. -/
def step (expected : Expected) (frames : List Frame) (cs : List Char) : Progress :=
  match expected with
  | .value => stepValue frames (skipSpace cs)
  | .firstItem =>
    match skipSpace cs with
    | ']' :: rest => .more (.afterValue (.array [])) frames rest
    | cs => stepValue (.item [] :: frames) cs
  | .key before => stepKey before frames (skipSpace cs)
  | .firstKey =>
    match skipSpace cs with
    | '}' :: rest => .more (.afterValue (.object [])) frames rest
    | cs => stepKey [] frames cs
  | .afterValue value => stepAfter value frames cs

/-! ## Every step reads on -/

theorem length_of_stepKey {before : List (Option String × Json)} {frames frames' : List Frame}
    {cs rest : List Char} {expected : Expected}
    (hstep : stepKey before frames cs = .more expected frames' rest) :
    rest.length < cs.length := by
  unfold stepKey at hstep
  split at hstep
  · next tail =>
    split at hstep
    · next key after hread =>
      have hkey := Literal.length_of_read? hread
      have hspace := length_skipSpace_le after
      split at hstep
      · next hcolon =>
        rw [hcolon] at hspace
        simp only [Progress.more.injEq, List.length_cons] at hstep hspace ⊢
        rw [← hstep.2.2]
        omega
      · simp [cutShort] at hstep
    · simp [cutShort] at hstep
  · simp [cutShort] at hstep

theorem length_of_stepValue {frames frames' : List Frame} {cs rest : List Char}
    {expected : Expected} (hstep : stepValue frames cs = .more expected frames' rest) :
    rest.length < cs.length := by
  unfold stepValue at hstep
  split at hstep
  · simp_all
  · simp_all
  · split at hstep
    · next hscalar =>
      simp only [Progress.more.injEq] at hstep
      rw [← hstep.2.2]
      exact length_takeScalar?_lt hscalar
    · simp [cutShort] at hstep

theorem length_of_stepAfter {value : Json} {frames frames' : List Frame} {cs rest : List Char}
    {expected : Expected} (hstep : stepAfter value frames cs = .more expected frames' rest) :
    rest.length < cs.length := by
  have hspace := length_skipSpace_le cs
  unfold stepAfter at hstep
  split at hstep
  · simp at hstep
  all_goals
    split at hstep
    · next htoken =>
      rw [htoken] at hspace
      simp only [Progress.more.injEq, List.length_cons] at hstep hspace
      rw [← hstep.2.2]
      omega
    · next htoken =>
      rw [htoken] at hspace
      simp only [Progress.more.injEq, List.length_cons] at hstep hspace
      rw [← hstep.2.2]
      omega
    · simp [cutShort] at hstep

/-- Every step but the last reads a character. -/
theorem length_of_step {expected expected' : Expected} {frames frames' : List Frame}
    {cs rest : List Char} (hstep : step expected frames cs = .more expected' frames' rest) :
    rest.length < cs.length := by
  have hspace := length_skipSpace_le cs
  unfold step at hstep
  split at hstep
  · have := length_of_stepValue hstep
    omega
  · split at hstep
    · next htoken =>
      rw [htoken] at hspace
      simp only [Progress.more.injEq, List.length_cons] at hstep hspace
      rw [← hstep.2.2]
      omega
    · have := length_of_stepValue hstep
      omega
  · have := length_of_stepKey hstep
    omega
  · split at hstep
    · next htoken =>
      rw [htoken] at hspace
      simp only [Progress.more.injEq, List.length_cons] at hstep hspace
      rw [← hstep.2.2]
      omega
    · have := length_of_stepKey hstep
      omega
  · exact length_of_stepAfter hstep

/-- Reads on to the end of the value. -/
def readOn (expected : Expected) (frames : List Frame) (cs : List Char) : Json × List Char :=
  match _hstep : step expected frames cs with
  | .done value rest => (value, rest)
  | .more expected' frames' rest => readOn expected' frames' rest
termination_by cs.length
decreasing_by exact length_of_step _hstep

/-- The value that a text begins with, and what follows it. -/
def read (s : String) : Json × List Char :=
  readOn .value [] s.toList

end FillScript.Json
