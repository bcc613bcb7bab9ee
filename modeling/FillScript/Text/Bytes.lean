/-!
# Byte positions

The bytes of a text, counted in its UTF-8 form, and parts of a text between two byte positions. A
position inside a character bounds no part (`dropBytes?`, `takeBytes?`); where characters begin and
end is where `byteSize` of the characters before leads (`dropBytes?_byteSize`,
`takeBytes?_byteSize`).
-/

namespace FillScript.Text

/-- The number of bytes that characters take. -/
def byteSize : List Char → Nat
  | [] => 0
  | c :: cs => c.utf8Size + byteSize cs

/-- What follows the first `n` bytes. -/
def dropBytes? (n : Nat) : List Char → Option (List Char)
  | [] => if n = 0 then some [] else none
  | c :: cs =>
    if n = 0 then some (c :: cs)
    else if c.utf8Size ≤ n then dropBytes? (n - c.utf8Size) cs
    else none

/-- The characters in the first `n` bytes. -/
def takeBytes? (n : Nat) : List Char → Option (List Char)
  | [] => if n = 0 then some [] else none
  | c :: cs =>
    if n = 0 then some []
    else if c.utf8Size ≤ n then (takeBytes? (n - c.utf8Size) cs).map (c :: ·)
    else none

/-- The part from one byte position up to another. -/
def part? (start stop : Nat) (cs : List Char) : Option (List Char) :=
  (dropBytes? start cs).bind (takeBytes? (stop - start))

theorem dropBytes?_zero (cs : List Char) : dropBytes? 0 cs = some cs := by
  cases cs <;> simp [dropBytes?]

theorem takeBytes?_zero (cs : List Char) : takeBytes? 0 cs = some [] := by
  cases cs <;> simp [takeBytes?]

/-- Between characters a text can be parted: the end. -/
theorem dropBytes?_byteSize (before after : List Char) :
    dropBytes? (byteSize before) (before ++ after) = some after := by
  induction before with
  | nil => exact dropBytes?_zero after
  | cons c cs ih =>
    have := c.utf8Size_pos
    simp only [List.cons_append, dropBytes?, byteSize]
    rw [if_neg (by omega), if_pos (by omega), Nat.add_sub_cancel_left, ih]

/-- Between characters a text can be parted: the beginning. -/
theorem takeBytes?_byteSize (before after : List Char) :
    takeBytes? (byteSize before) (before ++ after) = some before := by
  induction before with
  | nil => exact takeBytes?_zero after
  | cons c cs ih =>
    have := c.utf8Size_pos
    simp only [List.cons_append, takeBytes?, byteSize]
    rw [if_neg (by omega), if_pos (by omega), Nat.add_sub_cancel_left, ih, Option.map_some]

end FillScript.Text
