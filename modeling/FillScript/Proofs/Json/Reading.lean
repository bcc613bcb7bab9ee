import FillScript.Proofs.Json.Tokens

/-!
# JSON text is read as it was written

The indented text of a value gives the value back (`read_pretty`), if the value is made from data
(`IsData`): it holds nothing that only a faulty text can hold, and its numerals are proper. The
proof follows the frames of the reader. A value is read to its end in front of any text that does
not continue a numeral, whatever is open around it (`ReadsBack`), the items of an array one by one
(`readOn_prettyItems`), and the entries of an object in the same way (`readOn_prettyEntries`).
-/

namespace FillScript.Json

/-- A value made from data: every literal is a text, every numeral is proper and nothing is cut off.
-/
inductive IsData : Json → Prop where
  | null : IsData .null
  | bool (value : Bool) : IsData (.bool value)
  | number {n : Numeral} (hn : n.IsProper) : IsData (.number n)
  | string (text : String) : IsData (.string text)
  | array {items : List Json} (hitems : ∀ item ∈ items, IsData item) : IsData (.array items)
  | object {entries : List (Option String × Json)} (hkeys : ∀ entry ∈ entries, entry.1.isSome)
    (hvalues : ∀ entry ∈ entries, IsData entry.2) : IsData (.object entries)

/-! ## Steps of reading -/

theorem readOn_eq (expected : Expected) (frames : List Frame) (cs : List Char) :
    readOn expected frames cs =
      match step expected frames cs with
      | .done value rest => (value, rest)
      | .more expected' frames' rest => readOn expected' frames' rest := by
  rw [readOn]
  split <;> simp_all

theorem readOn_of_more {expected expected' : Expected} {frames frames' : List Frame}
    {cs rest : List Char} (hstep : step expected frames cs = .more expected' frames' rest) :
    readOn expected frames cs = readOn expected' frames' rest := by
  rw [readOn_eq, hstep]

theorem readOn_congr {expected expected' : Expected} {frames frames' : List Frame}
    {cs cs' : List Char} (hstep : step expected frames cs = step expected' frames' cs') :
    readOn expected frames cs = readOn expected' frames' cs' := by
  rw [readOn_eq, readOn_eq expected', hstep]

theorem skipSpace_cons {c : Char} (hc : isSpace c = false) (cs : List Char) :
    skipSpace (c :: cs) = c :: cs := by
  rw [skipSpace, List.dropWhile_cons, hc]
  rfl

/-- Line feeds and indentations are passed over. -/
theorem skipSpace_newLine (level : Nat) (cs : List Char) :
    skipSpace (newLine level ++ cs) = skipSpace cs := by
  refine List.dropWhile_append_of_pos fun c hc => ?_
  rcases List.mem_cons.1 hc with rfl | hspace
  · decide
  · rw [List.eq_of_mem_replicate hspace]
    decide

theorem endsNumeral_nil : EndsNumeral [] := by
  intro c hc
  simp at hc

theorem endsNumeral_comma (cs : List Char) : EndsNumeral (',' :: cs) := by
  intro c hc
  obtain rfl : ',' = c := by simpa using hc
  decide

theorem endsNumeral_newLine (level : Nat) (cs : List Char) :
    EndsNumeral (newLine level ++ cs) := by
  intro c hc
  obtain rfl : '\n' = c := by simpa [newLine] using hc
  decide

section

variable (frames : List Frame) (level : Nat) (cs : List Char)

theorem readOn_value_newLine :
    readOn .value frames (newLine level ++ cs) = readOn .value frames cs := by
  apply readOn_congr
  rw [step, step, skipSpace_newLine]

theorem readOn_value_space : readOn .value frames (' ' :: cs) = readOn .value frames cs :=
  readOn_congr rfl

theorem readOn_key_newLine (before : List (Option String × Json)) :
    readOn (.key before) frames (newLine level ++ cs) = readOn (.key before) frames cs := by
  apply readOn_congr
  rw [step, step, skipSpace_newLine]

/-- After an item a comma leads to the next one. -/
theorem readOn_comma_item (value : Json) (before : List Json) :
    readOn (.afterValue value) (.item before :: frames) (',' :: cs) =
      readOn .value (.item (value :: before) :: frames) cs :=
  readOn_of_more rfl

/-- After an item a bracket closes the array. -/
theorem readOn_close_array (value : Json) (before : List Json) :
    readOn (.afterValue value) (.item before :: frames) (newLine level ++ ']' :: cs) =
      readOn (.afterValue (.array (value :: before).reverse)) frames cs := by
  apply readOn_of_more
  rw [step, stepAfter, skipSpace_newLine, skipSpace_cons (by decide)]
  rfl

/-- After an entry a comma leads to the next one. -/
theorem readOn_comma_entry (value : Json) (before : List (Option String × Json))
    (key : Option String) :
    readOn (.afterValue value) (.entry before key :: frames) (',' :: cs) =
      readOn (.key ((key, value) :: before)) frames cs :=
  readOn_of_more rfl

/-- After an entry a brace closes the object. -/
theorem readOn_close_object (value : Json) (before : List (Option String × Json))
    (key : Option String) :
    readOn (.afterValue value) (.entry before key :: frames) (newLine level ++ '}' :: cs) =
      readOn (.afterValue (.object ((key, value) :: before).reverse)) frames cs := by
  apply readOn_of_more
  rw [step, stepAfter, skipSpace_newLine, skipSpace_cons (by decide)]
  rfl

/-- A key leads to its value. -/
theorem readOn_keyChars (before : List (Option String × Json)) (key : String) :
    readOn (.key before) frames (keyChars (some key) ++ ':' :: cs) =
      readOn .value (.entry before (some key) :: frames) cs := by
  apply readOn_of_more
  have hchars : keyChars (some key) ++ ':' :: cs =
      '"' :: (key.toList.flatMap Literal.escape ++ '"' :: ':' :: cs) := by
    simp [keyChars, Literal.write]
  rw [hchars, step, skipSpace_cons (by decide), stepKey, Literal.read?_write]
  rfl

end

/-! ## Values -/

/-- The text of a value is read to its end, whatever is open around it. -/
def ReadsBack (value : Json) : Prop :=
  ∀ (level : Nat) (frames : List Frame) (rest : List Char), EndsNumeral rest →
    readOn .value frames (prettyChars level value ++ rest) = readOn (.afterValue value) frames rest

/-- The text of a value begins with a character that is neither a space nor a closing bracket. -/
theorem prettyChars_eq_cons {value : Json} (hvalue : IsData value) (level : Nat) :
    ∃ c cs, prettyChars level value = c :: cs ∧ isSpace c = false ∧ c ≠ ']' := by
  cases hvalue with
  | null => exact ⟨'n', _, rfl, by decide, by decide⟩
  | bool value => cases value <;> exact ⟨_, _, rfl, by decide, by decide⟩
  | number hn =>
    obtain ⟨c, cs, hchars, hspace, hc⟩ := chars_head hn
    refine ⟨c, cs, hchars, hspace, fun hclose => ?_⟩
    subst hclose
    exact hc (by decide)
  | string text => exact ⟨'"', _, rfl, by decide, by decide⟩
  | @array items _ => cases items <;> exact ⟨'[', _, rfl, by decide, by decide⟩
  | @object entries _ _ => cases entries <;> exact ⟨'\x7b', _, rfl, by decide, by decide⟩

/-- In an array that was just opened, an item is read like any other. -/
theorem readOn_firstItem (frames : List Frame) {cs : List Char} {c : Char} {tail : List Char}
    (hcs : skipSpace cs = c :: tail) (hc : c ≠ ']') :
    readOn .firstItem frames cs = readOn .value (.item [] :: frames) cs := by
  apply readOn_congr
  rw [step, step, hcs]
  split
  · next heq => exact absurd (List.cons.inj heq).1 hc
  · rfl

/-- In an object that was just opened, a key is read like any other. -/
theorem readOn_firstKey (frames : List Frame) {cs tail : List Char}
    (hcs : skipSpace cs = '"' :: tail) :
    readOn .firstKey frames cs = readOn (.key []) frames cs := by
  apply readOn_congr
  rw [step, step, hcs]
  rfl

theorem readOn_scalar (frames : List Frame) {value : Json} {cs rest : List Char} {c : Char}
    {tail : List Char} (hcs : cs = c :: tail) (hspace : isSpace c = false)
    (hc : c ≠ '[' ∧ c ≠ '\x7b') (hscalar : takeScalar? cs = some (value, rest)) :
    readOn .value frames cs = readOn (.afterValue value) frames rest := by
  apply readOn_of_more
  rw [step, hcs, skipSpace_cons hspace, stepValue.eq_3, ← hcs, hscalar]
  · exact fun _ h => hc.1 (List.cons.inj h).1
  · exact fun _ h => hc.2 (List.cons.inj h).1

/-! ## Arrays and objects -/

theorem prettyItems_cons (level : Nat) (item : Json) (items : List Json) :
    ∃ more,
      prettyItems level (item :: items) = newLine level ++ (prettyChars level item ++ more) := by
  cases items with
  | nil => exact ⟨[], by rw [prettyItems, List.append_nil]⟩
  | cons next items =>
    rw [prettyItems.eq_3 _ _ _ (by simp), List.append_assoc]
    exact ⟨_, rfl⟩

theorem prettyEntries_cons (level : Nat) (entry : Option String × Json)
    (entries : List (Option String × Json)) :
    ∃ more, prettyEntries level (entry :: entries) = newLine level ++ '"' :: more := by
  cases entries with
  | nil =>
    rw [prettyEntries, List.append_assoc]
    exact ⟨_, rfl⟩
  | cons next entries =>
    rw [prettyEntries.eq_3 _ _ _ _ (by simp), List.append_assoc, List.append_assoc]
    exact ⟨_, rfl⟩

/-- The items of an array are read one by one and the array is closed. -/
theorem readOn_prettyItems {item : Json} {items : List Json} (hitem : ReadsBack item)
    (hitems : ∀ other ∈ items, ReadsBack other) (level outer : Nat) (before : List Json)
    (frames : List Frame) (rest : List Char) :
    readOn .value (.item before :: frames)
        (prettyItems level (item :: items) ++ (newLine outer ++ ']' :: rest)) =
      readOn (.afterValue (.array (before.reverse ++ item :: items))) frames rest := by
  induction items generalizing item before with
  | nil =>
    rw [prettyItems, List.append_assoc, readOn_value_newLine,
      hitem _ _ _ (endsNumeral_newLine _ _), readOn_close_array, List.reverse_cons]
  | cons next items ih =>
    rw [prettyItems.eq_3 _ _ _ (by simp), List.append_assoc, List.append_assoc,
      readOn_value_newLine, List.cons_append, hitem _ _ _ (endsNumeral_comma _),
      readOn_comma_item, ih (hitems next List.mem_cons_self)
        fun other hother => hitems other (List.mem_cons_of_mem _ hother)]
    simp

/-- The entries of an object are read one by one and the object is closed. -/
theorem readOn_prettyEntries {entry : Option String × Json}
    {entries : List (Option String × Json)} (hentry : entry.1.isSome ∧ ReadsBack entry.2)
    (hentries : ∀ other ∈ entries, other.1.isSome ∧ ReadsBack other.2) (level outer : Nat)
    (before : List (Option String × Json)) (frames : List Frame) (rest : List Char) :
    readOn (.key before) frames
        (prettyEntries level (entry :: entries) ++ (newLine outer ++ '\x7d' :: rest)) =
      readOn (.afterValue (.object (before.reverse ++ entry :: entries))) frames rest := by
  induction entries generalizing entry before with
  | nil =>
    obtain ⟨key, value⟩ := entry
    obtain ⟨hkey, hvalue⟩ := hentry
    obtain ⟨key, rfl⟩ := Option.isSome_iff_exists.1 hkey
    rw [prettyEntries, List.append_assoc, List.append_assoc, readOn_key_newLine, List.cons_append,
      List.cons_append, readOn_keyChars, readOn_value_space,
      hvalue _ _ _ (endsNumeral_newLine _ _), readOn_close_object, List.reverse_cons]
  | cons next entries ih =>
    obtain ⟨key, value⟩ := entry
    obtain ⟨hkey, hvalue⟩ := hentry
    obtain ⟨key, rfl⟩ := Option.isSome_iff_exists.1 hkey
    rw [prettyEntries.eq_3 _ _ _ _ (by simp)]
    simp only [List.append_assoc, List.cons_append]
    rw [readOn_key_newLine, readOn_keyChars, readOn_value_space,
      hvalue _ _ _ (endsNumeral_comma _), readOn_comma_entry,
      ih (hentries next List.mem_cons_self)
        fun other hother => hentries other (List.mem_cons_of_mem _ hother)]
    simp

theorem ReadsBack.array {items : List Json} (hitems : ∀ item ∈ items, IsData item)
    (hreads : ∀ item ∈ items, ReadsBack item) : ReadsBack (.array items) := by
  intro level frames rest _
  cases items with
  | nil =>
    have hopen : readOn .value frames ('[' :: ']' :: rest) =
      readOn .firstItem frames (']' :: rest) := readOn_of_more rfl
    exact hopen.trans (readOn_of_more rfl)
  | cons item items =>
    obtain ⟨c, cs, hchars, hspace, hc⟩ :=
      prettyChars_eq_cons (hitems item List.mem_cons_self) (level + 1)
    obtain ⟨more, hmore⟩ := prettyItems_cons (level + 1) item items
    have hskip : skipSpace (prettyItems (level + 1) (item :: items) ++
        (newLine level ++ ']' :: rest)) = c :: (cs ++ more ++ (newLine level ++ ']' :: rest)) := by
      rw [hmore, List.append_assoc, skipSpace_newLine, hchars]
      exact skipSpace_cons hspace _
    rw [prettyChars.eq_2 _ _ (by simp)]
    simp only [List.append_assoc, List.cons_append, List.nil_append]
    rw [readOn_of_more (show step .value frames ('[' :: _) = .more .firstItem frames _ from rfl),
      readOn_firstItem frames hskip hc]
    exact readOn_prettyItems (hreads item List.mem_cons_self)
      (fun other hother => hreads other (List.mem_cons_of_mem _ hother)) _ _ _ _ _

theorem ReadsBack.object {entries : List (Option String × Json)}
    (hentries : ∀ entry ∈ entries, entry.1.isSome ∧ ReadsBack entry.2) :
    ReadsBack (.object entries) := by
  intro level frames rest _
  cases entries with
  | nil =>
    have hopen : readOn .value frames ('\x7b' :: '\x7d' :: rest) =
      readOn .firstKey frames ('\x7d' :: rest) := readOn_of_more rfl
    exact hopen.trans (readOn_of_more rfl)
  | cons entry entries =>
    obtain ⟨more, hmore⟩ := prettyEntries_cons (level + 1) entry entries
    have hskip : skipSpace (prettyEntries (level + 1) (entry :: entries) ++
        (newLine level ++ '\x7d' :: rest)) =
          '"' :: (more ++ (newLine level ++ '\x7d' :: rest)) := by
      rw [hmore, List.append_assoc, skipSpace_newLine]
      exact skipSpace_cons (by decide) _
    rw [prettyChars.eq_4 _ _ (by simp)]
    simp only [List.append_assoc, List.cons_append, List.nil_append]
    rw [readOn_of_more (show step .value frames ('\x7b' :: _) = .more .firstKey frames _ from rfl),
      readOn_firstKey frames hskip]
    exact readOn_prettyEntries (hentries entry List.mem_cons_self)
      (fun other hother => hentries other (List.mem_cons_of_mem _ hother)) _ _ _ _ _

/-- Values made from data are read back. -/
theorem IsData.readsBack {value : Json} (hvalue : IsData value) : ReadsBack value := by
  induction hvalue with
  | null => exact fun _ _ _ _ => readOn_of_more rfl
  | bool value => cases value <;> exact fun _ _ _ _ => readOn_of_more rfl
  | number hn =>
    intro level frames rest hrest
    obtain ⟨c, cs, hchars, hspace, hc⟩ := chars_head hn
    have hother (other : Char) (hmem : other ∈ ['"', 'n', 't', 'f', '[', '\x7b', ']']) :
        c ≠ other := fun heq => hc (heq ▸ hmem)
    exact readOn_scalar frames (congrArg (· ++ rest) hchars) hspace
      ⟨hother _ (by decide), hother _ (by decide)⟩ (takeScalar?_number hn hrest)
  | string text =>
    intro level frames rest _
    exact readOn_scalar frames rfl (by decide) (by decide) (takeScalar?_string text rest)
  | array hitems ih => exact .array hitems ih
  | object hkeys _ ih => exact .object fun entry hentry => ⟨hkeys entry hentry, ih entry hentry⟩

/-- The text of a value made from data gives the value back and ends with it. -/
theorem read_pretty {value : Json} (hvalue : IsData value) : read value.pretty = (value, []) := by
  have hread := hvalue.readsBack 0 [] [] endsNumeral_nil
  rw [List.append_nil] at hread
  rw [read, pretty, String.toList_ofList, hread, readOn_eq]
  rfl

end FillScript.Json
