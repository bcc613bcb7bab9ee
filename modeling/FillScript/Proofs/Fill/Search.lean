import FillScript.Fill.Session

/-!
# Searches in a column

What a search comes to, told by the texts of the document. A search down a column finds the first
row below the header, and no further than the last used row, whose text matches
(`findInColumn_eq_some_iff`), and it finds nothing exactly if no row there matches
(`findInColumn_eq_none_iff`). The column of a title is the first one whose header is the title
(`Document.IsTitleCol`, `Session.word?_columnOf_eq_some_iff`).
-/

namespace FillScript

/-! ## The first number with a property -/

section

variable {p : Nat → Bool} {start count : Nat}

theorem firstFrom_eq_none_iff :
    firstFrom p start count = none ↔ ∀ n, start ≤ n → n < start + count → p n = false := by
  induction count generalizing start with
  | zero =>
    refine ⟨fun _ n hstart hn => ?_, fun _ => rfl⟩
    omega
  | succ count ih =>
    rw [firstFrom]
    by_cases hp : p start = true
    · rw [if_pos hp]
      refine ⟨fun hfirst => by simp at hfirst, fun hall => ?_⟩
      have := hall start (Nat.le_refl _) (by omega)
      rw [hp] at this
      contradiction
    · rw [if_neg hp, ih]
      refine ⟨fun hall n hstart hn => ?_, fun hall n hstart hn => hall n (by omega) (by omega)⟩
      rcases Nat.eq_or_lt_of_le hstart with rfl | hlt
      · simpa using hp
      · exact hall n hlt (by omega)

/-- Only what is said of the numbers that are tried matters. -/
theorem firstFrom_congr {q : Nat → Bool} (hpq : ∀ n, start ≤ n → n < start + count → p n = q n) :
    firstFrom p start count = firstFrom q start count := by
  induction count generalizing start with
  | zero => rfl
  | succ count ih =>
    have hrest := @ih (start + 1) fun n hn hlt => hpq n (by omega) (by omega)
    rw [firstFrom, firstFrom, hpq start (Nat.le_refl _) (by omega), hrest]

theorem firstFrom_eq_some_iff {n : Nat} :
    firstFrom p start count = some n ↔
      start ≤ n ∧ n < start + count ∧ p n = true ∧ ∀ m, start ≤ m → m < n → p m = false := by
  induction count generalizing start with
  | zero =>
    refine ⟨fun hfirst => by simp [firstFrom] at hfirst, ?_⟩
    intro ⟨hstart, hn, _⟩
    omega
  | succ count ih =>
    rw [firstFrom]
    by_cases hp : p start = true
    · rw [if_pos hp]
      constructor
      · intro hfirst
        obtain rfl : start = n := by simpa using hfirst
        exact ⟨Nat.le_refl _, by omega, hp, fun m hm hlt => by omega⟩
      · intro ⟨hstart, _, _, hbefore⟩
        rcases Nat.eq_or_lt_of_le hstart with rfl | hlt
        · rfl
        · have := hbefore start (Nat.le_refl _) hlt
          rw [hp] at this
          contradiction
    · rw [if_neg hp, ih]
      constructor
      · intro ⟨hstart, hn, hpn, hbefore⟩
        refine ⟨by omega, by omega, hpn, fun m hm hlt => ?_⟩
        rcases Nat.eq_or_lt_of_le hm with rfl | hgt
        · simpa using hp
        · exact hbefore m hgt hlt
      · intro ⟨hstart, hn, hpn, hbefore⟩
        have hne : start ≠ n := by
          intro heq
          exact hp (heq ▸ hpn)
        exact ⟨by omega, by omega, hpn, fun m hm hlt => hbefore m (by omega) hlt⟩

end

/-! ## Rows and columns -/

/-- A number up to a 32-bit one is one itself. -/
theorem toNat_ofNat_of_le {n : Nat} {bound : UInt32} (hn : n ≤ bound.toNat) :
    (UInt32.ofNat n).toNat = n := by
  have hbound := bound.toNat_lt
  refine UInt32.toNat_ofNat_of_lt' ?_
  simp only [UInt32.size]
  omega

namespace Document

variable {δ : Type} [Document δ]

/-- The rows of a sheet that are searched and filled: those below the header up to the last used
one. -/
def IsBodyRow (doc : δ) (sheet : String) (row : UInt32) : Prop :=
  1 ≤ row ∧ ∃ last, lastUsedRow doc sheet = some last ∧ row ≤ last

/-- The first column whose header is a title. -/
def IsTitleCol (doc : δ) (sheet title : String) (col : UInt32) : Prop :=
  (header doc sheet)[col.toNat]? = some title ∧
    ∀ other, other < col → (header doc sheet)[other.toNat]? ≠ some title

variable {doc : δ} {sheet : String}

/-- A column has one title only. -/
theorem IsTitleCol.title_unique {first second : String} {col : UInt32}
    (hfirst : IsTitleCol doc sheet first col) (hsecond : IsTitleCol doc sheet second col) :
    first = second := by
  have hsame := hfirst.1.symm.trans hsecond.1
  simpa using hsame

/-! ## Down a column -/

theorem isBodyRow_iff {last row : UInt32} (hlast : lastUsedRow doc sheet = some last) :
    IsBodyRow doc sheet row ↔ 1 ≤ row.toNat ∧ row.toNat ≤ last.toNat := by
  unfold IsBodyRow
  simp only [hlast, Option.some.injEq, exists_eq_left', UInt32.le_iff_toNat_le]
  exact Iff.rfl

theorem isBodyRow_ofNat {last : UInt32} (hlast : lastUsedRow doc sheet = some last) {n : Nat}
    (hn : 1 ≤ n) (hle : n ≤ last.toNat) : IsBodyRow doc sheet (UInt32.ofNat n) := by
  rw [isBodyRow_iff hlast, toNat_ofNat_of_le hle]
  exact ⟨hn, hle⟩

/-- A sheet without values has no rows to search. -/
theorem not_isBodyRow {row : UInt32} (hlast : lastUsedRow doc sheet = none) :
    ¬IsBodyRow doc sheet row := by
  intro ⟨_, last, hsome, _⟩
  rw [hlast] at hsome
  contradiction

/-- Documents with the same texts in the rows that are searched give the same. -/
theorem findInColumn_congr {other : δ} {col : UInt32} {matcher : Matcher}
    (htext : ∀ row, IsBodyRow doc sheet row →
      text doc sheet ⟨row, col⟩ = text other sheet ⟨row, col⟩) :
    findInColumn doc sheet col (lastUsedRow doc sheet) matcher =
      findInColumn other sheet col (lastUsedRow doc sheet) matcher := by
  cases hlast : lastUsedRow doc sheet with
  | none => rfl
  | some last =>
    have hrow (n : Nat) (hn : 1 ≤ n) (hlt : n < 1 + last.toNat) :
        text doc sheet ⟨UInt32.ofNat n, col⟩ = text other sheet ⟨UInt32.ofNat n, col⟩ :=
      htext _ (isBodyRow_ofNat hlast hn (by omega))
    rw [findInColumn, findInColumn, Option.bind_some, Option.bind_some]
    congr 1
    refine firstFrom_congr fun n hn hlt => ?_
    rw [hrow n hn hlt]

/-- A search down a column finds the first row of the body that matches. -/
theorem findInColumn_eq_some_iff {col : UInt32} {matcher : Matcher} {pos : Coord} :
    findInColumn doc sheet col (lastUsedRow doc sheet) matcher = some pos ↔
      pos.col = col ∧ IsBodyRow doc sheet pos.row ∧
        matcher.matches? (text doc sheet pos) = true ∧
        ∀ row, 1 ≤ row → row < pos.row → matcher.matches? (text doc sheet ⟨row, col⟩) = false := by
  cases hlast : lastUsedRow doc sheet with
  | none => simp [findInColumn, not_isBodyRow hlast]
  | some last =>
    rw [findInColumn, Option.bind_some, Option.map_eq_some_iff]
    constructor
    · intro ⟨n, hfirst, hpos⟩
      subst hpos
      obtain ⟨hstart, hlt, hmatch, hbefore⟩ := firstFrom_eq_some_iff.1 hfirst
      have hle : n ≤ last.toNat := by omega
      refine ⟨rfl, isBodyRow_ofNat hlast hstart hle, hmatch, fun row hrow hearlier => ?_⟩
      rw [UInt32.lt_iff_toNat_lt, toNat_ofNat_of_le hle] at hearlier
      have hmiss := hbefore row.toNat (UInt32.le_iff_toNat_le.1 hrow) hearlier
      rwa [UInt32.ofNat_toNat] at hmiss
    · intro ⟨hcol, hbody, hmatch, hbefore⟩
      subst hcol
      obtain ⟨hrow, hle⟩ := (isBodyRow_iff hlast).1 hbody
      refine ⟨pos.row.toNat, firstFrom_eq_some_iff.2 ⟨hrow, by omega, ?_, fun n hn hlt => ?_⟩, ?_⟩
      · rw [UInt32.ofNat_toNat]
        exact hmatch
      · have hval : (UInt32.ofNat n).toNat = n := toNat_ofNat_of_le (Nat.le_of_lt hlt)
        refine hbefore _ ?_ ?_
        · rw [UInt32.le_iff_toNat_le, hval]
          exact hn
        · rw [UInt32.lt_iff_toNat_lt, hval]
          exact hlt
      · rw [UInt32.ofNat_toNat]

/-- A search down a column finds nothing exactly if no row of the body matches. -/
theorem findInColumn_eq_none_iff {col : UInt32} {matcher : Matcher} :
    findInColumn doc sheet col (lastUsedRow doc sheet) matcher = none ↔
      ∀ row, IsBodyRow doc sheet row → matcher.matches? (text doc sheet ⟨row, col⟩) = false := by
  cases hlast : lastUsedRow doc sheet with
  | none => simp [findInColumn, not_isBodyRow hlast]
  | some last =>
    rw [findInColumn, Option.bind_some, Option.map_eq_none_iff, firstFrom_eq_none_iff]
    constructor
    · intro hall row hbody
      obtain ⟨hrow, hle⟩ := (isBodyRow_iff hlast).1 hbody
      have hmiss := hall row.toNat hrow (by omega)
      rwa [UInt32.ofNat_toNat] at hmiss
    · intro hall n hn hlt
      exact hall _ (isBodyRow_ofNat hlast hn (by omega))

end Document

/-! ## Searches in two documents -/

namespace Document

variable {δ ε : Type} [Document δ] [Document ε] {doc : δ} {other : ε} {sheet sheet' : String}

/-- A search down another column with the same texts finds the same row there. -/
theorem findInColumn_map {col col' : UInt32}
    (htext : ∀ row, text other sheet' ⟨row, col'⟩ = text doc sheet ⟨row, col⟩)
    (lastRow : Option UInt32) (matcher : Matcher) :
    findInColumn other sheet' col' lastRow matcher =
      (findInColumn doc sheet col lastRow matcher).map fun pos => ⟨pos.row, col'⟩ := by
  simp only [findInColumn, htext]
  cases lastRow with
  | none => rfl
  | some last =>
    simp only [Option.bind_some, Option.map_map]
    rfl

section

variable (hcol : ∀ row, lastUsedCol other sheet' row = lastUsedCol doc sheet row)
  (htext : ∀ pos, text other sheet' pos = text doc sheet pos)
include hcol htext

theorem findInRow_congr (matcher : Matcher) (row : UInt32) :
    findInRow other sheet' matcher row = findInRow doc sheet matcher row := by
  simp only [findInRow, hcol, htext]

theorem findInRows_congr (matcher : Matcher) (start count : Nat) :
    findInRows other sheet' matcher start count = findInRows doc sheet matcher start count := by
  induction count generalizing start with
  | zero => rfl
  | succ count ih => simp only [findInRows, findInRow_congr hcol htext, ih]

/-- Sheets with the same texts, used equally far, give the same. -/
theorem findInSheet_congr (lastRow : Option UInt32) (matcher : Matcher) :
    findInSheet other sheet' lastRow matcher = findInSheet doc sheet lastRow matcher := by
  simp only [findInSheet, findInRows_congr hcol htext]

end

end Document

/-! ## Columns of titles -/

namespace Coord

theorem word?_toNat (n : UInt32) : word? n.toNat = some n := by
  have hn := n.toNat_lt
  rw [word?, if_pos (by simp only [UInt32.size]; omega), Int.toNat_natCast, UInt32.ofNat_toNat]

theorem word?_of_neg {n : Int} (hn : n < 0) : word? n = none := by
  rw [word?, if_neg (by omega)]

theorem eq_toNat_of_word? {n : Int} {word : UInt32} (hword : word? n = some word) :
    n = word.toNat := by
  unfold word? at hword
  split at hword
  · next hn =>
    obtain rfl : UInt32.ofNat n.toNat = word := by simpa using hword
    rw [UInt32.toNat_ofNat_of_lt' (by omega)]
    omega
  · simp at hword

end Coord

theorem Cursor.coord?_eq_some_iff {c : Cursor} {pos : Coord} :
    c.coord? = some pos ↔
      Coord.word? c.row = some pos.row ∧ Coord.word? c.col = some pos.col := by
  unfold coord? Coord.ofInts?
  simp only [Option.bind_eq_bind, Option.bind_eq_some_iff, Option.pure_def, Option.some.injEq]
  constructor
  · intro ⟨row, hrow, col, hcol, hpos⟩
    subst hpos
    exact ⟨hrow, hcol⟩
  · intro ⟨hrow, hcol⟩
    exact ⟨_, hrow, _, hcol, rfl⟩

/-- The first index of a title. -/
theorem findIdx?_title_eq_some_iff {titles : List String} {title : String} {i : Nat} :
    titles.findIdx? (· == title) = some i ↔
      titles[i]? = some title ∧ ∀ j, j < i → titles[j]? ≠ some title := by
  rw [List.findIdx?_eq_some_iff_getElem]
  constructor
  · intro ⟨hi, htitle, hbefore⟩
    refine ⟨List.getElem?_eq_some_iff.2 ⟨hi, beq_iff_eq.1 htitle⟩, fun j hj hsame => ?_⟩
    obtain ⟨_, heq⟩ := List.getElem?_eq_some_iff.1 hsame
    exact hbefore j hj (beq_iff_eq.2 heq)
  · intro ⟨htitle, hbefore⟩
    obtain ⟨hi, heq⟩ := List.getElem?_eq_some_iff.1 htitle
    refine ⟨hi, beq_iff_eq.2 heq, fun j hj hsame => hbefore j hj ?_⟩
    exact List.getElem?_eq_some_iff.2 ⟨by omega, beq_iff_eq.1 hsame⟩

namespace Session

variable {δ : Type} {s : Session δ} {title : String} {col : UInt32}

theorem word?_columnOf :
    Coord.word? (s.columnOf title) = some col ↔
      s.header.findIdx? (· == title) = some col.toNat := by
  unfold columnOf
  cases s.header.findIdx? (· == title) with
  | none => simp [Coord.word?_of_neg (show (-1 : Int) < 0 by decide)]
  | some i =>
    constructor
    · intro hword
      exact congrArg some (Int.ofNat.inj (Coord.eq_toNat_of_word? hword))
    · intro hsame
      obtain rfl : i = col.toNat := by simpa using hsame
      exact Coord.word?_toNat col

/-- The column that a session has for a title is the first with that title in the header. -/
theorem word?_columnOf_eq_some_iff [Document δ] {doc : δ} {sheet : String}
    (hheader : s.header = Document.header doc sheet) :
    Coord.word? (s.columnOf title) = some col ↔ Document.IsTitleCol doc sheet title col := by
  rw [word?_columnOf, findIdx?_title_eq_some_iff, Document.IsTitleCol, hheader]
  refine and_congr_right fun _ => ⟨fun hbefore other hlt => ?_, fun hbefore j hj => ?_⟩
  · exact hbefore other.toNat (UInt32.lt_iff_toNat_lt.1 hlt)
  · have hval : (UInt32.ofNat j).toNat = j := toNat_ofNat_of_le (Nat.le_of_lt hj)
    have hmiss := hbefore (UInt32.ofNat j) (by rw [UInt32.lt_iff_toNat_lt, hval]; exact hj)
    rwa [hval] at hmiss

end Session

/-! ## Under a title -/

/-- The cursor at a hit; without one it is lost. -/
def Cursor.ofHit : Option Coord → Cursor
  | some pos => ofCoord pos
  | none => lost

theorem Session.cursor_found {δ : Type} (s : Session δ) (hit : Option Coord) (value : String) :
    (s.found hit value).1 = .ofHit hit := by
  cases hit with
  | none => rfl
  | some pos => rfl

namespace Document

variable {δ : Type} [Document δ]

/-- What the search for a value under a title finds in a document as it is. -/
def lookUp (doc : δ) (sheet title value : String) : Option Coord :=
  (Coord.word? ((Session.start doc sheet []).columnOf title)).bind fun col =>
    findInColumn doc sheet col (lastUsedRow doc sheet) (.loose value)

variable {doc : δ} {sheet title value : String}

theorem word?_columnOf_start {col : UInt32} :
    Coord.word? ((Session.start doc sheet []).columnOf title) = some col ↔
      IsTitleCol doc sheet title col :=
  Session.word?_columnOf_eq_some_iff rfl

/-- The first row below the header in which the column of the title holds the value is found. -/
theorem lookUp_eq_some_iff {pos : Coord} :
    lookUp doc sheet title value = some pos ↔
      IsTitleCol doc sheet title pos.col ∧ IsBodyRow doc sheet pos.row ∧
        Matcher.folded (text doc sheet pos) = Matcher.folded value ∧
        ∀ row, 1 ≤ row → row < pos.row →
          Matcher.folded (text doc sheet ⟨row, pos.col⟩) ≠ Matcher.folded value := by
  simp only [lookUp, Option.bind_eq_some_iff, word?_columnOf_start, findInColumn_eq_some_iff,
    Matcher.matches?, beq_iff_eq, beq_eq_false_iff_ne]
  constructor
  · intro ⟨col, htitle, hcol, hfound⟩
    subst hcol
    exact ⟨htitle, hfound⟩
  · intro ⟨htitle, hfound⟩
    exact ⟨pos.col, htitle, rfl, hfound⟩

/-- Nothing is found if no row below the header holds the value in the column of the title; there
may be no such column. -/
theorem lookUp_eq_none_iff :
    lookUp doc sheet title value = none ↔
      ∀ pos : Coord, IsTitleCol doc sheet title pos.col → IsBodyRow doc sheet pos.row →
        Matcher.folded (text doc sheet pos) ≠ Matcher.folded value := by
  simp only [lookUp, Option.bind_eq_none_iff, word?_columnOf_start, findInColumn_eq_none_iff,
    Matcher.matches?, beq_eq_false_iff_ne]
  exact ⟨fun hall pos htitle hrow => hall pos.col htitle pos.row hrow,
    fun hall col htitle row hrow => hall ⟨row, col⟩ htitle hrow⟩

/-- Where the search for a value under a title leads: to the first row below the header that holds
the value in the column of the title, letter case and blanks at the ends aside, and otherwise
nowhere. -/
inductive LeadsTo (doc : δ) (sheet title value : String) : Cursor → Prop where
  | hit {pos : Coord} (hcol : IsTitleCol doc sheet title pos.col)
    (hrow : IsBodyRow doc sheet pos.row)
    (hmatch : Matcher.folded (text doc sheet pos) = Matcher.folded value)
    (hfirst : ∀ row, 1 ≤ row → row < pos.row →
      Matcher.folded (text doc sheet ⟨row, pos.col⟩) ≠ Matcher.folded value) :
    LeadsTo doc sheet title value (.ofCoord pos)
  | miss (hnone : ∀ pos : Coord, IsTitleCol doc sheet title pos.col →
      IsBodyRow doc sheet pos.row →
      Matcher.folded (text doc sheet pos) ≠ Matcher.folded value) :
    LeadsTo doc sheet title value .lost

theorem leadsTo_lookUp (doc : δ) (sheet title value : String) :
    LeadsTo doc sheet title value (.ofHit (lookUp doc sheet title value)) := by
  cases hfind : lookUp doc sheet title value with
  | some pos =>
    obtain ⟨hcol, hrow, hmatch, hfirst⟩ := lookUp_eq_some_iff.1 hfind
    exact .hit hcol hrow hmatch hfirst
  | none => exact .miss (lookUp_eq_none_iff.1 hfind)

end Document

end FillScript
