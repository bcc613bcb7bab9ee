/-!
# Sparse tables

A table that stores a value at some of its keys, as a list of entries in the order of the keys. The
order makes the representation unique: two tables are equal if they store the same at every key
(`ext`), and writing one key leaves what is stored at the others (`find?_put`).
-/

namespace FillScript

/-! ## Ordered entries -/

/-- Keys in the order of a number that tells them apart. -/
class Ranked (κ : Type) where
  rank : κ → Nat
  rank_injective : ∀ {a b : κ}, rank a = rank b → a = b

export Ranked (rank)

/-- Entries with keys of ascending rank. -/
structure Sparse (κ α : Type) [Ranked κ] where
  entries : List (κ × α)
  ascending : entries.Pairwise fun a b => rank a.1 < rank b.1
deriving DecidableEq

namespace Sparse

variable {κ α : Type} [Ranked κ]

/-- What a list of entries stores at the key of rank `r`. -/
def lookup (r : Nat) : List (κ × α) → Option α
  | [] => none
  | (k, value) :: rest => if rank k = r then some value else lookup r rest

/-- Entries with `value` stored at `key`, or nothing stored there. -/
def write (key : κ) (value : Option α) : List (κ × α) → List (κ × α)
  | [] => (value.map (key, ·)).toList
  | (k, v) :: rest =>
    if rank k < rank key then (k, v) :: write key value rest
    else (value.map (key, ·)).toList ++
      if rank k = rank key then rest else (k, v) :: rest

theorem mem_write {key : κ} {value : Option α} {entries : List (κ × α)} {entry : κ × α}
    (hmem : entry ∈ write key value entries) :
    entry ∈ entries ∨ ∃ v, value = some v ∧ entry = (key, v) := by
  induction entries with
  | nil =>
    cases value <;> simp_all [write]
  | cons head rest ih =>
    obtain ⟨k, v⟩ := head
    simp only [write] at hmem
    split at hmem
    · rcases List.mem_cons.1 hmem with rfl | hrest
      · simp
      · rcases ih hrest with hin | hnew
        · exact .inl (List.mem_cons_of_mem _ hin)
        · exact .inr hnew
    · rcases List.mem_append.1 hmem with hnew | hold
      · cases value <;> simp_all
      · split at hold
        · exact .inl (List.mem_cons_of_mem _ hold)
        · exact .inl hold

theorem ascending_write (key : κ) (value : Option α) {entries : List (κ × α)}
    (hascending : entries.Pairwise fun a b => rank a.1 < rank b.1) :
    (write key value entries).Pairwise fun a b => rank a.1 < rank b.1 := by
  induction entries with
  | nil => cases value <;> simp [write]
  | cons head rest ih =>
    obtain ⟨k, v⟩ := head
    have hrest := List.pairwise_cons.1 hascending
    simp only [write]
    split
    · next hbefore =>
      refine List.pairwise_cons.2 ⟨fun entry hentry => ?_, ih hrest.2⟩
      rcases mem_write hentry with hin | ⟨w, -, rfl⟩
      · exact hrest.1 entry hin
      · exact hbefore
    · next hbefore =>
      have hafter : ∀ entry ∈ (if rank k = rank key then rest else (k, v) :: rest),
          rank key < rank entry.1 := by
        intro entry hentry
        split at hentry
        · next heq => rw [← heq]; exact hrest.1 entry hentry
        · next hne =>
          rcases List.mem_cons.1 hentry with rfl | hin
          · simp only; omega
          · have := hrest.1 entry hin
            simp only at this
            omega
      have htail : (if rank k = rank key then rest else (k, v) :: rest).Pairwise
          fun a b => rank a.1 < rank b.1 := by
        split
        · exact hrest.2
        · exact hascending
      cases value with
      | none => simpa using htail
      | some w => simpa using ⟨fun a b hab => hafter (a, b) hab, htail⟩

/-! ## Tables -/

/-- The table that stores nothing. -/
def empty : Sparse κ α :=
  ⟨[], .nil⟩

/-- What the table stores at a key. -/
def find? (t : Sparse κ α) (key : κ) : Option α :=
  lookup (rank key) t.entries

/-- The table with `value` stored at `key`, or with nothing stored there. -/
def put (t : Sparse κ α) (key : κ) (value : Option α) : Sparse κ α :=
  ⟨write key value t.entries, ascending_write key value t.ascending⟩

/-- The table that stores only what satisfies `p`. -/
def filter (t : Sparse κ α) (p : κ → α → Bool) : Sparse κ α :=
  ⟨t.entries.filter fun (key, value) => p key value, t.ascending.filter _⟩

/-- The number of stored values. -/
def size (t : Sparse κ α) : Nat :=
  t.entries.length

/-- The last key, in the order of the keys, at which the stored value satisfies `p`. -/
def lastKey? (t : Sparse κ α) (p : κ → α → Bool) : Option κ :=
  (t.entries.findRev? fun (key, value) => p key value).map (·.1)

/-- The table that stores at every key what the last entry with that key holds. -/
def ofList (entries : List (κ × α)) : Sparse κ α :=
  entries.foldl (fun t (key, value) => t.put key (some value)) empty

/-! ## What is stored -/

theorem lookup_eq_none {r : Nat} {entries : List (κ × α)}
    (hkeys : ∀ entry ∈ entries, rank entry.1 ≠ r) : lookup r entries = none := by
  induction entries with
  | nil => rfl
  | cons head rest ih =>
    obtain ⟨k, v⟩ := head
    have hhead := hkeys (k, v) List.mem_cons_self
    simp only [lookup, if_neg hhead]
    exact ih fun entry hentry => hkeys entry (List.mem_cons_of_mem _ hentry)

theorem lookup_write {key : κ} {value : Option α} {entries : List (κ × α)}
    (hascending : entries.Pairwise fun a b => rank a.1 < rank b.1) (r : Nat) :
    lookup r (write key value entries) = if r = rank key then value else lookup r entries := by
  induction entries with
  | nil =>
    cases value
    · simp [write, lookup]
    · simp [write, lookup, eq_comm]
  | cons head rest ih =>
    obtain ⟨k, v⟩ := head
    have hrest := List.pairwise_cons.1 hascending
    simp only [write]
    split
    · next hbefore =>
      simp only [lookup, ih hrest.2]
      grind
    · next hbefore =>
      have hgone : r = rank key → lookup r rest = none := by
        intro heq
        refine lookup_eq_none fun entry hentry => ?_
        have := hrest.1 entry hentry
        simp only at this
        omega
      cases value <;> grind [lookup]

/-- Reading after writing. -/
theorem find?_put (t : Sparse κ α) (key : κ) (value : Option α) (key' : κ) :
    (t.put key value).find? key' = if rank key' = rank key then value else t.find? key' :=
  lookup_write t.ascending (rank key')

@[simp]
theorem find?_empty (key : κ) : (empty : Sparse κ α).find? key = none := rfl

theorem entries_ext {a b : List (κ × α)} (ha : a.Pairwise fun x y => rank x.1 < rank y.1)
    (hb : b.Pairwise fun x y => rank x.1 < rank y.1)
    (hlookup : ∀ key : κ, lookup (rank key) a = lookup (rank key) b) : a = b := by
  induction a generalizing b with
  | nil =>
    cases b with
    | nil => rfl
    | cons head rest => simpa [lookup] using hlookup head.1
  | cons head rest ih =>
    obtain ⟨k, v⟩ := head
    cases b with
    | nil => simpa [lookup] using hlookup k
    | cons head' rest' =>
      obtain ⟨k', v'⟩ := head'
      have harest := List.pairwise_cons.1 ha
      have hbrest := List.pairwise_cons.1 hb
      have hanone : ∀ r, r ≤ rank k → lookup r rest = none := fun r hle =>
        lookup_eq_none fun entry hentry => by
          have := harest.1 entry hentry
          simp only at this
          omega
      have hbnone : ∀ r, r ≤ rank k' → lookup r rest' = none := fun r hle =>
        lookup_eq_none fun entry hentry => by
          have := hbrest.1 entry hentry
          simp only at this
          omega
      have hk := hlookup k
      have hk' := hlookup k'
      simp only [lookup] at hk hk'
      have hrank : rank k = rank k' := by
        rcases Nat.lt_trichotomy (rank k) (rank k') with hlt | heq | hgt
        · have := hbnone (rank k) (by omega)
          grind
        · exact heq
        · have := hanone (rank k') (by omega)
          grind
      have hkey := Ranked.rank_injective hrank
      subst hkey
      have hvalue : v = v' := by simpa using hk
      subst hvalue
      congr 1
      refine ih harest.2 hbrest.2 fun key => ?_
      by_cases heq : rank k = rank key
      · rw [hanone (rank key) (by omega), hbnone (rank key) (by omega)]
      · simpa [lookup, heq] using hlookup key

/-- Tables that store the same at every key are equal. -/
@[ext]
theorem ext {t u : Sparse κ α} (hfind : ∀ key, t.find? key = u.find? key) : t = u := by
  have := entries_ext t.ascending u.ascending hfind
  cases t
  cases u
  simp_all

end Sparse

end FillScript
