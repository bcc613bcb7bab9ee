import FillScript.Sparse
import Mathlib.Data.List.Induction

/-!
# Entries of sparse tables

How the entries of a table, what it stores at a key and its last keys hang together. An entry is in
the list of a table exactly if the table stores its value at its key (`mem_entries_iff`), also where
the table was made from a list with distinct keys (`find?_ofList_eq_some_iff`), and the last key
with a property has the highest rank of all keys with it (`lastKey?_eq_some_iff`).
-/

namespace FillScript.Sparse

variable {κ α : Type} [Ranked κ]

/-! ## Entries and stored values -/

theorem mem_of_lookup {key : κ} {value : α} {entries : List (κ × α)}
    (hlookup : lookup (rank key) entries = some value) : (key, value) ∈ entries := by
  induction entries with
  | nil => simp [lookup] at hlookup
  | cons head rest ih =>
    obtain ⟨k, v⟩ := head
    simp only [lookup] at hlookup
    split at hlookup
    · next hrank =>
      have hkey : k = key := Ranked.rank_injective hrank
      have hvalue : v = value := by simpa using hlookup
      subst hkey hvalue
      exact List.mem_cons_self
    · exact List.mem_cons_of_mem _ (ih hlookup)

theorem lookup_of_mem {key : κ} {value : α} {entries : List (κ × α)}
    (hascending : entries.Pairwise fun a b => rank a.1 < rank b.1)
    (hmem : (key, value) ∈ entries) : lookup (rank key) entries = some value := by
  induction entries with
  | nil => simp at hmem
  | cons head rest ih =>
    obtain ⟨k, v⟩ := head
    have hrest := List.pairwise_cons.1 hascending
    simp only [lookup]
    rcases List.mem_cons.1 hmem with heq | hin
    · obtain ⟨rfl, rfl⟩ := Prod.mk.inj heq
      rw [if_pos rfl]
    · have hlt : rank k < rank key := hrest.1 _ hin
      rw [if_neg (by omega)]
      exact ih hrest.2 hin

/-- The entries of a table are what it stores. -/
theorem mem_entries_iff {t : Sparse κ α} {key : κ} {value : α} :
    (key, value) ∈ t.entries ↔ t.find? key = some value :=
  ⟨lookup_of_mem t.ascending, mem_of_lookup⟩

@[simp]
theorem find?_put_self (t : Sparse κ α) (key : κ) (value : Option α) :
    (t.put key value).find? key = value := by
  rw [find?_put, if_pos rfl]

theorem find?_put_of_ne {t : Sparse κ α} {key key' : κ} {value : Option α} (hne : key' ≠ key) :
    (t.put key value).find? key' = t.find? key' := by
  rw [find?_put, if_neg fun hrank => hne (Ranked.rank_injective hrank)]

/-! ## Tables of lists -/

theorem nodup_keys (t : Sparse κ α) : (t.entries.map (·.1)).Nodup := by
  rw [List.Nodup, List.pairwise_map]
  refine t.ascending.imp fun {a b} hlt heq => ?_
  rw [heq] at hlt
  exact Nat.lt_irrefl _ hlt

/-- A table made from a list with distinct keys stores the entries of the list. -/
theorem find?_ofList_eq_some_iff {entries : List (κ × α)}
    (hdistinct : (entries.map (·.1)).Nodup) {key : κ} {value : α} :
    (ofList entries).find? key = some value ↔ (key, value) ∈ entries := by
  induction entries using List.reverseRecOn with
  | nil => simp [ofList]
  | append_singleton entries entry ih =>
    obtain ⟨k, v⟩ := entry
    rw [List.map_append, List.nodup_append] at hdistinct
    obtain ⟨hentries, -, hother⟩ := hdistinct
    have hput : ofList (entries ++ [(k, v)]) = (ofList entries).put k (some v) := by
      rw [ofList, List.foldl_append]
      rfl
    rw [hput, List.mem_append, List.mem_singleton]
    by_cases hkey : key = k
    · subst hkey
      -- no earlier entry has the key of the last one
      have hnone : (key, value) ∉ entries := fun hmem =>
        hother key (List.mem_map_of_mem (f := (·.1)) hmem) key (by simp) rfl
      rw [find?_put_self]
      simp [hnone, eq_comm]
    · rw [find?_put_of_ne hkey, ih hentries]
      simp [hkey]

/-! ## Last keys -/

theorem lastKey?_eq_none_iff {t : Sparse κ α} {p : κ → α → Bool} :
    t.lastKey? p = none ↔ ∀ key value, t.find? key = some value → p key value = false := by
  simp only [lastKey?, List.findRev?_eq_find?_reverse, Option.map_eq_none_iff,
    List.find?_eq_none, List.mem_reverse, Bool.not_eq_true, Prod.forall, mem_entries_iff]

/-- Of two entries of a table, the one that stands later has the higher rank. -/
theorem rank_lt_of_append {t : Sparse κ α} {before after : List (κ × α)} {a b : κ × α}
    (hentries : t.entries = before ++ a :: after) (hlater : b ∈ after) : rank a.1 < rank b.1 := by
  have hascending := t.ascending
  rw [hentries] at hascending
  have htail := (List.pairwise_append.1 hascending).2.1
  exact (List.pairwise_cons.1 htail).1 b hlater

/-- At the last key with a property something is stored that has it, and no key with it is higher.
-/
theorem stored_of_lastKey? {t : Sparse κ α} {p : κ → α → Bool} {key : κ}
    (hlast : t.lastKey? p = some key) :
    (∃ value, t.find? key = some value ∧ p key value = true) ∧
      ∀ key' value', t.find? key' = some value' → p key' value' = true → rank key' ≤ rank key := by
  simp only [lastKey?, List.findRev?_eq_find?_reverse, Option.map_eq_some_iff] at hlast
  obtain ⟨⟨k, value⟩, hfind, rfl⟩ := hlast
  obtain ⟨hp, later, earlier, hreverse, hnot⟩ := List.find?_eq_some_iff_append.1 hfind
  have hentries : t.entries = earlier.reverse ++ (k, value) :: later.reverse := by
    have := congrArg List.reverse hreverse
    simpa using this
  refine ⟨⟨value, ?_, hp⟩, ?_⟩
  · rw [← mem_entries_iff, hentries]
    simp
  · intro key' value' hfind' hp'
    rw [← mem_entries_iff, hentries] at hfind'
    rcases List.mem_append.1 hfind' with hearlier | hlater
    · obtain ⟨front, rest, hsplit⟩ := List.append_of_mem hearlier
      have hmiddle :
          t.entries = front ++ (key', value') :: (rest ++ (k, value) :: later.reverse) := by
        rw [hentries, hsplit]
        simp
      have hlt := rank_lt_of_append (b := (k, value)) hmiddle (by simp)
      exact Nat.le_of_lt hlt
    · rcases List.mem_cons.1 hlater with heq | hin
      · exact Nat.le_of_eq (congrArg (fun e => rank e.1) heq)
      · have := hnot (key', value') (List.mem_reverse.1 hin)
        simp [hp'] at this

theorem lastKey?_eq_some_iff {t : Sparse κ α} {p : κ → α → Bool} {key : κ} :
    t.lastKey? p = some key ↔
      (∃ value, t.find? key = some value ∧ p key value = true) ∧
        ∀ key' value', t.find? key' = some value' → p key' value' = true →
          rank key' ≤ rank key := by
  refine ⟨stored_of_lastKey?, ?_⟩
  intro ⟨⟨value, hfind, hp⟩, hmax⟩
  cases hlast : t.lastKey? p with
  | none =>
    have := lastKey?_eq_none_iff.1 hlast key value hfind
    rw [hp] at this
    contradiction
  | some key' =>
    obtain ⟨⟨value', hfind', hp'⟩, hmax'⟩ := stored_of_lastKey? hlast
    have hle := hmax key' value' hfind' hp'
    have hge := hmax' key value hfind hp
    exact congrArg some (Ranked.rank_injective (Nat.le_antisymm hle hge))

end FillScript.Sparse
