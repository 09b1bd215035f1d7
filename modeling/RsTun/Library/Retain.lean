/-
**Filtering a finite map, and counting its keys.**

`retain` keeps the entries that a test accepts; `size` is the number of the keys.

* `lookup_retain`, `lookup_eraseAll` — what a lookup finds after a filter, and after a batch of
  deletions.
* `size_insert_le`, `size_erase_le`, `size_retain_le` — how the number of the keys can change.
-/

import Mathlib.Data.List.AList

namespace RsTun.Library

universe u v w

variable {Key : Type u} {Value : Type v}

namespace FiniteMap

/-- The entries that the test accepts. -/
def retain (table : AList fun _ : Key => Value) (keep : Key → Value → Bool) :
    AList fun _ : Key => Value where
  entries := table.entries.filter fun entry => keep entry.1 entry.2
  nodupKeys := table.nodupKeys.sublist List.filter_sublist

/-- The number of the keys. -/
def size (table : AList fun _ : Key => Value) : Nat := table.entries.length

theorem length_keys (table : AList fun _ : Key => Value) : table.keys.length = size table := by
  rw [AList.keys, List.keys, List.length_map, size]

theorem size_retain_le (table : AList fun _ : Key => Value) (keep : Key → Value → Bool) :
    size (retain table keep) ≤ size table := List.length_filter_le _ _

variable [DecidableEq Key]

/-- **A lookup after the filter** finds what was there, if the test accepts it. -/
theorem lookup_retain (table : AList fun _ : Key => Value) (keep : Key → Value → Bool) (key : Key) :
    (retain table keep).lookup key = (table.lookup key).filter (keep key) := by
  apply Option.ext
  intro value
  rw [Option.filter_eq_some_iff]
  show value ∈ (retain table keep).lookup key ↔ value ∈ table.lookup key ∧ keep key value = true
  rw [AList.mem_lookup_iff, AList.mem_lookup_iff, retain, List.mem_filter]

/-- The keys of the items erased, one after the other. -/
def eraseAll {Item : Type w} (keyOf : Item → Key) :
    List Item → (AList fun _ : Key => Value) → AList fun _ : Key => Value
  | [], table => table
  | item :: rest, table => eraseAll keyOf rest (table.erase (keyOf item))

/-- **A lookup after a batch of deletions** finds what was there, unless its key was among them. -/
theorem lookup_eraseAll {Item : Type w} (keyOf : Item → Key) (items : List Item)
    (table : AList fun _ : Key => Value) (key : Key) :
    (eraseAll keyOf items table).lookup key
      = if ∃ item ∈ items, keyOf item = key then none else table.lookup key := by
  induction items generalizing table with
  | nil => simp [eraseAll]
  | cons item rest ih =>
      rw [eraseAll, ih]
      by_cases later : ∃ other ∈ rest, keyOf other = key
      · rw [if_pos later, if_pos]
        obtain ⟨other, member, same⟩ := later
        exact ⟨other, List.mem_cons_of_mem _ member, same⟩
      · rw [if_neg later]
        by_cases here : keyOf item = key
        · rw [if_pos ⟨item, List.mem_cons_self, here⟩, ← here]
          exact AList.lookup_erase _ _
        · rw [if_neg]
          · exact AList.lookup_erase_ne (Ne.symm here)
          · rintro ⟨other, member, same⟩
            rcases List.mem_cons.mp member with rfl | member
            · exact here same
            · exact later ⟨other, member, same⟩

theorem size_erase_le (table : AList fun _ : Key => Value) (key : Key) :
    size (table.erase key) ≤ size table := (List.kerase_sublist key table.entries).length_le

/-- A new key is one key more. -/
theorem size_insert_le (table : AList fun _ : Key => Value) (key : Key) (value : Value) :
    size (table.insert key value) ≤ size table + 1 := by
  rw [size, AList.entries_insert, List.length_cons]
  exact Nat.succ_le_succ (List.kerase_sublist key table.entries).length_le

/-- A key that is there is counted once. -/
theorem size_insert_of_mem {table : AList fun _ : Key => Value} {key : Key} (value : Value)
    (present : key ∈ table) : size (table.insert key value) = size table := by
  rw [← length_keys, ← length_keys, AList.keys_insert, List.length_cons,
    List.length_erase_of_mem (AList.mem_keys.mp present)]
  exact Nat.sub_add_cancel (List.length_pos_of_mem (AList.mem_keys.mp present))

end FiniteMap

end RsTun.Library
