/-
**Items that a table groups by a key.**

A table keeps a list of items for each key. All its items together change only by what changes in
the list of the key that is written.

* `Grouped.items_insert` — a list that is written in place of another one.
* `Grouped.items_insert_new` — the first list of a key.
* `Grouped.Every` — a property of every item, and `Grouped.Keyed`, that its list is of its own key.
-/

import Mathlib.Data.List.AList

namespace RsTun.Library.Grouped

universe u v

variable {Key : Type u} {Item : Type v}

/-- All items of a table, in the order in which the table keeps its lists. -/
def items (table : AList fun _ : Key => List Item) : List Item :=
  (table.entries.map Sigma.snd).flatten

variable [DecidableEq Key] {table : AList fun _ : Key => List Item} {key : Key}

/-- **A list in place of another one.** -/
theorem items_insert {group : List Item} (found : table.lookup key = some group) :
    ∃ others, (items table).Perm (group ++ others)
      ∧ ∀ group', (items (table.insert key group')).Perm (group' ++ others) := by
  have inside : key ∈ table.entries.keys :=
    AList.lookup_isSome.mp (Option.isSome_iff_exists.mpr ⟨group, found⟩)
  obtain ⟨value, before, after, -, split, erased⟩ := List.exists_of_kerase inside
  have same : value = group := by
    have entry : ⟨key, value⟩ ∈ table.entries := by
      rw [split]
      exact List.mem_append_right _ List.mem_cons_self
    exact (Option.some.inj (found.symm.trans (AList.mem_lookup_iff.mpr entry))).symm
  subst same
  refine ⟨((before ++ after).map Sigma.snd).flatten, ?_, fun group' => ?_⟩
  · have moved : table.entries.Perm (⟨key, value⟩ :: (before ++ after)) := by
      rw [split]
      exact List.perm_middle
    exact (moved.map Sigma.snd).flatten
  · rw [items, AList.entries_insert, erased]
    exact .refl _

/-- The items of a list are among all items. -/
theorem mem_items {group : List Item} (found : table.lookup key = some group) {item : Item}
    (inside : item ∈ group) : item ∈ items table := by
  have entry : ⟨key, group⟩ ∈ table.entries := AList.mem_lookup_iff.mp found
  exact List.mem_flatten.mpr ⟨group, List.mem_map.mpr ⟨_, entry, rfl⟩, inside⟩

/-- **The first list of a key.** -/
theorem items_insert_new (absent : table.lookup key = none) (group : List Item) :
    items (table.insert key group) = group ++ items table := by
  rw [items, AList.entries_insert_of_notMem (AList.lookup_eq_none.mp absent)]
  rfl

/-- Every item of every list has the property, which may depend on the key of the list. -/
def Every (property : Key → Item → Prop) (table : AList fun _ : Key => List Item) : Prop :=
  ∀ key group, table.lookup key = some group → ∀ item ∈ group, property key item

section Every

variable {property : Key → Item → Prop}

theorem Every.empty (property : Key → Item → Prop) : Every property ∅ := by
  intro key group found
  rw [AList.lookup_empty] at found
  cases found

theorem Every.insert (every : Every property table) {group : List Item}
    (ofKey : ∀ item ∈ group, property key item) : Every property (table.insert key group) := by
  intro other listed found
  by_cases same : other = key
  · subst same
    rw [AList.lookup_insert] at found
    cases found
    exact ofKey
  · rw [AList.lookup_insert_ne same] at found
    exact every other listed found

end Every

/-- Every list holds items of its own key. -/
def Keyed (keyOf : Item → Key) (table : AList fun _ : Key => List Item) : Prop :=
  ∀ key group, table.lookup key = some group → ∀ item ∈ group, keyOf item = key

theorem Keyed.empty (keyOf : Item → Key) : Keyed keyOf ∅ :=
  Every.empty fun key item => keyOf item = key

theorem Keyed.insert {keyOf : Item → Key} (keyed : Keyed keyOf table) {group : List Item}
    (ofKey : ∀ item ∈ group, keyOf item = key) : Keyed keyOf (table.insert key group) :=
  Every.insert keyed ofKey

/-- No list is empty. -/
def Inhabited (table : AList fun _ : Key => List Item) : Prop :=
  ∀ key group, table.lookup key = some group → group ≠ []

theorem Inhabited.empty : Inhabited (∅ : AList fun _ : Key => List Item) := by
  intro key group found
  rw [AList.lookup_empty] at found
  cases found

theorem Inhabited.insert (inhabited : Inhabited table) {group : List Item} (some : group ≠ []) :
    Inhabited (table.insert key group) := by
  intro other listed found
  by_cases same : other = key
  · subst same
    rw [AList.lookup_insert] at found
    cases found
    exact some
  · rw [AList.lookup_insert_ne same] at found
    exact inhabited other listed found

end RsTun.Library.Grouped
