/-
**Lists whose items have keys of their own.**

* `find?_key_eq_some_iff` — looking a key up finds the item that has it.
* **`flatMap_perm_iff`** — two lists that hold something for each item are equal up to order exactly
  when they hold the same for each item, up to order.
-/

import Mathlib.Data.List.Basic
import Mathlib.Data.List.Nodup
import Mathlib.Data.List.Perm.Basic

namespace RsTun.Library.Keyed

universe u v w

variable {Item : Type u} {Key : Type v} {Entry : Type w} [DecidableEq Key]
variable {key : Item → Key} {items : List Item} {item : Item}

/-- **A lookup** finds the one item that has the key. -/
theorem find?_key_eq_some_iff (unique : (items.map key).Nodup) {wanted : Key} :
    items.find? (key · = wanted) = some item ↔ item ∈ items ∧ key item = wanted := by
  constructor
  · intro found
    have has := List.find?_some found
    exact ⟨List.mem_of_find?_eq_some found, of_decide_eq_true has⟩
  · rintro ⟨mem, rfl⟩
    have listed : (items.find? (key · = key item)).isSome :=
      List.find?_isSome.mpr ⟨item, mem, decide_eq_true rfl⟩
    obtain ⟨other, found⟩ := Option.isSome_iff_exists.mp listed
    have has := List.find?_some found
    rw [found, List.inj_on_of_nodup_map unique (List.mem_of_find?_eq_some found) mem
      (of_decide_eq_true has)]

/-! ### Lists that hold something for each item -/

/-- A list as what it keeps of each item. -/
theorem filter_eq_flatMap (keep : Item → Prop) [DecidablePred keep] (items : List Item) :
    items.filter keep = items.flatMap fun item => if keep item then [item] else [] := by
  induction items with
  | nil => rfl
  | cons first rest ih =>
      rw [List.flatMap_cons, ← ih, List.filter_cons]
      by_cases kept : keep first
      · rw [if_pos kept, if_pos (decide_eq_true kept), List.singleton_append]
      · rw [if_neg kept, if_neg (by simpa using kept), List.nil_append]

variable {keyOf : Entry → Key} {first second : Item → List Entry}

/-- Each entry has the key of its item. -/
def Tagged (key : Item → Key) (keyOf : Entry → Key) (entries : Item → List Entry)
    (items : List Item) : Prop :=
  ∀ item ∈ items, ∀ entry ∈ entries item, keyOf entry = key item

/-- Entries of other items do not have the key of this one. -/
theorem filter_flatMap_eq_nil (absent : key item ∉ items.map key)
    (tagged : Tagged key keyOf first items) :
    (items.flatMap first).filter (keyOf · = key item) = [] := by
  rw [List.filter_eq_nil_iff]
  intro entry inside equal
  obtain ⟨other, mem, inside⟩ := List.mem_flatMap.mp inside
  refine absent (List.mem_map.mpr ⟨other, mem, ?_⟩)
  rw [← tagged other mem entry inside, of_decide_eq_true equal]

/-- The entries with the key of an item are those of the item. -/
theorem filter_flatMap_key (unique : (items.map key).Nodup)
    (tagged : Tagged key keyOf first items) (mem : item ∈ items) :
    (items.flatMap first).filter (keyOf · = key item) = first item := by
  induction items with
  | nil => exact (List.not_mem_nil mem).elim
  | cons next rest ih =>
      obtain ⟨fresh, unique⟩ := List.nodup_cons.mp unique
      obtain ⟨here, behind⟩ := List.forall_mem_cons.mp tagged
      rw [List.flatMap_cons, List.filter_append]
      rcases List.mem_cons.mp mem with rfl | mem
      · rw [filter_flatMap_eq_nil fresh behind, List.append_nil, List.filter_eq_self]
        exact fun entry inside => decide_eq_true (here entry inside)
      · have others : (first next).filter (keyOf · = key item) = [] := by
          rw [List.filter_eq_nil_iff]
          intro entry inside equal
          have same := (here entry inside).symm.trans (of_decide_eq_true equal)
          exact fresh (same ▸ List.mem_map_of_mem mem)
        rw [others, List.nil_append, ih unique behind mem]

/-- **Two lists of entries agree up to order** exactly when they do at each item. -/
theorem flatMap_perm_iff (unique : (items.map key).Nodup)
    (tagged : Tagged key keyOf first items) (tagged' : Tagged key keyOf second items) :
    (items.flatMap first).Perm (items.flatMap second)
      ↔ ∀ item ∈ items, (first item).Perm (second item) := by
  constructor
  · intro perm item mem
    have entries := perm.filter (keyOf · = key item)
    rwa [filter_flatMap_key unique tagged mem, filter_flatMap_key unique tagged' mem] at entries
  · exact List.Perm.flatMap_left items

end RsTun.Library.Keyed
