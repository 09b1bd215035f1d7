/-
**Routing tables with one route for a prefix, and the longest match.**

A prefix is its length and the first bits of its addresses. An address takes the route of the
longest prefix that it lies in and that has a route. A command does not add a route where there is
one, and deletes a route whatever its hop.

* `keyAt_eq_iff` — two addresses lie in one prefix of a length exactly when they share its bits.
* `lookup_eq_some_iff` — the route of an address is that of the longest prefix with a route.
* `applyAll_adds`, `applyAll_deletes` — what commands leave of a table.
* **`applyAll_undone_iff`** — deleting what was added brings the table back exactly when no prefix
  that is deleted had a route before.
-/

import Mathlib.Logic.Function.Basic
import RsTun.Library.Prefix

namespace RsTun.Library

namespace RouteMap

open Prefix

universe u

variable {Hop : Type u}

/-- A prefix: its length, and the first bits of its addresses. -/
abbrev Key := Nat × Nat

/-- The prefix of a length that an address lies in. -/
def keyAt (width length addr : Nat) : Key := (length, addr / blockSize width length)

/-- The routes of the prefixes. -/
abbrev Table (Hop : Type u) := Key → Option Hop

/-- A change of a table. -/
inductive Command (Hop : Type u) where
  | add (key : Key) (hop : Hop)
  | delete (key : Key)

/-- A prefix that has a route keeps it. -/
def Command.apply (table : Table Hop) : Command Hop → Table Hop
  | .add key hop => Function.update table key ((table key).or (some hop))
  | .delete key => Function.update table key none

/-- Commands in turn. -/
def applyAll (table : Table Hop) (commands : List (Command Hop)) : Table Hop :=
  commands.foldl Command.apply table

/-- The route of an address, from the prefixes up to a length. -/
def lookupUpTo (width : Nat) (table : Table Hop) (addr : Nat) : Nat → Option Hop
  | 0 => table (keyAt width 0 addr)
  | length + 1 =>
      (table (keyAt width (length + 1) addr)).or (lookupUpTo width table addr length)

/-- The route of an address. -/
def lookup (width : Nat) (table : Table Hop) (addr : Nat) : Option Hop :=
  lookupUpTo width table addr width

variable {width length bound addr : Nat} {table : Table Hop} {hop : Hop} {key : Key}
  {keys : List Key}

theorem keyAt_eq_iff {other second : Nat} : keyAt width length addr = keyAt width other second
    ↔ length = other ∧ SameBlock width length addr second := by
  unfold keyAt SameBlock
  rw [Prod.mk.injEq]
  constructor
  · rintro ⟨rfl, same⟩
    exact ⟨rfl, same⟩
  · rintro ⟨rfl, same⟩
    exact ⟨rfl, same⟩

theorem lookupUpTo_eq_some_iff : lookupUpTo width table addr bound = some hop
    ↔ ∃ length ≤ bound, table (keyAt width length addr) = some hop
      ∧ ∀ longer ≤ bound, length < longer → table (keyAt width longer addr) = none := by
  induction bound with
  | zero =>
      rw [lookupUpTo]
      constructor
      · intro found
        exact ⟨0, Nat.le_refl 0, found, fun longer small longer' => by omega⟩
      · rintro ⟨length, small, found, -⟩
        rwa [Nat.le_zero.mp small] at found
  | succ bound ih =>
      rw [lookupUpTo]
      cases last : table (keyAt width (bound + 1) addr) with
      | some other =>
          rw [Option.some_or]
          constructor
          · intro same
            exact ⟨bound + 1, Nat.le_refl _, last.trans same, fun longer small longer' => by omega⟩
          · rintro ⟨length, small, found, none⟩
            rcases Nat.lt_or_eq_of_le small with shorter | rfl
            · cases last.symm.trans (none (bound + 1) (Nat.le_refl _) shorter)
            · exact last.symm.trans found
      | none =>
          rw [Option.none_or, ih]
          constructor
          · rintro ⟨length, small, found, none⟩
            refine ⟨length, Nat.le_succ_of_le small, found, fun longer small' longer' => ?_⟩
            rcases Nat.lt_or_eq_of_le small' with shorter | rfl
            · exact none longer (Nat.le_of_lt_succ shorter) longer'
            · exact last
          · rintro ⟨length, small, found, none⟩
            rcases Nat.lt_or_eq_of_le small with shorter | rfl
            · exact ⟨length, Nat.le_of_lt_succ shorter, found, fun longer small' longer' =>
                none longer (Nat.le_succ_of_le small') longer'⟩
            · cases last.symm.trans found

/-- **The longest match.** -/
theorem lookup_eq_some_iff : lookup width table addr = some hop
    ↔ ∃ length ≤ width, table (keyAt width length addr) = some hop
      ∧ ∀ longer ≤ width, length < longer → table (keyAt width longer addr) = none :=
  lookupUpTo_eq_some_iff

/-! ### What commands leave -/

theorem applyAll_append {first second : List (Command Hop)} :
    applyAll table (first ++ second) = applyAll (applyAll table first) second :=
  List.foldl_append

/-- Where there was no route, the added one is there. -/
theorem applyAll_adds : applyAll table (keys.map fun key => .add key hop) key
    = (table key).or (if key ∈ keys then some hop else none) := by
  induction keys generalizing table with
  | nil => exact (Option.or_none).symm
  | cons first rest ih =>
      rw [List.map_cons, applyAll, List.foldl_cons, ← applyAll, ih, Command.apply]
      by_cases here : key = first
      · rw [here, Function.update_self, if_pos List.mem_cons_self]
        cases table first with
        | none => rfl
        | some other => rfl
      · rw [Function.update_of_ne here]
        simp only [List.mem_cons, here, false_or]

/-- What is deleted is gone. -/
theorem applyAll_deletes : applyAll table (keys.map .delete) key
    = if key ∈ keys then none else table key := by
  induction keys generalizing table with
  | nil => rfl
  | cons first rest ih =>
      rw [List.map_cons, applyAll, List.foldl_cons, ← applyAll, ih, Command.apply]
      by_cases here : key = first
      · rw [here, Function.update_self, ite_self, if_pos List.mem_cons_self]
      · rw [Function.update_of_ne here]
        simp only [List.mem_cons, here, false_or]

/-- **Undone**: a table comes back exactly when the prefixes whose routes are deleted had none, if
they are all of those that were added to. -/
theorem applyAll_undone_iff {changed : Table Hop} (kept : ∀ key ∉ keys, changed key = table key) :
    applyAll changed (keys.map .delete) = table ↔ ∀ key ∈ keys, table key = none := by
  constructor
  · intro back key member
    rw [← back, applyAll_deletes, if_pos member]
  · intro free
    funext key
    rw [applyAll_deletes]
    split
    · exact (free key ‹_›).symm
    · exact kept key ‹_›

end RouteMap

end RsTun.Library
