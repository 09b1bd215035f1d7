/-
**A ledger of inputs that are held at places, and merged where they are held.**

Inputs come one after the other. Each one is put at a place of its own, or joined to what another
place holds. What the places hold together is what has come in, each input once.

* `Ledger.push` — an input at a new place.
* `Ledger.join` — an input joined to a place.
* `Ledger.length_le` — no place holds more than has come in.
-/

import Mathlib.Data.List.Perm.Basic
import Mathlib.Logic.Function.Basic

namespace RsTun.Library

universe u

variable {Value : Type u}

/-- After `count` inputs, `places` are in use, and each of them holds what `holds` says. -/
structure Ledger (inputs : List Value) (count : Nat) (places : List Nat)
    (holds : Nat → List Value) : Prop where
  nodup : places.Nodup
  early : ∀ place ∈ places, place < count
  total : (places.flatMap holds).Perm (inputs.take count)

/-- What one place gains, all places together gain. -/
theorem flatMap_update_perm {holds : Nat → List Value} {place : Nat} {more extra : List Value}
    (grown : more.Perm (extra ++ holds place)) : ∀ {places : List Nat}, places.Nodup →
      place ∈ places →
      (places.flatMap (Function.update holds place more)).Perm (extra ++ places.flatMap holds) := by
  intro places
  induction places with
  | nil => exact fun _ among => absurd among List.not_mem_nil
  | cons first rest ih =>
      intro nodup among
      obtain ⟨fresh, nodup'⟩ := List.nodup_cons.mp nodup
      rw [List.flatMap_cons, List.flatMap_cons]
      by_cases same : place = first
      · subst same
        have others : rest.flatMap (Function.update holds place more) = rest.flatMap holds := by
          refine List.flatMap_congr fun other later => Function.update_of_ne ?_ _ _
          rintro rfl
          exact fresh later
        rw [Function.update_self, others, ← List.append_assoc]
        exact grown.append_right _
      · rw [Function.update_of_ne (Ne.symm same)]
        have later := ih nodup' ((List.mem_cons.mp among).resolve_left same)
        refine (later.append_left _).trans ?_
        rw [← List.append_assoc, ← List.append_assoc]
        exact List.perm_append_comm.append_right _

namespace Ledger

variable {inputs : List Value} {count : Nat} {places : List Nat} {holds : Nat → List Value}

theorem empty (inputs : List Value) (holds : Nat → List Value) : Ledger inputs 0 [] holds where
  nodup := List.nodup_nil
  early := nofun
  total := .refl _

/-- **An input at a new place.** -/
theorem push (ledger : Ledger inputs count places holds) {input : Value}
    (next : inputs[count]? = some input) :
    Ledger inputs (count + 1) (places ++ [count]) (Function.update holds count [input]) := by
  have fresh : count ∉ places := fun among => Nat.lt_irrefl _ (ledger.early count among)
  refine ⟨?_, ?_, ?_⟩
  · exact (List.perm_append_singleton count places).nodup_iff.mpr
      (List.nodup_cons.mpr ⟨fresh, ledger.nodup⟩)
  · intro place among
    obtain old | new := List.mem_append.mp among
    · exact Nat.lt_succ_of_lt (ledger.early place old)
    · rw [List.mem_singleton.mp new]
      exact Nat.lt_succ_self count
  · have others : places.flatMap (Function.update holds count [input]) = places.flatMap holds := by
      refine List.flatMap_congr fun other among => Function.update_of_ne ?_ _ _
      rintro rfl
      exact fresh among
    rw [List.flatMap_append, others, List.flatMap_singleton, Function.update_self,
      List.take_add_one, next]
    exact ledger.total.append_right _

/-- **An input joined to a place.** -/
theorem join (ledger : Ledger inputs count places holds) {input : Value}
    (next : inputs[count]? = some input) {place : Nat} (among : place ∈ places)
    {more : List Value} (grown : more.Perm (input :: holds place)) :
    Ledger inputs (count + 1) places (Function.update holds place more) := by
  refine ⟨ledger.nodup, fun other used => Nat.lt_succ_of_lt (ledger.early other used), ?_⟩
  have gained : more.Perm ([input] ++ holds place) := grown
  refine (flatMap_update_perm gained ledger.nodup among).trans ?_
  rw [List.take_add_one, next]
  exact (ledger.total.cons input).trans (List.perm_append_singleton _ _).symm

/-- **No place holds more than has come in.** -/
theorem length_le (ledger : Ledger inputs count places holds) {place : Nat}
    (among : place ∈ places) : (holds place).length ≤ inputs.length := by
  have part : (holds place).Sublist (places.flatMap holds) := by
    rw [List.flatMap_def]
    exact List.sublist_flatten_of_mem (List.mem_map_of_mem among)
  have whole := ledger.total.length_eq
  rw [List.length_take] at whole
  have most := part.length_le
  omega

end Ledger

end RsTun.Library
