/-
**Executable step machines, their runs, and the two induction rules for them.**

A machine is a partial step function: `step state action` is the next state, or `none` when the
action is not enabled. A run is a list of actions, and the states a run reaches are exactly the
states its prefixes end in, so a statement about the end of every run is a statement about every
reachable state.

* `run_invariant` — what every enabled step keeps, every run keeps.
* `run_invariant_of_meets` — the same when the steps of the run all meet a condition on the state
  before the step and on the action.
* `throughout_iff_meets` — when the condition is also necessary at each step, a run keeps the
  property in all of its states **exactly** when all of its steps meet the condition.
* `run_to_end` — when some step can always bring a measure down, a run brings it to zero.
* `run_record` — a record that every step extends, a run extends by what its steps add.
-/

import Mathlib.Data.List.Basic

namespace RsTun.Library

universe u v w

/-- A machine: the actions enabled in a state, and where they lead. -/
structure Machine (State : Type u) (Action : Type v) where
  step : State → Action → Option State

namespace Machine

variable {State : Type u} {Action : Type v} (machine : Machine State Action)

/-- The state after a list of actions, if all of them are enabled in turn. -/
def run : State → List Action → Option State
  | state, [] => some state
  | state, action :: rest => (machine.step state action).bind fun next => run next rest

@[simp] theorem run_nil (state : State) : machine.run state [] = some state := rfl

theorem run_cons (state : State) (action : Action) (rest : List Action) :
    machine.run state (action :: rest)
      = (machine.step state action).bind fun next => machine.run next rest := rfl

theorem run_cons_eq_some {state final : State} {action : Action} {rest : List Action} :
    machine.run state (action :: rest) = some final ↔
      ∃ next, machine.step state action = some next ∧ machine.run next rest = some final := by
  rw [run_cons, Option.bind_eq_some_iff]

/-- A run in two parts. -/
theorem run_append {first second : List Action} {state middle : State}
    (reached : machine.run state first = some middle) :
    machine.run state (first ++ second) = machine.run middle second := by
  induction first generalizing state with
  | nil =>
      cases reached
      rfl
  | cons action rest ih =>
      obtain ⟨next, enabled, later⟩ := (machine.run_cons_eq_some).mp reached
      rw [List.cons_append, run_cons, enabled, Option.bind_some, ih later]

/-- Every step of the run meets the condition, which reads the state before the step. -/
def Meets (ok : State → Action → Prop) : State → List Action → Prop
  | _, [] => True
  | state, action :: rest =>
      ok state action ∧ ∀ next, machine.step state action = some next → Meets ok next rest

/-- The property holds in every state the run goes through, its first and its last included. -/
def Throughout (property : State → Prop) : State → List Action → Prop
  | state, [] => property state
  | state, action :: rest =>
      property state ∧ ∀ next, machine.step state action = some next → Throughout property next rest

instance meetsDecidable (ok : State → Action → Prop) [∀ state action, Decidable (ok state action)] :
    ∀ state actions, Decidable (machine.Meets ok state actions)
  | _, [] => inferInstanceAs (Decidable True)
  | state, action :: rest =>
      match enabled : machine.step state action with
      | none => decidable_of_iff (ok state action) (by
          simp only [Meets, enabled, reduceCtorEq, false_implies, implies_true, and_true])
      | some next =>
          have := meetsDecidable ok next rest
          decidable_of_iff (ok state action ∧ machine.Meets ok next rest) (by
            simp only [Meets, enabled, Option.some.injEq, forall_eq'])

variable {machine}

/-- **What every step keeps under a condition, every run whose steps meet it keeps.** -/
theorem run_invariant_of_meets {ok : State → Action → Prop} {invariant : State → Prop}
    (keeps : ∀ {state action next}, invariant state → ok state action →
      machine.step state action = some next → invariant next) :
    ∀ {actions : List Action} {state final : State}, invariant state →
      machine.Meets ok state actions → machine.run state actions = some final →
      invariant final := by
  intro actions
  induction actions with
  | nil =>
      intro state final holds _ reached
      cases reached
      exact holds
  | cons action rest ih =>
      intro state final holds meets reached
      obtain ⟨next, enabled, later⟩ := (machine.run_cons_eq_some).mp reached
      exact ih (keeps holds meets.1 enabled) (meets.2 next enabled) later

/-- A condition on the actions alone. -/
theorem meets_of_forall {ok : Action → Prop} {actions : List Action} {state : State}
    (all : ∀ action ∈ actions, ok action) : machine.Meets (fun _ action => ok action) state actions
    := by
  induction actions generalizing state with
  | nil => exact trivial
  | cons action rest ih =>
      obtain ⟨here, later⟩ := List.forall_mem_cons.mp all
      exact ⟨here, fun _ _ => ih later⟩

/-- **What every step keeps, every run keeps.** -/
theorem run_invariant {invariant : State → Prop}
    (keeps : ∀ {state action next}, invariant state →
      machine.step state action = some next → invariant next)
    {actions : List Action} {state final : State} (holds : invariant state)
    (reached : machine.run state actions = some final) : invariant final := by
  have unconditional : ∀ {actions : List Action} {state : State},
      machine.Meets (fun _ _ => True) state actions := by
    intro actions
    induction actions with
    | nil => exact trivial
    | cons action rest ih => exact ⟨trivial, fun _ _ => ih⟩
  exact run_invariant_of_meets (fun before _ enabled => keeps before enabled) holds unconditional
    reached

/-- **A property of all states of a run against a condition on its steps.** With an invariant that
good steps keep and that implies the property, and with a bad step breaking the property at once,
the property holds throughout a run exactly when every step is good. -/
theorem throughout_iff_meets {ok : State → Action → Prop} {invariant property : State → Prop}
    (sound : ∀ {state}, invariant state → property state)
    (keeps : ∀ {state action next}, invariant state → ok state action →
      machine.step state action = some next → invariant next)
    (breaks : ∀ {state action next}, invariant state → ¬ ok state action →
      machine.step state action = some next → ¬ property next) :
    ∀ {actions : List Action} {state final : State}, invariant state →
      machine.run state actions = some final →
      (machine.Throughout property state actions ↔ machine.Meets ok state actions) := by
  intro actions
  induction actions with
  | nil =>
      intro state final holds _
      exact ⟨fun _ => trivial, fun _ => sound holds⟩
  | cons action rest ih =>
      intro state final holds reached
      obtain ⟨next, enabled, later⟩ := (machine.run_cons_eq_some).mp reached
      have onlyNext : ∀ other, machine.step state action = some other → other = next :=
        fun other same => Option.some.inj (same.symm.trans enabled)
      constructor
      · intro throughout
        have rest' := throughout.2 next enabled
        have good : ok state action := by
          by_contra bad
          refine breaks holds bad enabled ?_
          cases rest with
          | nil => exact rest'
          | cons _ _ => exact rest'.1
        refine ⟨good, fun other same => ?_⟩
        rw [onlyNext other same]
        exact (ih (keeps holds good enabled) later).mp rest'
      · intro meets
        refine ⟨sound holds, fun other same => ?_⟩
        rw [onlyNext other same]
        exact (ih (keeps holds meets.1 enabled) later).mpr (meets.2 next enabled)

/-- **Progress**: when some step always brings the measure down, there is a run of such steps after
which nothing remains. -/
theorem run_to_end_by {allowed : Action → Prop} {invariant : State → Prop}
    {remaining : State → Nat}
    (progress : ∀ state, invariant state → 0 < remaining state →
      ∃ action next, allowed action ∧ machine.step state action = some next ∧ invariant next
        ∧ remaining next < remaining state) :
    ∀ state, invariant state →
      ∃ actions final, (∀ action ∈ actions, allowed action)
        ∧ machine.run state actions = some final ∧ invariant final ∧ remaining final = 0 := by
  intro state
  induction less : remaining state using Nat.strongRecOn generalizing state with
  | ind count ih =>
      intro holds
      rcases Nat.eq_zero_or_pos count with none | some
      · exact ⟨[], state, nofun, rfl, holds, less.trans none⟩
      · obtain ⟨action, next, fine, stepped, kept, closer⟩ := progress state holds (less ▸ some)
        obtain ⟨actions, final, all, reached, still, done⟩ := ih _ (less ▸ closer) next rfl kept
        exact ⟨action :: actions, final, List.forall_mem_cons.mpr ⟨fine, all⟩,
          (machine.run_cons_eq_some).mpr ⟨next, stepped, reached⟩, still, done⟩

/-- Progress by any steps. -/
theorem run_to_end {invariant : State → Prop} {remaining : State → Nat}
    (progress : ∀ state, invariant state → 0 < remaining state →
      ∃ action next, machine.step state action = some next ∧ invariant next
        ∧ remaining next < remaining state) (state : State) (holds : invariant state) :
    ∃ actions final, machine.run state actions = some final ∧ invariant final
      ∧ remaining final = 0 := by
  obtain ⟨actions, final, -, reached⟩ := @run_to_end_by _ _ machine (fun _ => True) _ _
    (fun state before some => by
      obtain ⟨action, next, goes⟩ := progress state before some
      exact ⟨action, next, trivial, goes⟩) state holds
  exact ⟨actions, final, reached⟩

/-- **What every step appends to a record, a run appends in turn.** -/
theorem run_record {Item : Type w} {invariant : State → Prop} {record : State → List Item}
    {added : Action → List Item}
    (keeps : ∀ {state action next}, invariant state →
      machine.step state action = some next → invariant next)
    (appends : ∀ {state action next}, invariant state →
      machine.step state action = some next → record next = record state ++ added action)
    {actions : List Action} {state final : State} (holds : invariant state)
    (reached : machine.run state actions = some final) :
    record final = record state ++ actions.flatMap added := by
  induction actions generalizing state with
  | nil =>
      cases reached
      exact (List.append_nil _).symm
  | cons action rest ih =>
      obtain ⟨next, enabled, later⟩ := (machine.run_cons_eq_some).mp reached
      rw [ih (keeps holds enabled) later, appends holds enabled, List.append_assoc,
        List.flatMap_cons]

end Machine

end RsTun.Library
