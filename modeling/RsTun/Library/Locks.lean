/-
**Interleavings of calls over shared memory guarded by reader-writer locks.**

A `Program` says, for each point a call can be at, which locks the call holds there and which ones
its next step has to take first; one step of one call is atomic. A `Pool` is the shared memory with
the calls started so far, and its machine lets any call take its next step as soon as no other call
holds a lock in a conflicting mode. Calls are started at any time and in any number, and the
environment may change the memory through events of its own.

* `step_step_eq_some` — what a step of one call does, guards included.
* `exclusive_step` — a step keeps it that no two calls hold a lock in conflicting modes.
* `forall_calls_set` — an assertion about all calls after a step, from the call that moved and from
  the others.
-/

import Mathlib.Data.Fintype.Basic
import RsTun.Library.Machine

set_option linter.unusedSectionVars false

namespace RsTun.Library

/-- How a call holds a lock, or asks for it. -/
inductive Mode where
  | free
  | read
  | write
  deriving DecidableEq, Repr

namespace Mode

/-- Two calls may be in these modes on one lock at the same time. -/
def compatible : Mode → Mode → Bool
  | .free, _ => true
  | _, .free => true
  | .read, .read => true
  | _, _ => false

@[simp] theorem compatible_free_right (mode : Mode) : compatible mode .free = true := by
  cases mode <;> rfl

theorem compatible_comm (first second : Mode) :
    compatible first second = compatible second first := by
  cases first <;> cases second <;> rfl

@[simp] theorem compatible_write_left (mode : Mode) :
    compatible .write mode = true ↔ mode = .free := by
  cases mode <;> simp [compatible]

end Mode

/-- Calls over shared memory. `Choice` is what the environment decides within one step of a call. -/
structure Program (Memory Local Lock Choice Call Event : Type) where
  start : Call → Local
  holds : Local → Lock → Mode
  /-- What the next step takes on top of what the call holds already. -/
  needs : Local → Lock → Mode
  next : Memory → Local → Choice → Option (Memory × Local)
  happen : Memory → Event → Option Memory
  start_free : ∀ call lock, holds (start call) lock = .free
  /-- A step keeps a lock, drops it, or goes on holding what it has just taken. -/
  next_holds : ∀ {memory here choice memory' after},
    next memory here choice = some (memory', after) →
    ∀ lock, holds after lock = .free ∨ holds after lock = holds here lock
      ∨ holds after lock = needs here lock

/-- The shared memory and the calls started so far. -/
structure Pool (Memory Local : Type) where
  memory : Memory
  calls : List Local

/-- What happens next: a call starts, a call takes its next step, the environment acts. -/
inductive Move (Choice Call Event : Type) where
  | call (call : Call)
  | step (index : Nat) (choice : Choice)
  | event (event : Event)

namespace Program

variable {Memory Local Lock Choice Call Event : Type} [Fintype Lock]
variable (program : Program Memory Local Lock Choice Call Event)

/-- No other call holds, in a conflicting mode, a lock that the next step of this one takes. -/
def Unblocked (calls : List Local) (index : Nat) (here : Local) : Prop :=
  ∀ other : Fin calls.length, other.val ≠ index → ∀ lock,
    (program.needs here lock).compatible (program.holds calls[other] lock) = true

instance (calls : List Local) (index : Nat) (here : Local) :
    Decidable (program.Unblocked calls index here) := by
  unfold Unblocked
  infer_instance

/-- The machine of all interleavings. -/
def machine : Machine (Pool Memory Local) (Move Choice Call Event) where
  step pool
    | .call call => some { pool with calls := pool.calls ++ [program.start call] }
    | .step index choice =>
        match pool.calls[index]? with
        | none => none
        | some here =>
            if program.Unblocked pool.calls index here then
              (program.next pool.memory here choice).map fun result =>
                ⟨result.1, pool.calls.set index result.2⟩
            else none
    | .event event =>
        (program.happen pool.memory event).map fun memory => { pool with memory := memory }

variable {program}

theorem step_call (pool : Pool Memory Local) (call : Call) :
    program.machine.step pool (.call call)
      = some { pool with calls := pool.calls ++ [program.start call] } := rfl

theorem step_event_eq_some {pool pool' : Pool Memory Local} {event : Event} :
    program.machine.step pool (.event event) = some pool' ↔
      ∃ memory, program.happen pool.memory event = some memory ∧ pool' = ⟨memory, pool.calls⟩ := by
  simp only [machine, Option.map_eq_some_iff]
  exact exists_congr fun memory => and_congr_right fun _ => eq_comm

/-- **A step of one call**: where it stands, that no lock it takes is in the way, and what its own
next step does. -/
theorem step_step_eq_some {pool pool' : Pool Memory Local} {index : Nat} {choice : Choice} :
    program.machine.step pool (.step index choice) = some pool' ↔
      ∃ here memory after, pool.calls[index]? = some here
        ∧ program.Unblocked pool.calls index here
        ∧ program.next pool.memory here choice = some (memory, after)
        ∧ pool' = ⟨memory, pool.calls.set index after⟩ := by
  simp only [machine]
  cases found : pool.calls[index]? with
  | none => simp
  | some here =>
      by_cases clear : program.Unblocked pool.calls index here
      · simp only [clear, if_true, Option.map_eq_some_iff, Prod.exists, Option.some.injEq]
        constructor
        · rintro ⟨memory, after, moved, rfl⟩
          exact ⟨here, memory, after, rfl, clear, moved, rfl⟩
        · rintro ⟨_, memory, after, rfl, _, moved, rfl⟩
          exact ⟨memory, after, moved, rfl⟩
      · simp only [clear, if_false, reduceCtorEq, Option.some.injEq, false_iff]
        rintro ⟨_, _, _, rfl, unblocked, _⟩
        exact clear unblocked

theorem Unblocked.compatible {calls : List Local} {index : Nat} {here : Local}
    (unblocked : program.Unblocked calls index here) {other : Nat} {there : Local}
    (found : calls[other]? = some there) (different : other ≠ index) (lock : Lock) :
    (program.needs here lock).compatible (program.holds there lock) = true := by
  obtain ⟨within, same⟩ := List.getElem?_eq_some_iff.mp found
  have := unblocked ⟨other, within⟩ different lock
  rwa [show calls[(⟨other, within⟩ : Fin calls.length)] = there from same] at this

/-- A call after a step: the one that moved, or one that did not. -/
theorem calls_set_eq_some {calls : List Local} {index other : Nat} {after there : Local}
    (found : (calls.set index after)[other]? = some there) :
    (other = index ∧ there = after) ∨ (other ≠ index ∧ calls[other]? = some there) := by
  rw [List.getElem?_set] at found
  by_cases same : index = other
  · rw [if_pos same] at found
    split at found
    · exact Or.inl ⟨same.symm, (Option.some.inj found).symm⟩
    · cases found
  · rw [if_neg same] at found
    exact Or.inr ⟨fun equal => same equal.symm, found⟩

/-- A call after another one was started: the new one, or an old one. -/
theorem calls_append_eq_some {calls : List Local} {other : Nat} {fresh there : Local}
    (found : (calls ++ [fresh])[other]? = some there) :
    there = fresh ∨ calls[other]? = some there := by
  rw [List.getElem?_append] at found
  split at found
  · exact Or.inr found
  · refine Or.inl ?_
    rw [List.getElem?_singleton] at found
    split at found
    · exact (Option.some.inj found).symm
    · cases found

/-- A step from and to other points leaves the calls at a point as they are. -/
theorem mem_calls_set {calls : List Local} {index : Nat} {here after point : Local}
    (stands : calls[index]? = some here) (was : here ≠ point) (is : after ≠ point) :
    point ∈ calls.set index after ↔ point ∈ calls := by
  simp only [List.mem_iff_getElem?]
  refine exists_congr fun other => ?_
  rw [List.getElem?_set]
  by_cases same : index = other
  · subst same
    rw [if_pos rfl, stands]
    split <;> simp [was, is]
  · rw [if_neg same]

/-- A call that did not move is still there. -/
theorem mem_calls_set_of_ne {calls : List Local} {index other : Nat} {after there : Local}
    (found : calls[other]? = some there) (different : other ≠ index) :
    there ∈ calls.set index after := by
  refine List.mem_iff_getElem?.mpr ⟨other, ?_⟩
  rw [List.getElem?_set_ne (Ne.symm different)]
  exact found

/-- The call that moved is where it moved to. -/
theorem mem_calls_set_self {calls : List Local} {index : Nat} {here after : Local}
    (stands : calls[index]? = some here) : after ∈ calls.set index after := by
  obtain ⟨within, -⟩ := List.getElem?_eq_some_iff.mp stands
  exact List.mem_set within _

/-- **An assertion about every call, after a step.** -/
theorem forall_calls_set {assertion : Local → Prop} {calls : List Local} {index : Nat}
    {after : Local} (own : assertion after)
    (others : ∀ (other : Nat) there, other ≠ index → calls[other]? = some there → assertion there) :
    ∀ (other : Nat) there, (calls.set index after)[other]? = some there → assertion there := by
  intro other there found
  rcases calls_set_eq_some found with ⟨-, rfl⟩ | ⟨different, found⟩
  · exact own
  · exact others other there different found

/-! ### Mutual exclusion -/

variable (program)

/-- No two calls hold one lock in conflicting modes. -/
def Exclusive (pool : Pool Memory Local) : Prop :=
  ∀ (first second : Nat) (here there : Local), pool.calls[first]? = some here →
    pool.calls[second]? = some there → first ≠ second → ∀ lock,
    (program.holds here lock).compatible (program.holds there lock) = true

variable {program}

/-- A pool in which no call has started. -/
theorem exclusive_nil (memory : Memory) : program.Exclusive ⟨memory, []⟩ :=
  fun _ _ _ _ stands => absurd stands (by simp)

/-- What a call holds after its step is compatible with what every other call holds. -/
theorem next_compatible {pool : Pool Memory Local} (exclusive : program.Exclusive pool)
    {index other : Nat} {here after there : Local} {choice : Choice} {memory : Memory}
    (stands : pool.calls[index]? = some here)
    (unblocked : program.Unblocked pool.calls index here)
    (moved : program.next pool.memory here choice = some (memory, after))
    (found : pool.calls[other]? = some there) (different : other ≠ index) (lock : Lock) :
    (program.holds after lock).compatible (program.holds there lock) = true := by
  rcases program.next_holds moved lock with gone | kept | taken
  · rw [gone]
    rfl
  · rw [kept]
    exact exclusive _ _ _ _ stands found (Ne.symm different) lock
  · rw [taken]
    exact unblocked.compatible found different lock

/-- **Mutual exclusion is kept by every step.** -/
theorem exclusive_step {pool pool' : Pool Memory Local} {move : Move Choice Call Event}
    (exclusive : program.Exclusive pool) (stepped : program.machine.step pool move = some pool') :
    program.Exclusive pool' := by
  cases move with
  | call call =>
      cases stepped
      intro first second here there foundHere foundThere different lock
      rcases calls_append_eq_some foundHere with rfl | oldHere
      · rw [program.start_free]
        rfl
      · rcases calls_append_eq_some foundThere with rfl | oldThere
        · rw [program.start_free]
          exact Mode.compatible_free_right _
        · exact exclusive _ _ _ _ oldHere oldThere different lock
  | event event =>
      obtain ⟨memory, -, rfl⟩ := step_event_eq_some.mp stepped
      exact exclusive
  | step index choice =>
      obtain ⟨here, memory, after, stands, unblocked, moved, rfl⟩ := step_step_eq_some.mp stepped
      intro first second one two foundOne foundTwo different lock
      rcases calls_set_eq_some foundOne with ⟨rfl, rfl⟩ | ⟨otherOne, oldOne⟩
      · rcases calls_set_eq_some foundTwo with ⟨same, -⟩ | ⟨otherTwo, oldTwo⟩
        · exact absurd same.symm different
        · exact next_compatible exclusive stands unblocked moved oldTwo otherTwo lock
      · rcases calls_set_eq_some foundTwo with ⟨rfl, rfl⟩ | ⟨otherTwo, oldTwo⟩
        · rw [Mode.compatible_comm]
          exact next_compatible exclusive stands unblocked moved oldOne otherOne lock
        · exact exclusive _ _ _ _ oldOne oldTwo different lock

end Program

end RsTun.Library
