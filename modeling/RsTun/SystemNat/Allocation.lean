/-
**Port allocation is complete: a port is found exactly when one is free.**

The probing loop walks round the NAT range from wherever its cursor stands, one port a turn, and has
as many turns as the range has ports. What a run of calls does to the cursor therefore does not
matter.

* `isSome_allocatePortLocked_iff` — a port is found if and only if a port of the range is free.
* `Step.in_use_of_exhausted` — a call that returns no port has found all of them in use.
* **`allocation_complete`** — both, and what it means for `lookup_or_insert` after any run.
-/

import RsTun.SystemNat.Interleaving

namespace RsTun.SystemNat

open Library

namespace TcpNat

/-- A port of the NAT range that is no key of `port_map`. -/
def Free (nat : TcpNat) (port : UInt16) : Prop :=
  natPortStart ≤ port ∧ port ≤ natPortEnd ∧ port ∉ nat.portMap

/-- Every port of the NAT range is in use. -/
def AllInUse (nat : TcpNat) : Prop :=
  ∀ port, natPortStart ≤ port → port ≤ natPortEnd → port ∈ nat.portMap

/-- `NAT_PORT_END` is the last port there is. -/
theorem le_natPortEnd (port : UInt16) : port ≤ natPortEnd :=
  UInt16.le_iff_toNat_le.mpr (Nat.le_of_lt_succ port.toNat_lt)

theorem allInUse_iff {nat : TcpNat} : nat.AllInUse ↔ ¬ ∃ port, nat.Free port := by
  unfold AllInUse Free
  push Not
  exact Iff.rfl

/-- The port that is found is free. -/
theorem free_of_allocatePortLocked {nat : TcpNat} {port : UInt16}
    (found : nat.allocatePortLocked.1 = some port) : nat.Free port := by
  obtain ⟨unused, inside⟩ := allocatePortLocked_some found
  exact ⟨inside, le_natPortEnd port, AList.lookup_eq_none.mp unused⟩

/-- When none is found, none is free. -/
theorem allInUse_of_allocatePortLocked {nat : TcpNat} (failed : nat.allocatePortLocked.1 = none) :
    nat.AllInUse := fun _ inside _ => allocatePortLocked_none failed inside

/-- **A port is found exactly when one is free**, wherever the cursor stands. -/
theorem isSome_allocatePortLocked_iff (nat : TcpNat) :
    (∃ port, nat.allocatePortLocked.1 = some port) ↔ ∃ port, nat.Free port := by
  constructor
  · rintro ⟨port, found⟩
    exact ⟨port, free_of_allocatePortLocked found⟩
  · intro free
    cases found : nat.allocatePortLocked.1 with
    | some port => exact ⟨port, rfl⟩
    | none => exact absurd free (allInUse_iff.mp (allInUse_of_allocatePortLocked found))

/-- A new pair gets no port only when all are in use. -/
theorem allInUse_of_lookupOrInsert {nat : TcpNat} {now : Nat} {src dst : SocketAddr}
    (failed : (nat.lookupOrInsert now src dst).1 = none) : nat.AllInUse := by
  unfold lookupOrInsert at failed
  split at failed
  · split at failed <;> cases failed
  · refine allInUse_of_allocatePortLocked ?_
    unfold allocateAndInsert at failed
    split at failed
    · rename_i portIndex allocated
      rw [allocated]
    · cases failed

end TcpNat

/-- **A call that returns no port** has found all of them in use, whatever other calls do. -/
theorem Step.in_use_of_exhausted {memory memory' : NatMemory} {here : Point} {key : Key}
    (step : Step memory here memory' (.returned key none)) : memory.nat.AllInUse := by
  cases step with
  | reads read => cases read
  | touches touched => cases touched
  | exhausted failed => exact TcpNat.allInUse_of_allocatePortLocked failed

/-- **Port allocation is complete.** For every `port_map` and every cursor a port is found if and
only if one of the range is free, and it is a free one; after any interleaving of calls,
`lookup_or_insert` gives a pair no port only when every port of the range is in use, whether the
call is alone or other calls are under way. -/
theorem allocation_complete :
    (∀ nat : TcpNat, ((∃ port, nat.allocatePortLocked.1 = some port) ↔ ∃ port, nat.Free port)
        ∧ ∀ port, nat.allocatePortLocked.1 = some port → nat.Free port)
      ∧ ∀ (clock : Nat) (moves : List NatMove) (pool : NatPool),
        natProgram.machine.run (NatPool.fresh clock) moves = some pool →
        (∀ now src dst, (pool.memory.nat.lookupOrInsert now src dst).1 = none →
          pool.memory.nat.AllInUse)
        ∧ ∀ index order pool' key, natProgram.machine.step pool (.step index order) = some pool' →
          pool'.calls[index]? = some (.returned key none) → pool.memory.nat.AllInUse := by
  refine ⟨fun nat => ⟨nat.isSome_allocatePortLocked_iff,
    fun port => TcpNat.free_of_allocatePortLocked⟩, fun clock moves pool _ =>
    ⟨fun now src dst => TcpNat.allInUse_of_lookupOrInsert, ?_⟩⟩
  intro index order pool' key stepped ended
  obtain ⟨here, memory, after, stands, -, moved, rfl⟩ := Program.step_step_eq_some.mp stepped
  have within : index < pool.calls.length := (List.getElem?_eq_some_iff.mp stands).1
  have returned : after = .returned key none := by
    rw [List.getElem?_set_self within] at ended
    exact Option.some.inj ended
  subst returned
  exact (next_cases moved).in_use_of_exhausted

end RsTun.SystemNat
