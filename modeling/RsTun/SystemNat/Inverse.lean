/-
**`addr_map` and `port_map` are inverse to each other, as long as no insertion falls into the window
of a `clear` and no `gc` deletes by stale victims.**

`clear` empties `addr_map` and releases it before it takes `port_map`; `gc` deletes the ports and
the pairs it collected earlier, without looking again. `Undisturbed` is the condition on each step
under which neither does harm.

* `paired_step`, `paired_run` — the invariant `Paired`, over every interleaving whose steps meet it.
* `maps_inverse_of_undisturbed` — the two maps are inverse whenever no call is in progress, and the
  ports that `lookup_or_insert` returns resolve to their pairs.
* `clear_leaves_dangling_pair` — an insertion in the window of a `clear` leaves a pair in `addr_map`
  whose port is in no session.
-/

import RsTun.SystemNat.Interleaving

namespace RsTun.SystemNat

open Library

/-- The victims of a `gc` are still the sessions of the table: a port of `port_map` is among them
exactly when the pair of its session is. -/
def VictimsCurrent (nat : TcpNat) (expired : List Expired) : Prop :=
  ∀ session ∈ nat.sessions, (∃ victim ∈ expired, victim.port = session.1)
    ↔ ∃ victim ∈ expired, victim.key = session.2.key

instance (nat : TcpNat) (expired : List Expired) : Decidable (VictimsCurrent nat expired) := by
  unfold VictimsCurrent
  infer_instance

/-- **A step that disturbs neither map**: no session is inserted while a `clear` is between its two
locks, and a batch of deletions finds its victims current, or `addr_map` emptied by a `clear`. -/
def Undisturbed (pool : NatPool) : NatMove → Prop
  | .step index _ =>
      match pool.calls[index]? with
      | some (.slowPort _) =>
          pool.memory.nat.allocatePortLocked.1 = none ∨ Point.clearPort ∉ pool.calls
      | some (.gcPort _ expired) =>
          Point.clearPort ∈ pool.calls ∨ VictimsCurrent pool.memory.nat expired
      | _ => True
  | _ => True

instance (pool : NatPool) (move : NatMove) : Decidable (Undisturbed pool move) := by
  unfold Undisturbed
  split
  · split <;> infer_instance
  · infer_instance

/-- What a call knows of the two maps from the locks it holds. -/
def Point.Asserts (nat : TcpNat) : Point → Prop
  | .fastPort key port => nat.addrMap.lookup key = some port
  | .fastNow key port entry =>
      nat.addrMap.lookup key = some port ∧ nat.portMap.lookup port = some entry
  | .fastTouch key port entry _ =>
      nat.addrMap.lookup key = some port ∧ nat.portMap.lookup port = some entry
  | .slowPort key => nat.addrMap.lookup key = none
  | _ => True

/-- What a call knows stays true while the maps it holds do not change. -/
theorem Point.Asserts.stable {nat nat' : TcpNat} {point : Point}
    (addrKept : point.holds .addrMap ≠ .free → nat'.addrMap = nat.addrMap)
    (portKept : point.holds .portMap ≠ .free → nat'.portMap = nat.portMap)
    (asserts : point.Asserts nat) : point.Asserts nat' := by
  cases point with
  | fastPort key port =>
      show nat'.addrMap.lookup key = some port
      rw [addrKept (by simp [Point.holds])]
      exact asserts
  | fastNow key port entry =>
      show nat'.addrMap.lookup key = some port ∧ nat'.portMap.lookup port = some entry
      rw [addrKept (by simp [Point.holds]), portKept (by simp [Point.holds])]
      exact asserts
  | fastTouch key port entry now =>
      show nat'.addrMap.lookup key = some port ∧ nat'.portMap.lookup port = some entry
      rw [addrKept (by simp [Point.holds]), portKept (by simp [Point.holds])]
      exact asserts
  | slowPort key =>
      show nat'.addrMap.lookup key = none
      rw [addrKept (by simp [Point.holds])]
      exact asserts
  | _ => trivial

/-- A call that starts, or has returned, knows nothing. -/
theorem Point.asserts_start (nat : TcpNat) (call : NatCall) : (start call).Asserts nat := by
  cases call <;> trivial

/-- **The invariant of the two maps.** While a `clear` is between its two locks, `addr_map` is empty
and `port_map` still holds the sessions it held. -/
structure Paired (pool : NatPool) : Prop where
  exclusive : natProgram.Exclusive pool
  sound : ∀ key port, pool.memory.nat.addrMap.lookup key = some port →
    ∃ entry, pool.memory.nat.portMap.lookup port = some entry ∧ entry.key = key
  complete : Point.clearPort ∉ pool.calls → ∀ port entry,
    pool.memory.nat.portMap.lookup port = some entry →
      pool.memory.nat.addrMap.lookup entry.key = some port
  emptied : Point.clearPort ∈ pool.calls → ∀ key, pool.memory.nat.addrMap.lookup key = none
  asserted : ∀ (index : Nat) point, pool.calls[index]? = some point →
    point.Asserts pool.memory.nat

theorem paired_fresh (clock : Nat) : Paired (NatPool.fresh clock) where
  exclusive := Program.exclusive_nil _
  sound := fun _ _ found => absurd found (by simp [NatPool.fresh, NatMemory.new, TcpNat.new])
  complete := fun _ _ _ found => absurd found (by simp [NatPool.fresh, NatMemory.new, TcpNat.new])
  emptied := fun _ _ => rfl
  asserted := fun _ _ found => absurd found (by simp [NatPool.fresh])

section Step

variable {pool : NatPool} {index : Nat} {here after : Point} {memory : NatMemory}

/-- The other calls still know what they knew, and the one that moved has to be looked at. -/
theorem Paired.asserted_step (paired : Paired pool) (stands : pool.calls[index]? = some here)
    (unblocked : natProgram.Unblocked pool.calls index here)
    (step : Step pool.memory here memory after) (own : after.Asserts memory.nat) :
    ∀ (other : Nat) point, (pool.calls.set index after)[other]? = some point →
      point.Asserts memory.nat := by
  refine Program.forall_calls_set own fun other there different found => ?_
  exact (paired.asserted other there found).stable
    (addrMap_kept paired.exclusive stands unblocked step found different)
    (portMap_kept unblocked step found different)

/-- What the call that moved knows after a step that only reads. -/
theorem Paired.asserts_of_reads (paired : Paired pool) (stands : pool.calls[index]? = some here)
    (reads : Reads pool.memory here after) : after.Asserts pool.memory.nat := by
  have before := paired.asserted index here stands
  cases reads with
  | fastHit found => exact found
  | fastEntry found => exact ⟨before, found⟩
  | fastNow => exact before
  | slowMiss missing => exact missing
  | _ => trivial

/-- The maps are as they were, and no call reached or left the window of `clear`. -/
theorem Paired.of_maps_kept (paired : Paired pool)
    (exclusive : natProgram.Exclusive ⟨memory, pool.calls.set index after⟩)
    (asserted : ∀ (other : Nat) point, (pool.calls.set index after)[other]? = some point →
      point.Asserts memory.nat)
    (window : Point.clearPort ∈ pool.calls.set index after ↔ Point.clearPort ∈ pool.calls)
    (addrKept : memory.nat.addrMap = pool.memory.nat.addrMap)
    (portKept : memory.nat.portMap = pool.memory.nat.portMap) :
    Paired ⟨memory, pool.calls.set index after⟩ where
  exclusive := exclusive
  sound := by
    simp only [addrKept, portKept]
    exact paired.sound
  complete := by
    simp only [addrKept, portKept, window]
    exact paired.complete
  emptied := by
    simp only [addrKept, window]
    exact paired.emptied
  asserted := asserted

/-- **The insertion.** No `clear` is in its window, the port is free and the pair is not mapped. -/
theorem Paired.insert (paired : Paired pool) {key : Key} {port portIndex : UInt16}
    (stands : pool.calls[index]? = some (.slowPort key))
    (outside : Point.clearPort ∉ pool.calls)
    (found : pool.memory.nat.allocatePortLocked.1 = some port)
    (exclusive : natProgram.Exclusive
      ⟨pool.memory.insertSession key port portIndex,
        pool.calls.set index (.returned key (some port))⟩)
    (asserted : ∀ (other : Nat) point,
      (pool.calls.set index (.returned key (some port)))[other]? = some point →
        point.Asserts (pool.memory.insertSession key port portIndex).nat) :
    Paired ⟨pool.memory.insertSession key port portIndex,
      pool.calls.set index (.returned key (some port))⟩ := by
  have free := (TcpNat.allocatePortLocked_some found).1
  have missing : pool.memory.nat.addrMap.lookup key = none := paired.asserted index _ stands
  have window : Point.clearPort ∉ pool.calls.set index (.returned key (some port)) := by
    rw [Program.mem_calls_set stands (by simp) (by simp)]
    exact outside
  refine ⟨exclusive, ?_, fun _ => ?_, fun inside => absurd inside window, asserted⟩
  · intro other otherPort mapped
    simp only [NatMemory.insertSession, TcpNat.insertSession_addrMap, TcpNat.setPortIndex_addrMap,
      TcpNat.insertSession_portMap, TcpNat.setPortIndex_portMap] at mapped ⊢
    by_cases same : other = key
    · rw [if_pos same] at mapped
      cases mapped
      exact ⟨_, if_pos rfl, same.symm⟩
    · rw [if_neg same] at mapped
      obtain ⟨entry, held, ours⟩ := paired.sound other otherPort mapped
      have different : otherPort ≠ port := by
        rintro rfl
        rw [free] at held
        cases held
      rw [if_neg different]
      exact ⟨entry, held, ours⟩
  · intro otherPort entry held
    simp only [NatMemory.insertSession, TcpNat.insertSession_addrMap, TcpNat.setPortIndex_addrMap,
      TcpNat.insertSession_portMap, TcpNat.setPortIndex_portMap] at held ⊢
    by_cases same : otherPort = port
    · rw [if_pos same] at held
      cases held
      rw [same]
      exact if_pos rfl
    · rw [if_neg same] at held
      have mapped := paired.complete outside otherPort entry held
      have different : entry.key ≠ key := by
        intro ours
        rw [ours, missing] at mapped
        cases mapped
      rw [if_neg different]
      exact mapped

/-- **The deletions of `gc`.** -/
theorem Paired.evict (paired : Paired pool) {timeout : Nat} {expired : List Expired}
    (stands : pool.calls[index]? = some (.gcPort timeout expired))
    (current : Point.clearPort ∈ pool.calls ∨ VictimsCurrent pool.memory.nat expired)
    (exclusive : natProgram.Exclusive
      ⟨pool.memory.setNat (pool.memory.nat.evict expired), pool.calls.set index .finished⟩)
    (asserted : ∀ (other : Nat) point, (pool.calls.set index .finished)[other]? = some point →
      point.Asserts (pool.memory.nat.evict expired)) :
    Paired ⟨pool.memory.setNat (pool.memory.nat.evict expired),
      pool.calls.set index .finished⟩ := by
  have window : Point.clearPort ∈ pool.calls.set index .finished
      ↔ Point.clearPort ∈ pool.calls := Program.mem_calls_set stands (by simp) (by decide)
  have hits : ∀ port entry, Point.clearPort ∉ pool.calls →
      pool.memory.nat.portMap.lookup port = some entry →
      ((∃ victim ∈ expired, victim.port = port)
        ↔ ∃ victim ∈ expired, victim.key = entry.key) := by
    intro port entry outside held
    rcases current with inside | current
    · exact absurd inside outside
    · exact current (port, entry) (TcpNat.mem_sessions.mpr held)
  refine ⟨exclusive, ?_, ?_, ?_, asserted⟩
  · intro key port mapped
    simp only [NatMemory.setNat, TcpNat.evict_addrMap, TcpNat.evict_portMap] at mapped ⊢
    split at mapped
    · cases mapped
    · rename_i missed
      obtain ⟨entry, held, rfl⟩ := paired.sound key port mapped
      have outside : Point.clearPort ∉ pool.calls := by
        intro inside
        rw [paired.emptied inside] at mapped
        cases mapped
      rw [if_neg fun hit => missed ((hits port entry outside held).mp hit)]
      exact ⟨entry, held, rfl⟩
  · intro outside port entry held
    rw [window] at outside
    simp only [NatMemory.setNat, TcpNat.evict_addrMap, TcpNat.evict_portMap] at held ⊢
    split at held
    · cases held
    · rename_i missed
      rw [if_neg fun hit => missed ((hits port entry outside held).mpr hit)]
      exact paired.complete outside port entry held
  · intro inside key
    simp only [NatMemory.setNat, TcpNat.evict_addrMap]
    rw [paired.emptied (window.mp inside) key, ite_self]

end Step

/-- **An undisturbed step keeps the invariant.** -/
theorem paired_step {pool pool' : NatPool} {move : NatMove} (paired : Paired pool)
    (undisturbed : Undisturbed pool move)
    (stepped : natProgram.machine.step pool move = some pool') : Paired pool' := by
  have exclusive := Program.exclusive_step paired.exclusive stepped
  obtain ⟨call, rfl, rfl⟩ | ⟨elapsed, rfl, rfl⟩
    | ⟨index, order, here, memory, after, rfl, stands, unblocked, step, rfl⟩ := pool_cases stepped
  · have window : Point.clearPort ∈ pool.calls ++ [start call] ↔ Point.clearPort ∈ pool.calls := by
      rw [List.mem_append, List.mem_singleton, or_iff_left]
      cases call <;> simp [start]
    refine ⟨exclusive, paired.sound, ?_, ?_, ?_⟩
    · rw [window]
      exact paired.complete
    · rw [window]
      exact paired.emptied
    · intro other point found
      rcases Program.calls_append_eq_some found with rfl | old
      · exact Point.asserts_start _ _
      · exact paired.asserted other point old
  · exact ⟨exclusive, paired.sound, paired.complete, paired.emptied, paired.asserted⟩
  · have asserted := paired.asserted_step stands unblocked step
    simp only [Undisturbed, stands] at undisturbed
    cases step with
    | reads reads =>
        refine paired.of_maps_kept exclusive (asserted (paired.asserts_of_reads stands reads))
          (Program.mem_calls_set stands ?_ ?_) rfl rfl
        · cases reads <;> simp
        · cases reads <;> simp
    | touches touches =>
        refine paired.of_maps_kept exclusive (asserted (by cases touches <;> trivial))
          (Program.mem_calls_set stands ?_ ?_) (TcpNat.touch_addrMap _ _ _)
          (TcpNat.touch_portMap _ _ _)
        · cases touches <;> simp
        · cases touches <;> simp
    | exhausted failed =>
        exact paired.of_maps_kept exclusive (asserted trivial)
          (Program.mem_calls_set stands (by simp) (by simp)) rfl rfl
    | inserts found =>
        rcases undisturbed with failed | outside
        · rw [failed] at found
          cases found
        · exact paired.insert stands outside found exclusive (asserted trivial)
    | evicts => exact paired.evict stands undisturbed exclusive (asserted trivial)
    | clearsAddr =>
        have inside : Point.clearPort ∈ pool.calls.set index .clearPort :=
          Program.mem_calls_set_self stands
        refine ⟨exclusive, fun key port mapped => ?_, fun outside => absurd inside outside,
          fun _ _ => rfl, asserted trivial⟩
        exact absurd mapped (by simp [NatMemory.setNat, TcpNat.clearAddrMap])
    | clearsPort =>
        have inside : Point.clearPort ∈ pool.calls := List.mem_of_getElem? stands
        refine ⟨exclusive, fun key port mapped => ?_, fun _ port entry held => ?_, fun _ => ?_,
          asserted trivial⟩
        · have empty := paired.emptied inside key
          exact absurd (empty.symm.trans mapped) (by simp)
        · exact absurd held (by simp [NatMemory.setNat, TcpNat.clearPortMap])
        · exact paired.emptied inside

/-- **The invariant in every state of a run whose steps are undisturbed.** -/
theorem paired_run {clock : Nat} {moves : List NatMove} {pool : NatPool}
    (meets : natProgram.machine.Meets Undisturbed (NatPool.fresh clock) moves)
    (reached : natProgram.machine.run (NatPool.fresh clock) moves = some pool) : Paired pool :=
  Machine.run_invariant_of_meets paired_step (paired_fresh clock) meets reached

/-! ### The maps between the calls -/

theorem NatPool.Quiescent.outside {pool : NatPool} (quiescent : pool.Quiescent) :
    Point.clearPort ∉ pool.calls := fun inside => by cases quiescent _ inside

/-- What `lookup_back` returns. -/
theorem lookupBack_fst (nat : TcpNat) (now : Nat) (port : UInt16) :
    (nat.lookupBack now port).1 = (nat.portMap.lookup port).map TcpNatEntry.key := by
  unfold TcpNat.lookupBack
  split <;> rename_i found <;> rw [found] <;> rfl

/-- **When `lookup_or_insert` returns a port, the port resolves to the pair of the call.** -/
theorem Paired.resolves_returned {pool pool' : NatPool} (paired : Paired pool) {index : Nat}
    {order : List (UInt16 × TcpNatEntry)} {key : Key} {port : UInt16}
    (stepped : natProgram.machine.step pool (.step index order) = some pool')
    (returned : pool'.calls[index]? = some (.returned key (some port))) :
    ∃ entry, pool'.memory.nat.portMap.lookup port = some entry ∧ entry.key = key := by
  obtain ⟨here, memory, after, stands, unblocked, moved, rfl⟩ :=
    Program.step_step_eq_some.mp stepped
  have step := next_cases moved
  have arrived : after = .returned key (some port) := by
    rcases Program.calls_set_eq_some returned with ⟨-, same⟩ | ⟨different, -⟩
    · exact same.symm
    · exact absurd rfl different
  subst arrived
  have known := paired.asserted index here stands
  cases step with
  | reads reads =>
      cases reads with
      | fastNone missing =>
          obtain ⟨entry, held, ours⟩ := paired.sound key port known
          exact ⟨entry, held, ours⟩
      | slowHit found => exact paired.sound key port found
  | touches touches =>
      cases touches with
      | fast =>
          simp only [NatMemory.touch, TcpNat.touch_portMap]
          exact paired.sound key port known.1
  | inserts found =>
      refine ⟨⟨key.1, key.2, pool.memory.nat.mutexes⟩, ?_, rfl⟩
      show ((pool.memory.nat.setPortIndex _).insertSession _ key port).portMap.lookup port = _
      rw [TcpNat.insertSession_portMap, if_pos rfl]
      rfl

/-- **The two maps are inverse to each other** in a run whose steps are undisturbed: whenever no
call is in progress one maps a pair to a port if and only if the other maps the port to the pair; no
two pairs ever have one port; a port that `lookup_or_insert` returns resolves to the pair of the
call when it is returned, and for as long as `addr_map` maps the pair to it. -/
theorem maps_inverse_of_undisturbed {clock : Nat} {moves : List NatMove} {pool : NatPool}
    (meets : natProgram.machine.Meets Undisturbed (NatPool.fresh clock) moves)
    (reached : natProgram.machine.run (NatPool.fresh clock) moves = some pool) :
    (pool.Quiescent → ∀ src dst port, pool.memory.nat.addrMap.lookup (src, dst) = some port ↔
        ∃ entry, pool.memory.nat.portMap.lookup port = some entry
          ∧ entry.source = src ∧ entry.destination = dst)
      ∧ (∀ key other port, pool.memory.nat.addrMap.lookup key = some port →
          pool.memory.nat.addrMap.lookup other = some port → key = other)
      ∧ (∀ src dst port now, pool.memory.nat.addrMap.lookup (src, dst) = some port →
          (pool.memory.nat.lookupBack now port).1 = some (src, dst))
      ∧ ∀ index order pool' src dst port now,
          natProgram.machine.step pool (.step index order) = some pool' →
          pool'.calls[index]? = some (.returned (src, dst) (some port)) →
          (pool'.memory.nat.lookupBack now port).1 = some (src, dst) := by
  have paired := paired_run meets reached
  have resolves : ∀ key port, pool.memory.nat.addrMap.lookup key = some port →
      ∀ now, (pool.memory.nat.lookupBack now port).1 = some key := by
    intro key port mapped now
    obtain ⟨entry, held, ours⟩ := paired.sound key port mapped
    rw [lookupBack_fst, held, Option.map_some, ours]
  refine ⟨fun quiescent src dst port => ⟨fun mapped => ?_, ?_⟩, ?_, ?_, ?_⟩
  · obtain ⟨entry, held, ours⟩ := paired.sound (src, dst) port mapped
    exact ⟨entry, held, congrArg Prod.fst ours, congrArg Prod.snd ours⟩
  · rintro ⟨entry, held, rfl, rfl⟩
    exact paired.complete (NatPool.Quiescent.outside quiescent) port entry held
  · intro key other port mapped mapped'
    exact Option.some.inj ((resolves key port mapped 0).symm.trans (resolves other port mapped' 0))
  · exact fun src dst port now mapped => resolves (src, dst) port mapped now
  · intro index order pool' src dst port now stepped returned
    obtain ⟨entry, held, ours⟩ := paired.resolves_returned stepped returned
    rw [lookupBack_fst, held, Option.map_some, ours]

/-! ### Concrete runs -/

/-- A connection from 10.0.0.5:4000 to 1.1.1.1:443. -/
def sampleKey : Key :=
  (.v4 (Octets.ofNat 4 0x0A000005) 4000, .v4 (Octets.ofNat 4 0x01010101) 443)

/-- One `lookup_or_insert` for `sampleKey` that inserts, as call number `index`. -/
def sampleInsert (index : Nat) : List NatMove :=
  [.call (.lookupOrInsert sampleKey.1 sampleKey.2), .step index [], .step index [], .step index []]

/-- A `clear` between whose two locks a `lookup_or_insert` inserts. -/
def sampleClearRace : List NatMove :=
  [.call .clear, .step 0 []] ++ sampleInsert 1 ++ [.step 0 []]

/-- **The insertion in the window of a `clear`** leaves the pair in `addr_map` with a port that no
session has: `lookup_or_insert` goes on returning it and `lookup_back` knows nothing about it. -/
theorem clear_leaves_dangling_pair :
    ∃ pool : NatPool, natProgram.machine.run (NatPool.fresh 0) sampleClearRace = some pool
      ∧ pool.Quiescent
      ∧ (pool.memory.nat.lookupOrInsert 0 sampleKey.1 sampleKey.2).1 = some 10000
      ∧ (pool.memory.nat.lookupBack 0 10000).1 = none
      ∧ ¬ (pool.memory.nat.addrMap.lookup sampleKey = some 10000 ↔
          ∃ entry, pool.memory.nat.portMap.lookup 10000 = some entry
            ∧ entry.source = sampleKey.1 ∧ entry.destination = sampleKey.2) := by
  refine ⟨_, rfl, by decide, by decide, by decide, ?_⟩
  intro same
  obtain ⟨entry, held, -⟩ := same.mp (by decide)
  exact absurd held (by decide +revert)

/-- Two sessions and a `gc` that finds the first one expired and deletes it. -/
def sampleGc : List NatMove :=
  sampleInsert 0 ++ [.event (400 * second), .call (.lookupOrInsert sampleKey.2 sampleKey.1),
    .step 1 [], .step 1 [], .step 1 [], .call (.gc (300 * second)), .step 2 [],
    .step 2 [(10001, ⟨sampleKey.2, sampleKey.1, 1⟩), (10000, ⟨sampleKey.1, sampleKey.2, 0⟩)],
    .step 2 [], .step 2 [], .step 2 [], .step 2 [], .step 2 []]

theorem maps_inverse_of_undisturbed_sampleGc :
    ∃ pool : NatPool, natProgram.machine.run (NatPool.fresh 0) sampleGc = some pool
      ∧ pool.Quiescent
      ∧ pool.memory.nat.addrMap.lookup sampleKey = none
      ∧ ∃ entry, pool.memory.nat.portMap.lookup 10001 = some entry
          ∧ entry.source = sampleKey.2 ∧ entry.destination = sampleKey.1 := by
  refine ⟨_, rfl, by decide, by decide, ?_⟩
  have inverse := (@maps_inverse_of_undisturbed 0 sampleGc _ (by decide) rfl).1 (by decide)
  exact (inverse sampleKey.2 sampleKey.1 10001).mp (by decide)

end RsTun.SystemNat
