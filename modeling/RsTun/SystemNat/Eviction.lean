/-
**What `TcpNat::gc` deletes, under any interleaving.**

`gc` judges sessions under a read lock, drops it, and deletes later under both write locks without
judging again. `LeavesVictims` is the condition on each step under which the judgement still holds
when it is used: no call refreshes a session that a `gc` has collected, or re-assigns its port or
its pair.

* `judged_step`, `judged_run` — the invariant `Judged`, over every interleaving whose steps meet it.
* `gc_deletes_judged` — each deletion then hits a session that is idle for longer than the timeout
  and is the very session that was judged.
* `gc_deletes_refreshed_session` — a `lookup_back` between the scan and the deletion: the session is
  deleted with an idle time of zero.
-/

import RsTun.SystemNat.Inverse

namespace RsTun.SystemNat

open Library

/-- Some `gc` in progress has collected a session for which the predicate holds. -/
def SomeVictim (pool : NatPool) (predicate : Expired → Prop) : Prop :=
  ∃ point ∈ pool.calls, ∃ victim ∈ point.collected, predicate victim

instance (pool : NatPool) (predicate : Expired → Prop) [DecidablePred predicate] :
    Decidable (SomeVictim pool predicate) := by
  unfold SomeVictim
  infer_instance

/-- The refresh leaves the collected sessions alone: it is throttled, or of another session. -/
def RefreshesNoVictim (pool : NatPool) (entry : TcpNatEntry) (now : Nat) : Prop :=
  now - pool.memory.nat.instants entry.lastActive ≤ second
    ∨ ¬ SomeVictim pool fun victim => victim.entry.lastActive = entry.lastActive

/-- The insertion, if there is one, re-assigns no port and no pair of a collected session. -/
def ReassignsNoVictim (pool : NatPool) (key : Key) : Prop :=
  ∀ port ∈ pool.memory.nat.allocatePortLocked.1,
    ¬ SomeVictim pool fun victim => victim.port = port ∨ victim.key = key

/-- The session is found alive, or `addr_map` does not map its pair to another port. -/
def CollectsOwnPair (pool : NatPool) (timeout now : Nat) (port : UInt16) (entry : TcpNatEntry) :
    Prop :=
  now - pool.memory.nat.instants entry.lastActive ≤ timeout
    ∨ ∀ other ∈ pool.memory.nat.addrMap.lookup entry.key, other = port

/-- What is asked of the call that takes the step. -/
def Point.LeavesVictims (pool : NatPool) : Point → Prop
  | .fastTouch _ _ entry now => RefreshesNoVictim pool entry now
  | .backTouch _ entry now => RefreshesNoVictim pool entry now
  | .slowPort key => ReassignsNoVictim pool key
  | .gcScan timeout now ((port, entry) :: _) _ => CollectsOwnPair pool timeout now port entry
  | _ => True

/-- **A step that leaves the collected sessions as they were judged.** -/
def LeavesVictims (pool : NatPool) : NatMove → Prop
  | .step index _ => ∀ point ∈ pool.calls[index]?, point.LeavesVictims pool
  | _ => True

instance (pool : NatPool) (entry : TcpNatEntry) (now : Nat) :
    Decidable (RefreshesNoVictim pool entry now) := inferInstanceAs (Decidable (_ ∨ _))

-- the options are searched as options: ports are finitely many, but too many to go through
instance (pool : NatPool) (key : Key) : Decidable (ReassignsNoVictim pool key) :=
  Option.decidableForallMem _

instance (pool : NatPool) (timeout now : Nat) (port : UInt16) (entry : TcpNatEntry) :
    Decidable (CollectsOwnPair pool timeout now port entry) :=
  have : Decidable (∀ other ∈ pool.memory.nat.addrMap.lookup entry.key, other = port) :=
    Option.decidableForallMem _
  inferInstanceAs (Decidable (_ ∨ _))

instance (pool : NatPool) (point : Point) : Decidable (point.LeavesVictims pool) := by
  unfold Point.LeavesVictims
  split <;> infer_instance

instance (pool : NatPool) : (move : NatMove) → Decidable (LeavesVictims pool move)
  | .step index _ => Option.decidableForallMem (pool.calls[index]?)
  | .call _ => inferInstanceAs (Decidable True)
  | .event _ => inferInstanceAs (Decidable True)

/-- **The judgement on a collected session still holds.** -/
structure Idle (memory : NatMemory) (timeout : Nat) (victim : Expired) : Prop where
  entry_of_port : ∀ entry, memory.nat.portMap.lookup victim.port = some entry →
    entry = victim.entry
  port_of_key : ∀ port, memory.nat.addrMap.lookup victim.key = some port → port = victim.port
  key_eq : victim.entry.key = victim.key
  made : victim.entry.lastActive < memory.nat.mutexes
  unrefreshed : memory.nat.instants victim.entry.lastActive = victim.seen
  overdue : victim.seen + timeout < memory.clock

/-- What a `gc` knows of the sessions it has still to judge and of those it has collected. -/
def Point.Judges (memory : NatMemory) : Point → Prop
  | .gcRead _ now => now ≤ memory.clock
  | .gcScan timeout now rest expired =>
      now ≤ memory.clock
        ∧ (∀ session ∈ rest, memory.nat.portMap.lookup session.1 = some session.2)
        ∧ ∀ victim ∈ expired, Idle memory timeout victim
  | .gcAddr timeout expired => ∀ victim ∈ expired, Idle memory timeout victim
  | .gcPort timeout expired => ∀ victim ∈ expired, Idle memory timeout victim
  | _ => True

/-- A change of the memory that leaves a collected session alone or removes it. -/
structure Spares (memory memory' : NatMemory) (victim : Expired) : Prop where
  ports : ∀ entry, memory'.nat.portMap.lookup victim.port = some entry →
    memory.nat.portMap.lookup victim.port = some entry
  pairs : ∀ port, memory'.nat.addrMap.lookup victim.key = some port →
    memory.nat.addrMap.lookup victim.key = some port
  instants : memory'.nat.instants victim.entry.lastActive
    = memory.nat.instants victim.entry.lastActive
  mutexes : memory.nat.mutexes ≤ memory'.nat.mutexes
  clock : memory.clock ≤ memory'.clock

theorem Spares.refl (memory : NatMemory) (victim : Expired) : Spares memory memory victim :=
  ⟨fun _ held => held, fun _ mapped => mapped, rfl, Nat.le_refl _, Nat.le_refl _⟩

theorem Idle.stable {memory memory' : NatMemory} {timeout : Nat} {victim : Expired}
    (idle : Idle memory timeout victim) (spares : Spares memory memory' victim) :
    Idle memory' timeout victim where
  entry_of_port entry held := idle.entry_of_port entry (spares.ports entry held)
  port_of_key port mapped := idle.port_of_key port (spares.pairs port mapped)
  key_eq := idle.key_eq
  made := Nat.lt_of_lt_of_le idle.made spares.mutexes
  unrefreshed := spares.instants.trans idle.unrefreshed
  overdue := Nat.lt_of_lt_of_le idle.overdue spares.clock

/-- What a `gc` knows stays true while its victims are left alone and, as long as it scans, while
`port_map` does not change. -/
theorem Point.Judges.stable {memory memory' : NatMemory} {point : Point}
    (clock : memory.clock ≤ memory'.clock)
    (portKept : point.holds .portMap ≠ .free → memory'.nat.portMap = memory.nat.portMap)
    (spares : ∀ victim ∈ point.collected, victim.entry.lastActive < memory.nat.mutexes →
      Spares memory memory' victim)
    (judges : point.Judges memory) : point.Judges memory' := by
  have idle : ∀ {timeout : Nat} {victim : Expired}, victim ∈ point.collected →
      Idle memory timeout victim → Idle memory' timeout victim :=
    fun member idle => idle.stable (spares _ member idle.made)
  cases point with
  | gcRead timeout now => exact Nat.le_trans judges clock
  | gcScan timeout now rest expired =>
      obtain ⟨read, held, expiredIdle⟩ := judges
      refine ⟨Nat.le_trans read clock, ?_, fun victim member => idle member (expiredIdle _ member)⟩
      rw [portKept (by simp [Point.holds])]
      exact held
  | gcAddr timeout expired => exact fun victim member => idle member (judges victim member)
  | gcPort timeout expired => exact fun victim member => idle member (judges victim member)
  | _ => trivial

/-- **The invariant of the collected sessions.** -/
structure Judged (pool : NatPool) : Prop where
  exclusive : natProgram.Exclusive pool
  made : ∀ port entry, pool.memory.nat.portMap.lookup port = some entry →
    entry.lastActive < pool.memory.nat.mutexes
  judges : ∀ (index : Nat) point, pool.calls[index]? = some point → point.Judges pool.memory

theorem judged_fresh (clock : Nat) : Judged (NatPool.fresh clock) where
  exclusive := Program.exclusive_nil _
  made := fun _ _ found => absurd found (by simp [NatPool.fresh, NatMemory.new, TcpNat.new])
  judges := fun _ _ found => absurd found (by simp [NatPool.fresh])

section Step

variable {pool : NatPool} {index : Nat} {order : List (UInt16 × TcpNatEntry)}
variable {here after : Point} {memory : NatMemory}

/-- **A step that meets the condition spares every collected session.** -/
theorem LeavesVictims.spares (leaves : LeavesVictims pool (.step index order))
    (stands : pool.calls[index]? = some here) (step : Step pool.memory here memory after)
    {point : Point} (found : point ∈ pool.calls) {victim : Expired}
    (member : victim ∈ point.collected)
    (made : victim.entry.lastActive < pool.memory.nat.mutexes) :
    Spares pool.memory memory victim := by
  have asked := leaves here stands
  cases step with
  | reads _ => exact Spares.refl _ _
  | @touches _ _ entry now touches =>
      have refreshes : RefreshesNoVictim pool entry now := by
        cases touches <;> exact asked
      refine ⟨?_, ?_, ?_, ?_, Nat.le_refl _⟩
      · simp [NatMemory.touch]
      · simp [NatMemory.touch]
      · rcases refreshes with throttled | others
        · show (pool.memory.nat.touch entry now).instants _ = _
          rw [TcpNat.touch, if_neg (Nat.not_lt.mpr throttled)]
        · refine TcpNat.touch_instants_of_ne _ _ _ fun same => others ?_
          exact ⟨point, found, victim, member, same⟩
      · simp [NatMemory.touch]
  | exhausted _ => exact ⟨fun _ held => held, fun _ mapped => mapped, rfl, Nat.le_refl _,
      Nat.le_refl _⟩
  | @inserts key port allocated =>
      have others := asked port (Option.mem_def.mpr allocated)
      have otherPort : victim.port ≠ port := fun same =>
        others ⟨point, found, victim, member, Or.inl same⟩
      have otherKey : victim.key ≠ key := fun same =>
        others ⟨point, found, victim, member, Or.inr same⟩
      refine ⟨?_, ?_, ?_, Nat.le_succ _, Nat.le_refl _⟩
      · intro entry held
        simp only [NatMemory.insertSession, TcpNat.insertSession_portMap, if_neg otherPort] at held
        exact held
      · intro port mapped
        simp only [NatMemory.insertSession, TcpNat.insertSession_addrMap, if_neg otherKey] at mapped
        exact mapped
      · exact Function.update_of_ne (Nat.ne_of_lt made) _ _
  | evicts =>
      refine ⟨?_, ?_, ?_, ?_, Nat.le_refl _⟩
      · intro entry held
        simp only [NatMemory.setNat, TcpNat.evict_portMap] at held
        split at held
        · cases held
        · exact held
      · intro port mapped
        simp only [NatMemory.setNat, TcpNat.evict_addrMap] at mapped
        split at mapped
        · cases mapped
        · exact mapped
      · simp [NatMemory.setNat]
      · simp [NatMemory.setNat]
  | clearsAddr =>
      refine ⟨fun _ held => held, fun _ mapped => ?_, rfl, Nat.le_refl _, Nat.le_refl _⟩
      exact absurd mapped (by simp [NatMemory.setNat, TcpNat.clearAddrMap])
  | clearsPort =>
      refine ⟨fun _ held => ?_, fun _ mapped => mapped, rfl, Nat.le_refl _, Nat.le_refl _⟩
      exact absurd held (by simp [NatMemory.setNat, TcpNat.clearPortMap])

/-- The mutex of every session of the table has been made, after a step too. -/
theorem Judged.made_step (judged : Judged pool) (step : Step pool.memory here memory after)
    {port : UInt16} {entry : TcpNatEntry}
    (held : memory.nat.portMap.lookup port = some entry) :
    entry.lastActive < memory.nat.mutexes := by
  cases step with
  | reads _ => exact judged.made port entry held
  | touches _ =>
      simp only [NatMemory.touch, TcpNat.touch_portMap, TcpNat.touch_mutexes] at held ⊢
      exact judged.made port entry held
  | exhausted _ => exact judged.made port entry held
  | inserts _ =>
      simp only [NatMemory.insertSession, TcpNat.insertSession_portMap] at held
      show entry.lastActive < pool.memory.nat.mutexes + 1
      split at held
      · cases held
        exact Nat.lt_succ_self _
      · exact Nat.lt_succ_of_lt (judged.made port entry held)
  | evicts =>
      simp only [NatMemory.setNat, TcpNat.evict_portMap, TcpNat.evict_mutexes] at held ⊢
      split at held
      · cases held
      · exact judged.made port entry held
  | clearsAddr => exact judged.made port entry held
  | clearsPort => exact absurd held (by simp [NatMemory.setNat, TcpNat.clearPortMap])

/-- **What the call that moved knows**: a session it has just found expired is as judged. -/
theorem Judged.judges_after (judged : Judged pool)
    (leaves : LeavesVictims pool (.step index order)) (stands : pool.calls[index]? = some here)
    (step : Step pool.memory here memory after) : after.Judges memory := by
  have before := judged.judges index here stands
  cases step with
  | reads reads =>
      cases reads with
      | gcNow => exact Nat.le_refl _
      | gcRead permuted =>
          refine ⟨before, fun session member => ?_, fun victim member => by cases member⟩
          exact TcpNat.mem_sessions.mp (permuted.mem_iff.mp member)
      | @gcExpired timeout now port entry rest expired expiredNow =>
          obtain ⟨read, held, idle⟩ := before
          refine ⟨read, fun session member => held _ (List.mem_cons_of_mem _ member), ?_⟩
          intro victim member
          rcases List.mem_append.mp member with old | new
          · exact idle victim old
          · cases List.mem_singleton.mp new
            have here := held (port, entry) List.mem_cons_self
            refine ⟨fun other there => ?_, fun other mapped => ?_, rfl,
              judged.made port entry here, rfl, ?_⟩
            · exact Option.some.inj (there.symm.trans here)
            · rcases leaves _ stands with alive | own
              · exact absurd expiredNow (Nat.not_lt.mpr alive)
              · exact own other mapped
            · show pool.memory.nat.instants entry.lastActive + timeout < pool.memory.clock
              omega
      | gcAlive _ =>
          obtain ⟨read, held, idle⟩ := before
          exact ⟨read, fun session member => held _ (List.mem_cons_of_mem _ member), idle⟩
      | gcScanned => exact before.2.2
      | gcAddr => exact before
      | _ => trivial
  | touches touches => cases touches <;> trivial
  | _ => trivial

end Step

/-- **A step that leaves the victims alone keeps the invariant.** -/
theorem judged_step {pool pool' : NatPool} {move : NatMove} (judged : Judged pool)
    (leaves : LeavesVictims pool move)
    (stepped : natProgram.machine.step pool move = some pool') : Judged pool' := by
  have exclusive := Program.exclusive_step judged.exclusive stepped
  obtain ⟨call, rfl, rfl⟩ | ⟨elapsed, rfl, rfl⟩
    | ⟨index, order, here, memory, after, rfl, stands, unblocked, step, rfl⟩ := pool_cases stepped
  · refine ⟨exclusive, judged.made, fun other point found => ?_⟩
    rcases Program.calls_append_eq_some found with rfl | old
    · cases call <;> trivial
    · exact judged.judges other point old
  · refine ⟨exclusive, judged.made, fun other point found => ?_⟩
    refine (judged.judges other point found).stable (Nat.le_add_right _ _) (fun _ => rfl)
      fun victim _ _ => ?_
    exact ⟨fun _ held => held, fun _ mapped => mapped, rfl, Nat.le_refl _, Nat.le_add_right _ _⟩
  · refine ⟨exclusive, fun port entry held => judged.made_step step held, ?_⟩
    refine Program.forall_calls_set (judged.judges_after leaves stands step) ?_
    intro other there different found
    refine (judged.judges other there found).stable (Nat.le_of_eq step.clock_eq.symm)
      (portMap_kept unblocked step found different) fun victim member made => ?_
    exact leaves.spares stands step (List.mem_of_getElem? found) member made

/-- **The invariant in every state of a run whose steps leave the victims alone.** -/
theorem judged_run {clock : Nat} {moves : List NatMove} {pool : NatPool}
    (meets : natProgram.machine.Meets LeavesVictims (NatPool.fresh clock) moves)
    (reached : natProgram.machine.run (NatPool.fresh clock) moves = some pool) : Judged pool :=
  Machine.run_invariant_of_meets judged_step (judged_fresh clock) meets reached

/-- **`gc` deletes what it judged.** In a run whose steps leave the victims alone, take any step of
a `gc` that deletes: every session that leaves `port_map` is idle for longer than the timeout, is
the one that was judged, under the same port, and has not been refreshed since; every pair that
leaves `addr_map` was mapped to the port of a session that was judged under this pair. -/
theorem gc_deletes_judged {clock : Nat} {moves : List NatMove} {pool pool' : NatPool}
    (meets : natProgram.machine.Meets LeavesVictims (NatPool.fresh clock) moves)
    (reached : natProgram.machine.run (NatPool.fresh clock) moves = some pool)
    {index timeout : Nat} {order : List (UInt16 × TcpNatEntry)} {expired : List Expired}
    (stands : pool.calls[index]? = some (.gcPort timeout expired))
    (stepped : natProgram.machine.step pool (.step index order) = some pool') :
    (∀ port entry, pool.memory.nat.portMap.lookup port = some entry →
        pool'.memory.nat.portMap.lookup port ≠ some entry →
        timeout < pool.memory.clock - pool.memory.nat.instants entry.lastActive
          ∧ ∃ victim ∈ expired, victim.port = port ∧ victim.entry = entry
            ∧ pool.memory.nat.instants entry.lastActive = victim.seen)
      ∧ ∀ key port, pool.memory.nat.addrMap.lookup key = some port →
          pool'.memory.nat.addrMap.lookup key ≠ some port →
          ∃ victim ∈ expired, victim.key = key ∧ victim.entry.key = key ∧ victim.port = port
            ∧ timeout < pool.memory.clock - victim.seen := by
  have idle : ∀ victim ∈ expired, Idle pool.memory timeout victim :=
    (judged_run meets reached).judges index _ stands
  obtain ⟨here, memory, after, stands', -, moved, rfl⟩ := Program.step_step_eq_some.mp stepped
  rw [stands] at stands'
  cases stands'
  cases moved
  constructor
  · intro port entry held deleted
    simp only [NatMemory.setNat, TcpNat.evict_portMap] at deleted
    split at deleted
    · rename_i hit
      obtain ⟨victim, member, rfl⟩ := hit
      have judged := idle victim member
      have same := judged.entry_of_port entry held
      have overdue := judged.overdue
      subst same
      refine ⟨?_, victim, member, rfl, rfl, judged.unrefreshed⟩
      rw [judged.unrefreshed]
      omega
    · exact absurd held deleted
  · intro key port mapped deleted
    simp only [NatMemory.setNat, TcpNat.evict_addrMap] at deleted
    split at deleted
    · rename_i hit
      obtain ⟨victim, member, rfl⟩ := hit
      have judged := idle victim member
      have overdue := judged.overdue
      exact ⟨victim, member, rfl, judged.key_eq, (judged.port_of_key port mapped).symm, by omega⟩
    · exact absurd mapped deleted

/-- A session, and 400 seconds later a `gc` that has collected it and holds `addr_map`. -/
def sampleCollected : List NatMove :=
  sampleInsert 0 ++ [.event (400 * second), .call (.gc (300 * second)), .step 1 [],
    .step 1 [(10000, ⟨sampleKey.1, sampleKey.2, 0⟩)], .step 1 [], .step 1 [], .step 1 []]

theorem gc_deletes_judged_sampleCollected :
    ∃ pool pool' : NatPool,
      natProgram.machine.run (NatPool.fresh 0) sampleCollected = some pool
        ∧ natProgram.machine.step pool (.step 1 []) = some pool'
        ∧ pool'.memory.nat.portMap.lookup 10000 = none
        ∧ 300 * second < pool.memory.clock - pool.memory.nat.instants 0 := by
  have kept : natProgram.machine.Meets LeavesVictims (NatPool.fresh 0) sampleCollected := by
    decide
  refine ⟨_, _, rfl, rfl, by decide, ?_⟩
  exact ((@gc_deletes_judged 0 sampleCollected _ _ kept rfl 1 _ [] _ rfl rfl).1 10000
    ⟨sampleKey.1, sampleKey.2, 0⟩ (by decide) (by decide)).1

/-- The same, with a packet of the listener for the session between the scan and the deletion. -/
def sampleRefreshed : List NatMove :=
  sampleInsert 0 ++ [.event (400 * second), .call (.gc (300 * second)), .step 1 [],
    .step 1 [(10000, ⟨sampleKey.1, sampleKey.2, 0⟩)], .step 1 [], .step 1 [],
    .call (.lookupBack 10000), .step 2 [], .step 2 [], .step 2 [], .step 1 []]

/-- **`gc` deletes a session that `lookup_back` has refreshed after the scan**: it is idle for no
time at all when it is deleted. -/
theorem gc_deletes_refreshed_session :
    ∃ pool pool' : NatPool,
      natProgram.machine.run (NatPool.fresh 0) sampleRefreshed = some pool
        ∧ natProgram.machine.step pool (.step 1 []) = some pool'
        ∧ pool.calls[2]? = some (.resolved 10000 (some sampleKey))
        ∧ pool.memory.nat.portMap.lookup 10000 = some ⟨sampleKey.1, sampleKey.2, 0⟩
        ∧ pool'.memory.nat.portMap.lookup 10000 = none
        ∧ ¬ 300 * second < pool.memory.clock - pool.memory.nat.instants 0 := by
  refine ⟨_, _, rfl, rfl, by decide, by decide, by decide, by decide⟩

end RsTun.SystemNat
