/-
**Idle sessions leave the NAT table of the system stack, and never leave that of the mixed stack.**

`stackMachine` is what the run loop of a stack does to `TcpNat` over time. Both stacks look sessions
up for any packets at any time. The system stack also runs the GC task, a ticker of half the session
timeout whose first tick is at once, and clears the table on interface changes; `run_mixed` starts
neither for `TcpNat`. A tick is taken when it is due, and a `gc` takes no time of the clock: without
that no bound on the idle time could hold of any code.

* `swept_step`, `swept_run` — the invariant `Swept` of the system stack: a session either is young
  enough for the next tick, or is still in the hands of the `gc` in progress.
* `system_sessions_expire` — no session outlives one and a half timeouts without a packet, and a
  port is refused only when all ports belong to sessions younger than that.
* `mixed_keeps_sessions` — in the mixed stack every session stays for the rest of the run.
* `mixed_session_outlives_timeout` — a session of the mixed stack after 451 idle seconds.
-/

import RsTun.SystemNat.Inverse

namespace RsTun.SystemNat

open Library

/-- `DEFAULT_UDP_TIMEOUT_SECS`. -/
def defaultUdpTimeoutSecs : Nat := 300

/-- The `udp_timeout` of `TunInbound::run`, which is also the timeout of TCP sessions. -/
def udpTimeout (configured : Nat) : Nat :=
  (if configured = 0 then defaultUdpTimeoutSecs else configured) * second

/-- The stacks that use `TcpNat`. -/
inductive StackKind where
  /-- The system stack of `TunInbound::run`. -/
  | system
  /-- `run_mixed`. -/
  | mixed
  deriving DecidableEq

/-- The table with its calls, and the next deadline of the ticker of the GC task. -/
structure StackState where
  pool : NatPool
  nextTick : Nat

/-- What can happen in a stack. -/
inductive StackMove where
  /-- A packet of a client starts a `lookup_or_insert`. -/
  | packet (src dst : SocketAddr)
  /-- A packet of the listener starts a `lookup_back`. -/
  | reply (natPort : UInt16)
  /-- An interface event starts a `clear`. -/
  | interfaceChanged
  /-- A tick of the GC task starts a `gc`. -/
  | tick
  /-- A call takes its next step. -/
  | step (index : Nat) (order : List (UInt16 × TcpNatEntry))
  | elapse (duration : Nat)

/-- The call is a `gc` in progress. -/
def Point.inGc : Point → Bool
  | .gcNow _ => true
  | .gcRead _ _ => true
  | .gcScan _ _ _ _ => true
  | .gcAddr _ _ => true
  | .gcPort _ _ => true
  | _ => false

/-- A `gc` is in progress. -/
def NatPool.Collecting (pool : NatPool) : Prop := ∃ point ∈ pool.calls, point.inGc = true

instance (pool : NatPool) : Decidable pool.Collecting := by
  unfold NatPool.Collecting
  infer_instance

namespace StackMove

/-- What a move means for the table. -/
def toNat (timeout : Nat) : StackMove → NatMove
  | packet src dst => .call (.lookupOrInsert src dst)
  | reply natPort => .call (.lookupBack natPort)
  | interfaceChanged => .call .clear
  | tick => .call (.gc timeout)
  | step index order => .step index order
  | elapse duration => .event duration

/-- **The tasks each stack starts.** The ticker fires at its deadline, after the `gc` of the tick
before has finished, and no time passes before it has. -/
def Allowed (kind : StackKind) (state : StackState) : StackMove → Prop
  | interfaceChanged => kind = .system
  | tick => kind = .system ∧ state.pool.memory.clock = state.nextTick ∧ ¬ state.pool.Collecting
  | elapse duration => kind = .mixed
      ∨ state.pool.memory.clock + duration ≤ state.nextTick ∧ ¬ state.pool.Collecting
  | _ => True

instance (kind : StackKind) (state : StackState) (move : StackMove) :
    Decidable (move.Allowed kind state) := by
  unfold Allowed
  split <;> infer_instance

/-- The deadline after a move: `interval(timeout / 2)`. -/
def nextTick (timeout : Nat) (state : StackState) : StackMove → Nat
  | tick => state.nextTick + timeout / 2
  | _ => state.nextTick

end StackMove

/-- **The table of a stack over time.** -/
def stackMachine (kind : StackKind) (timeout : Nat) : Machine StackState StackMove where
  step state move :=
    if move.Allowed kind state then
      (natProgram.machine.step state.pool (move.toNat timeout)).map fun pool =>
        ⟨pool, move.nextTick timeout state⟩
    else none

/-- The start of a stack: an empty table, and the first tick due. -/
def StackState.fresh (clock : Nat) : StackState := ⟨NatPool.fresh clock, clock⟩

theorem stackMachine_step_eq_some {kind : StackKind} {timeout : Nat} {state state' : StackState}
    {move : StackMove} : (stackMachine kind timeout).step state move = some state' ↔
      move.Allowed kind state ∧ ∃ pool,
        natProgram.machine.step state.pool (move.toNat timeout) = some pool
          ∧ state' = ⟨pool, move.nextTick timeout state⟩ := by
  simp only [stackMachine]
  by_cases allowed : move.Allowed kind state
  · rw [if_pos allowed, Option.map_eq_some_iff]
    exact ⟨fun ⟨pool, stepped, same⟩ => ⟨allowed, pool, stepped, same.symm⟩,
      fun ⟨_, pool, stepped, same⟩ => ⟨pool, stepped, same.symm⟩⟩
  · rw [if_neg allowed]
    exact ⟨fun impossible => absurd impossible (by simp), fun held => absurd held.1 allowed⟩

/-! ### Sessions of the system stack -/

/-- The longest idle time: one timeout and one period of the ticker. -/
def longest (timeout : Nat) : Nat := timeout + timeout / 2

/-- A `gc` has still to decide about the session, or has collected its port. -/
def Point.Pending (port : UInt16) (entry : TcpNatEntry) : Point → Prop
  | .gcNow _ => True
  | .gcRead _ _ => True
  | .gcScan _ _ rest expired => (port, entry) ∈ rest ∨ ∃ victim ∈ expired, victim.port = port
  | .gcAddr _ expired => ∃ victim ∈ expired, victim.port = port
  | .gcPort _ expired => ∃ victim ∈ expired, victim.port = port
  | _ => False

/-- The `gc` in progress is the one of the last tick, and has the timeout of the stack. -/
def Point.OfLastTick (timeout nextTick : Nat) : Point → Prop
  | .gcNow limit => limit = timeout
  | .gcRead limit now => limit = timeout ∧ nextTick ≤ now + timeout / 2
  | .gcScan limit now _ _ => limit = timeout ∧ nextTick ≤ now + timeout / 2
  | _ => True

/-- **The invariant of the system stack.** -/
structure Swept (timeout : Nat) (state : StackState) : Prop where
  beforeTick : state.pool.memory.clock ≤ state.nextTick
  afterTick : state.nextTick ≤ state.pool.memory.clock + timeout / 2
  heard : ∀ mutex, state.pool.memory.nat.instants mutex ≤ state.pool.memory.lastPacket mutex
  ofLastTick : ∀ (index : Nat) point, state.pool.calls[index]? = some point →
    point.OfLastTick timeout state.nextTick
  young : ∀ port entry, state.pool.memory.nat.portMap.lookup port = some entry →
    state.pool.memory.clock ≤ state.pool.memory.nat.instants entry.lastActive + longest timeout
  watched : ∀ port entry, state.pool.memory.nat.portMap.lookup port = some entry →
    state.nextTick ≤ state.pool.memory.nat.instants entry.lastActive + longest timeout
      ∨ ∃ point ∈ state.pool.calls, point.Pending port entry

theorem swept_fresh (timeout clock : Nat) : Swept timeout (StackState.fresh clock) where
  beforeTick := Nat.le_refl _
  afterTick := Nat.le_add_right _ _
  heard := fun _ => Nat.le_refl _
  ofLastTick := fun _ _ found => absurd found (by simp [StackState.fresh, NatPool.fresh])
  young := fun _ _ held =>
    absurd held (by simp [StackState.fresh, NatPool.fresh, NatMemory.new, TcpNat.new])
  watched := fun _ _ held =>
    absurd held (by simp [StackState.fresh, NatPool.fresh, NatMemory.new, TcpNat.new])

theorem Point.Pending.inGc {port : UInt16} {entry : TcpNatEntry} {point : Point}
    (pending : point.Pending port entry) : point.inGc = true := by
  cases point <;> first | rfl | exact pending.elim

section Step

variable {memory memory' : NatMemory} {here after : Point}

/-- A session of the table after a step was there before, no younger than it is now, or has just
been inserted. -/
theorem Step.session_after (step : Step memory here memory' after) {port : UInt16}
    {entry : TcpNatEntry} (held : memory'.nat.portMap.lookup port = some entry) :
    (memory.nat.portMap.lookup port = some entry
        ∧ memory.nat.instants entry.lastActive ≤ memory'.nat.instants entry.lastActive)
      ∨ memory'.nat.instants entry.lastActive = memory.clock := by
  cases step with
  | reads _ => exact Or.inl ⟨held, Nat.le_refl _⟩
  | touches _ =>
      simp only [NatMemory.touch, TcpNat.touch_portMap] at held
      exact Or.inl ⟨held, TcpNat.instants_le_touch _ _ _ _⟩
  | exhausted _ => exact Or.inl ⟨held, Nat.le_refl _⟩
  | @inserts key port' allocated =>
      simp only [NatMemory.insertSession, TcpNat.insertSession_portMap] at held
      show _ ∨ Function.update memory.nat.instants memory.nat.mutexes memory.clock _ = _
      by_cases same : entry.lastActive = memory.nat.mutexes
      · rw [same, Function.update_self]
        exact Or.inr rfl
      · split at held
        · cases held
          exact absurd rfl same
        · refine Or.inl ⟨held, Nat.le_of_eq ?_⟩
          exact (Function.update_of_ne same _ _).symm
  | evicts =>
      simp only [NatMemory.setNat, TcpNat.evict_portMap] at held
      split at held
      · cases held
      · refine Or.inl ⟨held, Nat.le_of_eq ?_⟩
        simp only [NatMemory.setNat, TcpNat.evict_instants]
  | clearsAddr => exact Or.inl ⟨held, Nat.le_refl _⟩
  | clearsPort => exact absurd held (by simp [NatMemory.setNat, TcpNat.clearPortMap])

/-- A `last_active` never runs ahead of the last packet. -/
theorem Step.heard_after (step : Step memory here memory' after)
    (heard : ∀ mutex, memory.nat.instants mutex ≤ memory.lastPacket mutex) (mutex : Nat) :
    memory'.nat.instants mutex ≤ memory'.lastPacket mutex := by
  cases step with
  | @touches _ _ entry now _ =>
      simp only [NatMemory.touch]
      by_cases same : mutex = entry.lastActive
      · subst same
        rw [Function.update_self, TcpNat.touch]
        split
        · simp only [Function.update_self]
          exact Nat.le_max_right _ _
        · exact Nat.le_trans (heard _) (Nat.le_max_left _ _)
      · rw [Function.update_of_ne same, TcpNat.touch_instants_of_ne _ _ _ same]
        exact heard mutex
  | inserts _ =>
      show Function.update memory.nat.instants memory.nat.mutexes memory.clock mutex
        ≤ Function.update memory.lastPacket memory.nat.mutexes memory.clock mutex
      by_cases same : mutex = memory.nat.mutexes
      · rw [same, Function.update_self, Function.update_self]
      · rw [Function.update_of_ne same, Function.update_of_ne same]
        exact heard mutex
  | evicts =>
      simp only [NatMemory.setNat, TcpNat.evict_instants]
      exact heard mutex
  | _ => exact heard mutex

/-- The `gc` that moved is still the one of the last tick. -/
theorem Step.ofLastTick_after {timeout nextTick : Nat} (step : Step memory here memory' after)
    (afterTick : nextTick ≤ memory.clock + timeout / 2)
    (ofLastTick : here.OfLastTick timeout nextTick) : after.OfLastTick timeout nextTick := by
  cases step with
  | reads reads =>
      cases reads with
      | gcNow => exact ⟨ofLastTick, afterTick⟩
      | gcRead _ => exact ofLastTick
      | gcExpired _ => exact ofLastTick
      | gcAlive _ => exact ofLastTick
      | _ => trivial
  | touches touches => cases touches <;> trivial
  | _ => trivial

/-- **A session in the hands of the `gc` that moved** is still in its hands, or was found young
enough for the next tick, or is deleted. -/
theorem Step.pending_after {timeout nextTick : Nat} (step : Step memory here memory' after)
    (ofLastTick : here.OfLastTick timeout nextTick) {port : UInt16} {entry : TcpNatEntry}
    (pending : here.Pending port entry)
    (before : memory.nat.portMap.lookup port = some entry)
    (held : memory'.nat.portMap.lookup port = some entry) :
    nextTick ≤ memory.nat.instants entry.lastActive + longest timeout
      ∨ after.Pending port entry := by
  cases step with
  | reads reads =>
      cases reads with
      | gcNow => exact Or.inr trivial
      | gcRead permuted =>
          exact Or.inr (Or.inl (permuted.mem_iff.mpr (TcpNat.mem_sessions.mpr before)))
      | gcExpired _ =>
          refine Or.inr ?_
          rcases pending with waiting | ⟨victim, member, same⟩
          · rcases List.mem_cons.mp waiting with first | later
            · cases first
              exact Or.inr ⟨_, List.mem_append_right _ List.mem_cons_self, rfl⟩
            · exact Or.inl later
          · exact Or.inr ⟨victim, List.mem_append_left _ member, same⟩
      | gcAlive alive =>
          obtain ⟨rfl, recent⟩ := ofLastTick
          rcases pending with waiting | collected
          · rcases List.mem_cons.mp waiting with first | later
            · cases first
              refine Or.inl ?_
              unfold longest
              omega
            · exact Or.inr (Or.inl later)
          · exact Or.inr (Or.inr collected)
      | gcNothing =>
          rcases pending with waiting | ⟨victim, member, -⟩
          · cases waiting
          · cases member
      | gcScanned =>
          rcases pending with waiting | collected
          · cases waiting
          · exact Or.inr collected
      | gcAddr => exact Or.inr pending
      | _ => exact pending.elim
  | @evicts _ expired =>
      simp only [NatMemory.setNat, TcpNat.evict_portMap] at held
      rw [if_pos (show ∃ victim ∈ expired, victim.port = port from pending)] at held
      cases held
  | touches touches => cases touches <;> exact pending.elim
  | _ => exact pending.elim

end Step

/-- A step of a call keeps the invariant. -/
theorem Swept.call_step {timeout : Nat} {state : StackState} (swept : Swept timeout state)
    {index : Nat} {here after : Point} {memory : NatMemory}
    (stands : state.pool.calls[index]? = some here)
    (step : Step state.pool.memory here memory after) :
    Swept timeout ⟨⟨memory, state.pool.calls.set index after⟩, state.nextTick⟩ := by
  have beforeTick := swept.beforeTick
  have afterTick := swept.afterTick
  have clock := step.clock_eq
  refine ⟨?_, ?_, step.heard_after swept.heard, ?_, ?_, ?_⟩
  · rwa [clock]
  · rwa [clock]
  · exact Program.forall_calls_set
      (step.ofLastTick_after afterTick (swept.ofLastTick index here stands))
      fun other there _ found => swept.ofLastTick other there found
  · intro port entry held
    rw [clock]
    rcases step.session_after held with ⟨before, older⟩ | fresh
    · exact Nat.le_trans (swept.young port entry before) (Nat.add_le_add_right older _)
    · rw [fresh]
      exact Nat.le_add_right _ _
  · intro port entry held
    rcases step.session_after held with ⟨before, older⟩ | fresh
    · rcases swept.watched port entry before with soon | ⟨point, found, pending⟩
      · exact Or.inl (Nat.le_trans soon (Nat.add_le_add_right older _))
      · obtain ⟨other, found⟩ := List.mem_iff_getElem?.mp found
        by_cases same : other = index
        · subst same
          cases Option.some.inj (stands.symm.trans found)
          rcases step.pending_after (swept.ofLastTick other here stands) pending before held with
            soon | pending
          · exact Or.inl (Nat.le_trans soon (Nat.add_le_add_right older _))
          · exact Or.inr ⟨after, Program.mem_calls_set_self stands, pending⟩
        · exact Or.inr ⟨point, Program.mem_calls_set_of_ne found same, pending⟩
    · refine Or.inl ?_
      rw [fresh]
      show state.nextTick ≤ state.pool.memory.clock + (timeout + timeout / 2)
      omega

/-- A new call other than a `gc` keeps the invariant. -/
theorem Swept.call_start {timeout : Nat} {state : StackState} (swept : Swept timeout state)
    (call : NatCall) (lookup : (start call).inGc = false) :
    Swept timeout ⟨⟨state.pool.memory, state.pool.calls ++ [start call]⟩, state.nextTick⟩ := by
  refine ⟨swept.beforeTick, swept.afterTick, swept.heard, fun index point found => ?_, swept.young,
    fun port entry held => ?_⟩
  · rcases Program.calls_append_eq_some found with rfl | old
    · cases call <;> trivial
    · exact swept.ofLastTick index point old
  · refine (swept.watched port entry held).imp_right ?_
    exact fun ⟨point, found, pending⟩ => ⟨point, List.mem_append_left _ found, pending⟩

/-- **Every move of the system stack keeps the invariant.** -/
theorem swept_step {timeout : Nat} {state state' : StackState} {move : StackMove}
    (swept : Swept timeout state)
    (stepped : (stackMachine .system timeout).step state move = some state') :
    Swept timeout state' := by
  obtain ⟨allowed, pool, moved, rfl⟩ := stackMachine_step_eq_some.mp stepped
  cases move with
  | packet src dst =>
      cases moved
      exact swept.call_start (.lookupOrInsert src dst) rfl
  | reply natPort =>
      cases moved
      exact swept.call_start (.lookupBack natPort) rfl
  | interfaceChanged =>
      cases moved
      exact swept.call_start .clear rfl
  | step index order =>
      obtain ⟨here, memory, after, stands, -, taken, rfl⟩ := Program.step_step_eq_some.mp moved
      exact swept.call_step stands (next_cases taken)
  | elapse duration =>
      cases moved
      obtain impossible | ⟨inTime, idle⟩ := allowed
      · cases impossible
      have afterTick := swept.afterTick
      have settled : ∀ port entry, state.pool.memory.nat.portMap.lookup port = some entry →
          state.nextTick ≤ state.pool.memory.nat.instants entry.lastActive + longest timeout := by
        intro port entry held
        rcases swept.watched port entry held with soon | ⟨point, found, pending⟩
        · exact soon
        · exact absurd ⟨point, found, pending.inGc⟩ idle
      refine ⟨inTime, ?_, swept.heard, swept.ofLastTick,
        fun port entry held => Nat.le_trans inTime (settled port entry held), swept.watched⟩
      show state.nextTick ≤ state.pool.memory.clock + duration + timeout / 2
      omega
  | tick =>
      cases moved
      obtain ⟨-, due, idle⟩ := allowed
      refine ⟨?_, ?_, swept.heard, fun index point found => ?_, swept.young,
        fun port entry held => Or.inr ⟨.gcNow timeout, ?_, trivial⟩⟩
      · show state.pool.memory.clock ≤ state.nextTick + timeout / 2
        omega
      · show state.nextTick + timeout / 2 ≤ state.pool.memory.clock + timeout / 2
        omega
      · rcases Program.calls_append_eq_some found with rfl | old
        · exact rfl
        · -- an older call is no `gc`, and says nothing about ticks
          have finished : point.inGc ≠ true := fun running =>
            idle ⟨point, List.mem_of_getElem? old, running⟩
          cases point <;> trivial
      · exact List.mem_append_right _ List.mem_cons_self

/-- **The invariant in every state of the system stack.** -/
theorem swept_run {timeout clock : Nat} {moves : List StackMove} {state : StackState}
    (reached : (stackMachine .system timeout).run (StackState.fresh clock) moves = some state) :
    Swept timeout state :=
  Machine.run_invariant swept_step (swept_fresh timeout clock) reached

theorem paired_stack_step {kind : StackKind} {timeout : Nat} {state state' : StackState}
    {move : StackMove} (paired : Paired state.pool)
    (undisturbed : Undisturbed state.pool (move.toNat timeout))
    (stepped : (stackMachine kind timeout).step state move = some state') :
    Paired state'.pool := by
  obtain ⟨-, pool, moved, rfl⟩ := stackMachine_step_eq_some.mp stepped
  exact paired_step paired undisturbed moved

/-- The invariant of the two maps, for a stack. -/
theorem paired_stack_run {kind : StackKind} {timeout clock : Nat} {moves : List StackMove}
    {state : StackState}
    (meets : (stackMachine kind timeout).Meets
      (fun state move => Undisturbed state.pool (move.toNat timeout))
      (StackState.fresh clock) moves)
    (reached : (stackMachine kind timeout).run (StackState.fresh clock) moves = some state) :
    Paired state.pool :=
  Machine.run_invariant_of_meets (fun paired undisturbed stepped =>
    paired_stack_step paired undisturbed stepped) (paired_fresh clock) meets reached

/-- `lookup_or_insert` refuses a port only when the allocation has failed. -/
theorem exhausted_of_refused {memory memory' : NatMemory} {here : Point} {key : Key}
    (step : Step memory here memory' (.returned key none)) :
    memory.nat.allocatePortLocked.1 = none := by
  cases step with
  | reads reads => cases reads
  | touches touches => cases touches
  | exhausted failed => exact failed

/-- **Sessions of the system stack expire.** At every moment of every run each session of `port_map`
has seen a packet within the last one and a half timeouts; when `lookup_or_insert` refuses a port,
every port of the NAT range belongs to such a session; and in a run whose steps are undisturbed each
pair of `addr_map` belongs to such a session too. -/
theorem system_sessions_expire {configured clock : Nat} {moves : List StackMove}
    {state : StackState}
    (reached : (stackMachine .system (udpTimeout configured)).run (StackState.fresh clock) moves
      = some state) :
    (∀ port entry, state.pool.memory.nat.portMap.lookup port = some entry →
        state.pool.memory.clock
          ≤ state.pool.memory.lastPacket entry.lastActive + longest (udpTimeout configured))
      ∧ (∀ index order state' key,
          (stackMachine .system (udpTimeout configured)).step state (.step index order)
            = some state' →
          state'.pool.calls[index]? = some (.returned key none) →
          ∀ port, natPortStart ≤ port →
            ∃ entry, state.pool.memory.nat.portMap.lookup port = some entry
              ∧ state.pool.memory.clock
                ≤ state.pool.memory.lastPacket entry.lastActive + longest (udpTimeout configured))
      ∧ ((stackMachine .system (udpTimeout configured)).Meets
            (fun state move => Undisturbed state.pool (move.toNat (udpTimeout configured)))
            (StackState.fresh clock) moves →
          ∀ key port, state.pool.memory.nat.addrMap.lookup key = some port →
            ∃ entry, state.pool.memory.nat.portMap.lookup port = some entry ∧ entry.key = key
              ∧ state.pool.memory.clock
                ≤ state.pool.memory.lastPacket entry.lastActive
                  + longest (udpTimeout configured)) := by
  have swept := swept_run reached
  have active : ∀ port entry, state.pool.memory.nat.portMap.lookup port = some entry →
      state.pool.memory.clock
        ≤ state.pool.memory.lastPacket entry.lastActive + longest (udpTimeout configured) :=
    fun port entry held => Nat.le_trans (swept.young port entry held)
      (Nat.add_le_add_right (swept.heard _) _)
  refine ⟨active, ?_, ?_⟩
  · intro index order state' key stepped refused port inside
    obtain ⟨-, pool, moved, rfl⟩ := stackMachine_step_eq_some.mp stepped
    obtain ⟨here, memory, after, -, -, taken, rfl⟩ := Program.step_step_eq_some.mp moved
    rcases Program.calls_set_eq_some refused with ⟨-, rfl⟩ | ⟨different, -⟩
    · have full := TcpNat.allocatePortLocked_none (exhausted_of_refused (next_cases taken)) inside
      obtain ⟨entry, held⟩ := Option.isSome_iff_exists.mp (AList.lookup_isSome.mpr full)
      exact ⟨entry, held, active port entry held⟩
    · exact absurd rfl different
  · intro meets key port mapped
    obtain ⟨entry, held, ours⟩ := (paired_stack_run meets reached).sound key port mapped
    exact ⟨entry, held, ours, active port entry held⟩

/-! ### Sessions of the mixed stack -/

/-- The call is a lookup, in progress or returned. -/
def Point.isLookup : Point → Bool
  | .gcNow _ => false
  | .gcRead _ _ => false
  | .gcScan _ _ _ _ => false
  | .gcAddr _ _ => false
  | .gcPort _ _ => false
  | .clearAddr => false
  | .clearPort => false
  | _ => true

/-- A lookup stays a lookup and forgets no session. -/
theorem Step.keeps_session {memory memory' : NatMemory} {here after : Point}
    (step : Step memory here memory' after) (lookup : here.isLookup = true) :
    after.isLookup = true ∧ ∀ port entry, memory.nat.portMap.lookup port = some entry →
      memory'.nat.portMap.lookup port = some entry := by
  cases step with
  | reads reads =>
      refine ⟨?_, fun _ _ held => held⟩
      cases reads <;> first | rfl | cases lookup
  | touches touches =>
      refine ⟨by cases touches <;> rfl, fun port entry held => ?_⟩
      simp only [NatMemory.touch, TcpNat.touch_portMap]
      exact held
  | exhausted _ => exact ⟨rfl, fun _ _ held => held⟩
  | @inserts key port allocated =>
      refine ⟨rfl, fun other entry held => ?_⟩
      simp only [NatMemory.insertSession, TcpNat.insertSession_portMap]
      rw [if_neg]
      · exact held
      · rintro rfl
        rw [(TcpNat.allocatePortLocked_some allocated).1] at held
        cases held
  | evicts => cases lookup
  | clearsAddr => cases lookup
  | clearsPort => cases lookup

/-- All calls started so far are lookups. -/
def OnlyLookups (state : StackState) : Prop :=
  ∀ (index : Nat) point, state.pool.calls[index]? = some point → point.isLookup = true

theorem onlyLookups_fresh (clock : Nat) : OnlyLookups (StackState.fresh clock) :=
  fun _ _ found => absurd found (by simp [StackState.fresh, NatPool.fresh])

/-- **A move of the mixed stack** starts lookups only and forgets no session. -/
theorem mixed_step {timeout : Nat} {state state' : StackState} {move : StackMove}
    (only : OnlyLookups state)
    (stepped : (stackMachine .mixed timeout).step state move = some state') :
    OnlyLookups state' ∧ ∀ port entry, state.pool.memory.nat.portMap.lookup port = some entry →
      state'.pool.memory.nat.portMap.lookup port = some entry := by
  obtain ⟨allowed, pool, moved, rfl⟩ := stackMachine_step_eq_some.mp stepped
  obtain ⟨call, same, rfl⟩ | ⟨elapsed, same, rfl⟩
    | ⟨index, order, here, memory, after, same, stands, -, step, rfl⟩ := pool_cases moved
  · refine ⟨fun index point found => ?_, fun _ _ held => held⟩
    rcases Program.calls_append_eq_some found with rfl | old
    · cases move with
      | packet src dst =>
          cases same
          rfl
      | reply natPort =>
          cases same
          rfl
      | interfaceChanged => cases allowed
      | tick => cases allowed.1
      | step index order => cases same
      | elapse duration => cases same
    · exact only index point old
  · exact ⟨only, fun _ _ held => held⟩
  · have kept := step.keeps_session (only index here stands)
    exact ⟨Program.forall_calls_set kept.1 fun other there _ found => only other there found,
      kept.2⟩

/-- **In the mixed stack every session stays for the rest of the run**, however long it is idle. -/
theorem mixed_keeps_sessions {timeout clock : Nat} {before after : List StackMove}
    {state state' : StackState}
    (reached : (stackMachine .mixed timeout).run (StackState.fresh clock) before = some state)
    (continued : (stackMachine .mixed timeout).run state after = some state') {port : UInt16}
    {entry : TcpNatEntry} (held : state.pool.memory.nat.portMap.lookup port = some entry) :
    state'.pool.memory.nat.portMap.lookup port = some entry := by
  have only : OnlyLookups state :=
    Machine.run_invariant (fun only stepped => (mixed_step only stepped).1)
      (onlyLookups_fresh clock) reached
  have keeps : ∀ {state : StackState} {move : StackMove} {next : StackState},
      OnlyLookups state ∧ state.pool.memory.nat.portMap.lookup port = some entry →
      (stackMachine .mixed timeout).step state move = some next →
      OnlyLookups next ∧ next.pool.memory.nat.portMap.lookup port = some entry := by
    intro state move next both stepped
    have moved := mixed_step both.1 stepped
    exact ⟨moved.1, moved.2 port entry both.2⟩
  exact (Machine.run_invariant keeps ⟨only, held⟩ continued).2

/-- One connection, and then nothing for a while. -/
def sampleIdle (duration : Nat) : List StackMove :=
  [.packet sampleKey.1 sampleKey.2, .step 0 [], .step 0 [], .step 0 [], .elapse duration]

/-- **A session of the mixed stack outlives one and a half timeouts.** -/
theorem mixed_session_outlives_timeout :
    ∃ state : StackState,
      (stackMachine .mixed (udpTimeout 0)).run (StackState.fresh 0) (sampleIdle (451 * second))
          = some state
        ∧ state.pool.memory.nat.portMap.lookup 10000 = some ⟨sampleKey.1, sampleKey.2, 0⟩
        ∧ ¬ state.pool.memory.clock ≤ state.pool.memory.lastPacket 0 + longest (udpTimeout 0) := by
  exact ⟨_, rfl, by decide, by decide⟩

/-- The first tick on the empty table, and then one connection. -/
def sampleTicked : List StackMove :=
  [.tick, .step 0 [], .step 0 [], .step 0 [], .packet sampleKey.1 sampleKey.2, .step 1 [],
    .step 1 [], .step 1 [], .elapse (150 * second)]

theorem system_sessions_expire_sampleTicked :
    ∃ state : StackState,
      (stackMachine .system (udpTimeout 0)).run (StackState.fresh 0) sampleTicked = some state
        ∧ ∃ entry, state.pool.memory.nat.portMap.lookup 10000 = some entry
          ∧ state.pool.memory.clock = 150 * second
          ∧ state.pool.memory.clock
            ≤ state.pool.memory.lastPacket entry.lastActive + longest (udpTimeout 0) := by
  refine ⟨_, rfl, ⟨sampleKey.1, sampleKey.2, 0⟩, by decide, by decide, ?_⟩
  exact (@system_sessions_expire 0 0 sampleTicked _ rfl).1 10000 _ (by decide)

end RsTun.SystemNat
