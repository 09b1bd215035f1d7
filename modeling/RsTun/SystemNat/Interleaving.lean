/-
**`TcpNat` under any interleaving of its calls, at lock-acquisition granularity.**

A `Point` is where a call of `lookup_or_insert`, `lookup_back`, `gc` or `clear` stands between two
acquisitions; one step takes the locks it needs, does what the source does while it holds them up to
the next acquisition, and drops what the source drops there. The two `RwLock`s are the locks of
the program; a `last_active` mutex is taken and dropped within one step. Reading the clock is a step
of its own, so a reading may be old when it is used. The clock moves at any time, never backwards.

* `next` is the program text; `next_cases` says once what a step can do to the memory.
* `run_lookupOrInsert_alone`, `run_lookupBack_alone` — a call that is alone runs to the result of
  the sequential operation.
-/

import RsTun.Library.Locks
import RsTun.SystemNat.Table

namespace RsTun.SystemNat

open Library

/-- The two locks of `TcpNat`. -/
inductive NatLock where
  | addrMap
  | portMap
  deriving DecidableEq

instance : Fintype NatLock where
  elems := {.addrMap, .portMap}
  complete lock := by cases lock <;> decide

/-- `TcpNat`, the clock, and for each session the time of the last packet that a lookup refreshed it
for, throttled or not. The last field is a record only: no code reads it. -/
structure NatMemory where
  nat : TcpNat
  clock : Nat
  lastPacket : Nat → Nat

/-- Where a call stands. -/
inductive Point where
  /-- `lookup_or_insert`: before `addr_map.read()`. -/
  | fastAddr (key : Key)
  /-- Holding `addr_map.read()`, before `port_map.read()`. -/
  | fastPort (key : Key) (port : UInt16)
  /-- Holding both read locks, before `Instant::now()`. -/
  | fastNow (key : Key) (port : UInt16) (entry : TcpNatEntry)
  /-- Holding both read locks, before `last_active.lock()`. -/
  | fastTouch (key : Key) (port : UInt16) (entry : TcpNatEntry) (now : Nat)
  /-- Before `addr_map.write()`. -/
  | slowAddr (key : Key)
  /-- Holding `addr_map.write()`, before `port_map.write()`. -/
  | slowPort (key : Key)
  | returned (key : Key) (port : Option UInt16)
  /-- `lookup_back`: before `port_map.read()`. -/
  | backPort (port : UInt16)
  | backNow (port : UInt16) (entry : TcpNatEntry)
  | backTouch (port : UInt16) (entry : TcpNatEntry) (now : Nat)
  | resolved (port : UInt16) (key : Option Key)
  /-- `gc`: before `Instant::now()`. -/
  | gcNow (timeout : Nat)
  /-- Before `port_map.read()`. -/
  | gcRead (timeout now : Nat)
  /-- Holding `port_map.read()`, with the sessions still to judge and those found expired. -/
  | gcScan (timeout now : Nat) (rest : List (UInt16 × TcpNatEntry)) (expired : List Expired)
  /-- Before `addr_map.write()`. -/
  | gcAddr (timeout : Nat) (expired : List Expired)
  /-- Holding `addr_map.write()`, before `port_map.write()`. -/
  | gcPort (timeout : Nat) (expired : List Expired)
  /-- `clear`: before `addr_map.write()`. -/
  | clearAddr
  /-- Holding nothing, before `port_map.write()`. -/
  | clearPort
  | finished
  deriving DecidableEq

/-- The operations that can be called. -/
inductive NatCall where
  | lookupOrInsert (src dst : SocketAddr)
  | lookupBack (natPort : UInt16)
  | gc (timeout : Nat)
  | clear

namespace Point

/-- The locks a call holds. -/
def holds : Point → NatLock → Mode
  | fastPort _ _, .addrMap => .read
  | fastNow _ _ _, _ => .read
  | fastTouch _ _ _ _, _ => .read
  | slowPort _, .addrMap => .write
  | gcScan _ _ _ _, .portMap => .read
  | gcPort _ _, .addrMap => .write
  | _, _ => .free

/-- The locks the next step takes. -/
def needs : Point → NatLock → Mode
  | fastAddr _, .addrMap => .read
  | fastPort _ _, .portMap => .read
  | slowAddr _, .addrMap => .write
  | slowPort _, .portMap => .write
  | backPort _, .portMap => .read
  | gcRead _ _, .portMap => .read
  | gcAddr _ _, .addrMap => .write
  | gcPort _ _, .portMap => .write
  | clearAddr, .addrMap => .write
  | clearPort, .portMap => .write
  | _, _ => .free

/-- The call has returned. -/
def isDone : Point → Bool
  | returned _ _ => true
  | resolved _ _ => true
  | finished => true
  | _ => false

/-- The sessions a `gc` call has judged expired and not yet deleted. -/
def collected : Point → List Expired
  | gcScan _ _ _ expired => expired
  | gcAddr _ expired => expired
  | gcPort _ expired => expired
  | _ => []

end Point

namespace NatMemory

/-- `TcpNat::new` at some clock reading. -/
def new (clock : Nat) : NatMemory := ⟨TcpNat.new, clock, fun _ => 0⟩

/-- A packet of a session: the throttled refresh, and the record of the packet. -/
def touch (memory : NatMemory) (entry : TcpNatEntry) (now : Nat) : NatMemory where
  nat := memory.nat.touch entry now
  clock := memory.clock
  lastPacket := Function.update memory.lastPacket entry.lastActive
    (max (memory.lastPacket entry.lastActive) now)

/-- The first packet of a session: it is inserted, and the packet recorded. -/
def insertSession (memory : NatMemory) (key : Key) (port portIndex : UInt16) : NatMemory where
  nat := (memory.nat.setPortIndex portIndex).insertSession memory.clock key port
  clock := memory.clock
  lastPacket := Function.update memory.lastPacket memory.nat.mutexes memory.clock

/-- Change the table only. -/
def setNat (memory : NatMemory) (nat : TcpNat) : NatMemory := { memory with nat := nat }

end NatMemory

/-- **One step of a call.** The choice is the order in which `gc` iterates over `port_map`. -/
def next (memory : NatMemory) :
    Point → List (UInt16 × TcpNatEntry) → Option (NatMemory × Point)
  | .fastAddr key, _ =>
      match memory.nat.addrMap.lookup key with
      | some port => some (memory, .fastPort key port)
      | none => some (memory, .slowAddr key)
  | .fastPort key port, _ =>
      match memory.nat.portMap.lookup port with
      | some entry => some (memory, .fastNow key port entry)
      | none => some (memory, .returned key (some port))
  | .fastNow key port entry, _ => some (memory, .fastTouch key port entry memory.clock)
  | .fastTouch key port entry now, _ =>
      some (memory.touch entry now, .returned key (some port))
  | .slowAddr key, _ =>
      match memory.nat.addrMap.lookup key with
      | some port => some (memory, .returned key (some port))
      | none => some (memory, .slowPort key)
  | .slowPort key, _ =>
      match memory.nat.allocatePortLocked with
      | (none, portIndex) =>
          some (memory.setNat (memory.nat.setPortIndex portIndex), .returned key none)
      | (some port, portIndex) =>
          some (memory.insertSession key port portIndex, .returned key (some port))
  | .returned _ _, _ => none
  | .backPort port, _ =>
      match memory.nat.portMap.lookup port with
      | some entry => some (memory, .backNow port entry)
      | none => some (memory, .resolved port none)
  | .backNow port entry, _ => some (memory, .backTouch port entry memory.clock)
  | .backTouch port entry now, _ =>
      some (memory.touch entry now, .resolved port (some entry.key))
  | .resolved _ _, _ => none
  | .gcNow timeout, _ => some (memory, .gcRead timeout memory.clock)
  | .gcRead timeout now, order =>
      if order.Perm memory.nat.sessions then some (memory, .gcScan timeout now order []) else none
  | .gcScan timeout now ((port, entry) :: rest) expired, _ =>
      if now - memory.nat.instants entry.lastActive > timeout then
        some (memory, .gcScan timeout now rest
          (expired ++ [⟨port, entry.key, entry, memory.nat.instants entry.lastActive⟩]))
      else some (memory, .gcScan timeout now rest expired)
  | .gcScan timeout _ [] expired, _ =>
      if expired = [] then some (memory, .finished) else some (memory, .gcAddr timeout expired)
  | .gcAddr timeout expired, _ => some (memory, .gcPort timeout expired)
  | .gcPort _ expired, _ => some (memory.setNat (memory.nat.evict expired), .finished)
  | .clearAddr, _ => some (memory.setNat memory.nat.clearAddrMap, .clearPort)
  | .clearPort, _ => some (memory.setNat memory.nat.clearPortMap, .finished)
  | .finished, _ => none

/-! ### What a step can do -/

/-- The steps that only read. -/
inductive Reads (memory : NatMemory) : Point → Point → Prop
  | fastHit {key port} : memory.nat.addrMap.lookup key = some port →
      Reads memory (.fastAddr key) (.fastPort key port)
  | fastMiss {key} : memory.nat.addrMap.lookup key = none →
      Reads memory (.fastAddr key) (.slowAddr key)
  | fastEntry {key port entry} : memory.nat.portMap.lookup port = some entry →
      Reads memory (.fastPort key port) (.fastNow key port entry)
  | fastNone {key port} : memory.nat.portMap.lookup port = none →
      Reads memory (.fastPort key port) (.returned key (some port))
  | fastNow {key port entry} :
      Reads memory (.fastNow key port entry) (.fastTouch key port entry memory.clock)
  | slowHit {key port} : memory.nat.addrMap.lookup key = some port →
      Reads memory (.slowAddr key) (.returned key (some port))
  | slowMiss {key} : memory.nat.addrMap.lookup key = none →
      Reads memory (.slowAddr key) (.slowPort key)
  | backEntry {port entry} : memory.nat.portMap.lookup port = some entry →
      Reads memory (.backPort port) (.backNow port entry)
  | backNone {port} : memory.nat.portMap.lookup port = none →
      Reads memory (.backPort port) (.resolved port none)
  | backNow {port entry} :
      Reads memory (.backNow port entry) (.backTouch port entry memory.clock)
  | gcNow {timeout} : Reads memory (.gcNow timeout) (.gcRead timeout memory.clock)
  | gcRead {timeout now order} : order.Perm memory.nat.sessions →
      Reads memory (.gcRead timeout now) (.gcScan timeout now order [])
  | gcExpired {timeout now port entry rest expired} :
      timeout < now - memory.nat.instants entry.lastActive →
      Reads memory (.gcScan timeout now ((port, entry) :: rest) expired)
        (.gcScan timeout now rest
          (expired ++ [⟨port, entry.key, entry, memory.nat.instants entry.lastActive⟩]))
  | gcAlive {timeout now port entry rest expired} :
      now - memory.nat.instants entry.lastActive ≤ timeout →
      Reads memory (.gcScan timeout now ((port, entry) :: rest) expired)
        (.gcScan timeout now rest expired)
  | gcNothing {timeout now} : Reads memory (.gcScan timeout now [] []) .finished
  | gcScanned {timeout now expired} :
      Reads memory (.gcScan timeout now [] expired) (.gcAddr timeout expired)
  | gcAddr {timeout expired} : Reads memory (.gcAddr timeout expired) (.gcPort timeout expired)

/-- The steps that refresh a session with an earlier clock reading. -/
inductive Touches : Point → TcpNatEntry → Nat → Point → Prop
  | fast (key : Key) (port : UInt16) (entry : TcpNatEntry) (now : Nat) :
      Touches (.fastTouch key port entry now) entry now (.returned key (some port))
  | back (port : UInt16) (entry : TcpNatEntry) (now : Nat) :
      Touches (.backTouch port entry now) entry now (.resolved port (some entry.key))

/-- **Everything a step can do**: read, refresh one session, fail to allocate, insert one session
under both write locks, delete a batch, or empty one of the two maps. -/
inductive Step (memory : NatMemory) : Point → NatMemory → Point → Prop
  | reads {here after} : Reads memory here after → Step memory here memory after
  | touches {here after entry now} : Touches here entry now after →
      Step memory here (memory.touch entry now) after
  | exhausted {key} : memory.nat.allocatePortLocked.1 = none →
      Step memory (.slowPort key)
        (memory.setNat (memory.nat.setPortIndex memory.nat.allocatePortLocked.2))
        (.returned key none)
  | inserts {key port} : memory.nat.allocatePortLocked.1 = some port →
      Step memory (.slowPort key)
        (memory.insertSession key port memory.nat.allocatePortLocked.2) (.returned key (some port))
  | evicts {timeout expired} :
      Step memory (.gcPort timeout expired) (memory.setNat (memory.nat.evict expired)) .finished
  | clearsAddr : Step memory .clearAddr (memory.setNat memory.nat.clearAddrMap) .clearPort
  | clearsPort : Step memory .clearPort (memory.setNat memory.nat.clearPortMap) .finished

theorem next_cases {memory memory' : NatMemory} {here after : Point}
    {order : List (UInt16 × TcpNatEntry)} (moved : next memory here order = some (memory', after)) :
    Step memory here memory' after := by
  cases here with
  | fastAddr key =>
      simp only [next] at moved
      split at moved
      · rename_i port found
        cases moved
        exact .reads (.fastHit found)
      · rename_i missing
        cases moved
        exact .reads (.fastMiss missing)
  | fastPort key port =>
      simp only [next] at moved
      split at moved
      · rename_i entry found
        cases moved
        exact .reads (.fastEntry found)
      · rename_i missing
        cases moved
        exact .reads (.fastNone missing)
  | fastNow key port entry =>
      cases moved
      exact .reads .fastNow
  | fastTouch key port entry now =>
      cases moved
      exact .touches (.fast key port entry now)
  | slowAddr key =>
      simp only [next] at moved
      split at moved
      · rename_i port found
        cases moved
        exact .reads (.slowHit found)
      · rename_i missing
        cases moved
        exact .reads (.slowMiss missing)
  | slowPort key =>
      simp only [next] at moved
      split at moved
      · rename_i portIndex allocated
        cases moved
        have failed : memory.nat.allocatePortLocked.1 = none := by rw [allocated]
        have cursor : memory.nat.allocatePortLocked.2 = portIndex := by rw [allocated]
        rw [← cursor]
        exact .exhausted failed
      · rename_i port portIndex allocated
        cases moved
        have found : memory.nat.allocatePortLocked.1 = some port := by rw [allocated]
        have cursor : memory.nat.allocatePortLocked.2 = portIndex := by rw [allocated]
        rw [← cursor]
        exact .inserts found
  | returned key port => cases moved
  | backPort port =>
      simp only [next] at moved
      split at moved
      · rename_i entry found
        cases moved
        exact .reads (.backEntry found)
      · rename_i missing
        cases moved
        exact .reads (.backNone missing)
  | backNow port entry =>
      cases moved
      exact .reads .backNow
  | backTouch port entry now =>
      cases moved
      exact .touches (.back port entry now)
  | resolved port key => cases moved
  | gcNow timeout =>
      cases moved
      exact .reads .gcNow
  | gcRead timeout now =>
      simp only [next] at moved
      split at moved
      · rename_i permuted
        cases moved
        exact .reads (.gcRead permuted)
      · cases moved
  | gcScan timeout now rest expired =>
      cases rest with
      | nil =>
          simp only [next] at moved
          split at moved
          · rename_i empty
            cases moved
            subst empty
            exact .reads .gcNothing
          · cases moved
            exact .reads .gcScanned
      | cons session rest =>
          obtain ⟨port, entry⟩ := session
          simp only [next] at moved
          split at moved
          · rename_i idle
            cases moved
            exact .reads (.gcExpired idle)
          · rename_i alive
            cases moved
            exact .reads (.gcAlive (Nat.le_of_not_lt alive))
  | gcAddr timeout expired =>
      cases moved
      exact .reads .gcAddr
  | gcPort timeout expired =>
      cases moved
      exact .evicts
  | clearAddr =>
      cases moved
      exact .clearsAddr
  | clearPort =>
      cases moved
      exact .clearsPort
  | finished => cases moved

/-- A step keeps a lock, drops it, or goes on holding what it has just taken. -/
theorem Step.holds_after {memory memory' : NatMemory} {here after : Point}
    (step : Step memory here memory' after) (lock : NatLock) :
    after.holds lock = .free ∨ after.holds lock = here.holds lock
      ∨ after.holds lock = here.needs lock := by
  cases step with
  | reads read =>
      cases read <;> cases lock <;>
        first | exact Or.inl rfl | exact Or.inr (Or.inl rfl) | exact Or.inr (Or.inr rfl)
  | touches touches => cases touches <;> exact Or.inl rfl
  | exhausted _ => exact Or.inl rfl
  | inserts _ => exact Or.inl rfl
  | evicts => exact Or.inl rfl
  | clearsAddr => exact Or.inl rfl
  | clearsPort => exact Or.inl rfl

/-- Where a call starts. -/
def start : NatCall → Point
  | .lookupOrInsert src dst => .fastAddr (src, dst)
  | .lookupBack natPort => .backPort natPort
  | .gc timeout => .gcNow timeout
  | .clear => .clearAddr

/-- **`TcpNat` as a program of concurrent calls.** The environment moves the clock forward. -/
def natProgram : Program NatMemory Point NatLock (List (UInt16 × TcpNatEntry)) NatCall Nat where
  start := start
  holds := Point.holds
  needs := Point.needs
  next := next
  happen memory elapsed := some { memory with clock := memory.clock + elapsed }
  start_free call lock := by cases call <;> rfl
  next_holds moved lock := (next_cases moved).holds_after lock

/-- The shared state of all calls. -/
abbrev NatPool := Pool NatMemory Point

/-- What can happen next. -/
abbrev NatMove := Move (List (UInt16 × TcpNatEntry)) NatCall Nat

/-- `TcpNat::new`, with no call started. -/
def NatPool.fresh (clock : Nat) : NatPool := ⟨NatMemory.new clock, []⟩

/-- No call is in the middle of its operation. -/
def NatPool.Quiescent (pool : NatPool) : Prop := ∀ point ∈ pool.calls, point.isDone = true

instance (pool : NatPool) : Decidable pool.Quiescent := by
  unfold NatPool.Quiescent
  infer_instance

/-! ### A step of the pool -/

/-- **The three kinds of moves**, with everything a move does to the pool. -/
theorem pool_cases {pool pool' : NatPool} {move : NatMove}
    (stepped : natProgram.machine.step pool move = some pool') :
    (∃ call, move = .call call ∧ pool' = ⟨pool.memory, pool.calls ++ [start call]⟩)
      ∨ (∃ elapsed, move = .event elapsed
          ∧ pool' = ⟨{ pool.memory with clock := pool.memory.clock + elapsed }, pool.calls⟩)
      ∨ ∃ index order here memory after, move = .step index order
          ∧ pool.calls[index]? = some here ∧ natProgram.Unblocked pool.calls index here
          ∧ Step pool.memory here memory after ∧ pool' = ⟨memory, pool.calls.set index after⟩ := by
  cases move with
  | call call =>
      cases stepped
      exact Or.inl ⟨call, rfl, rfl⟩
  | event elapsed =>
      cases stepped
      exact Or.inr (Or.inl ⟨elapsed, rfl, rfl⟩)
  | step index order =>
      obtain ⟨here, memory, after, stands, unblocked, moved, rfl⟩ :=
        Program.step_step_eq_some.mp stepped
      exact Or.inr (Or.inr ⟨index, order, here, memory, after, rfl, stands, unblocked,
        next_cases moved, rfl⟩)

/-- No step moves the clock. -/
theorem Step.clock_eq {memory memory' : NatMemory} {here after : Point}
    (step : Step memory here memory' after) : memory'.clock = memory.clock := by
  cases step <;> rfl

/-- Only a step under the write lock of `addr_map` changes it. -/
theorem Step.addrMap_eq {memory memory' : NatMemory} {here after : Point}
    (step : Step memory here memory' after) (noWriter : here.holds .addrMap ≠ .write)
    (noTaker : here.needs .addrMap ≠ .write) : memory'.nat.addrMap = memory.nat.addrMap := by
  cases step with
  | reads _ => rfl
  | touches _ => exact TcpNat.touch_addrMap _ _ _
  | exhausted _ => rfl
  | inserts _ => exact absurd rfl noWriter
  | evicts => exact absurd rfl noWriter
  | clearsAddr => exact absurd rfl noTaker
  | clearsPort => rfl

/-- Only a step that takes the write lock of `port_map` changes it. -/
theorem Step.portMap_eq {memory memory' : NatMemory} {here after : Point}
    (step : Step memory here memory' after) (noTaker : here.needs .portMap ≠ .write) :
    memory'.nat.portMap = memory.nat.portMap := by
  cases step with
  | reads _ => rfl
  | touches _ => exact TcpNat.touch_portMap _ _ _
  | exhausted _ => rfl
  | inserts _ => exact absurd rfl noTaker
  | evicts => exact absurd rfl noTaker
  | clearsAddr => rfl
  | clearsPort => exact absurd rfl noTaker

section Frame

variable {pool : NatPool} {index other : Nat} {here there after : Point} {memory : NatMemory}

/-- **While a call holds `addr_map`, no other call changes it.** -/
theorem addrMap_kept (exclusive : natProgram.Exclusive pool)
    (stands : pool.calls[index]? = some here)
    (unblocked : natProgram.Unblocked pool.calls index here)
    (step : Step pool.memory here memory after) (found : pool.calls[other]? = some there)
    (different : other ≠ index) (held : there.holds .addrMap ≠ .free) :
    memory.nat.addrMap = pool.memory.nat.addrMap := by
  refine step.addrMap_eq ?_ ?_
  · intro writes
    have compatible := exclusive _ _ _ _ stands found (Ne.symm different) .addrMap
    rw [show natProgram.holds here .addrMap = .write from writes] at compatible
    exact held ((Mode.compatible_write_left _).mp compatible)
  · intro takes
    have compatible := unblocked.compatible found different .addrMap
    rw [show natProgram.needs here .addrMap = .write from takes] at compatible
    exact held ((Mode.compatible_write_left _).mp compatible)

/-- **While a call holds `port_map`, no other call changes it.** -/
theorem portMap_kept (unblocked : natProgram.Unblocked pool.calls index here)
    (step : Step pool.memory here memory after) (found : pool.calls[other]? = some there)
    (different : other ≠ index) (held : there.holds .portMap ≠ .free) :
    memory.nat.portMap = pool.memory.nat.portMap := by
  refine step.portMap_eq ?_
  intro takes
  have compatible := unblocked.compatible found different .portMap
  rw [show natProgram.needs here .portMap = .write from takes] at compatible
  exact held ((Mode.compatible_write_left _).mp compatible)

end Frame

/-! ### A call that is alone -/

theorem holds_of_isDone {point : Point} (done : point.isDone = true) (lock : NatLock) :
    point.holds lock = .free := by
  cases point <;> first | rfl | cases done

/-- The last call of a pool in which all other calls have returned takes its steps unhindered. -/
theorem run_step_alone {memory memory' : NatMemory} {calls : List Point} {here after : Point}
    {order : List (UInt16 × TcpNatEntry)} (quiescent : NatPool.Quiescent ⟨memory, calls⟩)
    (moved : next memory here order = some (memory', after)) (rest : List NatMove) :
    natProgram.machine.run ⟨memory, calls ++ [here]⟩ (.step calls.length order :: rest)
      = natProgram.machine.run ⟨memory', calls ++ [after]⟩ rest := by
  rw [Machine.run_cons]
  have stepped : natProgram.machine.step ⟨memory, calls ++ [here]⟩ (.step calls.length order)
      = some ⟨memory', calls ++ [after]⟩ := by
    refine Program.step_step_eq_some.mpr ⟨here, memory', after, by simp, ?_, moved, by simp⟩
    intro other different lock
    have found : other.val < calls.length := by
      have within : other.val < calls.length + 1 := other.isLt.trans_eq List.length_append
      exact Nat.lt_of_le_of_ne (Nat.le_of_lt_succ within) different
    have done : calls[other.val].isDone = true := quiescent _ (List.getElem_mem found)
    rw [show (calls ++ [here])[other] = calls[other.val] from List.getElem_append_left found]
    show Mode.compatible _ (Point.holds _ lock) = true
    rw [holds_of_isDone done lock]
    exact Mode.compatible_free_right _
  rw [stepped, Option.bind_some]

/-- **`lookup_or_insert` alone** returns what the sequential operation returns, and leaves the table
that it leaves. -/
theorem run_lookupOrInsert_alone (pool : NatPool) (quiescent : pool.Quiescent)
    (src dst : SocketAddr) :
    ∃ moves memory, natProgram.machine.run pool moves = some ⟨memory, pool.calls ++
        [.returned (src, dst) (pool.memory.nat.lookupOrInsert pool.memory.clock src dst).1]⟩
      ∧ memory.nat = (pool.memory.nat.lookupOrInsert pool.memory.clock src dst).2 := by
  obtain ⟨memory, calls⟩ := pool
  cases found : memory.nat.addrMap.lookup (src, dst) with
  | some port =>
      have first :
          next memory (.fastAddr (src, dst)) [] = some (memory, .fastPort (src, dst) port) := by
        simp only [next, found]
      cases entryFound : memory.nat.portMap.lookup port with
      | some entry =>
          have second : next memory (.fastPort (src, dst) port) []
              = some (memory, .fastNow (src, dst) port entry) := by
            simp only [next, entryFound]
          refine ⟨[.call (.lookupOrInsert src dst), .step calls.length [], .step calls.length [],
            .step calls.length [], .step calls.length []], memory.touch entry memory.clock, ?_, ?_⟩
          · rw [Machine.run_cons, Program.step_call, Option.bind_some]
            show natProgram.machine.run ⟨memory, calls ++ [.fastAddr (src, dst)]⟩ _ = _
            rw [run_step_alone quiescent first, run_step_alone quiescent second,
              run_step_alone quiescent rfl, run_step_alone quiescent rfl, Machine.run_nil]
            simp only [TcpNat.lookupOrInsert, found, entryFound]
          · simp only [TcpNat.lookupOrInsert, found, entryFound]
            rfl
      | none =>
          have second : next memory (.fastPort (src, dst) port) []
              = some (memory, .returned (src, dst) (some port)) := by
            simp only [next, entryFound]
          refine ⟨[.call (.lookupOrInsert src dst), .step calls.length [], .step calls.length []],
            memory, ?_, ?_⟩
          · rw [Machine.run_cons, Program.step_call, Option.bind_some]
            show natProgram.machine.run ⟨memory, calls ++ [.fastAddr (src, dst)]⟩ _ = _
            rw [run_step_alone quiescent first, run_step_alone quiescent second, Machine.run_nil]
            simp only [TcpNat.lookupOrInsert, found, entryFound]
          · simp only [TcpNat.lookupOrInsert, found, entryFound]
  | none =>
      have first : next memory (.fastAddr (src, dst)) [] = some (memory, .slowAddr (src, dst)) := by
        simp only [next, found]
      have second :
          next memory (.slowAddr (src, dst)) [] = some (memory, .slowPort (src, dst)) := by
        simp only [next, found]
      obtain ⟨memory', third, table⟩ : ∃ memory', next memory (.slowPort (src, dst)) []
          = some (memory',
            .returned (src, dst) (memory.nat.allocateAndInsert memory.clock (src, dst)).1)
          ∧ memory'.nat = (memory.nat.allocateAndInsert memory.clock (src, dst)).2 := by
        simp only [next, TcpNat.allocateAndInsert]
        cases memory.nat.allocatePortLocked with
        | mk port portIndex => cases port <;> exact ⟨_, rfl, rfl⟩
      refine ⟨[.call (.lookupOrInsert src dst), .step calls.length [], .step calls.length [],
        .step calls.length []], memory', ?_, ?_⟩
      · rw [Machine.run_cons, Program.step_call, Option.bind_some]
        show natProgram.machine.run ⟨memory, calls ++ [.fastAddr (src, dst)]⟩ _ = _
        rw [run_step_alone quiescent first, run_step_alone quiescent second,
          run_step_alone quiescent third, Machine.run_nil]
        simp only [TcpNat.lookupOrInsert, found]
      · simp only [TcpNat.lookupOrInsert, found]
        exact table

/-- **`lookup_back` alone** returns what the sequential operation returns, and leaves the table that
it leaves. -/
theorem run_lookupBack_alone (pool : NatPool) (quiescent : pool.Quiescent) (natPort : UInt16) :
    ∃ moves memory, natProgram.machine.run pool moves = some ⟨memory, pool.calls ++
        [.resolved natPort (pool.memory.nat.lookupBack pool.memory.clock natPort).1]⟩
      ∧ memory.nat = (pool.memory.nat.lookupBack pool.memory.clock natPort).2 := by
  obtain ⟨memory, calls⟩ := pool
  cases found : memory.nat.portMap.lookup natPort with
  | some entry =>
      have first : next memory (.backPort natPort) [] = some (memory, .backNow natPort entry) := by
        simp only [next, found]
      refine ⟨[.call (.lookupBack natPort), .step calls.length [], .step calls.length [],
        .step calls.length []], memory.touch entry memory.clock, ?_, ?_⟩
      · rw [Machine.run_cons, Program.step_call, Option.bind_some]
        show natProgram.machine.run ⟨memory, calls ++ [.backPort natPort]⟩ _ = _
        rw [run_step_alone quiescent first, run_step_alone quiescent rfl,
          run_step_alone quiescent rfl, Machine.run_nil]
        simp only [TcpNat.lookupBack, found]
      · simp only [TcpNat.lookupBack, found]
        rfl
  | none =>
      have first : next memory (.backPort natPort) [] = some (memory, .resolved natPort none) := by
        simp only [next, found]
      refine ⟨[.call (.lookupBack natPort), .step calls.length []], memory, ?_, ?_⟩
      · rw [Machine.run_cons, Program.step_call, Option.bind_some]
        show natProgram.machine.run ⟨memory, calls ++ [.backPort natPort]⟩ _ = _
        rw [run_step_alone quiescent first, Machine.run_nil]
        simp only [TcpNat.lookupBack, found]
      · simp only [TcpNat.lookupBack, found]

end RsTun.SystemNat
