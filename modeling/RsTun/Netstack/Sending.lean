/-
**The sending direction of a `TcpStream`.**

`poll_write` puts bytes into the send buffer, `poll_sockets` passes them to the socket of the stack
and closes its sending half once the stream is shut down, or dropped, and the buffer is drained.
`SendRecord` adds to the two sides a record of the bytes that were accepted and of those that were
passed on; it changes nothing in what they do (`run_connection`).

* `pollStep_sends` — all that a step of `poll_sockets` does to the sending side.
* `Ordered` — what was accepted is what was passed on and what is in the buffer, in order.
* `sent_in_order` — **the socket is closed only behind all that was accepted**, nothing is accepted
  afterwards, and no `poll_write` of some bytes accepts none.
* `sends_all` — **as long as the socket takes bytes, all that was accepted can be passed on**, and
  the socket be closed.
-/

import RsTun.Netstack.Wakeup

namespace RsTun.Netstack

open Library Library.Bytes TcpConnection

/-- `poll_write` has seen neither of the flags that refuse it. -/
def WritePoint.accepts : WritePoint → Bool
  | .firstTest _ => true
  | .register _ => true
  | .secondTest _ => true
  | .enqueue _ => true
  | _ => false

/-- The points at which `poll_sockets` treats the stream as dropped. -/
def PollPoint.isDropped : PollPoint → Bool
  | .flushTest => true
  | .flush => true
  | .drainedTest => true
  | _ => false

/-- A connection, with the bytes that `poll_write` has accepted and those that `poll_sockets` has
passed to the socket. -/
structure SendRecord where
  connection : TcpConnection
  accepted : Bytes
  passed : Bytes

namespace SendRecord

/-- A new connection. -/
def new : SendRecord := ⟨.new, [], []⟩

/-- The bytes that a step accepts. -/
def acceptedBy (state : TcpConnection) : Action → Bytes
  | .write =>
      match state.writer with
      | .enqueue data => data.take (state.handle.sendBuffer.enqueueSlice data).1
      | _ => []
  | _ => []

/-- The bytes that a step passes to the socket. -/
def passedBy (state : TcpConnection) : Action → Bytes
  | .poll answer =>
      if state.poller = .send ∨ state.poller = .flush then
        match answer.sendRoom with
        | some room => (state.handle.sendBuffer.dequeueSlice room).1
        | none => []
      else []
  | _ => []

/-- A step of the connection, with the record. -/
def step (record : SendRecord) (action : Action) : Option SendRecord :=
  (record.connection.step action).map fun next =>
    ⟨next, record.accepted ++ acceptedBy record.connection action,
      record.passed ++ passedBy record.connection action⟩

/-- The connection with the record, as a machine. -/
def machine : Machine SendRecord Action := ⟨step⟩

theorem step_eq_some {record next : SendRecord} {action : Action} :
    machine.step record action = some next ↔
      ∃ connection, record.connection.step action = some connection
        ∧ next = ⟨connection, record.accepted ++ acceptedBy record.connection action,
          record.passed ++ passedBy record.connection action⟩ := by
  show (record.connection.step action).map _ = some next ↔ _
  rw [Option.map_eq_some_iff]
  exact exists_congr fun connection => and_congr_right fun _ => eq_comm

/-- **The record changes nothing**: the runs are those of the connection. -/
theorem run_connection {actions : List Action} {record : SendRecord} :
    (machine.run record actions).map SendRecord.connection
      = TcpConnection.machine.run record.connection actions := by
  induction actions generalizing record with
  | nil => rfl
  | cons action rest ih =>
      rw [Machine.run_cons, Machine.run_cons]
      show ((record.step action).bind _).map _ = (record.connection.step action).bind _
      unfold step
      cases record.connection.step action with
      | none => rfl
      | some connection => exact ih

/-! ### What is accepted is passed on in order -/

/-- **The sending side of a connection.** -/
structure Ordered (record : SendRecord) : Prop where
  whole : record.accepted
    = record.passed ++ record.connection.handle.sendBuffer.contents
  shut : record.connection.handle.writeShutdown = true → record.connection.writer.accepts = false
  owned : record.connection.dropper ≠ .held → record.connection.writer = .idle
  dropped : record.connection.handle.socketDropped = true → record.connection.dropper ≠ .held
  testing : record.connection.poller = .shutdownTest →
    record.connection.handle.writeShutdown = true
  flushing : record.connection.poller.isDropped = true →
    record.connection.handle.socketDropped = true
  closed : record.connection.closeIssued = true →
    record.connection.handle.sendBuffer.contents = []
      ∧ (record.connection.handle.writeShutdown = true
        ∨ record.connection.handle.socketDropped = true)
  room : ∀ data, record.connection.writer = .enqueue data →
    0 < record.connection.handle.sendBuffer.writable

theorem ordered_new : Ordered new where
  whole := rfl
  shut := nofun
  owned := absurd rfl
  dropped := nofun
  testing := nofun
  flushing := nofun
  closed := nofun
  room _ := nofun

/-- **All that a step of `poll_sockets` does to the sending side**: it passes on the first bytes of
the buffer, or leaves it alone; it closes over an empty buffer only, of a stream that is shut down
or dropped. -/
structure PollSends (answer : SocketAnswer) (state next : TcpConnection) : Prop where
  writeShutdown : next.handle.writeShutdown = state.handle.writeShutdown
  buffer : next.handle.sendBuffer = state.handle.sendBuffer ∧ passedBy state (.poll answer) = []
    ∨ ∃ room, next.handle.sendBuffer = (state.handle.sendBuffer.dequeueSlice room).2
      ∧ passedBy state (.poll answer) = (state.handle.sendBuffer.dequeueSlice room).1
  closes : next.closeIssued = true → state.closeIssued = true
    ∨ next.handle.sendBuffer = state.handle.sendBuffer
      ∧ state.handle.sendBuffer.isEmpty = true
      ∧ (state.poller = .shutdownTest ∨ state.poller.isDropped = true)
  stays : state.closeIssued = true → next.closeIssued = true
  testing : next.poller = .shutdownTest → state.handle.writeShutdown = true
  flushing : next.poller.isDropped = true →
    state.handle.socketDropped = true ∨ state.poller.isDropped = true

/-- A step that does nothing to the sending side. -/
theorem PollSends.quiet {answer : SocketAnswer} {state next : TcpConnection}
    (handle : next.handle.writeShutdown = state.handle.writeShutdown
      ∧ next.handle.sendBuffer = state.handle.sendBuffer)
    (closeIssued : next.closeIssued = state.closeIssued)
    (silent : state.poller ≠ .send ∧ state.poller ≠ .flush)
    (testing : next.poller ≠ .shutdownTest) (flushing : next.poller.isDropped = false) :
    PollSends answer state next where
  writeShutdown := handle.1
  buffer := by
    refine .inl ⟨handle.2, if_neg fun passes => ?_⟩
    exact passes.elim silent.1 silent.2
  closes closed := .inl (closeIssued ▸ closed)
  stays closed := closeIssued.trans closed
  testing here := absurd here testing
  flushing here := absurd (here.symm.trans flushing) nofun

theorem pollStep_sends {answer : SocketAnswer} {state next : TcpConnection}
    (stepped : state.pollStep answer = some next) : PollSends answer state next := by
  unfold pollStep at stepped
  cases point : state.poller with
  | removed =>
      rw [point] at stepped
      cases stepped
  | send =>
      rw [point] at stepped
      dsimp only at stepped
      cases passed : answer.sendRoom with
      | none =>
          rw [passed] at stepped
          cases stepped
          refine ⟨rfl, .inl ⟨rfl, ?_⟩, .inl, id, fun here => ?_, fun here => ?_⟩
          · simp only [passedBy, point, passed, true_or, if_true]
          · cases here
          · cases here
      | some room =>
          rw [passed] at stepped
          cases stepped
          refine ⟨rfl, .inr ⟨room, rfl, ?_⟩, .inl, id, fun here => ?_, fun here => ?_⟩
          · simp only [passedBy, point, passed, true_or, if_true]
          · cases here
          · cases here
  | flush =>
      rw [point] at stepped
      dsimp only at stepped
      cases passed : answer.sendRoom with
      | none =>
          rw [passed] at stepped
          cases stepped
          refine ⟨rfl, .inl ⟨rfl, ?_⟩, .inl, id, fun here => ?_, fun _ => .inr (point ▸ rfl)⟩
          · simp only [passedBy, point, passed, or_true, if_true]
          · cases here
      | some room =>
          rw [passed] at stepped
          cases stepped
          refine ⟨rfl, .inr ⟨room, rfl, ?_⟩, .inl, id, fun here => ?_, fun _ => .inr (point ▸ rfl)⟩
          · simp only [passedBy, point, passed, or_true, if_true]
          · cases here
  | recvTest _ | sendTest _ | testActive =>
      rw [point] at stepped
      cases stepped
      refine .quiet ⟨rfl, rfl⟩ rfl (by simp [point]) ?_ ?_
      all_goals
        dsimp only
        repeat' split
        all_goals first | rfl | exact fun here => by cases here
  | recv | swapWriteClosed | swapReadClosed =>
      rw [point] at stepped
      dsimp only at stepped
      split at stepped <;> cases stepped
      all_goals
        refine .quiet ⟨rfl, rfl⟩ rfl (by simp [point]) ?_ ?_
        all_goals
          dsimp only
          repeat' split
          all_goals first | rfl | exact fun here => by cases here
  | loadWriteShutdown =>
      rw [point] at stepped
      cases stepped
      refine ⟨rfl, .inl ⟨rfl, ?_⟩, .inl, id, fun here => ?_, fun here => ?_⟩
      · simp only [passedBy, point, reduceCtorEq, or_self, if_false]
      · dsimp only at here
        split at here
        · assumption
        · cases here
      · dsimp only at here
        split at here <;> cases here
  | loadSocketDropped =>
      rw [point] at stepped
      cases stepped
      refine ⟨rfl, .inl ⟨rfl, ?_⟩, .inl, id, fun here => ?_, fun here => ?_⟩
      · simp only [passedBy, point, reduceCtorEq, or_self, if_false]
      · dsimp only at here
        split at here <;> cases here
      · dsimp only at here
        split at here
        · exact .inl ‹_›
        · cases here
  | flushTest =>
      rw [point] at stepped
      cases stepped
      refine ⟨rfl, .inl ⟨rfl, ?_⟩, .inl, id, fun here => ?_, fun _ => .inr (point ▸ rfl)⟩
      · simp only [passedBy, point, reduceCtorEq, or_self, if_false]
      · dsimp only at here
        split at here <;> cases here
  | shutdownTest =>
      rw [point] at stepped
      cases stepped
      refine ⟨rfl, .inl ⟨rfl, ?_⟩, fun closed => ?_,
        fun closed => Bool.or_eq_true_iff.mpr (.inl closed),
        fun here => ?_, fun here => ?_⟩
      · simp only [passedBy, point, reduceCtorEq, or_self, if_false]
      · obtain before | now := Bool.or_eq_true_iff.mp closed
        · exact .inl before
        · exact .inr ⟨rfl, (Bool.and_eq_true_iff.mp now).1, .inl point⟩
      · cases here
      · cases here
  | drainedTest =>
      rw [point] at stepped
      cases stepped
      refine ⟨rfl, .inl ⟨rfl, ?_⟩, fun closed => ?_,
        fun closed => Bool.or_eq_true_iff.mpr (.inl closed),
        fun here => ?_, fun here => ?_⟩
      · simp only [passedBy, point, reduceCtorEq, or_self, if_false]
      · obtain before | now := Bool.or_eq_true_iff.mp closed
        · exact .inl before
        · exact .inr ⟨rfl, now, .inr (point ▸ rfl)⟩
      · cases here
      · cases here
  | _ =>
      rw [point] at stepped
      cases stepped
      exact .quiet ⟨rfl, rfl⟩ rfl (by simp [point]) (fun here => by cases here) rfl

section Steps

variable {record : SendRecord} {next : TcpConnection}

/-- What is in the buffer once its first bytes are taken away. -/
theorem writable_dequeueSlice (ring : LockFreeRingBuffer) (size : Nat) :
    ring.writable ≤ (ring.dequeueSlice size).2.writable := by
  obtain ⟨-, left, capacity⟩ := ring.dequeueSlice_spec size
  have before := ring.readable_add_writable
  have after := (ring.dequeueSlice size).2.readable_add_writable
  rw [← LockFreeRingBuffer.length_contents, left, List.length_drop, capacity] at after
  rw [← LockFreeRingBuffer.length_contents] at before
  omega

/-- A step that leaves the sending side alone. -/
theorem Ordered.frame (ordered : Ordered record)
    (handle : next.handle.sendBuffer = record.connection.handle.sendBuffer
      ∧ next.handle.writeShutdown = record.connection.handle.writeShutdown
      ∧ next.handle.socketDropped = record.connection.handle.socketDropped)
    (calls : next.writer = record.connection.writer ∧ next.dropper = record.connection.dropper)
    (poller : next.poller = record.connection.poller)
    (closeIssued : next.closeIssued = record.connection.closeIssued) :
    Ordered ⟨next, record.accepted ++ [], record.passed ++ []⟩ := by
  obtain ⟨sendBuffer, writeShutdown, socketDropped⟩ := handle
  obtain ⟨writer, dropper⟩ := calls
  rw [List.append_nil, List.append_nil]
  refine ⟨?_, ?_, ?_, ?_, ?_, ?_, ?_, ?_⟩
  all_goals
    dsimp only
    simp only [sendBuffer, writeShutdown, socketDropped, writer, dropper, poller, closeIssued]
  · exact ordered.whole
  · exact ordered.shut
  · exact ordered.owned
  · exact ordered.dropped
  · exact ordered.testing
  · exact ordered.flushing
  · exact ordered.closed
  · exact ordered.room

/-- **A step of `poll_sockets`.** -/
theorem Ordered.poll (ordered : Ordered record) {answer : SocketAnswer}
    (stepped : record.connection.pollStep answer = some next) :
    Ordered ⟨next, record.accepted ++ [],
      record.passed ++ passedBy record.connection (.poll answer)⟩ := by
  obtain ⟨writer, -, dropper, socketDropped⟩ := pollStep_calls stepped
  obtain ⟨writeShutdown, buffer, closes, -, testing, flushing⟩ := pollStep_sends stepped
  have dropping : record.connection.poller.isDropped = true →
      record.connection.handle.socketDropped = true := ordered.flushing
  have emptied : record.connection.handle.sendBuffer.contents = [] →
      next.handle.sendBuffer.contents = [] := by
    intro empty
    obtain ⟨same, -⟩ | ⟨room, taken, -⟩ := buffer
    · rw [same, empty]
    · rw [taken, (LockFreeRingBuffer.dequeueSlice_spec _ room).2.1, empty, List.drop_nil]
  refine ⟨?_, ?_, ?_, ?_, ?_, ?_, ?_, ?_⟩
  all_goals dsimp only
  · rw [List.append_nil, ordered.whole, List.append_assoc]
    congr 1
    obtain ⟨same, nothing⟩ | ⟨room, taken, passed⟩ := buffer
    · rw [same, nothing, List.nil_append]
    · obtain ⟨first, rest, -⟩ := LockFreeRingBuffer.dequeueSlice_spec
        record.connection.handle.sendBuffer room
      rw [taken, passed, first, rest, List.take_append_drop]
  · rw [writeShutdown, writer]
    exact ordered.shut
  · rw [writer, dropper]
    exact ordered.owned
  · rw [socketDropped, dropper]
    exact ordered.dropped
  · rw [writeShutdown]
    exact testing
  · rw [socketDropped]
    exact fun here => (flushing here).elim id dropping
  · rw [writeShutdown, socketDropped]
    intro closed
    obtain before | ⟨same, empty, shutDown | dropped⟩ := closes closed
    · exact ⟨emptied (ordered.closed before).1, (ordered.closed before).2⟩
    · exact ⟨emptied ((LockFreeRingBuffer.isEmpty_iff _).mp empty), .inl (ordered.testing shutDown)⟩
    · exact ⟨emptied ((LockFreeRingBuffer.isEmpty_iff _).mp empty), .inr (dropping dropped)⟩
  · rw [writer]
    intro data here
    have before := ordered.room data here
    obtain ⟨same, -⟩ | ⟨room, taken, -⟩ := buffer
    · rwa [same]
    · rw [taken]
      exact Nat.lt_of_lt_of_le before (writable_dequeueSlice _ room)

/-- A step of `poll_write` or `poll_shutdown`, or the call of one, that accepts nothing. -/
theorem Ordered.call (ordered : Ordered record) {writer : WritePoint} {handle : TcpStreamHandle}
    {lastWrite : Option WriteResult} (held : record.connection.dropper = .held)
    (same : handle.sendBuffer = record.connection.handle.sendBuffer
      ∧ handle.socketDropped = record.connection.handle.socketDropped)
    (shutDown : record.connection.handle.writeShutdown = true → handle.writeShutdown = true)
    (shut : handle.writeShutdown = true → writer.accepts = false)
    (room : ∀ data, writer = .enqueue data →
      0 < record.connection.handle.sendBuffer.writable) :
    Ordered ⟨{ record.connection with handle, writer, lastWrite }, record.accepted ++ [],
      record.passed ++ []⟩ := by
  obtain ⟨sendBuffer, socketDropped⟩ := same
  rw [List.append_nil, List.append_nil]
  refine ⟨?_, shut, fun dropped => absurd held dropped, ?_,
    fun here => shutDown (ordered.testing here), ?_, fun closed => ?_, ?_⟩
  · dsimp only
    rw [sendBuffer]
    exact ordered.whole
  · dsimp only
    rw [socketDropped]
    exact ordered.dropped
  · dsimp only
    rw [socketDropped]
    exact ordered.flushing
  · obtain ⟨empty, why⟩ := ordered.closed closed
    dsimp only
    rw [sendBuffer, socketDropped]
    exact ⟨empty, why.imp_left shutDown⟩
  · dsimp only
    rw [sendBuffer]
    exact room

/-- The stream is not shut down while a `poll_write` accepts. -/
theorem Ordered.stillOpen (ordered : Ordered record)
    (accepts : record.connection.writer.accepts = true) :
    ¬ record.connection.handle.writeShutdown = true := fun shut =>
  Bool.false_ne_true ((ordered.shut shut).symm.trans accepts)

/-- The test for fullness says whether there is room. -/
theorem writable_pos_of_not_full {ring : LockFreeRingBuffer} (full : ¬ ring.isFull = true) :
    0 < ring.writable :=
  Nat.pos_of_ne_zero fun none => full (ring.isFull_iff.mpr none)

/-- **A step of `poll_write` or `poll_shutdown`.** -/
theorem Ordered.write (ordered : Ordered record)
    (stepped : record.connection.writeStep = some next) :
    Ordered ⟨next, record.accepted ++ acceptedBy record.connection .write,
      record.passed ++ []⟩ := by
  have running : record.connection.writer ≠ .idle := (writeStep_frame stepped).1
  have held : record.connection.dropper = .held := by
    by_contra dropped
    exact running (ordered.owned dropped)
  unfold writeStep at stepped
  unfold acceptedBy
  cases point : record.connection.writer with
  | idle => exact absurd point running
  | loadWriteClosed data =>
      rw [point] at stepped
      dsimp only at stepped
      split at stepped <;> cases stepped
      all_goals exact ordered.call held ⟨rfl, rfl⟩ id (fun _ => rfl) (fun _ => nofun)
  | loadWriteShutdown data =>
      rw [point] at stepped
      dsimp only at stepped
      split at stepped <;> cases stepped
      · exact ordered.call held ⟨rfl, rfl⟩ id (fun _ => rfl) (fun _ => nofun)
      · rename_i stillOpen
        exact ordered.call held ⟨rfl, rfl⟩ id (fun shut => absurd shut stillOpen) (fun _ => nofun)
  | firstTest data =>
      have stillOpen := ordered.stillOpen (point ▸ rfl)
      rw [point] at stepped
      cases stepped
      refine ordered.call held ⟨rfl, rfl⟩ id (fun shut => absurd shut stillOpen)
        fun other here => ?_
      split at here
      · cases here
      · exact writable_pos_of_not_full ‹_›
  | register data =>
      have stillOpen := ordered.stillOpen (point ▸ rfl)
      rw [point] at stepped
      cases stepped
      exact ordered.call held ⟨rfl, rfl⟩ id (fun shut => absurd shut stillOpen) (fun _ => nofun)
  | secondTest data =>
      have stillOpen := ordered.stillOpen (point ▸ rfl)
      rw [point] at stepped
      dsimp only at stepped
      split at stepped <;> cases stepped
      · exact ordered.call held ⟨rfl, rfl⟩ id (fun _ => rfl) (fun _ => nofun)
      · exact ordered.call held ⟨rfl, rfl⟩ id (fun shut => absurd shut stillOpen)
          fun _ _ => writable_pos_of_not_full ‹_›
  | enqueue data =>
      have stillOpen := ordered.stillOpen (point ▸ rfl)
      rw [point] at stepped
      cases stepped
      obtain ⟨count, queued, -⟩ := record.connection.handle.sendBuffer.enqueueSlice_spec data
      refine ⟨?_, fun shut => absurd shut stillOpen, fun _ => rfl, ordered.dropped,
        ordered.testing, ordered.flushing, fun closed => ?_, fun _ => nofun⟩
      · show record.accepted ++ _ = record.passed ++ []
          ++ (record.connection.handle.sendBuffer.enqueueSlice data).2.contents
        rw [List.append_nil, queued, ← count, ← List.append_assoc, ← ordered.whole]
      · -- a socket that is closed belongs to a stream that is shut down or dropped
        obtain ⟨-, shut | dropped⟩ := ordered.closed closed
        · exact absurd shut stillOpen
        · exact absurd held (ordered.dropped dropped)
  | storeWriteShutdown =>
      rw [point] at stepped
      cases stepped
      exact ordered.call held ⟨rfl, rfl⟩ (fun _ => rfl) (fun _ => rfl) (fun _ => nofun)
  | wakeSend =>
      rw [point] at stepped
      cases stepped
      exact ordered.call held ⟨rfl, rfl⟩ id (fun _ => rfl) (fun _ => nofun)

/-- **A step of `drop`**, which finds no call running. -/
theorem Ordered.dropping (ordered : Ordered record)
    (stepped : record.connection.dropStep = some next) :
    Ordered ⟨next, record.accepted ++ [], record.passed ++ []⟩ := by
  rw [List.append_nil, List.append_nil]
  have dropped : record.connection.dropper ≠ .held := by
    intro held
    unfold dropStep at stepped
    rw [held] at stepped
    cases stepped
  have idle := ordered.owned dropped
  unfold dropStep at stepped
  cases point : record.connection.dropper with
  | held => exact absurd point dropped
  | gone =>
      rw [point] at stepped
      cases stepped
  | storeSocketDropped =>
      rw [point] at stepped
      cases stepped
      exact ⟨ordered.whole, ordered.shut, fun _ => idle, fun _ => nofun, ordered.testing,
        fun _ => rfl, fun closed => ⟨(ordered.closed closed).1, .inr rfl⟩, ordered.room⟩
  | _ =>
      rw [point] at stepped
      cases stepped
      exact ⟨ordered.whole, ordered.shut, fun _ => idle, fun _ => nofun, ordered.testing,
        ordered.flushing, ordered.closed, ordered.room⟩

/-- `poll_read` leaves the sending side alone. -/
theorem Ordered.read (ordered : Ordered record)
    (stepped : record.connection.readStep = some next) :
    Ordered ⟨next, record.accepted ++ [], record.passed ++ []⟩ := by
  have same := readStep_same stepped
  have rest : next.handle.writeShutdown = record.connection.handle.writeShutdown
      ∧ next.closeIssued = record.connection.closeIssued := by
    unfold readStep at stepped
    cases point : record.connection.reader with
    | idle =>
        rw [point] at stepped
        cases stepped
    | loadSocketClosed =>
        rw [point] at stepped
        dsimp only at stepped
        split at stepped <;> cases stepped <;> exact ⟨rfl, rfl⟩
    | _ =>
        rw [point] at stepped
        cases stepped
        exact ⟨rfl, rfl⟩
  exact ordered.frame ⟨same.sendBuffer, rest.1, same.socketDropped⟩ ⟨same.writer, same.dropper⟩
    same.poller rest.2

/-- **Every step keeps the sending side in order.** -/
theorem ordered_step {record next : SendRecord} {action : Action} (ordered : Ordered record)
    (stepped : machine.step record action = some next) : Ordered next := by
  obtain ⟨connection, taken, rfl⟩ := step_eq_some.mp stepped
  cases action with
  | pollRead room =>
      unfold TcpConnection.step at taken
      dsimp only at taken
      split at taken <;> cases taken
      exact ordered.frame ⟨rfl, rfl, rfl⟩ ⟨rfl, rfl⟩ rfl rfl
  | read => exact ordered.read taken
  | pollWrite data =>
      unfold TcpConnection.step at taken
      dsimp only at taken
      split at taken <;> cases taken
      exact ordered.call (And.left ‹_›) ⟨rfl, rfl⟩ id (fun _ => rfl) (fun _ => nofun)
  | pollShutdown =>
      unfold TcpConnection.step at taken
      dsimp only at taken
      split at taken <;> cases taken
      exact ordered.call (And.left ‹_›) ⟨rfl, rfl⟩ id (fun _ => rfl) (fun _ => nofun)
  | write => exact ordered.write taken
  | drop =>
      unfold TcpConnection.step at taken
      dsimp only at taken
      split at taken <;> cases taken
      rename_i free
      show Ordered ⟨_, record.accepted ++ [], record.passed ++ []⟩
      rw [List.append_nil, List.append_nil]
      exact ⟨ordered.whole, ordered.shut, fun _ => free.2.2, fun _ => nofun, ordered.testing,
        ordered.flushing, ordered.closed, ordered.room⟩
  | dropping => exact ordered.dropping taken
  | poll answer => exact ordered.poll taken

/-- **In every run** the sending side is in order. -/
theorem ordered_run {actions : List Action} {record : SendRecord}
    (reached : machine.run new actions = some record) : Ordered record :=
  Machine.run_invariant ordered_step ordered_new reached

/-- A socket that is closed stays so, and nothing more is accepted. -/
theorem closed_step {record next : SendRecord} {action : Action} (ordered : Ordered record)
    (closed : record.connection.closeIssued = true)
    (stepped : machine.step record action = some next) :
    next.connection.closeIssued = true ∧ next.accepted = record.accepted := by
  obtain ⟨connection, taken, rfl⟩ := step_eq_some.mp stepped
  have nothing : acceptedBy record.connection action = [] := by
    unfold acceptedBy
    split
    · split
      · rename_i data point
        obtain ⟨-, shut | dropped⟩ := ordered.closed closed
        · exact absurd shut (ordered.stillOpen (point ▸ rfl))
        · have idle := ordered.owned (ordered.dropped dropped)
          rw [point] at idle
          cases idle
      · rfl
    · rfl
  refine ⟨?_, by rw [nothing, List.append_nil]⟩
  unfold TcpConnection.step at taken
  cases action with
  | poll answer => exact (pollStep_sends taken).stays closed
  | read =>
      dsimp only at taken
      unfold readStep at taken
      dsimp only at taken
      repeat' split at taken
      all_goals cases taken; try exact closed
  | write =>
      dsimp only at taken
      unfold writeStep at taken
      dsimp only at taken
      repeat' split at taken
      all_goals cases taken; try exact closed
  | dropping =>
      dsimp only at taken
      unfold dropStep at taken
      dsimp only at taken
      repeat' split at taken
      all_goals cases taken; try exact closed
  | pollRead | pollWrite | pollShutdown | drop =>
      dsimp only at taken
      split at taken <;> cases taken
      exact closed

end Steps

/-- **The sending direction keeps order, and closes last.** For every interleaving of the steps of
`poll_write`, `poll_shutdown`, `poll_read` and `drop` with those of `poll_sockets`, and whatever the
socket answers: what was accepted is what was passed to the socket, followed by what is in the send
buffer; once the socket is told to close, all that was accepted has been passed to it and nothing
more is accepted or passed on; and a `poll_write` that is about to take some of its bytes takes at
least one. -/
theorem sent_in_order {actions : List Action} {record : SendRecord}
    (reached : machine.run new actions = some record) :
    record.accepted = record.passed ++ record.connection.handle.sendBuffer.contents
      ∧ (record.connection.closeIssued = true → record.passed = record.accepted
        ∧ ∀ later final, machine.run record later = some final →
          final.accepted = record.accepted ∧ final.passed = record.accepted)
      ∧ ∀ data, record.connection.writer = .enqueue data → data ≠ [] →
        0 < (record.connection.handle.sendBuffer.enqueueSlice data).1 := by
  have ordered := ordered_run reached
  refine ⟨ordered.whole, fun closed => ?_, fun data point some => ?_⟩
  · have all : ∀ state : SendRecord, Ordered state → state.connection.closeIssued = true →
        state.passed = state.accepted := by
      intro state inOrder issued
      rw [inOrder.whole, (inOrder.closed issued).1, List.append_nil]
    refine ⟨all record ordered closed, fun later final ran => ?_⟩
    obtain ⟨inOrder, issued, same⟩ := @Machine.run_invariant _ _ machine
      (fun state => Ordered state ∧ state.connection.closeIssued = true
        ∧ state.accepted = record.accepted)
      (fun {state _ _} holds stepped => by
        obtain ⟨still, nothing⟩ := closed_step holds.1 holds.2.1 stepped
        exact ⟨ordered_step holds.1 stepped, still, nothing.trans holds.2.2⟩)
      later record final ⟨ordered, closed, rfl⟩ ran
    exact ⟨same, (all final inOrder issued).trans same⟩
  · rw [(LockFreeRingBuffer.enqueueSlice_spec _ data).1]
    have room := ordered.room data point
    have length := List.length_pos_of_ne_nil some
    omega

/-- An application that writes three bytes and shuts down, over a socket that takes two bytes at a
time. -/
def sampleSending : List Action :=
  let busy : SocketAnswer := ⟨false, true, true, true, true, true, none, some 2⟩
  [.pollWrite [1, 2, 3], .write, .write, .write, .write, .pollShutdown, .write, .write]
    ++ List.replicate 13 (.poll busy)

theorem sent_in_order_sample : ∃ record, machine.run new sampleSending = some record
    ∧ record.connection.closeIssued = true ∧ record.passed = [1, 2, 3] := by
  have ran : (machine.run new sampleSending).map
      (fun record => (record.accepted, record.connection.closeIssued))
        = some ([1, 2, 3], true) := by
    decide +kernel
  obtain ⟨record, reached, same⟩ := Option.map_eq_some_iff.mp ran
  obtain ⟨accepted, closed⟩ := Prod.mk.inj same
  exact ⟨record, reached, closed, ((sent_in_order reached).2.1 closed).1.trans accepted⟩

/-! ### All of it is passed on -/

/-- `poll_sockets` alone, with what the socket answers. -/
def sockets : Machine SendRecord SocketAnswer :=
  ⟨fun record answer => machine.step record (.poll answer)⟩

theorem sockets_step {record : SendRecord} {answer : SocketAnswer} {next : TcpConnection}
    (taken : record.connection.pollStep answer = some next) :
    sockets.step record answer = some ⟨next, record.accepted ++ [],
      record.passed ++ passedBy record.connection (.poll answer)⟩ :=
  step_eq_some.mpr ⟨next, taken, rfl⟩

/-- What `poll_sockets` leaves alone. -/
structure SameStream (record final : SendRecord) : Prop where
  accepted : final.accepted = record.accepted
  writeShutdown : final.connection.handle.writeShutdown = record.connection.handle.writeShutdown
  socketDropped : final.connection.handle.socketDropped = record.connection.handle.socketDropped

theorem sockets_same {record final : SendRecord} {answers : List SocketAnswer}
    (ran : sockets.run record answers = some final) : SameStream record final := by
  refine @Machine.run_invariant _ _ sockets (SameStream record) ?_ _ _ _ ⟨rfl, rfl, rfl⟩ ran
  intro state answer next same stepped
  obtain ⟨connection, taken, rfl⟩ := step_eq_some.mp stepped
  obtain ⟨-, -, -, dropped⟩ := pollStep_calls taken
  exact ⟨(List.append_nil _).trans same.accepted,
    (pollStep_sends taken).writeShutdown.trans same.writeShutdown,
    dropped.trans same.socketDropped⟩

theorem sockets_ordered {record final : SendRecord} {answers : List SocketAnswer}
    (ordered : Ordered record) (ran : sockets.run record answers = some final) : Ordered final :=
  @Machine.run_invariant _ _ sockets Ordered (fun holds stepped => ordered_step holds stepped)
    _ _ _ ordered ran

/-- `poll_sockets` is about to give the socket up, or has. -/
def isLeaving (point : PollPoint) : Bool :=
  match point with
  | .storeSocketClosed => true
  | .storeWriteClosed => true
  | .removalWakeRecv => true
  | .removalWakeSend => true
  | .removed => true
  | _ => false

/-- The steps to the end of a turn with a socket that has nothing to say. -/
def stepsLeft : PollPoint → Nat
  | .recv => 15
  | .recvTest _ => 14
  | .recvWake => 13
  | .send => 13
  | .sendTest _ => 12
  | .sendWake => 11
  | .swapReadClosed => 10
  | .readClosedWake => 9
  | .loadWriteShutdown => 8
  | .shutdownTest => 7
  | .swapWriteClosed => 6
  | .writeClosedWake => 5
  | .loadSocketDropped => 4
  | .flush => 4
  | .flushTest => 3
  | .drainedTest => 2
  | .testActive => 1
  | _ => 0

/-- The end of a turn. -/
theorem outside_of_stepsLeft {point : PollPoint} (live : isLeaving point = false)
    (none : stepsLeft point = 0) : point = .outside := by
  cases point with
  | outside => rfl
  | storeSocketClosed | storeWriteClosed | removalWakeRecv | removalWakeSend | removed => cases live
  | _ => exact absurd none (Nat.succ_ne_zero _)

/-- An active socket with both sides open, which takes bytes where it says that it can. -/
structure Willing (answer : SocketAnswer) : Prop where
  isActive : answer.isActive = true
  mayRecv : answer.mayRecv = true
  maySend : answer.maySend = true
  sends : answer.canSend = true → answer.sendRoom.isSome = true

/-- A socket that is active, and has nothing to say. -/
def quietSocket : SocketAnswer := ⟨false, false, true, true, false, true, none, none⟩

/-- A socket that is active, and takes this many bytes. -/
def willingSocket (room : Nat) : SocketAnswer :=
  ⟨false, true, true, true, true, true, none, some room⟩

theorem willing_quietSocket : Willing quietSocket := ⟨rfl, rfl, rfl, nofun⟩

theorem willing_willingSocket (room : Nat) : Willing (willingSocket room) :=
  ⟨rfl, rfl, rfl, fun _ => rfl⟩

/-- The buffer is drained, and what a turn has passed of the closing, it has done. -/
structure Turned (state : TcpConnection) : Prop where
  drained : state.handle.sendBuffer.contents = []
  shut : stepsLeft state.poller ≤ 6 → state.handle.writeShutdown = true → state.closeIssued = true
  dropped : stepsLeft state.poller ≤ 1 → state.handle.socketDropped = true →
    state.closeIssued = true

section Turns

variable {state : TcpConnection}

/-- A step with a socket that has nothing to say leads nearer to the end of the turn. -/
theorem quiet_step (live : isLeaving state.poller = false) (inside : state.poller ≠ .outside) :
    ∃ next, state.pollStep quietSocket = some next ∧ isLeaving next.poller = false
      ∧ stepsLeft next.poller < stepsLeft state.poller := by
  cases point : state.poller with
  | outside => exact absurd point inside
  | storeSocketClosed | storeWriteClosed | removalWakeRecv | removalWakeSend | removed =>
      rw [point] at live
      cases live
  | recvTest notify | sendTest notify =>
      refine ⟨_, by simp only [pollStep, point]; rfl, ?_⟩
      cases notify <;> exact ⟨rfl, Nat.le_of_ble_eq_true rfl⟩
  | loadWriteShutdown | loadSocketDropped =>
      refine ⟨_, by simp only [pollStep, point]; rfl, ?_⟩
      dsimp only
      split <;> exact ⟨rfl, Nat.le_of_ble_eq_true rfl⟩
  | _ => exact ⟨_, by simp only [pollStep, point]; rfl, rfl, Nat.le_of_ble_eq_true rfl⟩

/-- Such a step keeps what the turn has done, and closes where it is to. -/
theorem Turned.quiet {next : TcpConnection} (turned : Turned state)
    (live : isLeaving state.poller = false) (taken : state.pollStep quietSocket = some next) :
    Turned next := by
  have empty : state.handle.sendBuffer.isEmpty = true :=
    (LockFreeRingBuffer.isEmpty_iff _).mpr turned.drained
  unfold pollStep at taken
  cases point : state.poller with
  | storeSocketClosed | storeWriteClosed | removalWakeRecv | removalWakeSend | removed =>
      rw [point] at live
      cases live
  | outside | recv | recvWake | sendWake | readClosedWake | send | swapReadClosed =>
      rw [point] at taken
      cases taken
      exact ⟨turned.drained, fun low => absurd low (Nat.not_le_of_gt (Nat.le_of_ble_eq_true rfl)),
        fun low => absurd low (Nat.not_le_of_gt (Nat.le_of_ble_eq_true rfl))⟩
  | recvTest notify | sendTest notify =>
      rw [point] at taken
      cases taken
      cases notify
      all_goals
        exact ⟨turned.drained,
          fun low => absurd low (Nat.not_le_of_gt (Nat.le_of_ble_eq_true rfl)),
          fun low => absurd low (Nat.not_le_of_gt (Nat.le_of_ble_eq_true rfl))⟩
  | loadWriteShutdown =>
      rw [point] at taken
      cases taken
      refine ⟨turned.drained, fun low shut => ?_, fun low => ?_⟩
      · dsimp only at low shut
        rw [if_pos shut] at low
        exact absurd low (Nat.not_le_of_gt (Nat.le_of_ble_eq_true rfl))
      · dsimp only at low
        split at low <;> exact absurd low (Nat.not_le_of_gt (Nat.le_of_ble_eq_true rfl))
  | shutdownTest =>
      rw [point] at taken
      cases taken
      refine ⟨turned.drained, fun _ _ => ?_,
        fun low => absurd low (Nat.not_le_of_gt (Nat.le_of_ble_eq_true rfl))⟩
      dsimp only
      rw [empty]
      exact Bool.or_true _
  | swapWriteClosed | writeClosedWake | flush | flushTest =>
      have shut := turned.shut
      rw [point] at taken shut
      cases taken
      exact ⟨turned.drained, fun _ => shut (Nat.le_of_ble_eq_true rfl),
        fun low => absurd low (Nat.not_le_of_gt (Nat.le_of_ble_eq_true rfl))⟩
  | loadSocketDropped =>
      have shut := turned.shut
      rw [point] at taken shut
      cases taken
      refine ⟨turned.drained, fun _ => shut (Nat.le_of_ble_eq_true rfl), fun low dropped => ?_⟩
      dsimp only at low dropped
      rw [if_pos dropped] at low
      exact absurd low (Nat.not_le_of_gt (Nat.le_of_ble_eq_true rfl))
  | drainedTest =>
      rw [point] at taken
      cases taken
      have closed : (state.closeIssued || state.handle.sendBuffer.isEmpty) = true := by
        rw [empty]
        exact Bool.or_true _
      exact ⟨turned.drained, fun _ _ => closed, fun _ _ => closed⟩
  | testActive =>
      have shut := turned.shut
      have dropped := turned.dropped
      rw [point] at taken shut dropped
      cases taken
      exact ⟨turned.drained, fun _ => shut (Nat.le_of_ble_eq_true rfl),
        fun _ => dropped (Nat.le_of_ble_eq_true rfl)⟩

end Turns

/-- **A turn comes to its end**, with whatever a quiet socket keeps. -/
theorem reaches_outside {property : TcpConnection → Prop}
    (keeps : ∀ {state next : TcpConnection}, property state → isLeaving state.poller = false →
      state.pollStep quietSocket = some next → property next)
    (record : SendRecord) (holds : property record.connection)
    (live : isLeaving record.connection.poller = false) :
    ∃ answers final, (∀ answer ∈ answers, Willing answer) ∧ sockets.run record answers = some final
      ∧ property final.connection ∧ final.connection.poller = .outside := by
  obtain ⟨answers, final, willing, ran, ⟨kept, still⟩, done⟩ := @Machine.run_to_end_by _ _ sockets
    Willing
    (fun record => property record.connection ∧ isLeaving record.connection.poller = false)
    (fun record => stepsLeft record.connection.poller)
    (fun record before some => by
      have inside : record.connection.poller ≠ .outside := by
        intro outside
        rw [outside] at some
        exact absurd some (Nat.lt_irrefl 0)
      obtain ⟨next, taken, still, less⟩ := quiet_step before.2 inside
      exact ⟨quietSocket, _, willing_quietSocket, sockets_step taken,
        ⟨keeps before.1 before.2 taken, still⟩, less⟩)
    record ⟨holds, live⟩
  exact ⟨answers, final, willing, ran, kept, outside_of_stepsLeft still done⟩

/-- Nothing of the closing has been passed while the sending goes on. -/
theorem turned_of_sendTest {state : TcpConnection} {notify : Bool}
    (here : state.poller = .sendTest notify) (drained : state.handle.sendBuffer.contents = []) :
    Turned state ∧ isLeaving state.poller = false := by
  rw [here]
  refine ⟨⟨drained, fun low => ?_, fun low => ?_⟩, rfl⟩
  all_goals
    rw [here] at low
    exact absurd low (Nat.not_le_of_gt (Nat.le_of_ble_eq_true rfl))

/-- Two steps of `poll_sockets`. -/
theorem sockets_two {record : SendRecord} {answer answer' : SocketAnswer}
    {middle last : TcpConnection} (first : record.connection.pollStep answer = some middle)
    (second : middle.pollStep answer' = some last) :
    ∃ final, sockets.run record [answer, answer'] = some final ∧ final.connection = last :=
  ⟨_, (Machine.run_cons_eq_some _).mpr ⟨_, sockets_step first,
    (Machine.run_cons_eq_some _).mpr ⟨_, sockets_step second, rfl⟩⟩, rfl⟩

/-- **The buffer is drained** at the start of a turn, by a socket that takes all of it. -/
theorem reaches_turned (record : SendRecord) (outside : record.connection.poller = .outside) :
    ∃ answers final, (∀ answer ∈ answers, Willing answer) ∧ sockets.run record answers = some final
      ∧ Turned final.connection ∧ isLeaving final.connection.poller = false := by
  have quiet : ∀ answer ∈ [quietSocket, quietSocket], Willing answer := by
    simp [willing_quietSocket]
  have first : record.connection.pollStep quietSocket
      = some { record.connection with poller := .recvTest false } := by
    simp only [pollStep, outside]
  have second : ({ record.connection with poller := .recvTest false } : TcpConnection).pollStep
      quietSocket = some { record.connection with poller := .sendTest false } := by
    simp only [pollStep, quietSocket, Bool.false_and, Bool.false_eq_true, if_false]
  obtain ⟨testing, ran, stands⟩ := sockets_two first second
  have here : testing.connection.poller = .sendTest false := by rw [stands]
  by_cases empty : testing.connection.handle.sendBuffer.isEmpty = true
  · have drained := (LockFreeRingBuffer.isEmpty_iff _).mp empty
    obtain ⟨turned, live⟩ := turned_of_sendTest here drained
    exact ⟨_, testing, quiet, ran, turned, live⟩
  · set room := testing.connection.handle.sendBuffer.contents.length with size
    have third : testing.connection.pollStep (willingSocket room)
        = some { testing.connection with poller := .send } := by
      simp only [pollStep, here, willingSocket, empty, Bool.not_false, Bool.and_self, if_true]
    have fourth : ({ testing.connection with poller := .send } : TcpConnection).pollStep
        (willingSocket room) = some { testing.connection with
          handle := { testing.connection.handle with
            sendBuffer := (testing.connection.handle.sendBuffer.dequeueSlice room).2 }
          poller := .sendTest true } := rfl
    have drained : (testing.connection.handle.sendBuffer.dequeueSlice room).2.contents = [] := by
      rw [(LockFreeRingBuffer.dequeueSlice_spec _ room).2.1, size, List.drop_length]
    obtain ⟨sent, ran', behind⟩ := sockets_two third fourth
    obtain ⟨turned, live⟩ := @turned_of_sendTest sent.connection true (by rw [behind])
      (by rw [behind]; exact drained)
    have takes : ∀ answer ∈ [willingSocket room, willingSocket room], Willing answer := by
      simp [willing_willingSocket]
    exact ⟨_, sent, List.forall_mem_append.mpr ⟨quiet, takes⟩,
      (Machine.run_append _ ran).trans ran', turned, live⟩

/-- **All that was accepted can be passed on.** In every state of every run in which the socket is
not given up, a socket that is active and takes bytes lets `poll_sockets` pass on all that was
accepted, and close if the stream is shut down or dropped. -/
theorem sends_all {actions : List Action} {record : SendRecord}
    (reached : machine.run new actions = some record)
    (live : isLeaving record.connection.poller = false) :
    ∃ answers final, (∀ answer ∈ answers, Willing answer)
      ∧ sockets.run record answers = some final ∧ final.accepted = record.accepted
      ∧ final.passed = record.accepted
      ∧ (record.connection.handle.writeShutdown = true
          ∨ record.connection.handle.socketDropped = true →
        final.connection.closeIssued = true) := by
  obtain ⟨before, atStart, willing, ran, -, outside⟩ :=
    reaches_outside (fun _ _ _ => trivial) record trivial live
  obtain ⟨sending, sent, willing', ran', turned, still⟩ := reaches_turned atStart outside
  obtain ⟨closing, final, willing'', ran'', done, ends⟩ :=
    reaches_outside (fun holds live taken => Turned.quiet holds live taken) sent turned still
  have whole : sockets.run record (before ++ (sending ++ closing)) = some final := by
    rw [Machine.run_append _ ran, Machine.run_append _ ran', ran'']
  have same := sockets_same whole
  have ordered := sockets_ordered (ordered_run reached) whole
  refine ⟨_, final, List.forall_mem_append.mpr ⟨willing, List.forall_mem_append.mpr
    ⟨willing', willing''⟩⟩, whole, same.accepted, ?_, fun closes => ?_⟩
  · rw [← same.accepted, ordered.whole, done.drained, List.append_nil]
  · have low : ∀ {bound}, stepsLeft final.connection.poller ≤ bound := by
      rw [ends]
      exact Nat.zero_le _
    rw [← same.writeShutdown, ← same.socketDropped] at closes
    exact closes.elim (done.shut low) (done.dropped low)

theorem sends_all_sample : ∃ record answers final,
    machine.run new (sampleSending.take 8) = some record
      ∧ sockets.run record answers = some final ∧ final.passed = [1, 2, 3]
      ∧ final.connection.closeIssued = true := by
  have ran : (machine.run new (sampleSending.take 8)).map (fun record =>
      (record.accepted, isLeaving record.connection.poller,
        record.connection.handle.writeShutdown)) = some ([1, 2, 3], false, true) := by
    decide +kernel
  obtain ⟨record, reached, same⟩ := Option.map_eq_some_iff.mp ran
  obtain ⟨accepted, rest⟩ := Prod.mk.inj same
  obtain ⟨live, shut⟩ := Prod.mk.inj rest
  obtain ⟨answers, final, -, whole, -, passed, closes⟩ := sends_all reached live
  exact ⟨record, answers, final, reached, whole, passed.trans accepted, closes (.inl shut)⟩

end SendRecord

end RsTun.Netstack
