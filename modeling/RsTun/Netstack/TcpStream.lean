/-
**A `TcpStream` and `poll_sockets` on the same handle, one atomic step at a time.**

The two sides share a `TcpStreamHandle`. A test or an operation of a ring buffer, the registration
or the wake of a waker, and a load, a store or a swap of a flag are one step each, and the steps of
the sides come in any order. `poll_read` and `poll_write` may overlap; a `TcpStream` is dropped only
when neither is running. The socket of the stack is asked in single steps of `poll_sockets`, and
what it answers comes with the step; so `poll_sockets` may start a turn at any time.

* `pollStep_cases` — what a step of `poll_sockets` can do to the reading side.
* `Intact` — what holds in every state, as long as no step closes over a full buffer.
* `poll_read_eof_complete` — then **end of file is read only behind all the data.**
-/

import RsTun.Library.Machine
import RsTun.Netstack.RingBuffer

namespace RsTun.Netstack

open Library Library.Bytes

/-- `DEFAULT_TCP_SEND_BUFFER_SIZE`. -/
def defaultTcpSendBufferSize : Nat := 256 * 1024

/-- `DEFAULT_TCP_RECV_BUFFER_SIZE`. -/
def defaultTcpRecvBufferSize : Nat := 256 * 1024

/-- `TcpStreamHandle`. Of a waker it matters whether one is registered. -/
structure TcpStreamHandle where
  recvBuffer : LockFreeRingBuffer
  recvWaker : Bool
  sendBuffer : LockFreeRingBuffer
  sendWaker : Bool
  socketDropped : Bool
  socketClosed : Bool
  readClosed : Bool
  writeClosed : Bool
  writeShutdown : Bool

/-- `TcpStreamHandle::new`. -/
def TcpStreamHandle.new : TcpStreamHandle where
  recvBuffer := .new defaultTcpRecvBufferSize (by decide)
  recvWaker := false
  sendBuffer := .new defaultTcpSendBufferSize (by decide)
  sendWaker := false
  socketDropped := false
  socketClosed := false
  readClosed := false
  writeClosed := false
  writeShutdown := false

/-- Where `poll_read` stands; `room` is the length of the unfilled part of its buffer. -/
inductive ReadPoint where
  | idle
  | firstTest (room : Nat)
  | register (room : Nat)
  | secondTest (room : Nat)
  | loadSocketClosed (room : Nat)
  | loadReadClosed (room : Nat)
  | dequeue (room : Nat)
  deriving DecidableEq

/-- What `poll_read` returns: with `room` bytes to fill, those it filled. -/
inductive ReadResult where
  | pending
  | ready (room : Nat) (bytes : Bytes)
  deriving DecidableEq

/-- End of file: no byte, though there was room for one. -/
def ReadResult.isEof : ReadResult → Bool
  | .pending => false
  | .ready room bytes => decide (0 < room) && bytes.isEmpty

theorem ReadResult.room_of_isEof {room : Nat} {bytes : Bytes}
    (eof : (ReadResult.ready room bytes).isEof = true) : 0 < room := by
  rw [isEof, Bool.and_eq_true, decide_eq_true_eq] at eof
  exact eof.1

/-- Where `poll_write` or `poll_shutdown` stands. -/
inductive WritePoint where
  | idle
  | loadWriteClosed (data : Bytes)
  | loadWriteShutdown (data : Bytes)
  | firstTest (data : Bytes)
  | register (data : Bytes)
  | secondTest (data : Bytes)
  | enqueue (data : Bytes)
  /-- `poll_shutdown`. -/
  | storeWriteShutdown
  | wakeSend
  deriving DecidableEq

/-- What `poll_write` returns. -/
inductive WriteResult where
  | brokenPipe
  | pending
  | ready (written : Nat)
  deriving DecidableEq

/-- Where the `TcpStream` is dropped. -/
inductive DropPoint where
  | held
  | storeSocketDropped
  | storeReadClosed
  | storeWriteClosed
  | wakeRecv
  | wakeSend
  | gone
  deriving DecidableEq

/-- Where `poll_sockets` stands with this socket. -/
inductive PollPoint where
  | outside
  /-- `while socket.can_recv() && !buf.is_full()`. -/
  | recvTest (notifyRead : Bool)
  | recv
  | recvWake
  /-- `while socket.can_send() && !buf.is_empty()`. -/
  | sendTest (notifyWrite : Bool)
  | send
  | sendWake
  | swapReadClosed
  | readClosedWake
  | loadWriteShutdown
  /-- `buf.is_empty() && socket.may_send()`. -/
  | shutdownTest
  | swapWriteClosed
  | writeClosedWake
  /-- The closure of `retain`. -/
  | loadSocketDropped
  | flushTest
  | flush
  | drainedTest
  | testActive
  | storeSocketClosed
  | storeWriteClosed
  | removalWakeRecv
  | removalWakeSend
  | removed
  deriving DecidableEq

/-- The socket is out of `sockets`, and `socket_closed` is set. -/
def PollPoint.isRemoving : PollPoint → Bool
  | storeWriteClosed => true
  | removalWakeRecv => true
  | removalWakeSend => true
  | removed => true
  | _ => false

/-- What the socket of the stack answers in a step: its tests, the bytes that `recv` passes on, or
none if it fails, and the room that `send` passes on, or none if it fails. -/
structure SocketAnswer where
  canRecv : Bool
  canSend : Bool
  mayRecv : Bool
  maySend : Bool
  pastHandshake : Bool
  isActive : Bool
  received : Option Bytes
  sendRoom : Option Nat
  deriving DecidableEq

/-- The peer has closed its side, and no data are left in the socket. -/
def SocketAnswer.endOfData (answer : SocketAnswer) : Bool :=
  answer.pastHandshake && !answer.mayRecv && !answer.canRecv

/-- The handle and the two sides. The last three fields are a record only: what `poll_sockets`
enqueued, what `poll_read` returned, and what had been enqueued when `poll_sockets` first set
`read_closed` or `socket_closed`. -/
structure TcpConnection where
  handle : TcpStreamHandle
  reader : ReadPoint
  writer : WritePoint
  dropper : DropPoint
  poller : PollPoint
  lastRead : Option ReadResult
  lastWrite : Option WriteResult
  closeIssued : Bool
  enqueued : Bytes
  returned : Bytes
  beforeClosing : Option Bytes

namespace TcpConnection

/-- A new connection, with the handle that `poll_packets` makes. -/
def new : TcpConnection where
  handle := .new
  reader := .idle
  writer := .idle
  dropper := .held
  poller := .outside
  lastRead := none
  lastWrite := none
  closeIssued := false
  enqueued := []
  returned := []
  beforeClosing := none

/-! ### The stream -/

/-- A step of `poll_read`. -/
def readStep (state : TcpConnection) : Option TcpConnection :=
  let handle := state.handle
  match state.reader with
  | .idle => none
  | .firstTest room => some { state with
      reader := if handle.recvBuffer.isEmpty then .register room else .dequeue room }
  | .register room => some { state with
      handle := { handle with recvWaker := true }
      reader := .secondTest room }
  | .secondTest room => some { state with
      reader := if handle.recvBuffer.isEmpty then .loadSocketClosed room else .dequeue room }
  | .loadSocketClosed room =>
      if handle.socketClosed then
        some { state with reader := .idle, lastRead := some (.ready room []) }
      else some { state with reader := .loadReadClosed room }
  | .loadReadClosed room => some { state with
      reader := .idle
      lastRead := some (if handle.readClosed then .ready room [] else .pending) }
  | .dequeue room =>
      let (bytes, recvBuffer) := handle.recvBuffer.dequeueSlice room
      some { state with
        handle := { handle with recvBuffer := recvBuffer }
        reader := .idle
        lastRead := some (.ready room bytes)
        returned := state.returned ++ bytes }

/-- A step of `poll_write` or `poll_shutdown`. -/
def writeStep (state : TcpConnection) : Option TcpConnection :=
  let handle := state.handle
  match state.writer with
  | .idle => none
  | .loadWriteClosed data =>
      if handle.writeClosed then
        some { state with writer := .idle, lastWrite := some .brokenPipe }
      else some { state with writer := .loadWriteShutdown data }
  | .loadWriteShutdown data =>
      if handle.writeShutdown then
        some { state with writer := .idle, lastWrite := some .brokenPipe }
      else some { state with writer := .firstTest data }
  | .firstTest data => some { state with
      writer := if handle.sendBuffer.isFull then .register data else .enqueue data }
  | .register data => some { state with
      handle := { handle with sendWaker := true }
      writer := .secondTest data }
  | .secondTest data =>
      if handle.sendBuffer.isFull then
        some { state with writer := .idle, lastWrite := some .pending }
      else some { state with writer := .enqueue data }
  | .enqueue data =>
      let (written, sendBuffer) := handle.sendBuffer.enqueueSlice data
      some { state with
        handle := { handle with sendBuffer := sendBuffer }
        writer := .idle
        lastWrite := some (.ready written) }
  | .storeWriteShutdown => some { state with
      handle := { handle with writeShutdown := true }
      writer := .wakeSend }
  | .wakeSend => some { state with handle := { handle with sendWaker := false }, writer := .idle }

/-- A step of `drop`. -/
def dropStep (state : TcpConnection) : Option TcpConnection :=
  let handle := state.handle
  match state.dropper with
  | .held => none
  | .storeSocketDropped => some { state with
      handle := { handle with socketDropped := true }
      dropper := .storeReadClosed }
  | .storeReadClosed => some { state with
      handle := { handle with readClosed := true }
      dropper := .storeWriteClosed }
  | .storeWriteClosed => some { state with
      handle := { handle with writeClosed := true }
      dropper := .wakeRecv }
  | .wakeRecv => some { state with
      handle := { handle with recvWaker := false }
      dropper := .wakeSend }
  | .wakeSend => some { state with
      handle := { handle with sendWaker := false }
      dropper := .gone }
  | .gone => none

/-! ### The stack -/

/-- `poll_sockets` closes: what has been enqueued is recorded the first time. -/
def recordClosing (state : TcpConnection) : Option Bytes :=
  state.beforeClosing.or (some state.enqueued)

/-- A step of `poll_sockets`. -/
def pollStep (answer : SocketAnswer) (state : TcpConnection) : Option TcpConnection :=
  let handle := state.handle
  match state.poller with
  | .outside => some { state with poller := .recvTest false }
  | .recvTest notifyRead => some { state with
      poller :=
        if answer.canRecv && !handle.recvBuffer.isFull then .recv
        else if notifyRead then .recvWake else .sendTest false }
  | .recv =>
      match answer.received with
      | none => some { state with poller := .recvTest true }
      | some buffer =>
          let (accepted, recvBuffer) := handle.recvBuffer.enqueueSlice buffer
          some { state with
            handle := { handle with recvBuffer := recvBuffer }
            poller := .recvTest true
            enqueued := state.enqueued ++ buffer.take accepted }
  | .recvWake => some { state with
      handle := { handle with recvWaker := false }
      poller := .sendTest false }
  | .sendTest notifyWrite => some { state with
      poller :=
        if answer.canSend && !handle.sendBuffer.isEmpty then .send
        else if notifyWrite then .sendWake else .swapReadClosed }
  | .send =>
      match answer.sendRoom with
      | none => some { state with poller := .sendTest true }
      | some room => some { state with
          handle := { handle with sendBuffer := (handle.sendBuffer.dequeueSlice room).2 }
          poller := .sendTest true }
  | .sendWake => some { state with
      handle := { handle with sendWaker := false }
      poller := .swapReadClosed }
  | .swapReadClosed =>
      if answer.endOfData then
        some { state with
          handle := { handle with readClosed := true }
          poller := if handle.readClosed then .loadWriteShutdown else .readClosedWake
          beforeClosing := state.recordClosing }
      else some { state with poller := .loadWriteShutdown }
  | .readClosedWake => some { state with
      handle := { handle with recvWaker := false }
      poller := .loadWriteShutdown }
  | .loadWriteShutdown => some { state with
      poller := if handle.writeShutdown then .shutdownTest else .swapWriteClosed }
  | .shutdownTest => some { state with
      poller := .swapWriteClosed
      closeIssued := state.closeIssued || handle.sendBuffer.isEmpty && answer.maySend }
  | .swapWriteClosed =>
      if answer.pastHandshake && !answer.maySend then
        some { state with
          handle := { handle with writeClosed := true }
          poller := if handle.writeClosed then .loadSocketDropped else .writeClosedWake }
      else some { state with poller := .loadSocketDropped }
  | .writeClosedWake => some { state with
      handle := { handle with sendWaker := false }
      poller := .loadSocketDropped }
  | .loadSocketDropped => some { state with
      poller := if handle.socketDropped then .flushTest else .testActive }
  | .flushTest => some { state with
      poller := if answer.canSend && !handle.sendBuffer.isEmpty then .flush else .drainedTest }
  | .flush =>
      match answer.sendRoom with
      | none => some { state with poller := .flushTest }
      | some room => some { state with
          handle := { handle with sendBuffer := (handle.sendBuffer.dequeueSlice room).2 }
          poller := .flushTest }
  | .drainedTest => some { state with
      poller := .testActive
      closeIssued := state.closeIssued || handle.sendBuffer.isEmpty }
  | .testActive => some { state with
      poller := if answer.isActive then .outside else .storeSocketClosed }
  | .storeSocketClosed => some { state with
      handle := { handle with socketClosed := true }
      poller := .storeWriteClosed
      beforeClosing := state.recordClosing }
  | .storeWriteClosed => some { state with
      handle := { handle with writeClosed := true }
      poller := .removalWakeRecv }
  | .removalWakeRecv => some { state with
      handle := { handle with recvWaker := false }
      poller := .removalWakeSend }
  | .removalWakeSend => some { state with
      handle := { handle with sendWaker := false }
      poller := .removed }
  | .removed => none

/-! ### Both sides -/

/-- What can happen next: a call, or the next step of one side. -/
inductive Action where
  | pollRead (room : Nat)
  | read
  | pollWrite (data : Bytes)
  | pollShutdown
  | write
  | drop
  | dropping
  | poll (answer : SocketAnswer)
  deriving DecidableEq

/-- One step of the connection. -/
def step (state : TcpConnection) : Action → Option TcpConnection
  | .pollRead room =>
      if state.dropper = .held ∧ state.reader = .idle then
        some { state with reader := .firstTest room, lastRead := none }
      else none
  | .read => state.readStep
  | .pollWrite data =>
      if state.dropper = .held ∧ state.writer = .idle then
        some { state with writer := .loadWriteClosed data, lastWrite := none }
      else none
  | .pollShutdown =>
      if state.dropper = .held ∧ state.writer = .idle then
        some { state with writer := .storeWriteShutdown, lastWrite := none }
      else none
  | .write => state.writeStep
  | .drop =>
      if state.dropper = .held ∧ state.reader = .idle ∧ state.writer = .idle then
        some { state with dropper := .storeSocketDropped }
      else none
  | .dropping => state.dropStep
  | .poll answer => state.pollStep answer

/-- The two sides as a machine. -/
def machine : Machine TcpConnection Action where
  step := step

/-! ### What the reading side sees -/

/-- Nothing that `poll_read` or the record depends on is touched. -/
structure SameReading (state next : TcpConnection) : Prop where
  recvBuffer : next.handle.recvBuffer = state.handle.recvBuffer
  socketClosed : next.handle.socketClosed = state.handle.socketClosed
  readClosed : next.handle.readClosed = state.handle.readClosed
  reader : next.reader = state.reader
  dropper : next.dropper = state.dropper
  lastRead : next.lastRead = state.lastRead
  enqueued : next.enqueued = state.enqueued
  returned : next.returned = state.returned
  beforeClosing : next.beforeClosing = state.beforeClosing

/-- **What a step of `poll_sockets` can do to the reading side**: enqueue bytes, set `read_closed`,
set `socket_closed`, or nothing. -/
theorem pollStep_cases {answer : SocketAnswer} {state next : TcpConnection}
    (stepped : state.pollStep answer = some next) :
    (SameReading state next ∧ (state.poller.isRemoving = true → next.poller.isRemoving = true))
      ∨ (∃ buffer, state.poller = .recv ∧ next = { state with
          handle := { state.handle with
            recvBuffer := (state.handle.recvBuffer.enqueueSlice buffer).2 }
          poller := .recvTest true
          enqueued := state.enqueued
            ++ buffer.take (state.handle.recvBuffer.enqueueSlice buffer).1 })
      ∨ (state.poller = .swapReadClosed ∧ answer.endOfData = true ∧ next = { state with
          handle := { state.handle with readClosed := true }
          poller := if state.handle.readClosed then .loadWriteShutdown else .readClosedWake
          beforeClosing := state.recordClosing })
      ∨ (state.poller = .storeSocketClosed ∧ next = { state with
          handle := { state.handle with socketClosed := true }
          poller := .storeWriteClosed
          beforeClosing := state.recordClosing }) := by
  unfold pollStep at stepped
  cases point : state.poller with
  | recv =>
      rw [point] at stepped
      cases passed : answer.received with
      | none =>
          rw [passed] at stepped
          cases stepped
          exact .inl ⟨by constructor <;> rfl, nofun⟩
      | some buffer =>
          rw [passed] at stepped
          cases stepped
          exact .inr (.inl ⟨buffer, rfl, rfl⟩)
  | swapReadClosed =>
      rw [point] at stepped
      dsimp only at stepped
      by_cases ended : answer.endOfData = true
      · rw [if_pos ended] at stepped
        cases stepped
        exact .inr (.inr (.inl ⟨rfl, ended, rfl⟩))
      · rw [if_neg ended] at stepped
        cases stepped
        exact .inl ⟨by constructor <;> rfl, nofun⟩
  | storeSocketClosed =>
      rw [point] at stepped
      cases stepped
      exact .inr (.inr (.inr ⟨rfl, rfl⟩))
  | send | flush | swapWriteClosed =>
      rw [point] at stepped
      dsimp only at stepped
      split at stepped <;> cases stepped <;> exact .inl ⟨by constructor <;> rfl, nofun⟩
  | storeWriteClosed | removalWakeRecv | removalWakeSend =>
      rw [point] at stepped
      cases stepped
      exact .inl ⟨by constructor <;> rfl, fun _ => rfl⟩
  | removed =>
      rw [point] at stepped
      cases stepped
  | _ =>
      rw [point] at stepped
      cases stepped
      exact .inl ⟨by constructor <;> rfl, nofun⟩

/-- `poll_write` and `poll_shutdown` do not touch the reading side. -/
theorem writeStep_same {state next : TcpConnection} (stepped : state.writeStep = some next) :
    SameReading state next ∧ next.poller = state.poller := by
  unfold writeStep at stepped
  cases point : state.writer with
  | idle =>
      rw [point] at stepped
      cases stepped
  | loadWriteClosed | loadWriteShutdown | secondTest =>
      rw [point] at stepped
      dsimp only at stepped
      split at stepped <;> cases stepped <;> exact ⟨by constructor <;> rfl, rfl⟩
  | _ =>
      rw [point] at stepped
      cases stepped
      exact ⟨by constructor <;> rfl, rfl⟩

/-- Dropping touches `read_closed`, but then no call is running. -/
theorem dropStep_same {state next : TcpConnection} (stepped : state.dropStep = some next) :
    state.dropper ≠ .held ∧ next.dropper ≠ .held
      ∧ SameReading state { next with
          handle := { next.handle with readClosed := state.handle.readClosed }
          dropper := state.dropper }
      ∧ next.poller = state.poller := by
  unfold dropStep at stepped
  cases point : state.dropper with
  | held | gone =>
      rw [point] at stepped
      cases stepped
  | _ =>
      rw [point] at stepped
      cases stepped
      exact ⟨nofun, nofun, by constructor <;> first | rfl | exact point.symm, rfl⟩

/-! ### Closing over data -/

/-- `poll_sockets` sets a flag that a `poll_read` with room for a byte, having found the buffer
empty twice, is still to load. -/
def closesBefore (answer : SocketAnswer) : PollPoint → ReadPoint → Bool
  | .swapReadClosed, .loadSocketClosed room => answer.endOfData && decide (0 < room)
  | .swapReadClosed, .loadReadClosed room => answer.endOfData && decide (0 < room)
  | .storeSocketClosed, .loadSocketClosed room => decide (0 < room)
  | _, _ => false

/-- The same, when neither flag is set yet. -/
def ClosesInWindow (state : TcpConnection) (answer : SocketAnswer) : Prop :=
  state.handle.socketClosed = false ∧ state.handle.readClosed = false ∧
    closesBefore answer state.poller state.reader = true

instance closesInWindowDecidable (state : TcpConnection) (answer : SocketAnswer) :
    Decidable (state.ClosesInWindow answer) := by
  unfold ClosesInWindow
  infer_instance

/-- A step that closes in that window finds the buffer empty. -/
def ClosesDrained (state : TcpConnection) : Action → Prop
  | .poll answer => state.ClosesInWindow answer → state.handle.recvBuffer.isEmpty = true
  | _ => True

instance closesDrainedDecidable (state : TcpConnection) (action : Action) :
    Decidable (state.ClosesDrained action) := by
  unfold ClosesDrained
  split <;> infer_instance

/-- What had been enqueued before the closing has been returned. -/
def Drained (state : TcpConnection) : Prop :=
  ∀ bytes, state.beforeClosing = some bytes → bytes <+: state.returned

/-- End of file is read only behind a closing, and with all that was enqueued before it. -/
def NoTruncation (state : TcpConnection) : Prop :=
  ∀ result, state.lastRead = some result → result.isEof = true →
    ∃ bytes, state.beforeClosing = some bytes ∧ bytes <+: state.returned

/-- What holds of a connection, if no step closes over data in the window. -/
structure Intact (state : TcpConnection) : Prop where
  whole : state.returned ++ state.handle.recvBuffer.contents = state.enqueued
  recorded : ∀ bytes, state.beforeClosing = some bytes → bytes <+: state.enqueued
  flagged : state.dropper = .held →
    (state.handle.socketClosed || state.handle.readClosed) = state.beforeClosing.isSome
  removing : state.handle.socketClosed = true → state.poller.isRemoving = true
  owned : state.dropper ≠ .held → state.reader = .idle
  atSocketClosed : ∀ room, state.reader = .loadSocketClosed room → 0 < room → state.Drained
  atReadClosed : ∀ room, state.reader = .loadReadClosed room → 0 < room →
    state.handle.readClosed = true → state.Drained
  atDequeue : ∀ room, state.reader = .dequeue room → state.handle.recvBuffer.contents ≠ []
  complete : state.NoTruncation

theorem Intact.new : Intact new where
  whole := rfl
  recorded := nofun
  flagged := fun _ => rfl
  removing := nofun
  owned := fun dropped => absurd rfl dropped
  atSocketClosed := nofun
  atReadClosed := nofun
  atDequeue := nofun
  complete := nofun

/-- What leaves the reading side alone, and does not put the socket back, keeps it intact. -/
theorem Intact.same {state next : TcpConnection} (intact : Intact state)
    (same : SameReading state next)
    (removing : state.poller.isRemoving = true → next.poller.isRemoving = true) : Intact next where
  whole := by
    rw [same.returned, same.recvBuffer, same.enqueued]
    exact intact.whole
  recorded := by
    rw [same.beforeClosing, same.enqueued]
    exact intact.recorded
  flagged := by
    rw [same.dropper, same.socketClosed, same.readClosed, same.beforeClosing]
    exact intact.flagged
  removing := by
    rw [same.socketClosed]
    exact fun closed => removing (intact.removing closed)
  owned := by
    rw [same.dropper, same.reader]
    exact intact.owned
  atSocketClosed := by
    unfold Drained
    rw [same.reader, same.beforeClosing, same.returned]
    exact intact.atSocketClosed
  atReadClosed := by
    unfold Drained
    rw [same.reader, same.readClosed, same.beforeClosing, same.returned]
    exact intact.atReadClosed
  atDequeue := by
    rw [same.reader, same.recvBuffer]
    exact intact.atDequeue
  complete := by
    unfold NoTruncation
    rw [same.lastRead, same.beforeClosing, same.returned]
    exact intact.complete

/-- With an empty buffer everything enqueued has been returned. -/
theorem Intact.drained {state : TcpConnection} (intact : Intact state)
    (empty : state.handle.recvBuffer.contents = []) : state.enqueued = state.returned := by
  have whole := intact.whole
  rw [empty, List.append_nil] at whole
  exact whole.symm

/-- While a flag is set and the stream is held, the closing is on record. -/
theorem Intact.closing {state : TcpConnection} (intact : Intact state)
    (held : state.dropper = .held)
    (closed : state.handle.socketClosed = true ∨ state.handle.readClosed = true) :
    ∃ bytes, state.beforeClosing = some bytes := by
  have flagged := intact.flagged held
  rw [(Bool.or_eq_true _ _).mpr closed] at flagged
  exact Option.isSome_iff_exists.mp flagged.symm

/-- A call is running, so the stream is held. -/
theorem Intact.held {state : TcpConnection} (intact : Intact state)
    (running : state.reader ≠ .idle) : state.dropper = .held := by
  by_contra dropped
  exact running (intact.owned dropped)

/-! ### Each side keeps it -/

/-- A step of `poll_read` that takes no data: what is left to show is about where it gets. -/
theorem Intact.move {state : TcpConnection} (intact : Intact state) (held : state.dropper = .held)
    {waker : Bool} {reader : ReadPoint} {lastRead : Option ReadResult}
    (atSocketClosed : ∀ room, reader = .loadSocketClosed room → 0 < room → state.Drained)
    (atReadClosed : ∀ room, reader = .loadReadClosed room → 0 < room →
      state.handle.readClosed = true → state.Drained)
    (atDequeue : ∀ room, reader = .dequeue room → state.handle.recvBuffer.contents ≠ [])
    (complete : ∀ result, lastRead = some result → result.isEof = true →
      ∃ bytes, state.beforeClosing = some bytes ∧ bytes <+: state.returned) :
    Intact { state with
      handle := { state.handle with recvWaker := waker }
      reader := reader
      lastRead := lastRead } where
  whole := intact.whole
  recorded := intact.recorded
  flagged := intact.flagged
  removing := intact.removing
  owned := fun dropped => absurd held dropped
  atSocketClosed := atSocketClosed
  atReadClosed := atReadClosed
  atDequeue := atDequeue
  complete := complete

/-- **A step of `poll_read` keeps it.** -/
theorem Intact.readStep {state next : TcpConnection} (intact : Intact state)
    (stepped : state.readStep = some next) : Intact next := by
  unfold TcpConnection.readStep at stepped
  cases point : state.reader with
  | idle =>
      rw [point] at stepped
      cases stepped
  | firstTest room =>
      have held := intact.held (by rw [point]; exact nofun)
      rw [point] at stepped
      cases stepped
      by_cases empty : state.handle.recvBuffer.isEmpty = true
      · rw [if_pos empty]
        exact intact.move held nofun nofun nofun intact.complete
      · rw [if_neg empty]
        have waiting := mt state.handle.recvBuffer.isEmpty_iff.mpr empty
        exact intact.move held nofun nofun (fun _ _ => waiting) intact.complete
  | register room =>
      have held := intact.held (by rw [point]; exact nofun)
      rw [point] at stepped
      cases stepped
      exact intact.move held nofun nofun nofun intact.complete
  | secondTest room =>
      have held := intact.held (by rw [point]; exact nofun)
      rw [point] at stepped
      cases stepped
      by_cases empty : state.handle.recvBuffer.isEmpty = true
      · -- the moment that counts: all that was enqueued so far has been returned
        rw [if_pos empty]
        have all := intact.drained (state.handle.recvBuffer.isEmpty_iff.mp empty)
        have drained : state.Drained := fun bytes recorded => all ▸ intact.recorded bytes recorded
        exact intact.move held (fun _ _ _ => drained) nofun nofun intact.complete
      · rw [if_neg empty]
        have waiting := mt state.handle.recvBuffer.isEmpty_iff.mpr empty
        exact intact.move held nofun nofun (fun _ _ => waiting) intact.complete
  | loadSocketClosed room =>
      have held := intact.held (by rw [point]; exact nofun)
      have drained := intact.atSocketClosed room point
      rw [point] at stepped
      dsimp only at stepped
      by_cases closed : state.handle.socketClosed = true
      · rw [if_pos closed] at stepped
        cases stepped
        obtain ⟨bytes, recorded⟩ := intact.closing held (.inl closed)
        refine intact.move held nofun nofun nofun fun result same eof => ?_
        cases same
        exact ⟨bytes, recorded, drained (ReadResult.room_of_isEof eof) bytes recorded⟩
      · rw [if_neg closed] at stepped
        cases stepped
        refine intact.move held nofun (fun _ same positive _ => ?_) nofun intact.complete
        cases same
        exact drained positive
  | loadReadClosed room =>
      have held := intact.held (by rw [point]; exact nofun)
      have drained := intact.atReadClosed room point
      rw [point] at stepped
      cases stepped
      by_cases closed : state.handle.readClosed = true
      · obtain ⟨bytes, recorded⟩ := intact.closing held (.inr closed)
        rw [if_pos closed]
        refine intact.move held nofun nofun nofun fun result same eof => ?_
        cases same
        exact ⟨bytes, recorded, drained (ReadResult.room_of_isEof eof) closed bytes recorded⟩
      · rw [if_neg closed]
        refine intact.move held nofun nofun nofun fun result same eof => ?_
        cases same
        cases eof
  | dequeue room =>
      have held := intact.held (by rw [point]; exact nofun)
      have waiting := intact.atDequeue room point
      obtain ⟨taken, left, -⟩ := state.handle.recvBuffer.dequeueSlice_spec room
      rw [point] at stepped
      dsimp only at stepped
      generalize state.handle.recvBuffer.dequeueSlice room = out at stepped taken left
      obtain ⟨bytes, recvBuffer⟩ := out
      dsimp only at taken left
      subst taken
      cases stepped
      exact {
        whole := by
          dsimp only
          rw [left, List.append_assoc, List.take_append_drop]
          exact intact.whole
        recorded := intact.recorded
        flagged := intact.flagged
        removing := intact.removing
        owned := fun dropped => absurd held dropped
        atSocketClosed := nofun
        atReadClosed := nofun
        atDequeue := nofun
        complete := by
          intro result same eof
          cases same
          have positive := ReadResult.room_of_isEof eof
          rw [ReadResult.isEof, Bool.and_eq_true, List.isEmpty_iff, List.take_eq_nil_iff] at eof
          obtain ⟨-, none | empty⟩ := eof
          · omega
          · exact absurd empty waiting }

/-- **Enqueueing keeps it.** -/
theorem Intact.enqueue {state : TcpConnection} (intact : Intact state) (buffer : Bytes)
    (point : state.poller = .recv) :
    Intact { state with
      handle := { state.handle with
        recvBuffer := (state.handle.recvBuffer.enqueueSlice buffer).2 }
      poller := .recvTest true
      enqueued := state.enqueued
        ++ buffer.take (state.handle.recvBuffer.enqueueSlice buffer).1 } := by
  obtain ⟨accepted, contents, -⟩ := state.handle.recvBuffer.enqueueSlice_spec buffer
  rw [← accepted] at contents
  exact {
    whole := by
      dsimp only
      rw [contents, ← List.append_assoc, intact.whole]
    recorded := fun bytes recorded =>
      (intact.recorded bytes recorded).trans (List.prefix_append _ _)
    flagged := intact.flagged
    removing := fun closed => by
      have removing := intact.removing closed
      rw [point] at removing
      cases removing
    owned := intact.owned
    atSocketClosed := intact.atSocketClosed
    atReadClosed := intact.atReadClosed
    atDequeue := fun room reading => by
      dsimp only
      rw [contents]
      exact List.append_ne_nil_of_left_ne_nil (intact.atDequeue room reading) _
    complete := intact.complete }

/-- A closing that is recorded now, or was before. -/
theorem recordClosing_eq (state : TcpConnection) :
    (state.beforeClosing = none ∧ state.recordClosing = some state.enqueued)
      ∨ (∃ bytes, state.beforeClosing = some bytes ∧ state.recordClosing = some bytes) := by
  unfold recordClosing
  cases state.beforeClosing with
  | none => exact .inl ⟨rfl, rfl⟩
  | some bytes => exact .inr ⟨bytes, rfl, rfl⟩

theorem Intact.recordClosing_prefix {state : TcpConnection} (intact : Intact state) {bytes : Bytes}
    (recorded : state.recordClosing = some bytes) : bytes <+: state.enqueued := by
  obtain ⟨-, now⟩ | ⟨before, was, still⟩ := state.recordClosing_eq
  · rw [now] at recorded
    cases recorded
    exact List.prefix_refl _
  · rw [still] at recorded
    cases recorded
    exact intact.recorded bytes was

/-- What end of file was read behind stays on record. -/
theorem Intact.recordClosing_complete {state : TcpConnection} (intact : Intact state)
    {result : ReadResult} (read : state.lastRead = some result) (eof : result.isEof = true) :
    ∃ bytes, state.recordClosing = some bytes ∧ bytes <+: state.returned := by
  obtain ⟨bytes, recorded, returned⟩ := intact.complete result read eof
  refine ⟨bytes, ?_, returned⟩
  rw [recordClosing, recorded]
  rfl

/-- A first closing, if it finds the buffer empty, comes behind data that all were returned; a later
one changes nothing. -/
theorem Intact.recordClosing_drained {state : TcpConnection} (intact : Intact state)
    (held : state.dropper = .held)
    (first : state.handle.socketClosed = false ∧ state.handle.readClosed = false →
      state.handle.recvBuffer.isEmpty = true)
    (later : (state.handle.socketClosed || state.handle.readClosed) = true → state.Drained) :
    ∀ bytes, state.recordClosing = some bytes → bytes <+: state.returned := by
  intro bytes recorded
  have flagged := intact.flagged held
  obtain ⟨unset, now⟩ | ⟨before, was, still⟩ := state.recordClosing_eq
  · rw [unset] at flagged
    have empty := first ((Bool.or_eq_false_iff).mp flagged)
    rw [now] at recorded
    cases recorded
    have whole := intact.drained (state.handle.recvBuffer.isEmpty_iff.mp empty)
    exact whole ▸ List.prefix_refl _
  · rw [was] at flagged
    rw [still] at recorded
    cases recorded
    exact later flagged bytes was

/-- **Setting `read_closed` keeps it**, if a waiting `poll_read` has nothing left to read. -/
theorem Intact.setReadClosed {state : TcpConnection} {answer : SocketAnswer}
    (intact : Intact state) (point : state.poller = .swapReadClosed)
    (ended : answer.endOfData = true) (drained : state.ClosesDrained (.poll answer)) :
    Intact { state with
      handle := { state.handle with readClosed := true }
      poller := if state.handle.readClosed then .loadWriteShutdown else .readClosedWake
      beforeClosing := state.recordClosing } := by
  have socketOpen : state.handle.socketClosed ≠ true := by
    intro closed
    have removing := intact.removing closed
    rw [point] at removing
    cases removing
  exact {
    whole := intact.whole
    recorded := fun _ recorded => intact.recordClosing_prefix recorded
    flagged := fun _ => by
      dsimp only
      rw [Bool.or_true, recordClosing, Option.isSome_or, Option.isSome_some, Bool.or_true]
    removing := fun closed => absurd closed socketOpen
    owned := intact.owned
    atSocketClosed := fun room reading positive => by
      have held := intact.held (by rw [reading]; exact nofun)
      refine intact.recordClosing_drained held (fun unset => drained ⟨unset.1, unset.2, ?_⟩)
        fun _ => intact.atSocketClosed room reading positive
      rw [point, reading]
      exact (Bool.and_eq_true _ _).mpr ⟨ended, decide_eq_true positive⟩
    atReadClosed := fun room reading positive _ => by
      have held := intact.held (by rw [reading]; exact nofun)
      refine intact.recordClosing_drained held (fun unset => drained ⟨unset.1, unset.2, ?_⟩)
        fun closed => ?_
      · rw [point, reading]
        exact (Bool.and_eq_true _ _).mpr ⟨ended, decide_eq_true positive⟩
      · obtain closed | closed := (Bool.or_eq_true _ _).mp closed
        · exact absurd closed socketOpen
        · exact intact.atReadClosed room reading positive closed
    atDequeue := intact.atDequeue
    complete := fun _ read eof => intact.recordClosing_complete read eof }

/-- **Setting `socket_closed` keeps it**, if a waiting `poll_read` has nothing left to read. -/
theorem Intact.setSocketClosed {state : TcpConnection} {answer : SocketAnswer}
    (intact : Intact state) (point : state.poller = .storeSocketClosed)
    (drained : state.ClosesDrained (.poll answer)) :
    Intact { state with
      handle := { state.handle with socketClosed := true }
      poller := .storeWriteClosed
      beforeClosing := state.recordClosing } where
  whole := intact.whole
  recorded := fun _ recorded => intact.recordClosing_prefix recorded
  flagged := fun _ => by
    dsimp only
    rw [Bool.true_or, recordClosing, Option.isSome_or, Option.isSome_some, Bool.or_true]
  removing := fun _ => rfl
  owned := intact.owned
  atSocketClosed := fun room reading positive => by
    have held := intact.held (by rw [reading]; exact nofun)
    refine intact.recordClosing_drained held (fun unset => drained ⟨unset.1, unset.2, ?_⟩)
      fun _ => intact.atSocketClosed room reading positive
    rw [point, reading]
    exact decide_eq_true positive
  -- behind the first load this flag is no longer read, and `read_closed` can no longer be set
  atReadClosed := fun room reading positive closed => by
    have held := intact.held (by rw [reading]; exact nofun)
    refine intact.recordClosing_drained held (fun unset => ?_)
      fun _ => intact.atReadClosed room reading positive closed
    rw [unset.2] at closed
    cases closed
  atDequeue := intact.atDequeue
  complete := fun _ read eof => intact.recordClosing_complete read eof

/-- **A step of `poll_sockets` keeps it**, if it closes only behind the data. -/
theorem Intact.pollStep {state next : TcpConnection} {answer : SocketAnswer}
    (intact : Intact state) (drained : state.ClosesDrained (.poll answer))
    (stepped : state.pollStep answer = some next) : Intact next := by
  obtain ⟨same, removing⟩ | ⟨buffer, point, rfl⟩ | ⟨point, ended, rfl⟩ | ⟨point, rfl⟩ :=
    pollStep_cases stepped
  · exact intact.same same removing
  · exact intact.enqueue buffer point
  · exact intact.setReadClosed point ended drained
  · exact intact.setSocketClosed point drained

/-- **A step of `drop` keeps it.** -/
theorem Intact.dropStep {state next : TcpConnection} (intact : Intact state)
    (stepped : state.dropStep = some next) : Intact next := by
  obtain ⟨dropped, still, same, poller⟩ := dropStep_same stepped
  have left := intact.same same (fun removing => by dsimp only; rw [poller]; exact removing)
  have idle : next.reader = .idle := same.reader.trans (intact.owned dropped)
  exact {
    whole := left.whole
    recorded := left.recorded
    flagged := fun held => absurd held still
    removing := left.removing
    owned := fun _ => idle
    atSocketClosed := left.atSocketClosed
    atReadClosed := fun room reading => by
      rw [idle] at reading
      cases reading
    atDequeue := left.atDequeue
    complete := left.complete }

/-- **Every step keeps it**, if it closes only behind the data. -/
theorem Intact.step {state next : TcpConnection} {action : Action} (intact : Intact state)
    (drained : state.ClosesDrained action) (stepped : state.step action = some next) :
    Intact next := by
  unfold TcpConnection.step at stepped
  cases action with
  | pollRead room =>
      dsimp only at stepped
      by_cases free : state.dropper = .held ∧ state.reader = .idle
      · rw [if_pos free] at stepped
        cases stepped
        exact intact.move free.1 nofun nofun nofun nofun
      · rw [if_neg free] at stepped
        cases stepped
  | read => exact intact.readStep stepped
  | pollWrite | pollShutdown =>
      dsimp only at stepped
      split at stepped <;> cases stepped
      exact intact.same (by constructor <;> rfl) id
  | write =>
      obtain ⟨same, poller⟩ := writeStep_same stepped
      exact intact.same same (fun removing => by rw [poller]; exact removing)
  | drop =>
      dsimp only at stepped
      by_cases free : state.dropper = .held ∧ state.reader = .idle ∧ state.writer = .idle
      · rw [if_pos free] at stepped
        cases stepped
        exact {
          whole := intact.whole
          recorded := intact.recorded
          flagged := nofun
          removing := intact.removing
          owned := fun _ => free.2.1
          atSocketClosed := intact.atSocketClosed
          atReadClosed := intact.atReadClosed
          atDequeue := intact.atDequeue
          complete := intact.complete }
      · rw [if_neg free] at stepped
        cases stepped
  | dropping => exact intact.dropStep stepped
  | poll answer => exact intact.pollStep drained stepped

/-! ### End of file -/

/-- **End of file is read only behind all the data**, in every state of a run in which
`poll_sockets` does not close over data in the window of a `poll_read`. -/
theorem poll_read_eof_complete {actions : List Action} {final : TcpConnection}
    (drained : machine.Meets ClosesDrained new actions)
    (reached : machine.run new actions = some final) : final.NoTruncation := by
  have keeps : ∀ {state : TcpConnection} {action : Action} {next : TcpConnection}, Intact state →
      state.ClosesDrained action → machine.step state action = some next → Intact next :=
    fun intact drained stepped => intact.step drained stepped
  exact (Machine.run_invariant_of_meets keeps Intact.new drained reached).complete

/-- End of file over data that were enqueued before the closing. -/
theorem Intact.truncates {state next : TcpConnection} (intact : Intact state)
    (waiting : state.handle.recvBuffer.isEmpty ≠ true) {room : Nat} (positive : 0 < room)
    (recorded : next.beforeClosing = some state.enqueued)
    (returned : next.returned = state.returned) :
    ¬ NoTruncation { next with reader := .idle, lastRead := some (.ready room []) } := by
  intro complete
  have eof : (ReadResult.ready room []).isEof = true := by
    rw [ReadResult.isEof, decide_eq_true positive]
    rfl
  obtain ⟨bytes, same, behind⟩ := complete _ rfl eof
  cases recorded.symm.trans same
  have size : state.enqueued.length ≤ next.returned.length := behind.length_le
  rw [returned, ← intact.whole, List.length_append] at size
  refine waiting (state.handle.recvBuffer.isEmpty_iff.mpr (List.eq_nil_of_length_eq_zero ?_))
  omega

theorem run_loadReadClosed {state : TcpConnection} {room : Nat}
    (point : state.reader = .loadReadClosed room) (closed : state.handle.readClosed = true) :
    machine.run state [.read]
      = some { state with reader := .idle, lastRead := some (.ready room []) } := by
  have step : state.readStep
      = some { state with reader := .idle, lastRead := some (.ready room []) } := by
    rw [readStep, point]
    dsimp only
    rw [if_pos closed]
  exact (Machine.run_cons_eq_some _).mpr ⟨_, step, rfl⟩

/-- A `poll_read` that is to load a flag that is set reads end of file. -/
theorem run_loadSocketClosed {state : TcpConnection} {room : Nat}
    (point : state.reader = .loadSocketClosed room)
    (closed : state.handle.socketClosed = true ∨ state.handle.readClosed = true) :
    machine.run state [.read, .read]
        = some { state with reader := .idle, lastRead := some (.ready room []) }
      ∨ machine.run state [.read]
        = some { state with reader := .idle, lastRead := some (.ready room []) } := by
  have step : state.readStep = if state.handle.socketClosed then
      some { state with reader := .idle, lastRead := some (.ready room []) }
    else some { state with reader := .loadReadClosed room } := by
    rw [readStep, point]
  by_cases now : state.handle.socketClosed = true
  · rw [if_pos now] at step
    exact .inr ((Machine.run_cons_eq_some _).mpr ⟨_, step, rfl⟩)
  · rw [if_neg now] at step
    refine .inl ((Machine.run_cons_eq_some _).mpr ⟨_, step, ?_⟩)
    exact run_loadReadClosed (by rfl) (closed.resolve_left now)

/-- **The window is exact**: once a step has closed over data in it, the `poll_read` that is running
goes on to read end of file over them. -/
theorem Intact.truncates_of_window {state next : TcpConnection} {answer : SocketAnswer}
    (intact : Intact state) (window : state.ClosesInWindow answer)
    (waiting : state.handle.recvBuffer.isEmpty ≠ true)
    (stepped : state.pollStep answer = some next) :
    ∃ reads final, reads ∈ [[Action.read], [.read, .read]]
      ∧ machine.run next reads = some final ∧ ¬ final.NoTruncation := by
  obtain ⟨socketOpen, readOpen, closes⟩ := window
  have first : state.reader ≠ .idle → state.recordClosing = some state.enqueued := by
    intro running
    have flagged := intact.flagged (intact.held running)
    rw [socketOpen, readOpen] at flagged
    obtain ⟨-, now⟩ | ⟨bytes, was, -⟩ := state.recordClosing_eq
    · exact now
    · rw [was] at flagged
      cases flagged
  have swap : state.poller = .swapReadClosed → answer.endOfData = true →
      next.reader = state.reader ∧ next.handle.readClosed = true
        ∧ next.beforeClosing = state.recordClosing ∧ next.returned = state.returned := by
    intro point ended
    unfold TcpConnection.pollStep at stepped
    rw [point] at stepped
    dsimp only at stepped
    rw [if_pos ended] at stepped
    cases stepped
    exact ⟨rfl, rfl, rfl, rfl⟩
  have store : state.poller = .storeSocketClosed →
      next.reader = state.reader ∧ next.handle.socketClosed = true
        ∧ next.beforeClosing = state.recordClosing ∧ next.returned = state.returned := by
    intro point
    unfold TcpConnection.pollStep at stepped
    rw [point] at stepped
    cases stepped
    exact ⟨rfl, rfl, rfl, rfl⟩
  unfold closesBefore at closes
  split at closes
  · rename_i room point reading
    obtain ⟨ended, positive⟩ := (Bool.and_eq_true _ _).mp closes
    obtain ⟨reader, closed, recorded, returned⟩ := swap point ended
    have ends := intact.truncates waiting (of_decide_eq_true positive)
      (recorded.trans (first (by rw [reading]; exact nofun))) returned
    obtain run | run := run_loadSocketClosed (reader.trans reading) (.inr closed)
    · exact ⟨_, _, by simp, run, ends⟩
    · exact ⟨_, _, by simp, run, ends⟩
  · rename_i room point reading
    obtain ⟨ended, positive⟩ := (Bool.and_eq_true _ _).mp closes
    obtain ⟨reader, closed, recorded, returned⟩ := swap point ended
    exact ⟨_, _, by simp, run_loadReadClosed (reader.trans reading) closed,
      intact.truncates waiting (of_decide_eq_true positive)
        (recorded.trans (first (by rw [reading]; exact nofun))) returned⟩
  · rename_i room point reading
    obtain ⟨reader, closed, recorded, returned⟩ := store point
    have ends := intact.truncates waiting (of_decide_eq_true closes)
      (recorded.trans (first (by rw [reading]; exact nofun))) returned
    obtain run | run := run_loadSocketClosed (reader.trans reading) (.inl closed)
    · exact ⟨_, _, by simp, run, ends⟩
    · exact ⟨_, _, by simp, run, ends⟩
  · cases closes

/-- The socket has a byte and the peer's end of data, -/
def lastByte : SocketAnswer where
  canRecv := true
  canSend := true
  mayRecv := true
  maySend := true
  pastHandshake := true
  isActive := true
  received := some [7]
  sendRoom := some 1

/-- and only the end of data. -/
def atEnd : SocketAnswer :=
  { lastByte with canRecv := false, mayRecv := false, received := none }

/-- A byte and the end of data, read in two calls with no step of the other side in between. -/
def readToEnd : List Action :=
  [.poll lastByte, .poll lastByte, .poll lastByte, .poll atEnd, .poll atEnd, .poll atEnd,
    .poll atEnd, .pollRead 4, .read, .read, .pollRead 4, .read, .read, .read, .read, .read]

theorem poll_read_eof_complete_readToEnd :
    ∃ final, machine.run new readToEnd = some final ∧ final.lastRead = some (.ready 4 [])
      ∧ final.NoTruncation := by
  refine ⟨_, rfl, rfl, ?_⟩
  exact @poll_read_eof_complete readToEnd _ (by decide) rfl

/-- **A byte that arrives with the peer's end of data is lost** to a `poll_read` that has just found
the buffer empty. -/
theorem eof_over_data :
    ∃ final, machine.run new
        [.pollRead 4, .read, .read, .read, .poll lastByte, .poll lastByte, .poll lastByte,
          .poll atEnd, .poll atEnd, .poll atEnd, .poll atEnd, .read, .read] = some final
      ∧ final.lastRead = some (.ready 4 []) ∧ final.handle.recvBuffer.contents = [7]
      ∧ ¬ final.NoTruncation := by
  refine ⟨_, rfl, rfl, rfl, fun complete => ?_⟩
  obtain ⟨bytes, recorded, returned⟩ := complete _ rfl rfl
  have enqueued : some bytes = some [7] := recorded.symm
  cases enqueued
  exact absurd returned (by decide)

end TcpConnection

end RsTun.Netstack
