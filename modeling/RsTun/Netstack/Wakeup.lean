/-
**Who wakes a parked `poll_read` or `poll_write`.**

A call is parked when its last result was `Pending` and its waker has not been fired. Over the steps
of `TcpConnection` it is asked of every state that whatever a parked call waits for is followed by a
wake: `poll_sockets` or `drop` stands at a point from which it goes on to fire the waker.

`poll_read` loads the two flags behind the registration of its waker, so that it never parks before
a flag that is set. `poll_write` loads `write_closed` before it registers, and does not look again.

* `pollStep_reading`, `pollStep_sending` — a step of `poll_sockets` that gives a parked call what it
  waits for has the wake ahead.
* `Awake` — the invariant of the runs in which no `poll_write` parks on a closed stream.
* `noLostWakeup_iff` — and in these runs alone, **no wakeup is lost.**
-/

import RsTun.Netstack.TcpStream

namespace RsTun.Netstack

open Library Library.Bytes

/-- From here `poll_sockets` goes on to wake `recv_waker`. -/
def PollPoint.wakesRecv : PollPoint → Bool
  | .recvTest notifyRead => notifyRead
  | .recv => true
  | .recvWake => true
  | .readClosedWake => true
  | .storeSocketClosed => true
  | .storeWriteClosed => true
  | .removalWakeRecv => true
  | _ => false

/-- From here `poll_sockets` goes on to wake `send_waker`. -/
def PollPoint.wakesSend : PollPoint → Bool
  | .sendTest notifyWrite => notifyWrite
  | .send => true
  | .sendWake => true
  | .writeClosedWake => true
  | .storeSocketClosed => true
  | .storeWriteClosed => true
  | .removalWakeRecv => true
  | .removalWakeSend => true
  | _ => false

/-- The points at which the send buffer is flushed for a dropped stream. -/
def PollPoint.isFlushing : PollPoint → Bool
  | .flushTest => true
  | .flush => true
  | _ => false

/-- From here `drop` goes on to wake `recv_waker`. -/
def DropPoint.wakesRecv : DropPoint → Bool
  | .storeSocketDropped => true
  | .storeReadClosed => true
  | .storeWriteClosed => true
  | .wakeRecv => true
  | _ => false

/-- From here `drop` goes on to wake `send_waker`. -/
def DropPoint.wakesSend : DropPoint → Bool
  | .held => false
  | .gone => false
  | _ => true

/-- `poll_write` tests the buffer behind the registration of its waker. -/
def WritePoint.isSecondTest : WritePoint → Bool
  | .secondTest _ => true
  | _ => false

namespace TcpConnection

/-! ### Parked calls -/

/-- A wake of `recv_waker` is still to come. -/
def recvWakeAhead (state : TcpConnection) : Bool :=
  state.poller.wakesRecv || state.dropper.wakesRecv

/-- A wake of `send_waker` is still to come. -/
def sendWakeAhead (state : TcpConnection) : Bool :=
  state.poller.wakesSend || state.dropper.wakesSend

/-- The last `poll_read` returned `Pending`, and its waker has not been fired. -/
def ReaderParked (state : TcpConnection) : Prop :=
  state.reader = .idle ∧ state.lastRead = some .pending ∧ state.handle.recvWaker = true

/-- The last `poll_write` returned `Pending`, and its waker has not been fired. -/
def WriterParked (state : TcpConnection) : Prop :=
  state.writer = .idle ∧ state.lastWrite = some .pending ∧ state.handle.sendWaker = true

/-- What a parked call waits for is there only with a wake still to come. -/
structure NoLostWakeup (state : TcpConnection) : Prop where
  reader : state.ReaderParked → state.handle.recvBuffer.isEmpty = false
    ∨ state.handle.readClosed = true ∨ state.handle.socketClosed = true → state.recvWakeAhead = true
  writer : state.WriterParked → state.handle.sendBuffer.isFull = false
    ∨ state.handle.writeClosed = true → state.sendWakeAhead = true

/-- `poll_write` is about to park: it is behind the registration of its waker, and the buffer is
full, but `write_closed` is set and the wake for it has been. -/
def parksClosed (state : TcpConnection) : Bool :=
  state.writer.isSecondTest && state.handle.sendBuffer.isFull && state.handle.sendWaker
    && state.handle.writeClosed && !state.sendWakeAhead

/-- The step does not park a `poll_write` on a closed stream. -/
def ParksOpen (state : TcpConnection) : Action → Prop
  | .write => state.parksClosed = false
  | _ => True

instance parksOpenDecidable (state : TcpConnection) (action : Action) :
    Decidable (state.ParksOpen action) := by
  unfold ParksOpen
  split <;> infer_instance

/-! ### What a `poll_read` or `poll_write` has still to see -/

/-- What a `poll_read` behind its second test will no longer see, in the order of its loads. -/
def recvCause (state : TcpConnection) : Bool :=
  match state.reader with
  | .loadSocketClosed _ => !state.handle.recvBuffer.isEmpty
  | .loadReadClosed _ => !state.handle.recvBuffer.isEmpty || state.handle.socketClosed
  | .idle => state.lastRead == some .pending && (!state.handle.recvBuffer.isEmpty
      || state.handle.socketClosed || state.handle.readClosed)
  | _ => false

/-- What a parked `poll_write` waits for. -/
def sendCause (state : TcpConnection) : Bool :=
  match state.writer with
  | .idle => state.lastWrite == some .pending
      && (!state.handle.sendBuffer.isFull || state.handle.writeClosed)
  | _ => false

/-- The invariant: a cause that a call will no longer see is followed by a wake. The other fields
are about `drop`, which fires both wakers for good, and lets the send buffer be flushed. -/
structure Awake (state : TcpConnection) : Prop where
  recv : state.handle.recvWaker = true → state.recvCause = true → state.recvWakeAhead = true
  send : state.handle.sendWaker = true → state.sendCause = true → state.sendWakeAhead = true
  owned : state.dropper ≠ .held → state.writer = .idle
  fired : state.dropper = .gone → state.handle.sendWaker = false
  dropped : state.handle.socketDropped = true → state.dropper ≠ .held
  flushing : state.poller.isFlushing = true → state.dropper ≠ .held

theorem Awake.new : Awake new where
  recv := nofun
  send := nofun
  owned := fun still => absurd rfl still
  fired := nofun
  dropped := nofun
  flushing := nofun

/-- Then no wakeup is lost. -/
theorem Awake.noLostWakeup {state : TcpConnection} (awake : Awake state) : state.NoLostWakeup where
  reader := by
    rintro ⟨idle, pending, waker⟩ cause
    refine awake.recv waker ?_
    rw [recvCause, idle, pending]
    simp only [beq_self_eq_true, Bool.true_and, Bool.or_eq_true, Bool.not_eq_true']
    tauto
  writer := by
    rintro ⟨idle, pending, waker⟩ cause
    refine awake.send waker ?_
    rw [sendCause, idle, pending]
    simp only [beq_self_eq_true, Bool.true_and, Bool.or_eq_true, Bool.not_eq_true']
    exact cause

/-- A stream that is being dropped has the wake of `send_waker` ahead, or the waker was fired. -/
theorem Awake.sendWakeAhead_of_dropper {state : TcpConnection} (awake : Awake state)
    (dropper : state.dropper ≠ .held) (waker : state.handle.sendWaker = true) :
    state.dropper.wakesSend = true := by
  have fired := awake.fired
  cases point : state.dropper with
  | held => exact absurd point dropper
  | gone => exact absurd waker (by rw [fired point]; exact Bool.false_ne_true)
  | _ => rfl

/-! ### The steps of `poll_sockets` -/

/-- `poll_sockets` leaves the calls and `drop` where they are. -/
theorem pollStep_calls {answer : SocketAnswer} {state next : TcpConnection}
    (stepped : state.pollStep answer = some next) :
    next.writer = state.writer ∧ next.lastWrite = state.lastWrite ∧ next.dropper = state.dropper
      ∧ next.handle.socketDropped = state.handle.socketDropped := by
  unfold pollStep at stepped
  cases point : state.poller with
  | recv | send | flush | swapReadClosed | swapWriteClosed =>
      rw [point] at stepped
      dsimp only at stepped
      split at stepped <;> cases stepped <;> exact ⟨rfl, rfl, rfl, rfl⟩
  | removed =>
      rw [point] at stepped
      cases stepped
  | _ =>
      rw [point] at stepped
      cases stepped
      exact ⟨rfl, rfl, rfl, rfl⟩

/-- A step that does not fire a waker leaves its wakes ahead. -/
theorem pollStep_wakers {answer : SocketAnswer} {state next : TcpConnection}
    (stepped : state.pollStep answer = some next) :
    (next.handle.recvWaker = true → state.handle.recvWaker = true
      ∧ (state.poller.wakesRecv = true → next.poller.wakesRecv = true))
    ∧ (next.handle.sendWaker = true → state.handle.sendWaker = true
      ∧ (state.poller.wakesSend = true → next.poller.wakesSend = true)) := by
  unfold pollStep at stepped
  cases point : state.poller with
  | recvTest notifyRead =>
      rw [point] at stepped
      cases stepped
      refine ⟨fun waker => ⟨waker, fun notify => ?_⟩, fun waker => ⟨waker, nofun⟩⟩
      have notified : notifyRead = true := notify
      dsimp only
      rw [if_pos notified]
      split <;> rfl
  | sendTest notifyWrite =>
      rw [point] at stepped
      cases stepped
      refine ⟨fun waker => ⟨waker, nofun⟩, fun waker => ⟨waker, fun notify => ?_⟩⟩
      have notified : notifyWrite = true := notify
      dsimp only
      rw [if_pos notified]
      split <;> rfl
  -- the steps that fire a waker
  | recvWake | readClosedWake =>
      rw [point] at stepped
      cases stepped
      exact ⟨nofun, fun waker => ⟨waker, nofun⟩⟩
  | removalWakeRecv =>
      rw [point] at stepped
      cases stepped
      exact ⟨nofun, fun waker => ⟨waker, fun _ => rfl⟩⟩
  | sendWake | writeClosedWake | removalWakeSend =>
      rw [point] at stepped
      cases stepped
      exact ⟨fun waker => ⟨waker, nofun⟩, nofun⟩
  -- those that come before wakes, or before none
  | recv =>
      rw [point] at stepped
      dsimp only at stepped
      split at stepped <;> cases stepped <;>
        exact ⟨fun waker => ⟨waker, fun _ => rfl⟩, fun waker => ⟨waker, nofun⟩⟩
  | send =>
      rw [point] at stepped
      dsimp only at stepped
      split at stepped <;> cases stepped <;>
        exact ⟨fun waker => ⟨waker, nofun⟩, fun waker => ⟨waker, fun _ => rfl⟩⟩
  | flush | swapReadClosed | swapWriteClosed =>
      rw [point] at stepped
      dsimp only at stepped
      split at stepped <;> cases stepped <;>
        exact ⟨fun waker => ⟨waker, nofun⟩, fun waker => ⟨waker, nofun⟩⟩
  | storeSocketClosed | storeWriteClosed =>
      rw [point] at stepped
      cases stepped
      exact ⟨fun waker => ⟨waker, fun _ => rfl⟩, fun waker => ⟨waker, fun _ => rfl⟩⟩
  | removed =>
      rw [point] at stepped
      cases stepped
  | _ =>
      rw [point] at stepped
      cases stepped
      exact ⟨fun waker => ⟨waker, nofun⟩, fun waker => ⟨waker, nofun⟩⟩

theorem SameReading.recvCause_eq {state next : TcpConnection} (same : SameReading state next) :
    next.recvCause = state.recvCause := by
  simp only [recvCause, same.reader, same.lastRead, same.recvBuffer, same.socketClosed,
    same.readClosed]

/-- **What a step of `poll_sockets` gives a `poll_read` to see, it goes on to wake it for.** -/
theorem pollStep_reading {answer : SocketAnswer} {state next : TcpConnection}
    (stepped : state.pollStep answer = some next) (cause : next.recvCause = true) :
    state.recvCause = true ∨ next.poller.wakesRecv = true := by
  obtain ⟨same, -⟩ | ⟨_, _, rfl⟩ | ⟨_, _, rfl⟩ | ⟨_, rfl⟩ := pollStep_cases stepped
  · exact .inl (same.recvCause_eq ▸ cause)
  · exact .inr rfl
  · cases closed : state.handle.readClosed with
    | false => exact .inr rfl
    | true =>
        -- the flag was set already
        refine .inl ?_
        rw [recvCause] at cause ⊢
        rw [closed]
        exact cause
  · exact .inr rfl

/-- **What a step of `poll_sockets` gives a `poll_write` to see, it goes on to wake it for**, except
for the room that it makes for a dropped stream. -/
theorem pollStep_sending {answer : SocketAnswer} {state next : TcpConnection}
    (stepped : state.pollStep answer = some next) (cause : next.sendCause = true) :
    state.sendCause = true ∨ next.poller.wakesSend = true ∨ state.poller.isFlushing = true := by
  unfold pollStep at stepped
  cases point : state.poller with
  | send =>
      rw [point] at stepped
      dsimp only at stepped
      split at stepped <;> cases stepped <;> exact .inr (.inl rfl)
  | flush => exact .inr (.inr rfl)
  | recv | swapReadClosed =>
      rw [point] at stepped
      dsimp only at stepped
      split at stepped <;> cases stepped <;> exact .inl cause
  | swapWriteClosed =>
      rw [point] at stepped
      dsimp only at stepped
      split at stepped
      · cases stepped
        cases closed : state.handle.writeClosed with
        | false => exact .inr (.inl rfl)
        | true =>
            -- the flag was set already
            refine .inl ?_
            rw [sendCause] at cause ⊢
            rw [closed]
            exact cause
      · cases stepped
        exact .inl cause
  | storeWriteClosed =>
      rw [point] at stepped
      cases stepped
      exact .inr (.inl rfl)
  | removed =>
      rw [point] at stepped
      cases stepped
  | _ =>
      rw [point] at stepped
      cases stepped
      exact .inl cause

/-- The buffer is flushed only for a stream that has been dropped. -/
theorem pollStep_flushing {answer : SocketAnswer} {state next : TcpConnection}
    (stepped : state.pollStep answer = some next) (flushing : next.poller.isFlushing = true) :
    state.poller.isFlushing = true ∨ state.handle.socketDropped = true := by
  unfold pollStep at stepped
  cases point : state.poller with
  | loadSocketDropped =>
      rw [point] at stepped
      cases stepped
      dsimp only at flushing
      split at flushing
      · rename_i dropped
        exact .inr dropped
      · cases flushing
  | flushTest | flush => exact .inl rfl
  | recv | send | swapReadClosed | swapWriteClosed =>
      rw [point] at stepped
      dsimp only at stepped
      split at stepped <;> cases stepped <;> dsimp only at flushing <;>
        first | cases flushing | (split at flushing <;> cases flushing)
  | removed =>
      rw [point] at stepped
      cases stepped
  | recvTest | sendTest =>
      rw [point] at stepped
      cases stepped
      dsimp only at flushing
      split at flushing
      · cases flushing
      · split at flushing <;> cases flushing
  | loadWriteShutdown | testActive =>
      rw [point] at stepped
      cases stepped
      dsimp only at flushing
      split at flushing <;> cases flushing
  | _ =>
      rw [point] at stepped
      cases stepped
      cases flushing

/-! ### The invariant -/

/-- **A step of `poll_sockets` keeps it.** -/
theorem Awake.pollStep {state next : TcpConnection} {answer : SocketAnswer} (awake : Awake state)
    (stepped : state.pollStep answer = some next) : Awake next := by
  obtain ⟨writer, -, dropper, socketDropped⟩ := pollStep_calls stepped
  exact {
    recv := fun waker cause => by
      obtain ⟨before, ahead⟩ := (pollStep_wakers stepped).1 waker
      rw [recvWakeAhead, Bool.or_eq_true, dropper]
      obtain cause | wakes := pollStep_reading stepped cause
      · have pending := awake.recv before cause
        rw [recvWakeAhead, Bool.or_eq_true] at pending
        exact pending.imp_left ahead
      · exact .inl wakes
    send := fun waker cause => by
      obtain ⟨before, ahead⟩ := (pollStep_wakers stepped).2 waker
      rw [sendWakeAhead, Bool.or_eq_true, dropper]
      obtain cause | wakes | flushing := pollStep_sending stepped cause
      · have pending := awake.send before cause
        rw [sendWakeAhead, Bool.or_eq_true] at pending
        exact pending.imp_left ahead
      · exact .inl wakes
      · exact .inr (awake.sendWakeAhead_of_dropper (awake.flushing flushing) before)
    owned := by
      rw [writer, dropper]
      exact awake.owned
    fired := fun gone => by
      rw [dropper] at gone
      by_contra waker
      have before := ((pollStep_wakers stepped).2 (Bool.eq_true_of_not_eq_false waker)).1
      rw [awake.fired gone] at before
      cases before
    dropped := by
      rw [socketDropped, dropper]
      exact awake.dropped
    flushing := fun flushing => by
      rw [dropper]
      exact (pollStep_flushing stepped flushing).elim awake.flushing awake.dropped }

/-- A step of `poll_read` leaves it to the next load what it has not seen. -/
theorem readStep_cause {state next : TcpConnection} (stepped : state.readStep = some next)
    (cause : next.recvCause = true) :
    state.recvCause = true ∧ next.handle.recvWaker = state.handle.recvWaker := by
  unfold readStep at stepped
  cases point : state.reader with
  | idle =>
      rw [point] at stepped
      cases stepped
  | firstTest room | secondTest room =>
      rw [point] at stepped
      cases stepped
      rw [recvCause] at cause
      cases empty : state.handle.recvBuffer.isEmpty <;> (
        dsimp only at cause
        rw [empty] at cause
        cases cause)
  | register | dequeue =>
      rw [point] at stepped
      cases stepped
      cases cause
  | loadSocketClosed room =>
      rw [point] at stepped
      dsimp only at stepped
      split at stepped
      · cases stepped
        cases cause
      · rename_i socketOpen
        cases stepped
        refine ⟨?_, rfl⟩
        rw [recvCause] at cause ⊢
        dsimp only at cause
        rw [Bool.eq_false_of_not_eq_true socketOpen, Bool.or_false] at cause
        rw [point]
        exact cause
  | loadReadClosed room =>
      rw [point] at stepped
      cases stepped
      refine ⟨?_, rfl⟩
      rw [recvCause] at cause ⊢
      dsimp only at cause
      rw [point]
      cases closed : state.handle.readClosed with
      | false =>
          rw [closed, Bool.or_false] at cause
          exact cause
      | true =>
          rw [closed] at cause
          cases cause

/-- What a step of one side leaves alone, the other calls included. -/
structure SameSending (state next : TcpConnection) : Prop where
  sendBuffer : next.handle.sendBuffer = state.handle.sendBuffer
  sendWaker : next.handle.sendWaker = state.handle.sendWaker
  writeClosed : next.handle.writeClosed = state.handle.writeClosed
  socketDropped : next.handle.socketDropped = state.handle.socketDropped
  writer : next.writer = state.writer
  lastWrite : next.lastWrite = state.lastWrite
  dropper : next.dropper = state.dropper
  poller : next.poller = state.poller

theorem readStep_same {state next : TcpConnection} (stepped : state.readStep = some next) :
    SameSending state next := by
  unfold TcpConnection.readStep at stepped
  cases point : state.reader with
  | idle =>
      rw [point] at stepped
      cases stepped
  | loadSocketClosed =>
      rw [point] at stepped
      dsimp only at stepped
      split at stepped <;> cases stepped <;> constructor <;> rfl
  | _ =>
      rw [point] at stepped
      cases stepped
      constructor <;> rfl

/-- What is said of the writing side depends on it alone. -/
theorem Awake.same {state next : TcpConnection} (awake : Awake state)
    (same : SameSending state next)
    (recv : next.handle.recvWaker = true → next.recvCause = true → next.recvWakeAhead = true) :
    Awake next where
  recv := recv
  send := by
    rw [sendCause, sendWakeAhead, same.sendBuffer, same.sendWaker, same.writeClosed, same.writer,
      same.lastWrite, same.dropper, same.poller]
    exact awake.send
  owned := by
    rw [same.dropper, same.writer]
    exact awake.owned
  fired := by
    rw [same.dropper, same.sendWaker]
    exact awake.fired
  dropped := by
    rw [same.socketDropped, same.dropper]
    exact awake.dropped
  flushing := by
    rw [same.poller, same.dropper]
    exact awake.flushing

/-- **A step of `poll_read` keeps it.** -/
theorem Awake.readStep {state next : TcpConnection} (awake : Awake state)
    (stepped : state.readStep = some next) : Awake next := by
  have same := readStep_same stepped
  refine awake.same same fun waker cause => ?_
  obtain ⟨before, still⟩ := readStep_cause stepped cause
  rw [recvWakeAhead, same.poller, same.dropper]
  exact awake.recv (still ▸ waker) before

/-- A step of `poll_write` or `poll_shutdown` leaves the other sides alone. -/
theorem writeStep_frame {state next : TcpConnection} (stepped : state.writeStep = some next) :
    state.writer ≠ .idle ∧ next.handle.recvWaker = state.handle.recvWaker
      ∧ next.handle.socketDropped = state.handle.socketDropped ∧ next.dropper = state.dropper
      ∧ next.poller = state.poller := by
  unfold TcpConnection.writeStep at stepped
  cases point : state.writer with
  | idle =>
      rw [point] at stepped
      cases stepped
  | loadWriteClosed | loadWriteShutdown | secondTest =>
      rw [point] at stepped
      dsimp only at stepped
      split at stepped <;> cases stepped <;> exact ⟨nofun, rfl, rfl, rfl, rfl⟩
  | _ =>
      rw [point] at stepped
      cases stepped
      exact ⟨nofun, rfl, rfl, rfl, rfl⟩

/-- A `poll_write` parks over a cause only on a closed stream. -/
theorem writeStep_cause {state next : TcpConnection} (stepped : state.writeStep = some next)
    (waker : next.handle.sendWaker = true) (cause : next.sendCause = true) :
    state.writer.isSecondTest = true ∧ state.handle.sendBuffer.isFull = true
      ∧ state.handle.sendWaker = true ∧ state.handle.writeClosed = true := by
  unfold TcpConnection.writeStep at stepped
  cases point : state.writer with
  | secondTest data =>
      rw [point] at stepped
      dsimp only at stepped
      split at stepped
      · rename_i full
        cases stepped
        rw [sendCause] at cause
        dsimp only at cause
        rw [full] at cause
        exact ⟨rfl, full, waker, cause⟩
      · cases stepped
        cases cause
  | firstTest data =>
      rw [point] at stepped
      cases stepped
      rw [sendCause] at cause
      cases full : state.handle.sendBuffer.isFull <;> (
        dsimp only at cause
        rw [full] at cause
        cases cause)
  | loadWriteClosed | loadWriteShutdown =>
      rw [point] at stepped
      dsimp only at stepped
      split at stepped <;> cases stepped <;> cases cause
  | idle =>
      rw [point] at stepped
      cases stepped
  | wakeSend =>
      rw [point] at stepped
      cases stepped
      cases waker
  | enqueue | register | storeWriteShutdown =>
      rw [point] at stepped
      cases stepped
      cases cause

/-- **A step of `poll_write` keeps it**, unless it parks on a closed stream. -/
theorem Awake.writeStep {state next : TcpConnection} (awake : Awake state)
    (parksOpen : state.parksClosed = false) (stepped : state.writeStep = some next) :
    Awake next := by
  obtain ⟨running, recvWaker, socketDropped, dropper, poller⟩ := writeStep_frame stepped
  have held : next.dropper = .held := by
    rw [dropper]
    by_contra dropped
    exact running (awake.owned dropped)
  exact {
    recv := by
      rw [recvWaker, (writeStep_same stepped).1.recvCause_eq, recvWakeAhead, poller, dropper]
      exact awake.recv
    send := fun waker cause => by
      obtain ⟨second, full, before, closed⟩ := writeStep_cause stepped waker cause
      rw [parksClosed, second, full, before, closed] at parksOpen
      rw [sendWakeAhead, poller, dropper]
      exact (Bool.not_eq_false' _).mp parksOpen
    owned := fun dropped => absurd held dropped
    fired := fun gone => by
      rw [held] at gone
      cases gone
    dropped := by
      rw [socketDropped, dropper]
      exact awake.dropped
    flushing := by
      rw [poller, dropper]
      exact awake.flushing }

/-- **A step of `drop` keeps it.** -/
theorem Awake.dropStep {state next : TcpConnection} (awake : Awake state)
    (stepped : state.dropStep = some next) : Awake next := by
  unfold TcpConnection.dropStep at stepped
  cases point : state.dropper with
  | held | gone =>
      rw [point] at stepped
      cases stepped
  | storeSocketDropped | storeReadClosed | storeWriteClosed =>
      rw [point] at stepped
      cases stepped
      exact {
        recv := fun _ _ => Bool.or_true _
        send := fun _ _ => Bool.or_true _
        owned := fun _ => awake.owned (by rw [point]; exact nofun)
        fired := nofun
        dropped := fun _ => nofun
        flushing := fun _ => nofun }
  | wakeRecv =>
      rw [point] at stepped
      cases stepped
      exact {
        recv := nofun
        send := fun _ _ => Bool.or_true _
        owned := fun _ => awake.owned (by rw [point]; exact nofun)
        fired := nofun
        dropped := fun _ => nofun
        flushing := fun _ => nofun }
  | wakeSend =>
      rw [point] at stepped
      cases stepped
      exact {
        recv := fun waker cause => by
          have ahead := awake.recv waker cause
          rw [recvWakeAhead, point] at ahead
          exact ahead
        send := nofun
        owned := fun _ => awake.owned (by rw [point]; exact nofun)
        fired := fun _ => rfl
        dropped := fun _ => nofun
        flushing := fun _ => nofun }

/-- **Every step keeps it**, unless it parks a `poll_write` on a closed stream. -/
theorem Awake.step {state next : TcpConnection} {action : Action} (awake : Awake state)
    (parksOpen : state.ParksOpen action) (stepped : state.step action = some next) :
    Awake next := by
  unfold TcpConnection.step at stepped
  cases action with
  | pollRead room =>
      dsimp only at stepped
      split at stepped <;> cases stepped
      exact awake.same (by constructor <;> rfl) nofun
  | read => exact awake.readStep stepped
  | pollWrite | pollShutdown =>
      dsimp only at stepped
      split at stepped
      · rename_i free
        cases stepped
        exact {
          recv := awake.recv
          send := nofun
          owned := fun dropped => absurd free.1 dropped
          fired := awake.fired
          dropped := awake.dropped
          flushing := awake.flushing }
      · cases stepped
  | write => exact awake.writeStep parksOpen stepped
  | drop =>
      dsimp only at stepped
      split at stepped
      · rename_i free
        cases stepped
        exact {
          recv := fun _ _ => Bool.or_true _
          send := fun _ _ => Bool.or_true _
          owned := fun _ => free.2.2
          fired := nofun
          dropped := fun _ => nofun
          flushing := fun _ => nofun }
      · cases stepped
  | dropping => exact awake.dropStep stepped
  | poll answer => exact awake.pollStep stepped

/-- A step that parks a `poll_write` on a closed stream loses the wakeup. -/
theorem not_noLostWakeup_of_parksClosed {state next : TcpConnection}
    (parks : state.parksClosed = true) (stepped : state.writeStep = some next) :
    ¬ next.NoLostWakeup := by
  simp only [parksClosed, Bool.and_eq_true, Bool.not_eq_true'] at parks
  obtain ⟨⟨⟨⟨second, full⟩, waker⟩, closed⟩, ahead⟩ := parks
  unfold TcpConnection.writeStep at stepped
  cases point : state.writer with
  | secondTest data =>
      rw [point] at stepped
      dsimp only at stepped
      rw [if_pos full] at stepped
      cases stepped
      intro noLost
      have wakes := noLost.writer ⟨rfl, rfl, waker⟩ (.inr closed)
      exact Bool.false_ne_true (ahead.symm.trans wakes)
  | _ =>
      rw [point] at second
      cases second

/-! ### No lost wakeup -/

/-- **No wakeup is lost in any state of a run exactly when no step of it parks a `poll_write` on a
closed stream.** -/
theorem noLostWakeup_iff {actions : List Action} {final : TcpConnection}
    (reached : machine.run new actions = some final) :
    machine.Throughout NoLostWakeup new actions ↔ machine.Meets ParksOpen new actions := by
  refine Machine.throughout_iff_meets Awake.noLostWakeup (fun awake parksOpen stepped =>
    awake.step parksOpen stepped) ?_ Awake.new reached
  intro state action next awake parks stepped
  cases action with
  | write =>
      exact not_noLostWakeup_of_parksClosed (Bool.eq_true_of_not_eq_false parks) stepped
  | _ => exact absurd trivial parks

/-- A `poll_read` parks, and is woken for a byte that arrives afterwards. -/
theorem noLostWakeup_iff_wokenRead : machine.Throughout NoLostWakeup new
    [.pollRead 4, .read, .read, .read, .read, .read, .poll lastByte, .poll lastByte,
      .poll lastByte, .poll atEnd, .poll atEnd, .pollRead 4, .read, .read] :=
  (noLostWakeup_iff rfl).mpr (by decide)

/-- The socket has become inactive. -/
def inactive : SocketAnswer where
  canRecv := false
  canSend := false
  mayRecv := false
  maySend := false
  pastHandshake := false
  isActive := false
  received := none
  sendRoom := none

/-- The connection when its first `poll_write` has returned. -/
def written (data : Bytes) : TcpConnection :=
  { new with
    handle := { new.handle with sendBuffer := (new.handle.sendBuffer.enqueueSlice data).2 }
    lastWrite := some (.ready (new.handle.sendBuffer.enqueueSlice data).1) }

theorem run_written (data : Bytes) :
    machine.run new [.pollWrite data, .write, .write, .write, .write] = some (written data) := rfl

/-- Data of the capacity less one fill the send buffer. -/
theorem isFull_written {data : Bytes} (size : data.length = defaultTcpSendBufferSize - 1) :
    (written data).handle.sendBuffer.isFull = true := by
  obtain ⟨-, contents, capacity⟩ := new.handle.sendBuffer.enqueueSlice_spec data
  have room := (written data).handle.sendBuffer.readable_add_writable
  rw [LockFreeRingBuffer.isFull_iff]
  have whole : data.take (min data.length new.handle.sendBuffer.writable) = data := by
    rw [show new.handle.sendBuffer.writable = defaultTcpSendBufferSize - 1 from rfl, size,
      Nat.min_self, ← size, List.take_length]
  have held : (written data).handle.sendBuffer.readable = defaultTcpSendBufferSize - 1 := by
    rw [← LockFreeRingBuffer.length_contents, ← size]
    exact congrArg List.length (contents.trans (by rw [whole]; rfl))
  rw [held, show (written data).handle.sendBuffer.capacity = defaultTcpSendBufferSize from capacity]
    at room
  have positive : 0 < defaultTcpSendBufferSize := by decide
  omega

/-- A removed connection whose `poll_write` was past its loads. -/
def removed (data rest : Bytes) : TcpConnection :=
  { written data with
    handle := { (written data).handle with socketClosed := true, writeClosed := true }
    writer := .firstTest rest
    poller := .removed
    lastWrite := none
    beforeClosing := some [] }

/-- The removal, between the loads of a `poll_write` and its test of the buffer. -/
def removal (rest : Bytes) : List Action :=
  [.pollWrite rest, .write, .write] ++ List.replicate 12 (.poll inactive)

theorem run_removal (data rest : Bytes) :
    machine.run (written data) (removal rest) = some (removed data rest) := rfl

/-- A `poll_write` that is past its loads parks on a full buffer. -/
theorem run_parks {state : TcpConnection} {data : Bytes} (point : state.writer = .firstTest data)
    (full : state.handle.sendBuffer.isFull = true) :
    machine.run state [.write, .write, .write]
      = some { state with
          handle := { state.handle with sendWaker := true }
          writer := .idle
          lastWrite := some .pending } := by
  have first : state.writeStep = some { state with writer := .register data } := by
    rw [writeStep, point]
    dsimp only
    rw [if_pos full]
  exact (machine.run_cons_eq_some).mpr ⟨_, first, (machine.run_cons_eq_some).mpr ⟨_, rfl,
    (machine.run_cons_eq_some).mpr ⟨_, if_pos full, rfl⟩⟩⟩

/-- Behind a full buffer, a `poll_write` that the removal overtakes parks for good. -/
theorem parks_behind_removal {data : Bytes} (size : data.length = defaultTcpSendBufferSize - 1)
    (rest : Bytes) :
    ∃ final, machine.run new ([.pollWrite data, .write, .write, .write, .write]
        ++ (removal rest ++ [.write, .write, .write])) = some final
      ∧ final.poller = .removed ∧ final.dropper = .held ∧ final.WriterParked
      ∧ final.handle.writeClosed = true ∧ ¬ final.NoLostWakeup := by
  have parked := run_parks (rfl : (removed data rest).writer = .firstTest rest)
    (isFull_written size)
  refine ⟨_, (machine.run_append (run_written data)).trans
    ((machine.run_append (run_removal data rest)).trans parked), rfl, rfl, ⟨rfl, rfl, rfl⟩, rfl, ?_⟩
  intro noLost
  exact Bool.false_ne_true (noLost.writer ⟨rfl, rfl, rfl⟩ (.inr rfl))

/-- **A `poll_write` that the removal overtakes is never woken**: it has loaded `write_closed`, and
parks behind the last wake that `poll_sockets` will ever send. -/
theorem wakeup_lost :
    ∃ final, machine.run new ([.pollWrite (List.replicate (defaultTcpSendBufferSize - 1) 0), .write,
          .write, .write, .write] ++ (removal [1] ++ [.write, .write, .write])) = some final
      ∧ final.poller = .removed ∧ final.dropper = .held ∧ final.WriterParked
      ∧ final.handle.writeClosed = true ∧ ¬ final.NoLostWakeup :=
  parks_behind_removal List.length_replicate [1]

end TcpConnection

end RsTun.Netstack
