/-
**The stream of accepted connections: `TcpListener::poll_next` against the task of the listener.**

`poll_next` tries the channel, registers its waker and tries again; `poll_packets` sends a stream,
then an event, and wakes the waker then. A try, the registration, a send and the wake are one step
each, and the steps of the two sides interleave in any order. A waker that is woken while its task
runs has the task polled again.

* `AcceptStream.accepts_in_order` — the streams come out in the order in which they were emitted.
* `AcceptStream.noLostAccept_iff` — a consumer that is parked has nothing to wait for, or a wake
  ahead of it, **exactly** in the runs in which the task does not end while the consumer is parked:
  the end of the channel wakes no one.
-/

import RsTun.Library.Channel
import RsTun.Library.Machine

namespace RsTun.Netstack

open Library

universe u

/-- Where `poll_next` stands. -/
inductive AcceptPoint where
  | outside
  | firstTry
  | register
  | secondTry
  /-- `Poll::Pending` was returned. -/
  | parked
  /-- `Poll::Ready(None)` was returned. -/
  | ended
  deriving DecidableEq

/-- Where `poll_packets` stands with a new connection. -/
inductive EmitPoint where
  | between
  /-- `iface_notifier.send` -/
  | notify
  | wake
  /-- The task has ended. -/
  | gone
  deriving DecidableEq

/-- The channel and the waker that the two sides share. `accepted` is a record of what `poll_next`
returned. -/
structure AcceptStream (Stream : Type u) where
  socketStream : Channel Stream
  /-- A waker is registered. -/
  registered : Bool
  /-- The waker was woken since the last poll began. -/
  woken : Bool
  acceptor : AcceptPoint
  emitter : EmitPoint
  accepted : List Stream
  deriving DecidableEq

namespace AcceptStream

variable {Stream : Type u}

/-- A new listener. -/
def new : AcceptStream Stream := ⟨.empty, false, false, .outside, .between, []⟩

variable (state : AcceptStream Stream)

/-- `self.socket_stream.try_recv()`, and where `poll_next` goes when the channel is empty. -/
def tryRecv (empty : AcceptPoint) : AcceptStream Stream :=
  match state.socketStream.receive with
  | some (some stream, socketStream) =>
      { state with socketStream, acceptor := .outside, accepted := state.accepted ++ [stream] }
  | some (none, _) => { state with acceptor := .ended }
  | none => { state with acceptor := empty }

/-- A step of `poll_next`. -/
def acceptStep : Option (AcceptStream Stream) :=
  match state.acceptor with
  | .firstTry => some (state.tryRecv .register)
  | .register => some { state with registered := true, acceptor := .secondTry }
  | .secondTry => some (state.tryRecv .parked)
  | _ => none

/-- `tcp_stream_waker.wake()`. -/
def wake : AcceptStream Stream :=
  { state with
    registered := false
    woken := state.woken || state.registered
    emitter := .between }

/-- A step of one of the two sides. -/
inductive Action (Stream : Type u) where
  /-- `poll_next` is called. -/
  | poll
  | accept
  /-- `tcp_stream_emitter.send`. -/
  | emit (stream : Stream)
  /-- The event for `poll_sockets`. -/
  | notify
  | wake
  /-- The task ends, between two connections, and drops the emitter. -/
  | taskEnds

/-- One step. -/
def step : Action Stream → Option (AcceptStream Stream)
  | .poll =>
      if state.acceptor = .outside ∨ state.acceptor = .parked then
        some { state with acceptor := .firstTry, woken := false }
      else none
  | .accept => state.acceptStep
  | .emit stream =>
      match state.emitter, state.socketStream.send stream with
      | .between, .ok socketStream => some { state with socketStream, emitter := .notify }
      | _, _ => none
  | .notify => if state.emitter = .notify then some { state with emitter := .wake } else none
  | .wake => if state.emitter = .wake then some state.wake else none
  | .taskEnds =>
      if state.emitter = .between then
        some { state with
          socketStream := { state.socketStream with senderAlive := false }, emitter := .gone }
      else none

/-- The two sides as a machine. -/
def machine : Machine (AcceptStream Stream) (Action Stream) := ⟨step⟩

/-! ### What is wanted of it -/

/-- The consumer waits, and was not woken. -/
def Parked : Prop := state.acceptor = .parked ∧ state.woken = false

/-- `poll_packets` has a wake to come. -/
def WakeAhead : Prop := state.emitter = .notify ∨ state.emitter = .wake

instance : Decidable state.Parked := inferInstanceAs (Decidable (_ ∧ _))

instance : Decidable state.WakeAhead := inferInstanceAs (Decidable (_ ∨ _))

/-- A consumer that is parked has nothing to take, nor an end to see, or a wake is ahead. -/
def NoLostAccept : Prop :=
  state.Parked → state.WakeAhead
    ∨ state.socketStream.waiting = [] ∧ state.socketStream.senderAlive = true

/-- The task does not end while the consumer is parked. -/
def EndsSeen : Action Stream → Prop
  | .taskEnds => ¬ state.Parked
  | _ => True

instance (action : Action Stream) : Decidable (state.EndsSeen action) :=
  match action with
  | .taskEnds => inferInstanceAs (Decidable (¬ _))
  | .poll | .accept | .emit _ | .notify | .wake => inferInstanceAs (Decidable True)

/-- What carries it: the waker of a consumer that is parked, or is about to be, is registered, and a
stream that comes behind the second try has its wake ahead. -/
structure Watched (state : AcceptStream Stream) : Prop where
  isOpen : state.socketStream.receiverAlive = true
  gone : state.socketStream.senderAlive = false → state.emitter = .gone
  registered : state.woken = false →
    state.acceptor = .secondTry ∨ state.acceptor = .parked → state.registered = true
  parked : state.Parked → state.WakeAhead ∨ state.socketStream.waiting = []
  accepted : state.socketStream.received = state.accepted
  ended : state.acceptor = .ended → state.socketStream.Drained

variable {state} {next : AcceptStream Stream}

theorem Watched.new : Watched (new : AcceptStream Stream) where
  isOpen := rfl
  gone := nofun
  registered := fun _ here => here.elim nofun nofun
  parked := fun parked => absurd parked.1 nofun
  accepted := rfl
  ended := nofun

/-! ### The steps -/

/-- **A try takes the first stream, sees the end, or finds nothing.** -/
theorem tryRecv_cases (state : AcceptStream Stream) (empty : AcceptPoint) :
    (∃ stream rest, state.socketStream.waiting = stream :: rest
        ∧ state.tryRecv empty = { state with
          socketStream := { state.socketStream with
            received := state.socketStream.received ++ [stream], waiting := rest }
          acceptor := .outside, accepted := state.accepted ++ [stream] })
      ∨ state.socketStream.Drained ∧ state.tryRecv empty = { state with acceptor := .ended }
      ∨ state.socketStream.waiting = [] ∧ state.socketStream.senderAlive = true
        ∧ state.tryRecv empty = { state with acceptor := empty } := by
  unfold tryRecv Channel.receive
  cases waits : state.socketStream.waiting with
  | cons stream rest => exact .inl ⟨stream, rest, rfl, rfl⟩
  | nil =>
      cases alive : state.socketStream.senderAlive with
      | true => exact .inr (.inr ⟨rfl, rfl, rfl⟩)
      | false => exact .inr (.inl ⟨⟨alive, waits⟩, rfl⟩)

/-- Either try keeps the account. -/
theorem Watched.tryRecv (watched : Watched state) {empty : AcceptPoint}
    (unended : empty ≠ .ended)
    (registers : state.woken = false → empty = .secondTry ∨ empty = .parked →
      state.registered = true) :
    Watched (state.tryRecv empty) := by
  obtain ⟨stream, rest, -, same⟩ | ⟨drained, same⟩ | ⟨waits, -, same⟩ := tryRecv_cases state empty
  · rw [same]
    exact ⟨watched.isOpen, watched.gone, fun _ here => here.elim nofun nofun,
      fun parked => absurd parked.1 nofun, congrArg (· ++ [stream]) watched.accepted, nofun⟩
  · rw [same]
    exact ⟨watched.isOpen, watched.gone, fun _ here => here.elim nofun nofun,
      fun parked => absurd parked.1 nofun, watched.accepted, fun _ => drained⟩
  · rw [same]
    exact ⟨watched.isOpen, watched.gone, registers, fun _ => .inr waits, watched.accepted,
      fun here => absurd here unended⟩

/-- **Every step keeps the account**, whether the task ends or not. -/
theorem Watched.step {action : Action Stream} (watched : Watched state)
    (stepped : state.step action = some next) : Watched next := by
  cases action with
  | poll =>
      rw [AcceptStream.step] at stepped
      split at stepped
      · cases stepped
        refine ⟨watched.isOpen, watched.gone, fun _ here => ?_, fun parked => ?_, watched.accepted,
          fun ended => ?_⟩
        · rcases here with here | here <;> cases here
        · cases parked.1
        · cases ended
      · cases stepped
  | accept =>
      rw [AcceptStream.step, acceptStep] at stepped
      cases point : state.acceptor with
      | firstTry =>
          rw [point] at stepped
          cases stepped
          refine watched.tryRecv (fun ended => by cases ended) fun _ here => ?_
          rcases here with here | here <;> cases here
      | register =>
          rw [point] at stepped
          cases stepped
          refine ⟨watched.isOpen, watched.gone, fun _ _ => rfl, fun parked => ?_,
            watched.accepted, fun ended => ?_⟩
          · cases parked.1
          · cases ended
      | secondTry =>
          rw [point] at stepped
          cases stepped
          exact watched.tryRecv (fun ended => by cases ended)
            fun quiet _ => watched.registered quiet (.inl point)
      | outside | parked | ended =>
          rw [point] at stepped
          cases stepped
  | emit stream =>
      rw [AcceptStream.step, Channel.send, if_pos watched.isOpen] at stepped
      cases point : state.emitter with
      | between =>
          rw [point] at stepped
          cases stepped
          refine ⟨watched.isOpen, fun dead => ?_, watched.registered, fun _ => .inl (.inl rfl),
            watched.accepted, fun ended => ?_⟩
          · rw [watched.gone dead] at point
            cases point
          · rw [watched.gone (watched.ended ended).1] at point
            cases point
      | notify | wake | gone =>
          rw [point] at stepped
          cases stepped
  | notify =>
      rw [AcceptStream.step] at stepped
      split at stepped
      case isTrue point =>
          cases stepped
          refine ⟨watched.isOpen, fun dead => ?_, watched.registered, fun _ => .inl (.inr rfl),
            watched.accepted, watched.ended⟩
          rw [watched.gone dead] at point
          cases point
      case isFalse => cases stepped
  | wake =>
      rw [AcceptStream.step] at stepped
      split at stepped
      case isTrue point =>
          cases stepped
          -- a waker that is needed is registered, so that the consumer is woken
          have notQuiet : (state.woken || state.registered) = false →
              ¬ (state.acceptor = .secondTry ∨ state.acceptor = .parked) := fun quiet here => by
            obtain ⟨unwoken, unregistered⟩ := Bool.or_eq_false_iff.mp quiet
            rw [watched.registered unwoken here] at unregistered
            cases unregistered
          refine ⟨watched.isOpen, fun dead => ?_, fun quiet here => absurd here (notQuiet quiet),
            fun parked => absurd (.inr parked.1) (notQuiet parked.2), watched.accepted,
            watched.ended⟩
          rw [watched.gone dead] at point
          cases point
      case isFalse => cases stepped
  | taskEnds =>
      rw [AcceptStream.step] at stepped
      split at stepped
      case isTrue point =>
          cases stepped
          refine ⟨watched.isOpen, fun _ => rfl, watched.registered, fun parked => .inr ?_,
            watched.accepted, fun ended => ⟨rfl, (watched.ended ended).2⟩⟩
          refine (watched.parked parked).resolve_left fun ahead => ?_
          rw [WakeAhead, point] at ahead
          rcases ahead with ahead | ahead <;> cases ahead
      case isFalse => cases stepped

/-! ### In order -/

/-- The stream that an action emits. -/
def Action.emitted : Action Stream → List Stream
  | .emit stream => [stream]
  | _ => []

/-- A step sends what it emits, and nothing else. -/
theorem step_sent {action : Action Stream} (watched : Watched state)
    (stepped : state.step action = some next) :
    next.socketStream.sent = state.socketStream.sent ++ action.emitted := by
  have tried : ∀ empty, (state.tryRecv empty).socketStream.sent = state.socketStream.sent := by
    intro empty
    obtain ⟨stream, rest, waits, same⟩ | ⟨-, same⟩ | ⟨-, -, same⟩ := tryRecv_cases state empty
    · rw [same, Channel.sent, Channel.sent, waits]
      exact List.append_assoc _ _ _
    · rw [same]
    · rw [same]
  cases action with
  | accept =>
      rw [AcceptStream.step, acceptStep] at stepped
      show next.socketStream.sent = state.socketStream.sent ++ []
      rw [List.append_nil]
      split at stepped
      · cases stepped
        exact tried _
      · cases stepped
        rfl
      · cases stepped
        exact tried _
      · cases stepped
  | emit stream =>
      rw [AcceptStream.step, Channel.send, if_pos watched.isOpen] at stepped
      split at stepped
      case h_1 sent =>
          cases sent
          cases stepped
          exact (List.append_assoc _ _ _).symm
      case h_2 => cases stepped
  | poll | notify | wake | taskEnds =>
      rw [AcceptStream.step] at stepped
      split at stepped
      · cases stepped
        exact (List.append_nil _).symm
      · cases stepped

/-- **The streams come out in the order in which they were emitted, each once**, and all of them
have come out when the end is returned. -/
theorem accepts_in_order {actions : List (Action Stream)} {final : AcceptStream Stream}
    (reached : machine.run new actions = some final) :
    final.accepted ++ final.socketStream.waiting = actions.flatMap Action.emitted
      ∧ (final.acceptor = .ended → final.accepted = actions.flatMap Action.emitted) := by
  have watched : Watched final :=
    Machine.run_invariant (fun before enabled => before.step enabled) Watched.new reached
  have all : final.socketStream.sent = actions.flatMap Action.emitted :=
    @Machine.run_record _ _ machine _ Watched (fun state => state.socketStream.sent) Action.emitted
      (fun before enabled => before.step enabled) step_sent _ _ _ Watched.new reached
  rw [← watched.accepted]
  refine ⟨all, fun ended => ?_⟩
  rw [← all, Channel.sent_of_drained (watched.ended ended)]

/-! ### No lost wake -/

/-- The task has not ended before a consumer that is parked. -/
structure Awaited (state : AcceptStream Stream) : Prop extends Watched state where
  alive : state.Parked → state.socketStream.senderAlive = true

theorem Awaited.noLostAccept (awaited : Awaited state) : state.NoLostAccept := fun parked =>
  (awaited.parked parked).imp_right fun waits => ⟨waits, awaited.alive parked⟩

/-- What every step keeps, unless the task ends before a consumer that is parked. -/
theorem Awaited.step {action : Action Stream} (awaited : Awaited state)
    (seen : state.EndsSeen action) (stepped : state.step action = some next) : Awaited next := by
  refine ⟨awaited.toWatched.step stepped, fun parked => ?_⟩
  cases action with
  | accept =>
      rw [AcceptStream.step, acceptStep] at stepped
      split at stepped
      · cases stepped
        obtain ⟨stream, rest, -, same⟩ | ⟨-, same⟩ | ⟨-, -, same⟩ := tryRecv_cases state .register
        all_goals
          rw [same] at parked
          cases parked.1
      · cases stepped
        cases parked.1
      · cases stepped
        obtain ⟨stream, rest, -, same⟩ | ⟨-, same⟩ | ⟨-, alive, same⟩ := tryRecv_cases state .parked
        · rw [same] at parked
          cases parked.1
        · rw [same] at parked
          cases parked.1
        · rw [same]
          exact alive
      · cases stepped
  | emit stream =>
      rw [AcceptStream.step, Channel.send, if_pos awaited.isOpen] at stepped
      split at stepped
      case h_1 sent =>
          cases sent
          cases stepped
          exact awaited.alive parked
      case h_2 => cases stepped
  | poll =>
      rw [AcceptStream.step] at stepped
      split at stepped
      · cases stepped
        cases parked.1
      · cases stepped
  | notify =>
      rw [AcceptStream.step] at stepped
      split at stepped
      · cases stepped
        exact awaited.alive parked
      · cases stepped
  | wake =>
      rw [AcceptStream.step] at stepped
      split at stepped
      · cases stepped
        exact awaited.alive ⟨parked.1, (Bool.or_eq_false_iff.mp parked.2).1⟩
      · cases stepped
  | taskEnds =>
      rw [AcceptStream.step] at stepped
      split at stepped
      · cases stepped
        exact absurd parked seen
      · cases stepped

/-- The end of the task before a consumer that is parked is lost at once. -/
theorem lost_of_unseen {action : Action Stream}
    (unseen : ¬ state.EndsSeen action) (stepped : state.step action = some next) :
    ¬ next.NoLostAccept := by
  cases action with
  | taskEnds =>
      have parked : state.Parked := of_not_not unseen
      rw [AcceptStream.step] at stepped
      split at stepped
      · cases stepped
        exact fun none => (none parked).elim (fun ahead => ahead.elim nofun nofun)
          fun alive => absurd alive.2 nofun
      · cases stepped
  | poll | accept | emit | notify | wake => exact absurd trivial unseen

/-- **No wake is lost, in a run, exactly when the task does not end before a consumer that is
parked.** -/
theorem noLostAccept_iff {actions : List (Action Stream)} {final : AcceptStream Stream}
    (reached : machine.run new actions = some final) :
    machine.Throughout NoLostAccept new actions ↔ machine.Meets EndsSeen new actions :=
  Machine.throughout_iff_meets Awaited.noLostAccept Awaited.step
    (fun _ => lost_of_unseen) ⟨Watched.new, fun parked => absurd parked.1 nofun⟩
    reached

/-- A consumer that parks, is woken for a stream, takes it, and parks again. -/
def sampleAccepts : List (Action Nat) :=
  [.poll, .accept, .accept, .accept, .emit 7, .notify, .wake, .poll, .accept, .poll, .accept,
    .accept, .accept]

theorem accepts_in_order_sample : ∃ final, machine.run new sampleAccepts = some final
    ∧ final.accepted ++ final.socketStream.waiting = [7] := by
  have ran : (machine.run new sampleAccepts).map AcceptStream.acceptor = some .parked := by decide
  obtain ⟨final, reached, -⟩ := Option.map_eq_some_iff.mp ran
  exact ⟨final, reached, (accepts_in_order reached).1⟩

theorem noLostAccept_iff_sample : machine.Throughout NoLostAccept new sampleAccepts := by
  have ran : (machine.run new sampleAccepts).map AcceptStream.acceptor = some .parked := by decide
  obtain ⟨final, reached, -⟩ := Option.map_eq_some_iff.mp ran
  exact (noLostAccept_iff reached).mpr (by decide)

end AcceptStream

end RsTun.Netstack
