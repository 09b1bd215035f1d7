/-
**What leaves the userspace stack: the device, the UDP writer and the merged stream.**

Three tasks share the two outbound channels. `poll_sockets` lets smoltcp take the injected frames
and send its own through the tokens of the device; the holders of a `SplitWrite` send datagrams; and
the writer of the TUN polls `StackSplitStream`. A machine takes one call of any of them as a step.

smoltcp is known by its documentation: it consumes every `RxToken`, and uses or drops the `TxToken`.
`select` polls its streams in turn, and an action names the one it begins with, so that the results
hold for any turns. `PacketBuilder` is a parameter.

* `Outbound.Refines.consume_receive` — a packet of the device is one in the machine of the listener.
* `Outbound.nothing_lost` — in every run the frames come to smoltcp, and the packets out of the
  stream, in order and once, and at most a datagram for which the channel is full is lost.
* `Outbound.nothing_stalls` — from every state that a run reaches, one round of the two loops more
  than there is backlog brings everything through, whatever smoltcp answers and whichever stream is
  first.
-/

import RsTun.Library.Bounded
import RsTun.Netstack.TcpListener

namespace RsTun.Netstack

open Library Library.Bytes

/-! ### `SplitWrite` -/

/-- `PacketBuilder`: source, destination, TTL or hop limit, ports and payload make a packet. -/
structure PacketBuilder where
  ipv4 : Ipv4Addr → Ipv4Addr → UInt8 → UInt16 → UInt16 → Bytes → Option Bytes
  ipv6 : Ipv6Addr → Ipv6Addr → UInt8 → UInt16 → UInt16 → Bytes → Option Bytes

namespace SplitWrite

/-- The errors of `SplitWrite::send`. -/
inductive SendError where
  /-- "UDP socket only supports IPv4 and IPv6". -/
  | invalidInput
  /-- The error of the builder. -/
  | unwritable
  /-- "packet outbound channel closed". -/
  | closed
  deriving DecidableEq

/-- The packet of a datagram. -/
def build (builder : PacketBuilder) (packet : UdpPacket) : Except SendError Bytes :=
  match packet.localAddr, packet.remoteAddr with
  | .v4 src srcPort, .v4 dst dstPort =>
      (builder.ipv4 src dst 20 srcPort dstPort packet.data).elim (.error .unwritable) .ok
  | .v6 src srcPort _ _, .v6 dst dstPort _ _ =>
      (builder.ipv6 src dst 20 srcPort dstPort packet.data).elim (.error .unwritable) .ok
  | _, _ => .error .invalidInput

/-- `SplitWrite::send`. -/
def send {capacity : Nat} (builder : PacketBuilder) (packet : UdpPacket)
    (channel : Bounded Bytes capacity) : Except SendError Unit × Bounded Bytes capacity :=
  if packet.data = [] then (.ok (), channel)
  else
    match build builder packet with
    | .error reason => (.error reason, channel)
    | .ok built =>
        match channel.trySend built with
        | .ok next => (.ok (), next)
        -- "drop the packet if the outbound channel is full"
        | .error .full => (.ok (), channel)
        | .error .closed => (.error .closed, channel)

/-- The packet that `send` offers to the channel. -/
def offer (builder : PacketBuilder) (packet : UdpPacket) : Option Bytes :=
  if packet.data = [] then none else (build builder packet).toOption

/-- There is a packet to send, and the channel does not take it. -/
def loses {capacity : Nat} (builder : PacketBuilder) (packet : UdpPacket)
    (channel : Bounded Bytes capacity) : Bool :=
  match offer builder packet with
  | none => false
  | some built => !(channel.trySend built).isOk

end SplitWrite

/-! ### The device and the stream -/

/-- What `Device::receive` or `Device::transmit` has returned, and smoltcp has not used yet. -/
inductive Token where
  /-- An `RxToken` with its packet, and a `TxToken`. -/
  | pair (frame : Bytes)
  /-- A `TxToken`. -/
  | transmit
  deriving DecidableEq

/-- The packet of an `RxToken`. -/
def Token.frame : Token → Option Bytes
  | .pair frame => some frame
  | .transmit => none

/-- The two streams that `StackSplitStream` selects from. -/
inductive Side where
  | tcp
  | udp
  deriving DecidableEq

/-- The other stream. -/
def Side.other : Side → Side
  | .tcp => .udp
  | .udp => .tcp

/-- The queue of the device and the two outbound channels. The fields behind `token` are a record
only: the frames that smoltcp was given, the packets that it sent, the datagrams that were offered
and how many of them were not taken, what the stream returned, and whether it has ended. -/
structure Outbound (capacity : Nat) where
  rxQueue : Channel Bytes
  tcp : Bounded Bytes capacity
  udp : Bounded Bytes capacity
  token : Option Token
  handed : List Bytes
  emitted : List Bytes
  offered : List Bytes
  refused : Nat
  output : List (Side × Bytes)
  ended : Bool

namespace Outbound

variable {capacity : Nat}

/-- A new stack. -/
def new : Outbound capacity := ⟨.empty, .empty, .empty, none, [], [], [], 0, [], false⟩

variable (state : Outbound capacity)

/-- `Device::receive`: the slot is reserved first. A permit is dropped by the `?` behind it. -/
def receive : Option (Outbound capacity) :=
  match state.tcp.tryReserve with
  | .error _ => none
  | .ok tcp =>
      match state.rxQueue.receive with
      | some (some frame, rxQueue) => some { state with rxQueue, tcp, token := some (.pair frame) }
      | _ => none

/-- `Device::transmit`. -/
def transmit : Option (Outbound capacity) :=
  match state.tcp.tryReserve with
  | .error _ => none
  | .ok tcp => some { state with tcp, token := some .transmit }

/-- smoltcp consumes the `TxToken` for a packet, or drops it. -/
def consumeTx (packet : Option Bytes) : Outbound capacity :=
  match packet.bind fun packet => (state.tcp.sendPermit packet).map (packet, ·) with
  | some (packet, tcp) => { state with tcp, token := none, emitted := state.emitted ++ [packet] }
  | none => { state with tcp := state.tcp.dropPermit, token := none }

/-- smoltcp uses the tokens that it has: it consumes the `RxToken`, and sends a packet or none. -/
def consume (packet : Option Bytes) : Outbound capacity :=
  match state.token with
  | none => state
  | some token =>
      ({ state with handed := state.handed ++ token.frame.toList } : Outbound capacity).consumeTx
        packet

/-- `ReceiverStream::poll_next`. -/
def pollSide : Side → Option (Option Bytes × Outbound capacity)
  | .tcp => state.tcp.receive.map fun (item, tcp) => (item, { state with tcp })
  | .udp => state.udp.receive.map fun (item, udp) => (item, { state with udp })

/-- `StackSplitStream::poll_next`, where `select` begins with this stream: the other one is polled
when nothing comes, and the end is the end of both. -/
def pollNext (first : Side) : Poll (Option (Side × Bytes)) × Outbound capacity :=
  match state.pollSide first with
  | some (some packet, next) => (.ready (some (first, packet)), next)
  | polled =>
      match state.pollSide first.other with
      | some (some packet, next) => (.ready (some (first.other, packet)), next)
      | some (none, _) => (if polled.isSome then .ready none else .pending, state)
      | none => (.pending, state)

/-- The record behind a poll. -/
def recordPoll (polled : Poll (Option (Side × Bytes)) × Outbound capacity) : Outbound capacity :=
  match polled.1 with
  | .pending => polled.2
  | .ready none => { polled.2 with ended := true }
  | .ready (some item) => { polled.2 with output := polled.2.output ++ [item] }

/-- A call of `SplitWrite::send`, with its record. -/
def recordSend (builder : PacketBuilder) (packet : UdpPacket) : Outbound capacity :=
  { state with
    udp := (SplitWrite.send builder packet state.udp).2
    offered := state.offered ++ (SplitWrite.offer builder packet).toList
    refused := state.refused + (SplitWrite.loses builder packet state.udp).toNat }

/-- A call of one of the tasks, or the end of one. -/
inductive Action where
  /-- `device_injector.send`. -/
  | inject (frame : Bytes)
  | receive
  | transmit
  | consume (packet : Option Bytes)
  | send (packet : UdpPacket)
  | poll (first : Side)
  /-- The task of the listener ends, and its device with it. -/
  | listenerEnds
  /-- The last `SplitWrite` is dropped. -/
  | writersDropped
  /-- The stream is dropped. -/
  | streamDropped

/-- One step. A token borrows the device, so that there is one pair at a time, and no end of the
device before it is gone. -/
def step (builder : PacketBuilder) : Action → Option (Outbound capacity)
  | .inject frame =>
      match state.rxQueue.send frame with
      | .ok rxQueue => if state.tcp.senderAlive then some { state with rxQueue } else none
      | .error _ => none
  | .receive =>
      if state.token = none ∧ state.tcp.senderAlive then some (state.receive.getD state) else none
  | .transmit =>
      if state.token = none ∧ state.tcp.senderAlive then some (state.transmit.getD state) else none
  | .consume packet => some (state.consume packet)
  | .send packet =>
      if state.udp.senderAlive then some (state.recordSend builder packet) else none
  | .poll first =>
      if state.tcp.receiverAlive then some (recordPoll (state.pollNext first)) else none
  | .listenerEnds =>
      if state.token = none then some { state with tcp := state.tcp.closeSender } else none
  | .writersDropped => some { state with udp := state.udp.closeSender }
  | .streamDropped =>
      some { state with tcp := state.tcp.closeReceiver, udp := state.udp.closeReceiver }

/-- The three tasks as a machine. -/
def machine (builder : PacketBuilder) : Machine (Outbound capacity) Action where
  step := fun state => step state builder

/-- What came out of one of the two channels. -/
def outputOf (side : Side) : List Bytes :=
  state.output.filterMap fun item => if item.1 = side then some item.2 else none

/-- What waits in one of the two channels. -/
def waitingOf : Side → List Bytes
  | .tcp => state.tcp.waiting
  | .udp => state.udp.waiting

/-- The frames that an action injects. -/
def Action.injected : Action → List Bytes
  | .inject frame => [frame]
  | _ => []

/-- The frames that a run injects. -/
def injected (actions : List Action) : List Bytes := actions.flatMap Action.injected

/-! ### What the calls do -/

/-- **A call of `SplitWrite::send` sends its packet, or loses it, or has none.** -/
theorem send_cases (builder : PacketBuilder) (packet : UdpPacket)
    (channel : Bounded Bytes capacity) :
    (∃ built, SplitWrite.offer builder packet = some built
        ∧ channel.trySend built = .ok (SplitWrite.send builder packet channel).2
        ∧ SplitWrite.loses builder packet channel = false)
      ∨ (∃ built, SplitWrite.offer builder packet = some built
        ∧ SplitWrite.loses builder packet channel = true
        ∧ (SplitWrite.send builder packet channel).2 = channel)
      ∨ SplitWrite.offer builder packet = none
        ∧ SplitWrite.loses builder packet channel = false
        ∧ (SplitWrite.send builder packet channel).2 = channel := by
  unfold SplitWrite.loses SplitWrite.send SplitWrite.offer
  split
  case isTrue => exact .inr (.inr ⟨rfl, rfl, rfl⟩)
  case isFalse =>
      cases SplitWrite.build builder packet with
      | error reason => exact .inr (.inr ⟨rfl, rfl, rfl⟩)
      | ok built =>
          dsimp only [Except.toOption]
          cases sent : channel.trySend built with
          | ok next => exact .inl ⟨built, rfl, sent, rfl⟩
          | error reason => cases reason <;> exact .inr (.inl ⟨built, rfl, rfl, rfl⟩)

/-- A poll took the first packet that waited in one of the channels. -/
structure Took (side : Side) (packet : Bytes) (next : Outbound capacity) : Prop where
  waiting : state.waitingOf side = packet :: next.waitingOf side
  others : ∀ other, other ≠ side → next.waitingOf other = state.waitingOf other
  rxQueue : next.rxQueue = state.rxQueue
  token : next.token = state.token
  reserved : next.tcp.reserved = state.tcp.reserved
  tcpAlive : next.tcp.senderAlive = state.tcp.senderAlive
  tcpOpen : next.tcp.receiverAlive = state.tcp.receiverAlive
  udpAlive : next.udp.senderAlive = state.udp.senderAlive
  handed : next.handed = state.handed
  emitted : next.emitted = state.emitted
  offered : next.offered = state.offered
  refused : next.refused = state.refused
  output : next.output = state.output
  ended : next.ended = state.ended

variable {state} {next : Outbound capacity}

theorem pollSide_cases {side : Side} {result : Option Bytes}
    (polled : state.pollSide side = some (result, next)) :
    (∃ packet, result = some packet ∧ state.Took side packet next)
      ∨ result = none ∧ state.waitingOf side = [] := by
  cases side with
  | tcp =>
      obtain ⟨⟨item, tcp⟩, received, here⟩ := Option.map_eq_some_iff.mp polled
      cases here
      obtain ⟨packet, rest, waits, rfl, -, left, reserved, alive, isOpen⟩ | ⟨⟨-, empty⟩, rfl, -⟩ :=
        Bounded.receive_cases received
      · refine .inl ⟨packet, rfl, waits.trans (congrArg _ left.symm), fun other differs => ?_, rfl,
          rfl, reserved, alive, isOpen, rfl, rfl, rfl, rfl, rfl, rfl, rfl⟩
        cases other with
        | tcp => exact absurd rfl differs
        | udp => rfl
      · exact .inr ⟨rfl, empty⟩
  | udp =>
      obtain ⟨⟨item, udp⟩, received, here⟩ := Option.map_eq_some_iff.mp polled
      cases here
      obtain ⟨packet, rest, waits, rfl, -, left, -, alive, -⟩ | ⟨⟨-, empty⟩, rfl, -⟩ :=
        Bounded.receive_cases received
      · refine .inl ⟨packet, rfl, waits.trans (congrArg _ left.symm), fun other differs => ?_, rfl,
          rfl, rfl, rfl, rfl, alive, rfl, rfl, rfl, rfl, rfl, rfl⟩
        cases other with
        | tcp => rfl
        | udp => exact absurd rfl differs
      · exact .inr ⟨rfl, empty⟩

/-- A channel of which a poll gets nothing is empty. -/
theorem pollSide_none {side : Side} (polled : state.pollSide side = none) :
    state.waitingOf side = [] := by
  cases side with
  | tcp => exact (Bounded.receive_eq_none_iff.mp (Option.map_eq_none_iff.mp polled)).1
  | udp => exact (Bounded.receive_eq_none_iff.mp (Option.map_eq_none_iff.mp polled)).1

/-- A channel that has ended is drained. -/
theorem pollSide_ended {side : Side} (polled : state.pollSide side = some (none, next)) :
    match side with
    | .tcp => state.tcp.Drained
    | .udp => state.udp.Drained := by
  cases side with
  | tcp =>
      obtain ⟨⟨item, tcp⟩, received, here⟩ := Option.map_eq_some_iff.mp polled
      cases here
      obtain ⟨packet, rest, -, nothing, -⟩ | ⟨drained, -⟩ := Bounded.receive_cases received
      · cases nothing
      · exact drained
  | udp =>
      obtain ⟨⟨item, udp⟩, received, here⟩ := Option.map_eq_some_iff.mp polled
      cases here
      obtain ⟨packet, rest, -, nothing, -⟩ | ⟨drained, -⟩ := Bounded.receive_cases received
      · cases nothing
      · exact drained

/-- **A poll of the stream takes the first packet of one channel, or both are empty; and it ends
where both are drained.** -/
theorem pollNext_cases (state : Outbound capacity) (first : Side) :
    (∃ side packet next, state.pollNext first = (.ready (some (side, packet)), next)
        ∧ state.Took side packet next)
      ∨ (∀ side, state.waitingOf side = [])
        ∧ (state.pollNext first = (.pending, state)
          ∨ state.pollNext first = (.ready none, state)
            ∧ state.tcp.Drained ∧ state.udp.Drained) := by
  have both : state.waitingOf first = [] → state.waitingOf first.other = [] →
      ∀ side, state.waitingOf side = [] := by
    intro one other side
    cases first <;> cases side <;> assumption
  unfold pollNext
  cases polled : state.pollSide first with
  | none =>
      cases second : state.pollSide first.other with
      | none => exact .inr ⟨both (pollSide_none polled) (pollSide_none second), .inl rfl⟩
      | some result =>
          obtain ⟨item, next⟩ := result
          obtain ⟨packet, rfl, took⟩ | ⟨rfl, empty⟩ := pollSide_cases second
          · exact .inl ⟨first.other, packet, next, rfl, took⟩
          · exact .inr ⟨both (pollSide_none polled) empty, .inl rfl⟩
  | some result =>
      obtain ⟨item, next⟩ := result
      obtain ⟨packet, rfl, took⟩ | ⟨rfl, empty⟩ := pollSide_cases polled
      · exact .inl ⟨first, packet, next, rfl, took⟩
      · cases second : state.pollSide first.other with
        | none => exact .inr ⟨both empty (pollSide_none second), .inl rfl⟩
        | some result =>
            obtain ⟨item, next⟩ := result
            obtain ⟨packet, rfl, took⟩ | ⟨rfl, otherEmpty⟩ := pollSide_cases second
            · exact .inl ⟨first.other, packet, next, rfl, took⟩
            · have one := pollSide_ended polled
              have other := pollSide_ended second
              refine .inr ⟨both empty otherEmpty, .inr ⟨rfl, ?_⟩⟩
              cases first with
              | tcp => exact ⟨one, other⟩
              | udp => exact ⟨other, one⟩

/-- **`Device::receive` takes the first frame, where the outbound channel has room for an answer.**
-/
theorem receive_eq_some {state next : Outbound capacity} (received : state.receive = some next) :
    ∃ frame rest tcp, state.rxQueue.waiting = frame :: rest ∧ state.tcp.tryReserve = .ok tcp
      ∧ next = { state with
          rxQueue := { state.rxQueue with
            received := state.rxQueue.received ++ [frame], waiting := rest }
          tcp, token := some (.pair frame) } := by
  unfold receive at received
  split at received
  case h_1 => cases received
  case h_2 tcp reserved =>
      split at received
      case h_1 frame rxQueue taken =>
          cases received
          obtain ⟨_, rest, waits, same, rfl⟩ | ⟨-, nothing, -⟩ := Channel.receive_cases taken
          · cases same
            exact ⟨frame, rest, tcp, waits, reserved, rfl⟩
          · cases nothing
      case h_2 => cases received

/-- The device gives a frame out where one waits and the outbound channel is open and has room. -/
theorem receive_isSome {state : Outbound capacity} (alive : state.tcp.receiverAlive = true)
    (room : state.tcp.HasRoom) {frame : Bytes} {rest : List Bytes}
    (waits : state.rxQueue.waiting = frame :: rest) : ∃ next, state.receive = some next := by
  obtain ⟨tcp, reserved⟩ := Bounded.tryReserve_isOk alive room
  rw [receive, reserved, Channel.receive, waits]
  exact ⟨_, rfl⟩

/-- A packet of smoltcp, or none, with the token it had. -/
theorem consumeTx_cases {state : Outbound capacity} (packet : Option Bytes) :
    (∃ sent tcp, packet = some sent ∧ state.tcp.sendPermit sent = some tcp
        ∧ state.consumeTx packet
          = { state with tcp, token := none, emitted := state.emitted ++ [sent] })
      ∨ (packet = none ∨ state.tcp.reserved = 0)
        ∧ state.consumeTx packet = { state with tcp := state.tcp.dropPermit, token := none } := by
  unfold consumeTx
  cases packet with
  | none => exact .inr ⟨.inl rfl, rfl⟩
  | some sent =>
      rw [Option.bind_some]
      cases permit : state.tcp.sendPermit sent with
      | some tcp => exact .inl ⟨sent, tcp, rfl, permit, rfl⟩
      | none =>
          refine .inr ⟨.inr (Nat.eq_zero_of_not_pos fun held => ?_), rfl⟩
          obtain ⟨next, sends⟩ := Bounded.sendPermit_isSome held sent
          rw [permit] at sends
          cases sends

/-! ### What every run keeps -/

/-- The frames and packets are accounted for. -/
structure Kept (state : Outbound capacity) : Prop where
  handed : state.rxQueue.received = state.handed ++ (state.token.bind Token.frame).toList
  rxOpen : state.rxQueue.receiverAlive = true
  reserved : state.tcp.reserved = state.token.toList.length
  tcp : state.outputOf .tcp ++ state.tcp.waiting = state.emitted
  udp : (state.outputOf .udp ++ state.udp.waiting).Sublist state.offered
  refused : state.offered.length
    = (state.outputOf .udp ++ state.udp.waiting).length + state.refused
  gone : state.tcp.senderAlive = false → state.token = none
  ended : state.ended = true → state.tcp.Drained ∧ state.udp.Drained

theorem Kept.new : Kept (new : Outbound capacity) :=
  ⟨rfl, rfl, rfl, rfl, .slnil, rfl, fun _ => rfl, nofun⟩

theorem outputOf_append {state : Outbound capacity} {output : List (Side × Bytes)}
    (side taken : Side) (packet : Bytes) (same : output = state.output ++ [(taken, packet)]) :
    ({ state with output } : Outbound capacity).outputOf side
      = state.outputOf side ++ if taken = side then [packet] else [] := by
  subst same
  unfold outputOf
  rw [List.filterMap_append, List.filterMap_cons, List.filterMap_nil]
  by_cases here : taken = side
  · rw [if_pos here, if_pos here]
  · rw [if_neg here, if_neg here]

/-- The packet that a poll took is the next of its channel's. -/
theorem Took.account {state next : Outbound capacity} {taken : Side} {packet : Bytes}
    (took : state.Took taken packet next) (side : Side) :
    (recordPoll (.ready (some (taken, packet)), next)).outputOf side ++ next.waitingOf side
      = state.outputOf side ++ state.waitingOf side := by
  have same : next.outputOf side = state.outputOf side := by
    unfold outputOf
    rw [took.output]
  rw [recordPoll, outputOf_append side taken packet rfl, same]
  by_cases here : taken = side
  · subst here
    rw [if_pos rfl, List.append_assoc, took.waiting]
    rfl
  · rw [if_neg here, List.append_nil, took.others side (Ne.symm here)]

/-- A new token goes with a reserved slot. -/
theorem Kept.token {state : Outbound capacity} (kept : Kept state) (idle : state.token = none)
    (alive : state.tcp.senderAlive = true) {tcp : Bounded Bytes capacity}
    (reserves : state.tcp.tryReserve = .ok tcp) {rxQueue : Channel Bytes} {token : Token}
    (rxOpen : rxQueue.receiverAlive = true)
    (taken : rxQueue.received = state.rxQueue.received ++ token.frame.toList) :
    Kept { state with rxQueue, tcp, token := some token } := by
  obtain ⟨-, -, -, waits, reserved, sender, -⟩ := Bounded.tryReserve_cases reserves
  refine ⟨?_, rxOpen, ?_, ?_, kept.udp, kept.refused, fun gone => ?_, fun ended => ?_⟩
  · have before := kept.handed
    rw [idle] at before
    rw [taken, before, Option.bind_none, Option.toList_none, List.append_nil]
    rfl
  · have before := kept.reserved
    rw [idle] at before
    rw [reserved, before]
    rfl
  · have before := kept.tcp
    rw [← waits] at before
    exact before
  · rw [sender, alive] at gone
    cases gone
  · rw [(kept.ended ended).1.1] at alive
    cases alive

/-- What smoltcp does with its tokens. -/
theorem Kept.consume {state : Outbound capacity} (kept : Kept state) (packet : Option Bytes) :
    Kept (state.consume packet) := by
  unfold Outbound.consume
  cases held : state.token with
  | none => exact kept
  | some token =>
      have one : state.tcp.reserved = 1 := by
        have before := kept.reserved
        rw [held] at before
        exact before
      have alive : state.tcp.senderAlive = true := by
        by_contra dead
        have idle := kept.gone (Bool.eq_false_iff.mpr dead)
        rw [held] at idle
        cases idle
      have notEnded : state.ended ≠ true := fun ended => by
        rw [(kept.ended ended).1.1] at alive
        cases alive
      have handed : state.rxQueue.received = state.handed ++ token.frame.toList := by
        have before := kept.handed
        rw [held] at before
        exact before
      dsimp only
      obtain ⟨sent, tcp, -, permit, eq⟩ | ⟨-, eq⟩ := @consumeTx_cases capacity
        { state with token := some token, handed := state.handed ++ token.frame.toList } packet
      · rw [eq]
        obtain ⟨-, -, waits, reserved, sender, -⟩ := Bounded.sendPermit_cases permit
        refine ⟨handed.trans (List.append_nil _).symm, kept.rxOpen, ?_, ?_, kept.udp, kept.refused,
          fun _ => rfl, fun ended => absurd ended notEnded⟩
        · rw [reserved, one]
          rfl
        · show state.outputOf .tcp ++ tcp.waiting = state.emitted ++ [sent]
          rw [waits, ← List.append_assoc, kept.tcp]
      · rw [eq]
        refine ⟨handed.trans (List.append_nil _).symm, kept.rxOpen, ?_, kept.tcp, kept.udp,
          kept.refused, fun _ => rfl, fun ended => absurd ended notEnded⟩
        show state.tcp.reserved - 1 = 0
        rw [one]

/-- A call of `SplitWrite::send`. -/
theorem Kept.send {state : Outbound capacity} (kept : Kept state)
    (alive : state.udp.senderAlive = true) (builder : PacketBuilder) (packet : UdpPacket) :
    Kept (state.recordSend builder packet) := by
  have notEnded : state.ended ≠ true := fun ended => by
    rw [(kept.ended ended).2.1] at alive
    cases alive
  have rest := fun (udp : Bounded Bytes capacity) (offered : List Bytes) (refused : Nat)
      (order : (state.outputOf .udp ++ udp.waiting).Sublist offered)
      (count : offered.length = (state.outputOf .udp ++ udp.waiting).length + refused) =>
    (⟨kept.handed, kept.rxOpen, kept.reserved, kept.tcp, order, count, kept.gone,
      fun ended => absurd ended notEnded⟩ : Kept { state with udp, offered, refused })
  obtain ⟨built, offers, sent, loses⟩ | ⟨built, offers, loses, same⟩ | ⟨offers, loses, same⟩ :=
    send_cases builder packet state.udp
  · obtain ⟨-, -, -, waits, -⟩ := Bounded.trySend_cases sent
    rw [recordSend, offers, loses]
    apply rest
    · rw [waits, ← List.append_assoc]
      exact kept.udp.append_right _
    · have count := kept.refused
      rw [waits, ← List.append_assoc, Option.toList_some, List.length_append,
        List.length_append, List.length_append, Bool.toNat_false]
      rw [List.length_append] at count
      omega
  · rw [recordSend, offers, loses, same]
    apply rest
    · exact kept.udp.trans (List.sublist_append_left _ _)
    · rw [List.length_append, kept.refused]
      rfl
  · rw [recordSend, offers, loses, same]
    apply rest
    · rw [Option.toList_none, List.append_nil]
      exact kept.udp
    · rw [Option.toList_none, List.append_nil]
      exact kept.refused

/-- A poll of the stream. -/
theorem Kept.poll {state : Outbound capacity} (kept : Kept state) (first : Side) :
    Kept (recordPoll (state.pollNext first)) := by
  obtain ⟨side, packet, next, polled, took⟩ | ⟨-, polled | ⟨polled, tcpDrained, udpDrained⟩⟩ :=
    pollNext_cases state first
  · rw [polled]
    have notEnded : state.ended ≠ true := fun ended => by
      obtain ⟨⟨-, tcpEmpty⟩, -, udpEmpty⟩ := kept.ended ended
      have waits := took.waiting
      cases side with
      | tcp => exact absurd (tcpEmpty.symm.trans waits) nofun
      | udp => exact absurd (udpEmpty.symm.trans waits) nofun
    have tcp := took.account .tcp
    have udp := took.account .udp
    refine ⟨?_, ?_, ?_, ?_, ?_, ?_, fun gone => ?_, fun ended => ?_⟩
    · show next.rxQueue.received = next.handed ++ (next.token.bind Token.frame).toList
      rw [took.rxQueue, took.handed, took.token]
      exact kept.handed
    · show next.rxQueue.receiverAlive = true
      rw [took.rxQueue]
      exact kept.rxOpen
    · show next.tcp.reserved = next.token.toList.length
      rw [took.reserved, took.token]
      exact kept.reserved
    · exact (tcp.trans kept.tcp).trans took.emitted.symm
    · show List.Sublist (_ ++ next.waitingOf .udp) next.offered
      rw [took.offered, udp]
      exact kept.udp
    · show next.offered.length = (_ ++ next.waitingOf .udp).length + next.refused
      rw [took.offered, took.refused, udp]
      exact kept.refused
    · show next.token = none
      rw [took.token]
      exact kept.gone (took.tcpAlive ▸ gone)
    · exact absurd (took.ended ▸ ended) notEnded
  · rw [polled]
    exact kept
  · rw [polled]
    exact ⟨kept.handed, kept.rxOpen, kept.reserved, kept.tcp, kept.udp, kept.refused, kept.gone,
      fun _ => ⟨tcpDrained, udpDrained⟩⟩

/-- **Every step keeps the account.** -/
theorem Kept.step {builder : PacketBuilder} {state next : Outbound capacity} {action : Action}
    (kept : Kept state) (stepped : state.step builder action = some next) : Kept next := by
  cases action with
  | inject frame =>
      rw [Outbound.step] at stepped
      obtain ⟨-, sent⟩ | ⟨dead, -⟩ := Channel.send_cases state.rxQueue frame
      · rw [sent] at stepped
        dsimp only at stepped
        split at stepped
        · cases stepped
          exact ⟨kept.handed, kept.rxOpen, kept.reserved, kept.tcp, kept.udp, kept.refused,
            kept.gone, kept.ended⟩
        · cases stepped
      · rw [kept.rxOpen] at dead
        cases dead
  | receive =>
      rw [Outbound.step] at stepped
      split at stepped
      case isTrue enabled =>
          cases received : state.receive with
          | none =>
              rw [received] at stepped
              cases stepped
              exact kept
          | some after =>
              rw [received] at stepped
              cases stepped
              obtain ⟨frame, rest, tcp, -, reserves, rfl⟩ := receive_eq_some received
              exact kept.token enabled.1 enabled.2 reserves kept.rxOpen rfl
      case isFalse => cases stepped
  | transmit =>
      rw [Outbound.step] at stepped
      split at stepped
      case isTrue enabled =>
          cases stepped
          unfold Outbound.transmit
          cases reserves : state.tcp.tryReserve with
          | error => exact kept
          | ok tcp =>
              exact @Kept.token _ _ kept enabled.1 enabled.2 _ reserves _ .transmit kept.rxOpen
                (List.append_nil _).symm
      case isFalse => cases stepped
  | consume packet =>
      cases stepped
      exact kept.consume packet
  | send packet =>
      rw [Outbound.step] at stepped
      split at stepped
      case isTrue alive =>
          cases stepped
          exact kept.send alive builder packet
      case isFalse => cases stepped
  | poll first =>
      rw [Outbound.step] at stepped
      split at stepped
      · cases stepped
        exact kept.poll first
      · cases stepped
  | listenerEnds =>
      rw [Outbound.step] at stepped
      split at stepped
      case isTrue idle =>
          cases stepped
          exact ⟨kept.handed, kept.rxOpen, kept.reserved, kept.tcp, kept.udp, kept.refused,
            fun _ => idle, fun ended => ⟨⟨rfl, (kept.ended ended).1.2⟩, (kept.ended ended).2⟩⟩
      case isFalse => cases stepped
  | writersDropped =>
      cases stepped
      exact ⟨kept.handed, kept.rxOpen, kept.reserved, kept.tcp, kept.udp, kept.refused, kept.gone,
        fun ended => ⟨(kept.ended ended).1, rfl, (kept.ended ended).2.2⟩⟩
  | streamDropped =>
      cases stepped
      exact ⟨kept.handed, kept.rxOpen, kept.reserved, kept.tcp, kept.udp, kept.refused, kept.gone,
        kept.ended⟩

/-! ### In order, and once -/

section Runs

variable {builder : PacketBuilder} {final : Outbound capacity}

/-- The frames of the queue, taken or not, are those that were injected. -/
theorem step_sent {action : Action} (kept : Kept state)
    (stepped : state.step builder action = some next) :
    next.rxQueue.sent = state.rxQueue.sent ++ action.injected := by
  have unchanged : action.injected = [] → next.rxQueue = state.rxQueue →
      next.rxQueue.sent = state.rxQueue.sent ++ action.injected := fun none same => by
    rw [none, same, List.append_nil]
  cases action with
  | inject frame =>
      rw [Outbound.step] at stepped
      obtain ⟨-, sent⟩ | ⟨dead, -⟩ := Channel.send_cases state.rxQueue frame
      · rw [sent] at stepped
        dsimp only at stepped
        split at stepped
        · cases stepped
          exact (List.append_assoc _ _ _).symm
        · cases stepped
      · rw [kept.rxOpen] at dead
        cases dead
  | receive =>
      rw [Outbound.step] at stepped
      split at stepped
      · cases received : state.receive with
        | none =>
            rw [received] at stepped
            cases stepped
            exact unchanged rfl rfl
        | some after =>
            rw [received] at stepped
            cases stepped
            obtain ⟨frame, rest, tcp, waits, -, rfl⟩ := receive_eq_some received
            show (state.rxQueue.received ++ [frame]) ++ rest = state.rxQueue.sent ++ []
            rw [Channel.sent, waits, List.append_assoc, List.append_nil]
            rfl
      · cases stepped
  | transmit =>
      rw [Outbound.step] at stepped
      split at stepped
      · cases stepped
        refine unchanged rfl ?_
        unfold Outbound.transmit
        split <;> rfl
      · cases stepped
  | consume packet =>
      cases stepped
      refine unchanged rfl ?_
      unfold Outbound.consume
      split
      · rfl
      · unfold consumeTx
        split <;> rfl
  | send packet =>
      rw [Outbound.step] at stepped
      split at stepped
      · cases stepped
        exact unchanged rfl rfl
      · cases stepped
  | poll first =>
      rw [Outbound.step] at stepped
      split at stepped
      · cases stepped
        refine unchanged rfl ?_
        obtain ⟨side, packet, after, polled, took⟩ | ⟨-, polled | ⟨polled, -⟩⟩ :=
          pollNext_cases state first
        · rw [polled]
          exact took.rxQueue
        · rw [polled]
          rfl
        · rw [polled]
          rfl
      · cases stepped
  | listenerEnds =>
      rw [Outbound.step] at stepped
      split at stepped
      · cases stepped
        exact unchanged rfl rfl
      · cases stepped
  | writersDropped =>
      cases stepped
      exact unchanged rfl rfl
  | streamDropped =>
      cases stepped
      exact unchanged rfl rfl

theorem run_sent {actions : List Action} {state : Outbound capacity} (kept : Kept state)
    (reached : (machine builder).run state actions = some final) :
    final.rxQueue.sent = state.rxQueue.sent ++ injected actions :=
  @Machine.run_record _ _ (machine builder) _ Kept (fun state => state.rxQueue.sent) Action.injected
    (fun before enabled => before.step enabled) step_sent _ _ _ kept reached

/-- A datagram that is sent finds room in its channel. -/
def FindsRoom (builder : PacketBuilder) (state : Outbound capacity) : Action → Prop
  | .send packet => (SplitWrite.offer builder packet).isSome = true →
      state.udp.receiverAlive = true ∧ state.udp.HasRoom
  | _ => True

theorem loses_eq_false_iff {packet : UdpPacket} {channel : Bounded Bytes capacity} :
    SplitWrite.loses builder packet channel = false
      ↔ ((SplitWrite.offer builder packet).isSome = true →
        channel.receiverAlive = true ∧ channel.HasRoom) := by
  unfold SplitWrite.loses
  cases SplitWrite.offer builder packet with
  | none => exact ⟨fun _ => nofun, fun _ => rfl⟩
  | some built =>
      rw [Bool.not_eq_eq_eq_not, Bool.not_false, Bounded.trySend_isOk_iff]
      exact ⟨fun here _ => here, fun here => here rfl⟩

/-- A step counts a datagram that finds no room, and forgets none. -/
theorem step_refused {action : Action} (stepped : state.step builder action = some next) :
    state.refused ≤ next.refused
      ∧ (next.refused = state.refused ↔ FindsRoom builder state action) := by
  have unchanged : next.refused = state.refused → FindsRoom builder state action →
      state.refused ≤ next.refused
        ∧ (next.refused = state.refused ↔ FindsRoom builder state action) := fun same finds =>
    ⟨Nat.le_of_eq same.symm, fun _ => finds, fun _ => same⟩
  cases action with
  | inject frame =>
      rw [Outbound.step] at stepped
      split at stepped
      · split at stepped
        · cases stepped
          exact unchanged rfl trivial
        · cases stepped
      · cases stepped
  | receive =>
      rw [Outbound.step] at stepped
      split at stepped
      · cases stepped
        refine unchanged ?_ trivial
        cases received : state.receive with
        | none => rfl
        | some after =>
            obtain ⟨frame, rest, tcp, -, -, rfl⟩ := receive_eq_some received
            rfl
      · cases stepped
  | transmit =>
      rw [Outbound.step] at stepped
      split at stepped
      · cases stepped
        refine unchanged ?_ trivial
        unfold Outbound.transmit
        split <;> rfl
      · cases stepped
  | consume packet =>
      cases stepped
      refine unchanged ?_ trivial
      unfold Outbound.consume
      split
      · rfl
      · unfold consumeTx
        split <;> rfl
  | send packet =>
      rw [Outbound.step] at stepped
      split at stepped
      · cases stepped
        refine ⟨Nat.le_add_right _ _, ?_⟩
        show state.refused + _ = state.refused ↔ _
        rw [Nat.add_eq_left, Bool.toNat_eq_zero, loses_eq_false_iff]
        rfl
      · cases stepped
  | poll first =>
      rw [Outbound.step] at stepped
      split at stepped
      · cases stepped
        refine unchanged ?_ trivial
        obtain ⟨side, packet, after, polled, took⟩ | ⟨-, polled | ⟨polled, -⟩⟩ :=
          pollNext_cases state first
        · rw [polled]
          exact took.refused
        · rw [polled]
          rfl
        · rw [polled]
          rfl
      · cases stepped
  | listenerEnds =>
      rw [Outbound.step] at stepped
      split at stepped
      · cases stepped
        exact unchanged rfl trivial
      · cases stepped
  | writersDropped =>
      cases stepped
      exact unchanged rfl trivial
  | streamDropped =>
      cases stepped
      exact unchanged rfl trivial

theorem run_refused {actions : List Action}
    (reached : (machine builder).run state actions = some final) :
    state.refused ≤ final.refused
      ∧ (final.refused = state.refused
        ↔ (machine builder).Meets (FindsRoom builder) state actions) := by
  induction actions generalizing state with
  | nil =>
      cases reached
      exact ⟨Nat.le_refl _, fun _ => trivial, fun _ => rfl⟩
  | cons action rest ih =>
      obtain ⟨next, enabled, later⟩ := ((machine builder).run_cons_eq_some).mp reached
      obtain ⟨grows, same⟩ := step_refused enabled
      obtain ⟨growsOn, sameOn⟩ := ih later
      have meets : (machine builder).Meets (FindsRoom builder) state (action :: rest)
          ↔ FindsRoom builder state action
            ∧ (machine builder).Meets (FindsRoom builder) next rest := by
        refine and_congr_right' ⟨fun all => all next enabled, fun here other goes => ?_⟩
        cases enabled.symm.trans goes
        exact here
      rw [meets, ← same, ← sameOn]
      omega

/-- **Nothing that enters is lost, doubled or overtaken.** The frames that smoltcp was given, with
the one in its hands and those in the queue, are those that were injected; what came out of the
stream, with what waits, is what smoltcp sent; of the datagrams that were offered it is all, exactly
when each found room, and some of them in order otherwise; and a stream that ends has returned them.
-/
theorem nothing_lost {actions : List Action}
    (reached : (machine builder).run (new : Outbound capacity) actions = some final) :
    final.handed ++ (final.token.bind Token.frame).toList ++ final.rxQueue.waiting
        = injected actions
      ∧ final.outputOf .tcp ++ final.tcp.waiting = final.emitted
      ∧ (final.outputOf .udp ++ final.udp.waiting).Sublist final.offered
      ∧ (final.outputOf .udp ++ final.udp.waiting = final.offered
        ↔ (machine builder).Meets (FindsRoom builder) (new : Outbound capacity) actions)
      ∧ (final.ended = true → final.tcp.waiting = [] ∧ final.udp.waiting = []) := by
  have kept : Kept final :=
    Machine.run_invariant (fun before enabled => before.step enabled) Kept.new reached
  obtain ⟨-, counted⟩ := run_refused reached
  refine ⟨?_, kept.tcp, kept.udp, ?_, fun ended =>
    ⟨(kept.ended ended).1.2, (kept.ended ended).2.2⟩⟩
  · rw [← kept.handed]
    exact run_sent Kept.new reached
  · rw [← counted]
    have count := kept.refused
    constructor
    · intro all
      rw [all] at count
      exact Nat.left_eq_add.mp count
    · intro none
      exact kept.udp.eq_of_length (by rw [count, none]; rfl)

/-- A builder that writes the payload alone. -/
def bareBuilder : PacketBuilder :=
  ⟨fun _ _ _ _ _ data => some data, fun _ _ _ _ _ data => some data⟩

/-- A full outbound channel of one slot: the frame waits in the queue until a packet was taken. -/
def sampleFull : List Action :=
  [.transmit, .consume (some [60]), .inject [1], .receive, .poll .udp, .receive,
    .consume (some [2]), .poll .tcp]

theorem nothing_lost_sample : ∃ final : Outbound 1,
    (machine bareBuilder).run (new : Outbound 1) sampleFull = some final
      ∧ final.handed = [[1]] ∧ final.emitted = [[60], [2]] := by
  have ran : ((machine bareBuilder).run (new : Outbound 1) sampleFull).map (fun final =>
      ((final.token, final.rxQueue.waiting), final.outputOf .tcp, final.tcp.waiting))
        = some ((none, []), [[60], [2]], []) := by
    decide +kernel
  obtain ⟨final, reached, same⟩ := Option.map_eq_some_iff.mp ran
  simp only [Prod.mk.injEq] at same
  obtain ⟨⟨idle, empty⟩, output, left⟩ := same
  obtain ⟨frames, packets, -⟩ := nothing_lost reached
  refine ⟨final, reached, ?_, ?_⟩
  · rw [idle, empty, List.append_nil] at frames
    exact (List.append_nil _).symm.trans frames
  · rw [left, List.append_nil, output] at packets
    exact packets.symm

end Runs

/-! ### Everything comes through -/

/-- A round of the two loops: the device is asked for a frame, smoltcp uses its tokens, and the
stream is polled. -/
def round (turn : Option Bytes × Side) : List Action := [.receive, .consume turn.1, .poll turn.2]

/-- What is still to come: a frame counts twice, for its answer. -/
def backlog (state : Outbound capacity) : Nat :=
  2 * state.rxQueue.waiting.length + state.tcp.waiting.length + state.udp.waiting.length

/-- No token is out, the listener runs, and the stream is there. -/
structure Ready (state : Outbound capacity) : Prop where
  idle : state.token = none
  alive : state.tcp.senderAlive = true
  isOpen : state.tcp.receiverAlive = true

/-- smoltcp gives its tokens back, with one packet at most. -/
theorem consume_backlog {state : Outbound capacity} (alive : state.tcp.senderAlive = true)
    (isOpen : state.tcp.receiverAlive = true) (packet : Option Bytes) :
    Ready (state.consume packet)
      ∧ backlog (state.consume packet) ≤ backlog state + state.token.toList.length := by
  unfold Outbound.consume
  cases held : state.token with
  | none => exact ⟨⟨held, alive, isOpen⟩, Nat.le_refl _⟩
  | some token =>
      dsimp only
      obtain ⟨sent, tcp, -, permit, eq⟩ | ⟨-, eq⟩ := @consumeTx_cases capacity
        { state with token := some token, handed := state.handed ++ token.frame.toList } packet
      · obtain ⟨-, -, waits, -, sender, receiver⟩ := Bounded.sendPermit_cases permit
        rw [eq]
        refine ⟨⟨rfl, sender.trans alive, receiver.trans isOpen⟩, ?_⟩
        show 2 * state.rxQueue.waiting.length + tcp.waiting.length + state.udp.waiting.length
          ≤ backlog state + 1
        have longer : tcp.waiting.length = state.tcp.waiting.length + 1 :=
          (congrArg List.length waits).trans List.length_append
        rw [backlog, longer]
        omega
      · rw [eq]
        exact ⟨⟨rfl, alive, isOpen⟩, Nat.le_add_right _ 1⟩

/-- A poll of a stream that is not empty brings a packet out. -/
theorem poll_backlog {state : Outbound capacity} (ready : Ready state) (first : Side) :
    Ready (recordPoll (state.pollNext first))
      ∧ (backlog (recordPoll (state.pollNext first)) < backlog state
        ∨ state.tcp.waiting = [] ∧ state.udp.waiting = []
          ∧ backlog (recordPoll (state.pollNext first)) = backlog state) := by
  obtain ⟨side, packet, next, polled, took⟩ | ⟨empty, polled | ⟨polled, -⟩⟩ :=
    pollNext_cases state first
  · rw [polled]
    refine ⟨⟨took.token.trans ready.idle, took.tcpAlive.trans ready.alive,
      took.tcpOpen.trans ready.isOpen⟩, .inl ?_⟩
    show 2 * next.rxQueue.waiting.length + (next.waitingOf .tcp).length
      + (next.waitingOf .udp).length < 2 * state.rxQueue.waiting.length
        + (state.waitingOf .tcp).length + (state.waitingOf .udp).length
    have waits := congrArg List.length took.waiting
    rw [List.length_cons] at waits
    rw [took.rxQueue]
    cases side with
    | tcp =>
        rw [took.others .udp nofun]
        omega
    | udp =>
        rw [took.others .tcp nofun]
        omega
  · rw [polled]
    exact ⟨⟨ready.idle, ready.alive, ready.isOpen⟩, .inr ⟨empty .tcp, empty .udp, rfl⟩⟩
  · rw [polled]
    exact ⟨⟨ready.idle, ready.alive, ready.isOpen⟩, .inr ⟨empty .tcp, empty .udp, rfl⟩⟩

section Runs

variable {builder : PacketBuilder}

/-- **A round makes the backlog smaller**, unless there is none. -/
theorem round_backlog (positive : 0 < capacity) {state : Outbound capacity} (kept : Kept state)
    (ready : Ready state) (turn : Option Bytes × Side) :
    ∃ next, (machine builder).run state (round turn) = some next ∧ Ready next
      ∧ (backlog next < backlog state ∨ backlog next = 0) := by
  obtain ⟨packet, first⟩ := turn
  have received : ∃ after, (machine builder).step state .receive = some after
      ∧ after.tcp.senderAlive = true ∧ after.tcp.receiverAlive = true
      ∧ (backlog after + 2 = backlog state ∧ after.token.toList.length = 1
        ∨ after = state ∧ (state.tcp.waiting = [] → state.rxQueue.waiting = [])) := by
    refine ⟨_, if_pos ⟨ready.idle, ready.alive⟩, ?_⟩
    cases taken : state.receive with
    | some after =>
        obtain ⟨frame, rest, tcp, waits, reserves, rfl⟩ := receive_eq_some taken
        obtain ⟨-, -, -, same, -, sender, receiver⟩ := Bounded.tryReserve_cases reserves
        refine ⟨sender.trans ready.alive, receiver.trans ready.isOpen, .inl ⟨?_, rfl⟩⟩
        show 2 * rest.length + tcp.waiting.length + state.udp.waiting.length + 2 = backlog state
        rw [backlog, waits, same, List.length_cons]
        omega
    | none =>
        refine ⟨ready.alive, ready.isOpen, .inr ⟨rfl, fun empty => ?_⟩⟩
        by_contra waits
        obtain ⟨frame, rest, waits⟩ := List.exists_cons_of_ne_nil waits
        have room : state.tcp.HasRoom := by
          have reserved := kept.reserved
          rw [ready.idle] at reserved
          show state.tcp.waiting.length + state.tcp.reserved < capacity
          rw [empty, reserved]
          exact positive
        obtain ⟨next, gives⟩ := receive_isSome ready.isOpen room waits
        rw [taken] at gives
        cases gives
  obtain ⟨after, enabled, alive, isOpen, progress⟩ := received
  obtain ⟨readyAfter, consumed⟩ := consume_backlog alive isOpen packet
  obtain ⟨readyNext, polled⟩ := poll_backlog readyAfter first
  refine ⟨_, ?_, readyNext, ?_⟩
  · rw [round, Machine.run_cons, enabled, Option.bind_some, Machine.run_cons]
    show (machine builder).run (after.consume packet) [.poll first] = _
    rw [Machine.run_cons]
    show (if (after.consume packet).tcp.receiverAlive = true then _ else none).bind _ = _
    rw [if_pos readyAfter.isOpen]
    rfl
  · obtain ⟨fewer, one⟩ | ⟨rfl, last⟩ := progress
    · rw [one] at consumed
      obtain fewerOn | ⟨-, -, same⟩ := polled <;> exact .inl (by omega)
    · have idle : after.consume packet = after := by
        rw [Outbound.consume, ready.idle]
      rw [idle] at polled ⊢
      obtain fewerOn | ⟨tcpEmpty, udpEmpty, same⟩ := polled
      · exact .inl fewerOn
      · refine .inr ?_
        rw [same, backlog, tcpEmpty, udpEmpty, last tcpEmpty]
        rfl

/-- As many rounds as the backlog is long leave none. -/
theorem rounds_backlog (positive : 0 < capacity) {rounds : List (Option Bytes × Side)}
    {state : Outbound capacity} (kept : Kept state) (ready : Ready state)
    (enough : backlog state ≤ rounds.length) :
    ∃ last, (machine builder).run state (rounds.flatMap round) = some last ∧ Ready last
      ∧ backlog last = 0 := by
  induction rounds generalizing state with
  | nil => exact ⟨_, rfl, ready, Nat.le_zero.mp enough⟩
  | cons turn rest ih =>
      obtain ⟨next, goes, readyNext, fewer⟩ :=
        @round_backlog _ builder positive _ kept ready turn
      have keptNext : Kept next :=
        Machine.run_invariant (fun before enabled => before.step enabled) kept goes
      obtain ⟨last, goesOn, readyLast, none⟩ := ih keptNext readyNext (by
        rw [List.length_cons] at enough
        omega)
      exact ⟨last, by rw [List.flatMap_cons, Machine.run_append _ goes, goesOn], readyLast, none⟩

/-- Rounds inject nothing. -/
theorem injected_rounds (packet : Option Bytes) (rounds : List (Option Bytes × Side)) :
    injected (.consume packet :: rounds.flatMap round) = [] := by
  induction rounds with
  | nil => rfl
  | cons turn rest ih => exact ih

/-- **Nothing stalls.** In every state of every run with the listener and the stream alive, smoltcp
may answer what it will and either stream may come first: one round of the two loops more than there
is backlog hands smoltcp every frame that was injected, and brings out all that it sent and every
datagram that found room. -/
theorem nothing_stalls (positive : 0 < capacity) {actions : List Action} {state : Outbound capacity}
    (reached : (machine builder).run (new : Outbound capacity) actions = some state)
    (alive : state.tcp.senderAlive = true) (isOpen : state.tcp.receiverAlive = true)
    (answer : Option Bytes) {rounds : List (Option Bytes × Side)}
    (enough : backlog state + 1 ≤ rounds.length) :
    ∃ last, (machine builder).run state (.consume answer :: rounds.flatMap round) = some last
      ∧ last.handed = injected actions ∧ last.outputOf .tcp = last.emitted
      ∧ last.offered.length = (last.outputOf .udp).length + last.refused := by
  have kept : Kept state :=
    Machine.run_invariant (fun before enabled => before.step enabled) Kept.new reached
  obtain ⟨ready, consumed⟩ := consume_backlog alive isOpen answer
  have one : state.token.toList.length ≤ 1 := by
    cases state.token with
    | none => exact Nat.zero_le 1
    | some => exact Nat.le_refl 1
  obtain ⟨last, goes, readyLast, none⟩ :=
    @rounds_backlog _ builder positive _ _ (kept.consume answer) ready
      (Nat.le_trans (Nat.le_trans consumed (Nat.add_le_add_left one _)) enough)
  have whole : (machine builder).run state (.consume answer :: rounds.flatMap round) = some last :=
    ((machine builder).run_cons_eq_some).mpr ⟨_, rfl, goes⟩
  have keptLast : Kept last :=
    Machine.run_invariant (fun before enabled => before.step enabled) kept whole
  obtain ⟨rxEmpty, tcpEmpty, udpEmpty⟩ :
      last.rxQueue.waiting = [] ∧ last.tcp.waiting = [] ∧ last.udp.waiting = [] := by
    unfold backlog at none
    exact ⟨List.eq_nil_of_length_eq_zero (by omega), List.eq_nil_of_length_eq_zero (by omega),
      List.eq_nil_of_length_eq_zero (by omega)⟩
  refine ⟨last, whole, ?_, ?_, ?_⟩
  · have sent := run_sent kept whole
    rw [injected_rounds, List.append_nil, run_sent Kept.new reached] at sent
    have handed := keptLast.handed
    rw [readyLast.idle, Option.bind_none, Option.toList_none, List.append_nil] at handed
    rw [← handed]
    have all : last.rxQueue.received ++ last.rxQueue.waiting = injected actions := sent
    rw [rxEmpty, List.append_nil] at all
    exact all
  · have order := keptLast.tcp
    rw [tcpEmpty, List.append_nil] at order
    exact order
  · have count := keptLast.refused
    rw [udpEmpty, List.append_nil] at count
    exact count

theorem nothing_stalls_sample : ∃ state last : Outbound 1,
    (machine bareBuilder).run (new : Outbound 1) (sampleFull.take 4) = some state
      ∧ (machine bareBuilder).run state (.consume none
          :: (List.replicate 4 (some [2], .tcp)).flatMap round) = some last
      ∧ last.handed = [[1]] := by
  have ran : ((machine bareBuilder).run (new : Outbound 1) (sampleFull.take 4)).map (fun state =>
      (state.tcp.senderAlive, state.tcp.receiverAlive, backlog state)) = some (true, true, 3) := by
    decide +kernel
  obtain ⟨state, reached, same⟩ := Option.map_eq_some_iff.mp ran
  simp only [Prod.mk.injEq] at same
  obtain ⟨alive, isOpen, three⟩ := same
  obtain ⟨last, goes, handed, -⟩ :=
    @nothing_stalls 1 bareBuilder Nat.one_pos _ state reached alive isOpen none
      (List.replicate 4 (some [2], .tcp)) (by rw [three]; exact Nat.le_refl 4)
  exact ⟨state, last, reached, goes, handed⟩

end Runs

/-! ### The listener -/

/-- The queue and the channel that the machine of the listener has, between two packets. -/
structure Refines (state : Outbound tcpOutboundSize) (listener : TcpListener) : Prop where
  frames : listener.rxQueue.map Queued.frame = state.rxQueue.waiting
  outbound : listener.outbound = state.tcp.waiting.length
  outboundOpen : listener.outboundOpen = state.tcp.receiverAlive
  idle : state.token = none
  reserved : state.tcp.reserved = 0

/-- **A packet of the device is a packet of the listener's machine**, with the answer of smoltcp. -/
theorem Refines.consume_receive {state : Outbound tcpOutboundSize} {listener : TcpListener}
    (refines : Refines state listener) (reaction : Nat → TcpState → TcpState)
    (answer : Option Bytes) :
    Refines ((state.receive.getD state).consume answer)
      (listener.receive reaction answer.isSome) := by
  obtain ⟨frames, outbound, outboundOpen, idle, reserved⟩ := refines
  have room : listener.reserves = true
      ↔ state.tcp.receiverAlive = true ∧ state.tcp.HasRoom := by
    rw [TcpListener.reserves, Bool.and_eq_true, decide_eq_true_eq, outboundOpen, outbound]
    show _ ↔ _ ∧ state.tcp.waiting.length + state.tcp.reserved < tcpOutboundSize
    rw [reserved]
    rfl
  unfold TcpListener.receive
  cases received : state.receive with
  | some after =>
      obtain ⟨frame, rest, tcp, waits, reserves, rfl⟩ := receive_eq_some received
      obtain ⟨alive, free, -, tcpWaits, tcpReserved, -, tcpOpen⟩ :=
        Bounded.tryReserve_cases reserves
      rw [waits] at frames
      obtain ⟨queued, left, queue, -, same⟩ := List.map_eq_cons_iff.mp frames
      rw [if_pos (room.mpr ⟨alive, free⟩), queue, Option.getD_some, Outbound.consume]
      dsimp only
      obtain ⟨sent, next, rfl, permit, eq⟩ | ⟨nothing, eq⟩ := @consumeTx_cases tcpOutboundSize
        { state with
          rxQueue := { state.rxQueue with
            received := state.rxQueue.received ++ [frame], waiting := rest }
          tcp, token := some (.pair frame)
          handed := state.handed ++ (Token.pair frame).frame.toList } answer
      · obtain ⟨-, -, nextWaits, nextReserved, -, nextOpen⟩ := Bounded.sendPermit_cases permit
        have longer : next.waiting.length = state.tcp.waiting.length + 1 := by
          rw [← tcpWaits]
          exact (congrArg List.length nextWaits).trans List.length_append
        rw [eq]
        refine ⟨same, ?_, ?_, rfl, ?_⟩
        · show listener.outbound + 1 = next.waiting.length
          rw [longer, outbound]
        · exact (outboundOpen.trans tcpOpen.symm).trans nextOpen.symm
        · show next.reserved = 0
          rw [nextReserved]
          show tcp.reserved - 1 = 0
          rw [tcpReserved, reserved]
      · rw [eq]
        have held : tcp.reserved = 1 := by rw [tcpReserved, reserved]
        obtain rfl := nothing.resolve_right fun none => by
          rw [show _ = tcp.reserved from rfl, held] at none
          cases none
        refine ⟨same, outbound.trans (congrArg List.length tcpWaits.symm),
          outboundOpen.trans tcpOpen.symm, rfl, ?_⟩
        show tcp.reserved - 1 = 0
        rw [held]
  | none =>
      have unchanged : (state.receive.getD state).consume answer = state := by
        rw [received, Option.getD_none, Outbound.consume, idle]
      rw [received] at unchanged
      rw [unchanged]
      have kept : ∀ refused, Refines state { listener with point := .serving refused } :=
        fun _ => ⟨frames, outbound, outboundOpen, idle, reserved⟩
      split
      case isTrue reserves =>
          obtain ⟨alive, free⟩ := room.mp reserves
          split
          case h_1 => exact kept false
          case h_2 queued left queue =>
              rw [queue] at frames
              obtain ⟨next, gives⟩ := receive_isSome alive free frames.symm
              rw [received] at gives
              cases gives
      case isFalse => exact kept true

end Outbound

end RsTun.Netstack
