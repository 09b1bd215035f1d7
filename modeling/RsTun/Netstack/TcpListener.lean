/-
**`TcpListener`: the packets that come in, and the sockets of the stack.**

`poll_packets` and `poll_sockets` are two branches of one `select!`, so that the one goes on only
where the other waits: `poll_packets` at `recv_many`, `poll_sockets` at `yield_now` and in its own
`select!`. The handling of a frame, of an event and of a packet of the device are one step each.

smoltcp is known by its documentation. Its parsers are a parameter; the states of the sockets change
in any way in the steps in which smoltcp runs; a socket is made in state Listen; `iface.poll` takes
packets from `Device::receive` until it returns none. The consumer of the outbound channel takes
packets, or is dropped, at any time.

* `pollPacket` — a frame in `poll_packets`: the SYN tracker, the new stream, the injection.
* `receive`, `retainActive` — the device and the removal in `poll_sockets`.
* `machine` — both, step by step.
-/

import RsTun.Library.Machine
import RsTun.Library.Retain
import RsTun.Netstack.UdpSocket

namespace RsTun.Netstack

open Library Library.Bytes

/-- `SYN_TRACK_TTL`, in nanoseconds. -/
def synTrackTtl : Nat := 60 * 1000000000

/-- `SYN_TRACK_MAX`. -/
def synTrackMax : Nat := 10000

/-- How many packets `recv_many` receives at most. -/
def recvManyLimit : Nat := 32

/-- The size of the outbound channel of TCP. -/
def tcpOutboundSize : Nat := 4096

/-- What the accessors of a checked smoltcp `TcpPacket` return. -/
structure TcpView where
  srcPort : UInt16
  dstPort : UInt16
  syn : Bool
  ack : Bool
  deriving DecidableEq

/-- The parsers of smoltcp, with that of `TcpPacket`. -/
structure TcpSmoltcp extends Smoltcp where
  tcpNewChecked : Bytes → Option TcpView

/-- The length checks of smoltcp, with those of `TcpPacket`: a whole header, of at least 20 bytes.
-/
def lengthCheckingTcp : TcpSmoltcp where
  toSmoltcp := lengthChecking
  tcpNewChecked packet :=
    let headerLen := (byteAt packet 12 >>> 4).toNat * 4
    if packet.length < 20 ∨ packet.length < headerLen ∨ headerLen < 20 then none
    else some {
      srcPort := .ofNat (be16 packet 0)
      dstPort := .ofNat (be16 packet 2)
      syn := decide (byteAt packet 13 &&& 0x02 ≠ 0)
      ack := decide (byteAt packet 13 &&& 0x10 ≠ 0) }

/-- A segment from port 1234 or 1235 of 10.0.0.1 to port 80 of 10.0.0.2, with the given flags. -/
def sampleTcpFrame (port flags : UInt8) : Bytes :=
  sampleFrame 6 [4, port, 0, 80, 0, 0, 0, 1, 0, 0, 0, 0, 0x50, flags, 0xff, 0xff, 0, 0, 0, 0]

/-- How the parsers read such a segment, with the addresses and ports written out, so that runs can
be computed. -/
def sampleTcpParsers : TcpSmoltcp where
  ofPacket _ := some .ipv4
  ipv4NewChecked packet := some {
    srcAddr := ⟨[10, 0, 0, 1], rfl⟩
    dstAddr := ⟨[10, 0, 0, 2], rfl⟩
    nextHeader := .tcp
    payload := packet.drop 20 }
  ipv6NewChecked _ := none
  udpNewChecked _ := none
  tcpNewChecked payload := some {
    srcPort := if byteAt payload 1 = 210 then 1234 else 1235
    dstPort := 80
    syn := decide (byteAt payload 13 &&& 0x02 ≠ 0)
    ack := decide (byteAt payload 13 &&& 0x10 ≠ 0) }

/-- `tcp::State`. -/
inductive TcpState where
  | closed
  | listen
  | synSent
  | synReceived
  | established
  | finWait1
  | finWait2
  | closeWait
  | closing
  | lastAck
  | timeWait
  deriving DecidableEq

/-- `Socket::is_active`. -/
def TcpState.isActive : TcpState → Bool
  | .closed => false
  | .listen => false
  | .timeWait => false
  | _ => true

/-- The source and the destination of a connection. -/
abbrev ConnTuple := SocketAddr × SocketAddr

/-- A frame in the queue of the device; `number` counts the frames that `poll_packets` handled. -/
structure Queued where
  number : Nat
  frame : Bytes
  deriving DecidableEq

/-- A `tcp::Socket` with its `TcpStreamHandle`. `syn` and `tuple` are a record: the number of the
frame the socket was made for, and the connection. -/
structure StackSocket where
  syn : Nat
  tuple : ConnTuple
  state : TcpState
  deriving DecidableEq

/-- `IfaceEvent`. -/
inductive IfaceEvent where
  | icmp
  | tcpStream (socket : StackSocket)
  | tcpSocketReady
  | tcpSocketClosed
  | deviceReady
  deriving DecidableEq

/-- The socket that an event brings. -/
def IfaceEvent.socket : IfaceEvent → Option StackSocket
  | .tcpStream socket => some socket
  | _ => none

/-- A `TcpStream` that was emitted: the number of its SYN, its connection, and whether the socket of
an earlier stream of the connection was active then. -/
structure EmittedStream where
  syn : Nat
  tuple : ConnTuple
  overActive : Bool
  deriving DecidableEq

/-- Where `poll_sockets` stands. -/
inductive SocketsPoint where
  /-- `yield_now`, and before the first turn. -/
  | yielded
  | top
  | selecting
  | draining
  | ingress
  /-- Egress and the data path; `refused` tells whether the outbound channel ended the ingress. -/
  | serving (refused : Bool)
  deriving DecidableEq

/-- The two branches and what they share. `packetBuf` holds the time of a batch and what is left of
it. The last four fields are a record only: the time of the last batch, how many frames were
handled, the streams that were emitted, and for each connection the last SYN that was accepted or
refreshed with no other packet behind it. -/
structure TcpListener where
  synTracker : AList fun _ : ConnTuple => Nat
  lastPruneTime : Nat
  packetBuf : Option (Nat × List Bytes)
  emitterOpen : Bool
  notifier : List IfaceEvent
  rxQueue : List Queued
  outbound : Nat
  outboundOpen : Bool
  sockets : List StackSocket
  nextPoll : Bool
  point : SocketsPoint
  ended : Bool
  clock : Nat
  handled : Nat
  emitted : List EmittedStream
  lastSyn : ConnTuple → Option Nat

namespace TcpListener

/-- A new listener. -/
def new : TcpListener where
  synTracker := ∅
  lastPruneTime := 0
  packetBuf := none
  emitterOpen := true
  notifier := []
  rxQueue := []
  outbound := 0
  outboundOpen := true
  sockets := []
  nextPoll := false
  point := .yielded
  ended := false
  clock := 0
  handled := 0
  emitted := []
  lastSyn := fun _ => none

/-! ### `poll_packets` -/

/-- What `poll_packets` makes of a frame. -/
inductive FrameKind where
  /-- One of the two checks fails. -/
  | dropped
  | icmp
  /-- A SYN without ACK. -/
  | syn (tuple : ConnTuple)
  | other (tuple : ConnTuple)
  deriving DecidableEq

/-- The checks of `poll_packets`. -/
def frameKind (smoltcp : TcpSmoltcp) (frame : Bytes) : FrameKind :=
  match IpPacket.newChecked smoltcp.toSmoltcp frame with
  | none => .dropped
  | some packet =>
      if packet.protocol = .icmp ∨ packet.protocol = .icmpv6 then .icmp
      else
        match smoltcp.tcpNewChecked packet.payload with
        | none => .dropped
        | some tcp =>
            let tuple := (socketAddr packet.srcAddr tcp.srcPort,
              socketAddr packet.dstAddr tcp.dstPort)
            if tcp.syn && !tcp.ack then .syn tuple else .other tuple

example : ∀ port ∈ [210, 211], ∀ flags ∈ [0x02, 0x10],
    frameKind sampleTcpParsers (sampleTcpFrame port flags)
      = frameKind lengthCheckingTcp (sampleTcpFrame port flags) := by decide +kernel

/-- The entry of the tracker is younger than the TTL. -/
def isRecent (tracker : AList fun _ : ConnTuple => Nat) (tuple : ConnTuple) (now : Nat) : Bool :=
  match tracker.lookup tuple with
  | some time => decide (now - time < synTrackTtl)
  | none => false

/-- The socket of an earlier stream of the connection is active. -/
def hasActive (state : TcpListener) (tuple : ConnTuple) : Bool :=
  state.sockets.any fun socket => socket.tuple == tuple && socket.state.isActive

/-- `device_injector.send(frame)`. -/
def inject (state : TcpListener) (frame : Bytes) : TcpListener :=
  { state with rxQueue := state.rxQueue ++ [⟨state.handled, frame⟩] }

/-- `iface_notifier.send(event)`. -/
def notify (state : TcpListener) (event : IfaceEvent) : TcpListener :=
  { state with notifier := state.notifier ++ [event] }

/-- The SYN is written down, with the time. -/
def track (state : TcpListener) (tuple : ConnTuple) (now : Nat) : TcpListener :=
  { state with
    synTracker := state.synTracker.insert tuple now
    lastSyn := Function.update state.lastSyn tuple (some now) }

/-- The entry of the tracker is removed. -/
def untrack (state : TcpListener) (tuple : ConnTuple) : TcpListener :=
  { state with
    synTracker := state.synTracker.erase tuple
    lastSyn := Function.update state.lastSyn tuple none }

/-- `tcp_stream_emitter.send`, with the event for `poll_sockets`; the task ends when the receiver of
the streams was dropped. -/
def emit (state : TcpListener) (tuple : ConnTuple) (frame : Bytes) : TcpListener :=
  if state.emitterOpen then
    inject (notify { state with
      emitted := state.emitted ++ [⟨state.handled, tuple, state.hasActive tuple⟩] }
      (.tcpStream ⟨state.handled, tuple, .listen⟩)) frame
  else { state with ended := true }

/-- A frame in the loop of `poll_packets`. -/
def pollPacket (smoltcp : TcpSmoltcp) (state : TcpListener) (now : Nat) (frame : Bytes) :
    TcpListener :=
  match frameKind smoltcp frame with
  | .dropped => state
  | .icmp => (state.inject frame).notify .icmp
  | .syn tuple =>
      if isRecent state.synTracker tuple now then (state.track tuple now).inject frame
      else if synTrackMax ≤ FiniteMap.size state.synTracker then state
      -- `socket.listen(dst_addr)` fails for port 0
      else if tuple.2.port = 0 then state
      else (state.track tuple now).emit tuple frame
  | .other tuple => (state.untrack tuple).inject frame

/-- A step of `poll_packets` behind `recv_many`: the next frame, or the event behind the last. -/
def packetStep (smoltcp : TcpSmoltcp) (state : TcpListener) : Option TcpListener :=
  match state.packetBuf with
  | none => none
  | some (_, []) => some (notify { state with packetBuf := none } .deviceReady)
  | some (now, frame :: rest) =>
      let next := pollPacket smoltcp { state with packetBuf := some (now, rest) } now frame
      some { next with handled := next.handled + 1 }

/-- `poll_sockets` waits, so that `poll_packets` may go on. -/
def Awaiting (state : TcpListener) : Prop := state.point = .yielded ∨ state.point = .selecting

instance awaitingDecidable (state : TcpListener) : Decidable state.Awaiting :=
  inferInstanceAs (Decidable (_ ∨ _))

/-- `recv_many` returns, and the tracker is pruned when its time has come. -/
def recvMany (state : TcpListener) (now : Nat) (frames : List Bytes) : TcpListener :=
  let received := { state with packetBuf := some (now, frames), clock := now }
  if synTrackTtl < now - state.lastPruneTime then
    { received with
      synTracker := FiniteMap.retain state.synTracker
        fun _ time => decide (now - time < synTrackTtl)
      lastPruneTime := now }
  else received

/-! ### `poll_sockets` -/

/-- The states of the sockets after smoltcp has run. -/
def react (reaction : Nat → TcpState → TcpState) (sockets : List StackSocket) : List StackSocket :=
  sockets.map fun socket => { socket with state := reaction socket.syn socket.state }

/-- An event: a new socket is added to `sockets` and to `socket_maps`. -/
def handleEvent (state : TcpListener) (event : IfaceEvent) : TcpListener :=
  match event.socket with
  | some socket => { state with sockets := state.sockets ++ [socket] }
  | none => state

/-- `tx_sender.try_reserve()` succeeds. -/
def reserves (state : TcpListener) : Bool :=
  state.outboundOpen && decide (state.outbound < tcpOutboundSize)

/-- `Device::receive`, and what smoltcp makes of the packet: the new states of the sockets, and
whether it answers. -/
def receive (state : TcpListener) (reaction : Nat → TcpState → TcpState) (replies : Bool) :
    TcpListener :=
  if state.reserves then
    match state.rxQueue with
    | [] => { state with point := .serving false }
    | _ :: rest => notify { state with
        rxQueue := rest
        sockets := react reaction state.sockets
        outbound := state.outbound + replies.toNat } .deviceReady
  else { state with point := .serving true }

/-- The removal: `socket_maps.retain`, and the time of the next poll. -/
def retainActive (state : TcpListener) (nextPoll : Bool) : TcpListener :=
  { state with
    sockets := state.sockets.filter fun socket => socket.state.isActive
    nextPoll := nextPoll
    point := .yielded }

/-! ### Both branches -/

/-- What can happen next. -/
inductive Action where
  | recvMany (now : Nat) (frames : List Bytes)
  | packet
  | inboundClosed
  /-- A stream notifies the stack that it is ready or was dropped. -/
  | streamEvent (dropped : Bool)
  | streamsDropped
  /-- The consumer of the outbound channel takes a packet. -/
  | consume
  | outboundClosed
  /-- `yield_now` returns. -/
  | wake
  | top
  | event
  | timer
  | drain
  | receive (reaction : Nat → TcpState → TcpState) (replies : Bool)
  /-- Egress and the data path; `sent` packets go to the outbound channel. -/
  | serve (reaction : Nat → TcpState → TcpState) (sent : Nat)
  | retain (nextPoll : Bool)

/-- A step of `poll_sockets`. -/
def socketsStep (state : TcpListener) : Action → Option TcpListener
  | .wake => if state.point = .yielded then some { state with point := .top } else none
  | .top =>
      if state.point = .top then
        some { state with
          point := if state.nextPoll || state.sockets.isEmpty then .selecting else .draining }
      else none
  | .event =>
      match state.point, state.notifier with
      | .selecting, event :: rest =>
          some (handleEvent { state with notifier := rest, nextPoll := false, point := .top } event)
      | _, _ => none
  | .timer =>
      if state.point = .selecting ∧ state.nextPoll = true then
        some { state with nextPoll := false, point := .top }
      else none
  | .drain =>
      match state.point, state.notifier with
      | .draining, event :: rest => some (handleEvent { state with notifier := rest } event)
      | .draining, [] => some { state with point := .ingress }
      | _, _ => none
  | .receive reaction replies =>
      if state.point = .ingress then some (state.receive reaction replies) else none
  | .serve reaction sent =>
      match state.point with
      | .serving _ =>
          if sent = 0 ∨ state.outboundOpen = true ∧ state.outbound + sent ≤ tcpOutboundSize then
            some { state with
              sockets := react reaction state.sockets
              outbound := state.outbound + sent }
          else none
      | _ => none
  | .retain nextPoll =>
      match state.point with
      | .serving _ => some (state.retainActive nextPoll)
      | _ => none
  | _ => none

/-- One step. -/
def step (smoltcp : TcpSmoltcp) (state : TcpListener) (action : Action) : Option TcpListener :=
  if state.ended then none
  else
    match action with
    | .recvMany now frames =>
        if state.packetBuf = none ∧ state.Awaiting ∧ state.clock ≤ now ∧ 0 < frames.length
            ∧ frames.length ≤ recvManyLimit then
          some (state.recvMany now frames)
        else none
    | .packet => if state.Awaiting then state.packetStep smoltcp else none
    | .inboundClosed =>
        if state.packetBuf = none ∧ state.Awaiting then some { state with ended := true } else none
    | .streamEvent dropped =>
        some (state.notify (if dropped then .tcpSocketClosed else .tcpSocketReady))
    | .streamsDropped => some { state with emitterOpen := false }
    | .consume =>
        if 0 < state.outbound then some { state with outbound := state.outbound - 1 } else none
    | .outboundClosed => some { state with outboundOpen := false }
    | other => if state.packetBuf = none then state.socketsStep other else none

/-- The two branches as a machine. -/
def machine (smoltcp : TcpSmoltcp) : Machine TcpListener Action where
  step := step smoltcp

/-- A run in which a connection is opened: its SYN comes and is answered. -/
def opened : List Action :=
  [.recvMany 0 [sampleTcpFrame 210 0x02], .packet, .packet, .wake, .top, .event, .top,
    .drain, .drain, .receive (fun _ _ => .synReceived) true,
    .receive (fun _ _ => .synReceived) false, .retain false]

end TcpListener

end RsTun.Netstack
