/-
**The sink of the stack, and what its flush makes of a receiver that is gone.**

`StackSplitSink` holds one packet between `start_send` and `poll_flush`. `sinkMachine` runs it in
the order of `Sink::send` — `poll_ready`, `start_send`, `poll_flush` — while the two receivers take
packets from their channels and are dropped at any point.

* `pollFlush_cases` — all that a flush can do.
* `sink_sound_throughout_iff` — between two sends the container is empty and every accepted packet
  is in one of the channels or its loss was reported, **exactly** as long as no UDP packet is
  flushed after the UDP receiver was dropped.
* `udp_drop_fills_container` — a UDP packet that is flushed after that stays in the container while
  the flush reports success, and no later packet gets past `poll_ready`.
-/

import RsTun.Library.Channel
import RsTun.Library.Machine
import RsTun.Netstack.Packet

namespace RsTun.Netstack

open Library

/-- The errors of the sink. -/
inductive SinkError where
  | invalidData
  | brokenPipe (packet : Bytes)
  deriving DecidableEq

/-- `StackSplitSink`. -/
structure StackSplitSink where
  udpInbound : Channel Bytes
  tcpInbound : Channel Bytes
  packetContainer : Option (Bytes × IpProtocol)
  deriving DecidableEq

namespace StackSplitSink

/-- `StackSplitSink::new`, on the channels of `NetStack::new`. -/
def new : StackSplitSink := ⟨.empty, .empty, none⟩

/-- `poll_ready`. -/
def pollReady (sink : StackSplitSink) : Poll (Except SinkError Unit) :=
  if sink.packetContainer.isNone then .ready (.ok ()) else .pending

/-- The protocols that `start_send` does not ignore. -/
def isCarried : IpProtocol → Bool
  | .tcp | .udp | .icmp | .icmpv6 => true
  | .other _ => false

/-- `start_send`. -/
def startSend (smoltcp : Smoltcp) (sink : StackSplitSink) (item : Bytes) :
    Except SinkError StackSplitSink :=
  if item = [] then .ok sink
  else
    match IpPacket.newChecked smoltcp item with
    | none => .error .invalidData
    | some packet =>
        if isCarried packet.protocol then
          .ok { sink with packetContainer := some (item, packet.protocol) }
        else .ok sink

/-- `poll_flush`. -/
def pollFlush (sink : StackSplitSink) : Poll (Except SinkError Unit) × StackSplitSink :=
  match sink.packetContainer with
  | none => (.ready (.ok ()), sink)
  | some (item, proto) =>
      match proto with
      | .udp =>
          match sink.udpInbound.send item with
          | .ok udpInbound => (.ready (.ok ()), { sink with udpInbound, packetContainer := none })
          | .error e => (.ready (.ok ()), { sink with packetContainer := some (e, proto) })
      | .tcp | .icmp | .icmpv6 =>
          match sink.tcpInbound.send item with
          | .ok tcpInbound => (.ready (.ok ()), { sink with tcpInbound, packetContainer := none })
          | .error e => (.ready (.error (.brokenPipe e)), { sink with packetContainer := none })
      | .other _ => (.ready (.ok ()), { sink with packetContainer := none })

theorem pollReady_eq_ready_iff {sink : StackSplitSink} :
    sink.pollReady = .ready (.ok ()) ↔ sink.packetContainer = none := by
  unfold pollReady
  cases sink.packetContainer with
  | none => exact ⟨fun _ => rfl, fun _ => rfl⟩
  | some _ => exact ⟨nofun, nofun⟩

/-- **What `start_send` can do**: store the packet, ignore it, or reject it. -/
theorem startSend_cases (smoltcp : Smoltcp) (sink : StackSplitSink) (item : Bytes) :
    (∃ proto, isCarried proto = true ∧ sink.startSend smoltcp item
      = .ok { sink with packetContainer := some (item, proto) }) ∨
    sink.startSend smoltcp item = .ok sink ∨
    sink.startSend smoltcp item = .error .invalidData := by
  unfold startSend
  by_cases nothing : item = []
  · exact .inr (.inl (if_pos nothing))
  · rw [if_neg nothing]
    cases IpPacket.newChecked smoltcp item with
    | none => exact .inr (.inr rfl)
    | some packet =>
        by_cases carried : isCarried packet.protocol = true
        · exact .inl ⟨packet.protocol, carried, if_pos carried⟩
        · exact .inr (.inl (if_neg carried))

/-- **What `poll_flush` can do with a stored packet**: hand it to the channel of its protocol, keep
it because the UDP receiver is gone, or report that the other receiver is. -/
theorem pollFlush_cases {sink : StackSplitSink} {item : Bytes} {proto : IpProtocol}
    (stored : sink.packetContainer = some (item, proto)) (carried : isCarried proto = true) :
    (proto = .udp ∧ sink.udpInbound.receiverAlive = true ∧ sink.pollFlush = (.ready (.ok ()),
      { sink with
        udpInbound := { sink.udpInbound with waiting := sink.udpInbound.waiting ++ [item] }
        packetContainer := none })) ∨
    (proto = .udp ∧ sink.udpInbound.receiverAlive = false ∧
      sink.pollFlush = (.ready (.ok ()), sink)) ∨
    (proto ≠ .udp ∧ sink.tcpInbound.receiverAlive = true ∧ sink.pollFlush = (.ready (.ok ()),
      { sink with
        tcpInbound := { sink.tcpInbound with waiting := sink.tcpInbound.waiting ++ [item] }
        packetContainer := none })) ∨
    (proto ≠ .udp ∧ sink.tcpInbound.receiverAlive = false ∧
      sink.pollFlush
        = (.ready (.error (.brokenPipe item)), { sink with packetContainer := none })) := by
  have same : { sink with packetContainer := some (item, proto) } = sink := by rw [← stored]
  unfold pollFlush
  rw [stored]
  obtain ⟨alive, udp⟩ | ⟨dropped, udp⟩ := sink.udpInbound.send_cases item
  all_goals obtain ⟨alive', tcp⟩ | ⟨dropped', tcp⟩ := sink.tcpInbound.send_cases item
  all_goals cases proto <;> simp_all [isCarried]

end StackSplitSink

/-! ### Runs in the order of `Sink::send` -/

/-- Where the caller of `Sink::send` is. -/
inductive SendPhase where
  /-- no send is under way -/
  | idle
  /-- `poll_ready` is polled -/
  | feeding (item : Bytes)
  /-- `poll_ready` was ready -/
  | fed (item : Bytes)
  /-- `start_send` succeeded -/
  | flushing
  deriving DecidableEq

/-- The sink in a run, with the packets it has stored and the losses it has reported. -/
structure SinkRun where
  sink : StackSplitSink
  phase : SendPhase
  accepted : List (Bytes × IpProtocol)
  reported : List Bytes
  deriving DecidableEq

/-- The steps of a run. -/
inductive SinkAction where
  | send (item : Bytes)
  | pollReady
  | startSend
  | pollFlush
  | receiveUdp
  | receiveTcp
  | dropUdp
  | dropTcp
  deriving DecidableEq

/-- What the error of a flush reports as lost. -/
def lossOf : Poll (Except SinkError Unit) → List Bytes
  | .ready (.error (.brokenPipe packet)) => [packet]
  | _ => []

/-- The sink, polled by `Sink::send`, and the two receivers. -/
def sinkMachine (smoltcp : Smoltcp) : Machine SinkRun SinkAction where
  step run action :=
    match action, run.phase with
    | .send item, .idle => some { run with phase := .feeding item }
    | .pollReady, .feeding item =>
        match run.sink.pollReady with
        | .ready _ => some { run with phase := .fed item }
        | .pending => some run
    | .startSend, .fed item =>
        match run.sink.startSend smoltcp item with
        | .error _ => some { run with phase := .idle }
        | .ok sink => some { run with
            sink
            phase := .flushing
            accepted := run.accepted ++ sink.packetContainer.toList }
    | .pollFlush, .flushing =>
        some { run with
          sink := run.sink.pollFlush.2
          phase := .idle
          reported := run.reported ++ lossOf run.sink.pollFlush.1 }
    | .receiveUdp, _ => run.sink.udpInbound.receive.map fun received =>
        { run with sink := { run.sink with udpInbound := received.2 } }
    | .receiveTcp, _ => run.sink.tcpInbound.receive.map fun received =>
        { run with sink := { run.sink with tcpInbound := received.2 } }
    | .dropUdp, _ => some { run with
        sink := { run.sink with
          udpInbound := { run.sink.udpInbound with receiverAlive := false } } }
    | .dropTcp, _ => some { run with
        sink := { run.sink with
          tcpInbound := { run.sink.tcpInbound with receiverAlive := false } } }
    | _, _ => none

namespace SinkRun

/-- A run starts with nothing sent. -/
def start : SinkRun := ⟨.new, .idle, [], []⟩

/-- All sends so far have completed. -/
def BetweenSends (run : SinkRun) : Prop := ∀ item, run.phase ≠ .fed item ∧ run.phase ≠ .flushing

/-- The packets for the UDP channel, in order. -/
def udpPackets (accepted : List (Bytes × IpProtocol)) : List Bytes :=
  (accepted.filter fun stored => stored.2 == .udp).map Prod.fst

/-- The packets for the other channel, in order. -/
def tcpPackets (accepted : List (Bytes × IpProtocol)) : List Bytes :=
  (accepted.filter fun stored => stored.2 != .udp).map Prod.fst

/-- **What the sink promises between two sends**: its container is empty, it takes the next packet,
and every accepted packet is on its own channel or was reported as lost. -/
structure Sound (run : SinkRun) : Prop where
  emptied : run.BetweenSends → run.sink.packetContainer = none
  ready : run.BetweenSends → run.sink.pollReady = .ready (.ok ())
  udp : run.BetweenSends → run.sink.udpInbound.sent = udpPackets run.accepted
  tcp : run.BetweenSends → run.sink.tcpInbound.sent ++ run.reported = tcpPackets run.accepted

/-- No UDP packet is flushed after the UDP receiver was dropped. -/
def UdpAlive (run : SinkRun) (action : SinkAction) : Prop :=
  action = .pollFlush → run.sink.packetContainer.any (·.2 == .udp) = true →
    run.sink.udpInbound.receiverAlive = true

instance (run : SinkRun) (action : SinkAction) : Decidable (run.UdpAlive action) :=
  inferInstanceAs (Decidable (_ → _ → _))

/-- The invariant of the runs in which no UDP packet is flushed after its receiver was dropped: the
container is filled only between `start_send` and `poll_flush`, and it holds the one packet that is
accepted and neither handed over nor reported. -/
structure Kept (run : SinkRun) : Prop where
  stored : run.phase ≠ .flushing → run.sink.packetContainer = none
  carried : ∀ item proto, run.sink.packetContainer = some (item, proto) →
    StackSplitSink.isCarried proto = true
  udp : run.sink.udpInbound.sent ++ udpPackets run.sink.packetContainer.toList
    = udpPackets run.accepted
  tcp : run.sink.tcpInbound.sent ++ run.reported ++ tcpPackets run.sink.packetContainer.toList
    = tcpPackets run.accepted
  unreported : run.sink.tcpInbound.receiverAlive = true → run.reported = []

@[simp] theorem udpPackets_nil : udpPackets [] = [] := rfl

@[simp] theorem tcpPackets_nil : tcpPackets [] = [] := rfl

theorem udpPackets_append (first second : List (Bytes × IpProtocol)) :
    udpPackets (first ++ second) = udpPackets first ++ udpPackets second := by
  rw [udpPackets, List.filter_append, List.map_append]
  rfl

theorem tcpPackets_append (first second : List (Bytes × IpProtocol)) :
    tcpPackets (first ++ second) = tcpPackets first ++ tcpPackets second := by
  rw [tcpPackets, List.filter_append, List.map_append]
  rfl

theorem udpPackets_of_udp (item : Bytes) : udpPackets [(item, .udp)] = [item] := rfl

theorem tcpPackets_of_udp (item : Bytes) : tcpPackets [(item, .udp)] = [] := rfl

theorem udpPackets_of_ne {item : Bytes} {proto : IpProtocol} (other : proto ≠ .udp) :
    udpPackets [(item, proto)] = [] := by
  simp [udpPackets, other]

theorem tcpPackets_of_ne {item : Bytes} {proto : IpProtocol} (other : proto ≠ .udp) :
    tcpPackets [(item, proto)] = [item] := by
  simp [tcpPackets, other]

theorem start_kept : start.Kept :=
  ⟨fun _ => rfl, nofun, rfl, rfl, fun _ => rfl⟩

theorem Kept.sound {run : SinkRun} (kept : run.Kept) : run.Sound := by
  have empty : run.BetweenSends → run.sink.packetContainer = none :=
    fun between => kept.stored (between []).2
  refine ⟨empty, fun between => StackSplitSink.pollReady_eq_ready_iff.mpr (empty between),
    fun between => ?_, fun between => ?_⟩
  · have accounted := kept.udp
    rwa [empty between, Option.toList_none, udpPackets_nil, List.append_nil] at accounted
  · have accounted := kept.tcp
    rwa [empty between, Option.toList_none, tcpPackets_nil, List.append_nil] at accounted

/-- A change that leaves the container and what was sent keeps the invariant. -/
theorem Kept.of_same {run next : SinkRun} (kept : run.Kept)
    (phase : run.sink.packetContainer ≠ none → next.phase = run.phase)
    (container : next.sink.packetContainer = run.sink.packetContainer)
    (udp : next.sink.udpInbound.sent = run.sink.udpInbound.sent)
    (tcp : next.sink.tcpInbound.sent = run.sink.tcpInbound.sent)
    (accepted : next.accepted = run.accepted) (reported : next.reported = run.reported)
    (alive : next.sink.tcpInbound.receiverAlive = true → run.sink.tcpInbound.receiverAlive = true) :
    next.Kept where
  stored notFlushing := by
    rw [container]
    by_contra filled
    exact filled (kept.stored (by rwa [← phase filled]))
  carried item proto filled := kept.carried item proto (container ▸ filled)
  udp := by rw [udp, container, accepted, kept.udp]
  tcp := by rw [tcp, reported, container, accepted, kept.tcp]
  unreported living := by rw [reported, kept.unreported (alive living)]

/-- `start_send` on an empty container keeps the invariant. -/
theorem Kept.startSend {smoltcp : Smoltcp} {run : SinkRun} {item : Bytes} {sink : StackSplitSink}
    (kept : run.Kept) (fed : run.phase = .fed item)
    (started : run.sink.startSend smoltcp item = .ok sink) :
    Kept { run with
      sink
      phase := .flushing
      accepted := run.accepted ++ sink.packetContainer.toList } := by
  have empty : run.sink.packetContainer = none := kept.stored (by rw [fed]; simp)
  have udp := kept.udp
  have tcp := kept.tcp
  rw [empty, Option.toList_none, udpPackets_nil, List.append_nil] at udp
  rw [empty, Option.toList_none, tcpPackets_nil, List.append_nil] at tcp
  obtain ⟨proto, carried, done⟩ | done | done :=
    StackSplitSink.startSend_cases smoltcp run.sink item
  · cases done.symm.trans started
    refine ⟨fun notFlushing => absurd rfl notFlushing, ?_, ?_, ?_, kept.unreported⟩
    · intro stored storedProto filled
      cases filled
      exact carried
    · rw [udpPackets_append, ← udp]
    · rw [tcpPackets_append, ← tcp]
  · cases done.symm.trans started
    refine ⟨fun notFlushing => absurd rfl notFlushing, kept.carried, ?_, ?_, kept.unreported⟩
    · simp only [empty, Option.toList_none, udpPackets_nil, List.append_nil, udp]
    · simp only [empty, Option.toList_none, tcpPackets_nil, List.append_nil, tcp]
  · cases done.symm.trans started

/-- `poll_flush` keeps the invariant, unless it finds a UDP packet and no UDP receiver. -/
theorem Kept.pollFlush {run : SinkRun} (kept : run.Kept) (alive : run.UdpAlive .pollFlush) :
    Kept { run with
      sink := run.sink.pollFlush.2
      phase := .idle
      reported := run.reported ++ lossOf run.sink.pollFlush.1 } := by
  have udp := kept.udp
  have tcp := kept.tcp
  cases filled : run.sink.packetContainer with
  | none =>
      have done : run.sink.pollFlush = (.ready (.ok ()), run.sink) := by
        rw [StackSplitSink.pollFlush, filled]
      rw [done]
      refine kept.of_same (fun contains => absurd filled contains) rfl rfl rfl rfl ?_ id
      exact List.append_nil _
  | some stored =>
      obtain ⟨item, proto⟩ := stored
      have emptied (other : Bytes) (proto : IpProtocol) (held : none = some (other, proto)) :
          StackSplitSink.isCarried proto = true := by cases held
      rw [filled] at udp tcp
      obtain ⟨rfl, -, done⟩ | ⟨rfl, dropped, -⟩ | ⟨other, living, done⟩ | ⟨other, dropped, done⟩ :=
        StackSplitSink.pollFlush_cases filled (kept.carried item proto filled)
      · rw [done]
        refine ⟨fun _ => rfl, emptied, ?_, ?_, fun living => ?_⟩
        · rw [Option.toList_some, udpPackets_of_udp] at udp
          rw [← udp]
          simp [Channel.sent]
        · rw [Option.toList_some, tcpPackets_of_udp] at tcp
          rw [← tcp]
          simp [lossOf]
        · rw [kept.unreported living]
          rfl
      · have living := alive rfl (by rw [filled]; rfl)
        rw [dropped] at living
        cases living
      · rw [done]
        refine ⟨fun _ => rfl, emptied, ?_, ?_, fun _ => ?_⟩
        · rw [Option.toList_some, udpPackets_of_ne other] at udp
          rw [← udp]
          simp
        · rw [Option.toList_some, tcpPackets_of_ne other, kept.unreported living] at tcp
          rw [← tcp, kept.unreported living]
          simp [Channel.sent, lossOf]
        · rw [kept.unreported living]
          rfl
      · rw [done]
        refine ⟨fun _ => rfl, emptied, ?_, ?_, fun living => ?_⟩
        · rw [Option.toList_some, udpPackets_of_ne other] at udp
          rw [← udp]
          simp
        · rw [Option.toList_some, tcpPackets_of_ne other] at tcp
          rw [← tcp]
          simp [lossOf]
        · rw [dropped] at living
          cases living

/-- **Every step keeps the invariant**, but for the flush of a UDP packet without a receiver. -/
theorem Kept.step {smoltcp : Smoltcp} {run next : SinkRun} {action : SinkAction} (kept : run.Kept)
    (alive : run.UdpAlive action) (moved : (sinkMachine smoltcp).step run action = some next) :
    next.Kept := by
  cases action with
  | send item =>
      cases phase : run.phase <;> simp only [sinkMachine, phase] at moved <;> cases moved
      have empty := kept.stored (by rw [phase]; simp)
      exact kept.of_same (fun filled => absurd empty filled) rfl rfl rfl rfl rfl id
  | pollReady =>
      cases phase : run.phase <;> simp only [sinkMachine, phase] at moved
      case feeding item =>
        have empty := kept.stored (by rw [phase]; simp)
        rw [StackSplitSink.pollReady_eq_ready_iff.mpr empty] at moved
        cases moved
        exact kept.of_same (fun filled => absurd empty filled) rfl rfl rfl rfl rfl id
      all_goals cases moved
  | startSend =>
      cases phase : run.phase <;> simp only [sinkMachine, phase] at moved
      case fed item =>
        cases started : run.sink.startSend smoltcp item with
        | error error =>
            rw [started] at moved
            cases moved
            have empty := kept.stored (by rw [phase]; simp)
            exact kept.of_same (fun filled => absurd empty filled) rfl rfl rfl rfl rfl id
        | ok sink =>
            rw [started] at moved
            cases moved
            exact kept.startSend phase started
      all_goals cases moved
  | pollFlush =>
      cases phase : run.phase <;> simp only [sinkMachine, phase] at moved <;> cases moved
      exact kept.pollFlush alive
  | receiveUdp =>
      obtain ⟨received, done, rfl⟩ := Option.map_eq_some_iff.mp moved
      exact kept.of_same (fun _ => rfl) rfl (Channel.receive_sent done) rfl rfl rfl id
  | receiveTcp =>
      obtain ⟨received, done, rfl⟩ := Option.map_eq_some_iff.mp moved
      refine kept.of_same (fun _ => rfl) rfl rfl (Channel.receive_sent done) rfl rfl ?_
      obtain ⟨_, _, -, -, same⟩ | ⟨-, -, same⟩ := Channel.receive_cases done
      all_goals
        simp only [same]
        exact id
  | dropUdp =>
      cases moved
      exact kept.of_same (fun _ => rfl) rfl rfl rfl rfl rfl id
  | dropTcp =>
      cases moved
      exact kept.of_same (fun _ => rfl) rfl rfl rfl rfl rfl nofun

/-- The flush of a UDP packet without a receiver leaves the container filled. -/
theorem Kept.breaks {smoltcp : Smoltcp} {run next : SinkRun} {action : SinkAction} (kept : run.Kept)
    (bad : ¬ run.UdpAlive action) (moved : (sinkMachine smoltcp).step run action = some next) :
    ¬ next.Sound := by
  simp only [UdpAlive, Classical.not_imp, Bool.not_eq_true] at bad
  obtain ⟨rfl, isUdp, dropped⟩ := bad
  intro sound
  cases phase : run.phase <;> simp only [sinkMachine, phase] at moved <;> cases moved
  obtain ⟨⟨item, proto⟩, filled, same⟩ := (Option.any_eq_true _ _).mp isUdp
  have udp : proto = .udp := eq_of_beq same
  obtain ⟨-, alive, -⟩ | ⟨-, -, done⟩ | ⟨other, -, -⟩ | ⟨other, -, -⟩ :=
    StackSplitSink.pollFlush_cases filled (kept.carried item proto filled)
  · rw [dropped] at alive
    cases alive
  · have emptied := sound.emptied fun _ =>
      ⟨nofun, nofun⟩
    simp only [done, filled] at emptied
    cases emptied
  · exact other udp
  · exact other udp

end SinkRun

/-- **The sink keeps its promise throughout a run exactly when no UDP packet is flushed after the
UDP receiver was dropped.** -/
theorem sink_sound_throughout_iff (smoltcp : Smoltcp) {actions : List SinkAction} {final : SinkRun}
    (reached : (sinkMachine smoltcp).run .start actions = some final) :
    (sinkMachine smoltcp).Throughout SinkRun.Sound .start actions ↔
      (sinkMachine smoltcp).Meets SinkRun.UdpAlive .start actions :=
  Machine.throughout_iff_meets (fun kept => kept.sound) (fun kept => kept.step)
    (fun kept => kept.breaks) SinkRun.start_kept reached

/-- One send, step by step. -/
def sendSteps (item : Bytes) : List SinkAction := [.send item, .pollReady, .startSend, .pollFlush]

/-- A UDP packet after the UDP receiver is gone, and then a TCP packet. -/
def sampleUdpDropped : List SinkAction :=
  [.dropUdp] ++ sendSteps (sampleUdpFrame []) ++ [.send (sampleFrame 6 []), .pollReady]

/-- **A UDP packet without a receiver blocks the sink.** Its flush reported success, it is still in
the container, and the next send waits at `poll_ready`. -/
theorem udp_drop_fills_container : ∃ run : SinkRun,
    (sinkMachine lengthChecking).run .start sampleUdpDropped = some run
      ∧ run.phase = .feeding (sampleFrame 6 [])
      ∧ run.reported = []
      ∧ run.sink.packetContainer = some (sampleUdpFrame [], .udp)
      ∧ run.sink.pollReady = .pending
      ∧ ¬ run.Sound := by
  refine ⟨_, rfl, rfl, rfl, rfl, rfl, fun sound => ?_⟩
  have emptied := sound.emptied fun _ =>
    ⟨nofun, nofun⟩
  cases emptied

/-- A datagram, a TCP packet, and another one after both receivers are gone. -/
def sampleBothDropped : List SinkAction :=
  sendSteps (sampleUdpFrame []) ++ [.receiveUdp, .dropUdp] ++ sendSteps (sampleFrame 6 [])
    ++ [.dropTcp] ++ sendSteps (sampleFrame 6 [1])

theorem sink_sound_throughout_iff_sampleBothDropped : ∃ run : SinkRun,
    (sinkMachine lengthChecking).run .start sampleBothDropped = some run
      ∧ run.reported = [sampleFrame 6 [1]]
      ∧ (sinkMachine lengthChecking).Throughout SinkRun.Sound .start sampleBothDropped := by
  refine ⟨_, rfl, rfl, (sink_sound_throughout_iff lengthChecking rfl).mpr ?_⟩
  decide

end RsTun.Netstack
