/-
**The TUN read loops of the gvisor and mixed stacks.**

Both loops drop what their filters keep from the stack and offer every other frame to the sink with
`Sink::send`; an error of the sink ends them. `gvisorRoutes` and `mixedRoutes` are the filters.

* `offer_of_open` — while the receivers are there, an offered frame is handed to the channel of its
  protocol, ignored for its protocol, or it ends the loop because `IpPacket::new_checked` rejects
  it.
* `read_loops_survive_iff` — a loop outlives its frames and hands over all that it should
  **exactly** when no frame that passes its filters is rejected.
* `rejected_frame_ends_loops` — one truncated frame ends either loop, and the datagram behind it is
  never read.
-/

import RsTun.Net.Subnet
import RsTun.Netstack.Sink
import RsTun.Packet.Checksum
import RsTun.Packet.Header

namespace RsTun.Netstack

open Library Library.Bytes Packet

/-- The configuration that the read loops look at. -/
structure ReadLoopConfig where
  localSubnetsV4 : List (Ipv4Addr × UInt8)
  localSubnetsV6 : List (Ipv6Addr × UInt8)
  /-- `icmp_forwarder` is `Some`, as on every Unix -/
  icmpForwarder : Bool

/-- The results of `read_packet`. -/
inductive DeviceRead where
  | packet (raw : Bytes)
  | unexpectedEof
  | failed

/-- `is_local_subnet_packet`. -/
def isLocalSubnetPacket (raw : Bytes) (localSubnetsV4 : List (Ipv4Addr × UInt8))
    (localSubnetsV6 : List (Ipv6Addr × UInt8)) : Bool :=
  if raw = [] then false
  else if byteAt raw 0 >>> 4 = 4 then
    if raw.length < 20 then false
    else
      let src : Ipv4Addr := .ofSlice 4 raw 12
      let dst : Ipv4Addr := .ofSlice 4 raw 16
      ipInLocalSubnetsV4 src localSubnetsV4 || ipInLocalSubnetsV4 dst localSubnetsV4
  else if byteAt raw 0 >>> 4 = 6 then
    if raw.length < 40 then false
    else
      let src : Ipv6Addr := .ofSlice 16 raw 8
      let dst : Ipv6Addr := .ofSlice 16 raw 24
      ipInLocalSubnetsV6 src localSubnetsV6 || ipInLocalSubnetsV6 dst localSubnetsV6
  else false

/-- The local subnet filter of both loops. -/
def ReadLoopConfig.filters (config : ReadLoopConfig) (raw : Bytes) : Bool :=
  (!config.localSubnetsV4.isEmpty || !config.localSubnetsV6.isEmpty)
    && isLocalSubnetPacket raw config.localSubnetsV4 config.localSubnetsV6

namespace IcmpForwarder

/-- `IcmpForwarder::handle_v4`: whether it forwarded an echo request. -/
def handleV4 (raw : Bytes) : Bool :=
  if raw.length < 28 then false
  else
    let ihl := headerLength raw
    if raw.length < ihl + 8 ∨ ihl < 20 then false
    else if byteAt raw 9 ≠ 1 ∨ byteAt raw ihl ≠ 8 ∨ byteAt raw (ihl + 1) ≠ 0 then false
    else true

/-- `IcmpForwarder::handle_v6`. -/
def handleV6 (raw : Bytes) : Bool :=
  if raw.length < 48 then false
  else if byteAt raw 6 ≠ 58 ∨ byteAt raw 40 ≠ 128 ∨ byteAt raw 41 ≠ 0 then false
  else true

/-- `IcmpForwarder::handle_packet`. -/
def handlePacket (raw : Bytes) : Bool :=
  if raw = [] then false
  else if byteAt raw 0 >>> 4 = 4 then handleV4 raw
  else if byteAt raw 0 >>> 4 = 6 then handleV6 raw
  else false

end IcmpForwarder

/-! ### The loops -/

/-- `Sink::send`, with nobody else at the sink: `poll_ready`, `start_send`, `poll_flush`. -/
def StackSplitSink.send (smoltcp : Smoltcp) (sink : StackSplitSink) (item : Bytes) :
    Poll (Except SinkError Unit) × StackSplitSink :=
  match sink.pollReady with
  | .pending => (.pending, sink)
  | .ready _ =>
      match sink.startSend smoltcp item with
      | .error error => (.ready (.error error), sink)
      | .ok started => started.pollFlush

/-- How a turn of a loop ends: `continue`, `break`, or it waits for the sink. -/
inductive Turn where
  | next (sink : StackSplitSink)
  | leave (sink : StackSplitSink)
  | wait (sink : StackSplitSink)

/-- `if let Err(e) = stack_sink.send(pkt).await { break; }`. -/
def offer (smoltcp : Smoltcp) (sink : StackSplitSink) (raw : Bytes) : Turn :=
  match sink.send smoltcp raw with
  | (.ready (.ok _), sink) => .next sink
  | (.ready (.error _), sink) => .leave sink
  | (.pending, sink) => .wait sink

/-- One turn of the `tun_reader` loop of `run_gvisor`. -/
def gvisorTurn (smoltcp : Smoltcp) (config : ReadLoopConfig) (sink : StackSplitSink) :
    DeviceRead → Turn
  | .unexpectedEof => .leave sink
  | .failed => .next sink
  | .packet raw =>
      if raw = [] then .next sink
      else if config.filters raw then .next sink
      else if config.icmpForwarder && IcmpForwarder.handlePacket raw then .next sink
      else offer smoltcp sink raw

/-- One turn of the read loop of `run_mixed`. TCP and ICMP go to the handlers of the system stack,
which do not touch the sink. -/
def mixedTurn (smoltcp : Smoltcp) (config : ReadLoopConfig) (sink : StackSplitSink) :
    DeviceRead → Turn
  | .unexpectedEof => .leave sink
  | .failed => .next sink
  | .packet raw =>
      if raw = [] then .next sink
      else if config.filters raw then .next sink
      else if byteAt raw 0 >>> 4 = 4 then
        let ihl := headerLength raw
        if raw.length < ihl ∨ ihl < 20 then .next sink
        else if byteAt raw 9 = ipprotoUdp then offer smoltcp sink raw
        else .next sink
      else if byteAt raw 0 >>> 4 = 6 then
        if raw.length < 40 then .next sink
        else
          let walk := skipIpv6ExtensionHeaders (byteAt raw 6) (raw.drop 40)
          if walk.isFragment ∨ walk.transportPresent = false then .next sink
          else if walk.protocol = ipprotoUdp then
            if isGlobalUnicastV6 (.ofSlice 16 raw 24) = false then .next sink
            else offer smoltcp sink raw
          else .next sink
      else .next sink

/-- Whether a loop still reads. -/
inductive LoopStatus where
  | reading
  | left
  | waiting
  deriving DecidableEq

/-- Where a loop is after some reads. -/
structure LoopEnd where
  status : LoopStatus
  sink : StackSplitSink
  deriving DecidableEq

/-- `loop { .. }` over the results of the reads. -/
def readLoop (turn : StackSplitSink → DeviceRead → Turn) :
    StackSplitSink → List DeviceRead → LoopEnd
  | sink, [] => ⟨.reading, sink⟩
  | sink, read :: rest =>
      match turn sink read with
      | .next sink => readLoop turn sink rest
      | .leave sink => ⟨.left, sink⟩
      | .wait sink => ⟨.waiting, sink⟩

/-! ### The filters -/

/-- The frames that `run_gvisor` offers to the sink. -/
def gvisorRoutes (config : ReadLoopConfig) (raw : Bytes) : Bool :=
  raw ≠ [] && !config.filters raw && !(config.icmpForwarder && IcmpForwarder.handlePacket raw)

/-- The UDP frames of `run_mixed`. -/
def isMixedUdp (raw : Bytes) : Bool :=
  if byteAt raw 0 >>> 4 = 4 then
    headerLength raw ≤ raw.length && 20 ≤ headerLength raw && byteAt raw 9 == ipprotoUdp
  else
    let walk := skipIpv6ExtensionHeaders (byteAt raw 6) (raw.drop 40)
    byteAt raw 0 >>> 4 == 6 && 40 ≤ raw.length && !walk.isFragment && walk.transportPresent
      && walk.protocol == ipprotoUdp && isGlobalUnicastV6 (.ofSlice 16 raw 24)

/-- The frames that `run_mixed` offers to the sink. -/
def mixedRoutes (config : ReadLoopConfig) (raw : Bytes) : Bool :=
  raw ≠ [] && !config.filters raw && isMixedUdp raw

/-- The protocol under which the sink carries a frame. -/
def carriedProtocol (smoltcp : Smoltcp) (raw : Bytes) : Option IpProtocol :=
  ((IpPacket.newChecked smoltcp raw).map IpPacket.protocol).filter StackSplitSink.isCarried

/-- **What the loops owe their frames**: the loop reads on, and the frames that pass its filters and
are accepted with protocol UDP, or with TCP or ICMP, are on their channels, in order. -/
structure Survives (smoltcp : Smoltcp) (routes : Bytes → Bool) (frames : List Bytes)
    (stop : LoopEnd) :
    Prop where
  reading : stop.status = .reading
  udp : stop.sink.udpInbound.sent
    = frames.filter fun raw => routes raw && carriedProtocol smoltcp raw == some .udp
  tcp : stop.sink.tcpInbound.sent = frames.filter fun raw => routes raw
    && (carriedProtocol smoltcp raw).any (· != .udp)

theorem gvisorTurn_packet (smoltcp : Smoltcp) (config : ReadLoopConfig) (sink : StackSplitSink)
    (raw : Bytes) : gvisorTurn smoltcp config sink (.packet raw)
      = if gvisorRoutes config raw then offer smoltcp sink raw else .next sink := by
  unfold gvisorTurn gvisorRoutes
  dsimp only
  by_cases nothing : raw = []
  · simp [nothing]
  · cases config.filters raw with
    | true => simp [nothing]
    | false =>
        cases config.icmpForwarder && IcmpForwarder.handlePacket raw with
        | true => simp [nothing]
        | false => simp [nothing]

theorem mixedTurn_packet (smoltcp : Smoltcp) (config : ReadLoopConfig) (sink : StackSplitSink)
    (raw : Bytes) : mixedTurn smoltcp config sink (.packet raw)
      = if mixedRoutes config raw then offer smoltcp sink raw else .next sink := by
  unfold mixedTurn mixedRoutes isMixedUdp
  dsimp only
  by_cases nothing : raw = []
  · simp [nothing]
  · cases config.filters raw with
    | true => simp [nothing]
    | false =>
        by_cases four : byteAt raw 0 >>> 4 = 4
        · by_cases short : raw.length < headerLength raw ∨ headerLength raw < 20
          · have unfit : ¬ (headerLength raw ≤ raw.length ∧ 20 ≤ headerLength raw) := by omega
            simp [nothing, four, short, unfit]
          · have fit : headerLength raw ≤ raw.length ∧ 20 ≤ headerLength raw := by omega
            simp [nothing, four, short, fit]
        · by_cases six : byteAt raw 0 >>> 4 = 6
          · by_cases short : raw.length < 40
            · simp [nothing, six, short]
            · generalize skipIpv6ExtensionHeaders (byteAt raw 6) (raw.drop 40) = walk
              obtain ⟨protocol, payload, isFragment, transportPresent⟩ := walk
              by_cases udp : protocol = ipprotoUdp <;> cases isFragment <;>
                cases transportPresent <;> simp [nothing, six, short, udp, Nat.not_lt.mp short]
              cases isGlobalUnicastV6 (.ofSlice 16 raw 24) <;> rfl
          · simp [nothing, four, six]

/-! ### One frame -/

namespace StackSplitSink

/-- Nothing is stored, and both receivers are there. -/
structure Open (sink : StackSplitSink) : Prop where
  empty : sink.packetContainer = none
  udp : sink.udpInbound.receiverAlive = true
  tcp : sink.tcpInbound.receiverAlive = true

/-- The sink after a frame that `IpPacket::new_checked` accepts. -/
def handed (smoltcp : Smoltcp) (sink : StackSplitSink) (raw : Bytes) : StackSplitSink :=
  match carriedProtocol smoltcp raw with
  | none => sink
  | some .udp =>
      { sink with
        udpInbound := { sink.udpInbound with waiting := sink.udpInbound.waiting ++ [raw] } }
  | some _ =>
      { sink with
        tcpInbound := { sink.tcpInbound with waiting := sink.tcpInbound.waiting ++ [raw] } }

theorem open_new : new.Open := ⟨rfl, rfl, rfl⟩

theorem Open.handed {sink : StackSplitSink} (isOpen : sink.Open) (smoltcp : Smoltcp) (raw : Bytes) :
    (sink.handed smoltcp raw).Open := by
  unfold StackSplitSink.handed
  split
  · exact isOpen
  · exact ⟨isOpen.empty, isOpen.udp, isOpen.tcp⟩
  · exact ⟨isOpen.empty, isOpen.udp, isOpen.tcp⟩

theorem handed_udp (smoltcp : Smoltcp) (sink : StackSplitSink) (raw : Bytes) :
    (sink.handed smoltcp raw).udpInbound.sent = sink.udpInbound.sent
      ++ [raw].filter fun raw => carriedProtocol smoltcp raw == some .udp := by
  unfold handed
  split
  · rename_i ignored
    simp [ignored]
  · rename_i udp
    simp [udp, Channel.sent]
  · rename_i proto other carried
    simp [carried, show proto ≠ .udp from other]

theorem handed_tcp (smoltcp : Smoltcp) (sink : StackSplitSink) (raw : Bytes) :
    (sink.handed smoltcp raw).tcpInbound.sent = sink.tcpInbound.sent
      ++ [raw].filter fun raw => (carriedProtocol smoltcp raw).any (· != .udp) := by
  unfold handed
  split
  · rename_i ignored
    simp [ignored]
  · rename_i udp
    simp [udp]
  · rename_i proto other carried
    simp [carried, show proto ≠ .udp from other, Channel.sent]

end StackSplitSink

/-- **An offered frame** ends the loop exactly when `IpPacket::new_checked` rejects it. -/
theorem offer_of_open (smoltcp : Smoltcp) {sink : StackSplitSink} {raw : Bytes} (isOpen : sink.Open)
    (nonempty : raw ≠ []) : offer smoltcp sink raw
      = if IpPacket.newChecked smoltcp raw = none then .leave sink
        else .next (sink.handed smoltcp raw) := by
  obtain ⟨udpInbound, tcpInbound, container⟩ := sink
  obtain ⟨rfl, udp, tcp⟩ := isOpen
  unfold offer StackSplitSink.send StackSplitSink.pollReady StackSplitSink.startSend
    StackSplitSink.handed carriedProtocol
  simp only [if_neg nonempty, Option.isNone_none, if_true]
  cases IpPacket.newChecked smoltcp raw with
  | none => rfl
  | some packet =>
      simp only [Option.map_some, reduceCtorEq, if_false]
      cases carried : packet.protocol <;>
        simp_all [StackSplitSink.isCarried, StackSplitSink.pollFlush, Channel.send, Option.filter]

/-! ### All frames -/

/-- **A loop over frames** reads on exactly when none of the frames that it offers is rejected, and
then it has handed them over. -/
theorem readLoop_survives {smoltcp : Smoltcp} {turn : StackSplitSink → DeviceRead → Turn}
    {routes : Bytes → Bool} (nothing : routes [] = false)
    (turns : ∀ sink raw, turn sink (.packet raw)
      = if routes raw then offer smoltcp sink raw else .next sink)
    (frames : List Bytes) : ∀ {sink : StackSplitSink}, sink.Open →
      ((readLoop turn sink (frames.map .packet)).status = .reading ↔
        ∀ raw ∈ frames, routes raw = true → IpPacket.newChecked smoltcp raw ≠ none) ∧
      ((readLoop turn sink (frames.map .packet)).status = .reading →
        (readLoop turn sink (frames.map .packet)).sink.udpInbound.sent = sink.udpInbound.sent
          ++ frames.filter (fun raw => routes raw && carriedProtocol smoltcp raw == some .udp) ∧
        (readLoop turn sink (frames.map .packet)).sink.tcpInbound.sent = sink.tcpInbound.sent
          ++ frames.filter fun raw => routes raw
            && (carriedProtocol smoltcp raw).any (· != .udp)) := by
  induction frames with
  | nil =>
      intro sink _
      simp [readLoop]
  | cons raw rest ih =>
      intro sink isOpen
      rw [List.map_cons, readLoop, turns]
      cases routed : routes raw with
      | false =>
          have later := ih isOpen
          simp only [Bool.false_eq_true, if_false, List.forall_mem_cons, routed, false_implies,
            true_and, List.filter_cons, Bool.false_and]
          exact later
      | true =>
          have nonempty : raw ≠ [] := by
            rintro rfl
            rw [nothing] at routed
            cases routed
          rw [if_pos rfl, offer_of_open smoltcp isOpen nonempty]
          by_cases rejected : IpPacket.newChecked smoltcp raw = none
          · rw [if_pos rejected]
            refine ⟨⟨nofun, fun accepted => ?_⟩,
              nofun⟩
            exact absurd rejected (accepted raw List.mem_cons_self routed)
          · rw [if_neg rejected]
            obtain ⟨goesOn, delivers⟩ := ih (isOpen.handed smoltcp raw)
            refine ⟨?_, fun reading => ?_⟩
            · rw [List.forall_mem_cons]
              exact goesOn.trans ⟨fun later => ⟨fun _ => rejected, later⟩, fun both => both.2⟩
            · obtain ⟨udp, tcp⟩ := delivers reading
              rw [StackSplitSink.handed_udp, List.append_assoc] at udp
              rw [StackSplitSink.handed_tcp, List.append_assoc] at tcp
              refine ⟨udp.trans ?_, tcp.trans ?_⟩
              · simp only [List.filter_cons, routed, Bool.true_and, List.filter_nil]
                split <;> rfl
              · simp only [List.filter_cons, routed, Bool.true_and, List.filter_nil]
                split <;> rfl

/-- **The read loops outlive their frames, and hand over all that they should, exactly when no frame
that passes their filters is rejected by `IpPacket::new_checked`.** -/
theorem read_loops_survive_iff (smoltcp : Smoltcp) (config : ReadLoopConfig) (frames : List Bytes) :
    (Survives smoltcp (gvisorRoutes config) frames
        (readLoop (gvisorTurn smoltcp config) .new (frames.map .packet)) ↔
      ∀ raw ∈ frames, gvisorRoutes config raw = true → IpPacket.newChecked smoltcp raw ≠ none) ∧
    (Survives smoltcp (mixedRoutes config) frames
        (readLoop (mixedTurn smoltcp config) .new (frames.map .packet)) ↔
      ∀ raw ∈ frames, mixedRoutes config raw = true → IpPacket.newChecked smoltcp raw ≠ none) := by
  have each : ∀ {turn : StackSplitSink → DeviceRead → Turn} {routes : Bytes → Bool},
      routes [] = false →
      (∀ sink raw, turn sink (.packet raw)
        = if routes raw then offer smoltcp sink raw else .next sink) →
      (Survives smoltcp routes frames (readLoop turn .new (frames.map .packet)) ↔
        ∀ raw ∈ frames, routes raw = true → IpPacket.newChecked smoltcp raw ≠ none) := by
    intro turn routes nothing turns
    obtain ⟨goesOn, delivers⟩ := readLoop_survives nothing turns frames StackSplitSink.open_new
    refine ⟨fun survives => goesOn.mp survives.reading, fun accepted => ?_⟩
    have reading := goesOn.mpr accepted
    exact ⟨reading, (delivers reading).1, (delivers reading).2⟩
  exact ⟨each rfl (gvisorTurn_packet smoltcp config), each rfl (mixedTurn_packet smoltcp config)⟩

/-- A datagram that lost its last eight bytes, and a whole one. -/
def sampleTruncated : List Bytes := [sampleFrame 17 [] |>.set 3 28, sampleUdpFrame [7]]

/-- **A rejected frame ends both loops**: the whole datagram behind the truncated one reaches no
channel. -/
theorem rejected_frame_ends_loops :
    readLoop (gvisorTurn lengthChecking ⟨[], [], true⟩) .new (sampleTruncated.map .packet)
        = ⟨.left, .new⟩
      ∧ readLoop (mixedTurn lengthChecking ⟨[], [], true⟩) .new (sampleTruncated.map .packet)
        = ⟨.left, .new⟩
      ∧ carriedProtocol lengthChecking (sampleUdpFrame [7]) = some .udp
      ∧ ¬ Survives lengthChecking (gvisorRoutes ⟨[], [], true⟩) sampleTruncated
        (readLoop (gvisorTurn lengthChecking ⟨[], [], true⟩) .new (sampleTruncated.map .packet))
      ∧ ¬ Survives lengthChecking (mixedRoutes ⟨[], [], true⟩) sampleTruncated
        (readLoop (mixedTurn lengthChecking ⟨[], [], true⟩) .new
          (sampleTruncated.map .packet)) := by
  refine ⟨by decide, by decide, by decide, fun survives => ?_, fun survives => ?_⟩
  · exact absurd survives.reading (by decide)
  · exact absurd survives.reading (by decide)

end RsTun.Netstack
