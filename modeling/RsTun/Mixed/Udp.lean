/-
**UDP in the mixed stack: what the gvisor side delivers, against what the system stack reads.**

`run_mixed` finds the UDP header behind the extension headers, but hands the whole packet to the
sink, which looks at the fixed header only. smoltcp's accessors are assumed to read the fixed
headers as specified (`ReadsFixedHeaders`).

* `carried_of_direct`, `ignored_of_extended` — the sink takes a packet whose fixed header names UDP,
  and ignores one that has extension headers.
* `mixed_udp_delivered_iff` — a UDP packet that is dispatched to the sink is delivered once, with
  the addresses and the data that the system stack extracts, **exactly** when it is an IPv4 packet
  or has no extension headers.
* `extended_datagram_lost` — a datagram behind a hop-by-hop header is lost without a word.
-/

import RsTun.Mixed.Dispatch
import RsTun.Netstack.Datagrams

namespace RsTun.Mixed

open Library Library.Bytes Packet SystemNat Netstack

/-! ### The packets -/

/-- An unfragmented UDP packet over IPv6 with consistent length fields, behind any chain of
extension headers that can be skipped. -/
structure Ipv6UdpPacket (raw : Bytes) : Prop where
  version : byteAt raw 0 >>> 4 = 6
  header : 40 ≤ raw.length
  datagram : DatagramAt raw (transportOffset raw) (40 + be16 raw 4)
  unfragmented : (extensionWalk raw).isFragment = false
  transport : (extensionWalk raw).transportPresent = true
  protocol : (extensionWalk raw).protocol = ipprotoUdp

/-- What `parse_udp_v4` or `parse_udp_v6` extracts in the system stack. -/
def systemDatagram (raw : Bytes) : Option (SocketAddr × SocketAddr × Bytes) :=
  if byteAt raw 0 >>> 4 = 4 then
    parseUdpV4 (raw.drop (headerLength raw)) (Octets.ofSlice 4 raw 12) (Octets.ofSlice 4 raw 16)
  else
    parseUdpV6 (extensionWalk raw).payload (Octets.ofSlice 16 raw 8) (Octets.ofSlice 16 raw 24)

/-! ### The datagram, read twice -/

/-- **IPv4**: the sink carries the packet as UDP, and `recv` reads what the system stack reads. -/
theorem carried_v4 {raw : Bytes} (packet : Ipv4UdpPacket raw) {smoltcp : Smoltcp}
    (reads : ReadsFixedHeaders smoltcp) : carriedProtocol smoltcp raw = some .udp
      ∧ ∃ src dst data, systemDatagram raw = some (src, dst, data)
        ∧ SplitRead.parse smoltcp raw = some ⟨data, src, dst⟩ := by
  constructor
  · rw [carriedProtocol, packet.newChecked reads, packet.protocol]
    rfl
  · have extracted : systemDatagram raw = _ :=
      (if_pos packet.version).trans (packet.datagram.parseUdpV4_eq _ _)
    exact ⟨_, _, _, extracted, packet.parse_eq reads⟩

namespace Ipv6UdpPacket

variable {raw : Bytes} {smoltcp : Smoltcp}

/-- smoltcp's view of the packet. -/
theorem newChecked (packet : Ipv6UdpPacket raw) (reads : ReadsFixedHeaders smoltcp) :
    IpPacket.newChecked smoltcp raw = some (.ipv6 ⟨.ofSlice 16 raw 8, .ofSlice 16 raw 24,
      .ofNumber (byteAt raw 6), slice raw 40 (be16 raw 4)⟩) := by
  rw [IpPacket.newChecked, reads.version6 raw packet.version]
  dsimp only
  rw [reads.ipv6 raw packet.datagram.inside]
  rfl

theorem not_version4 (packet : Ipv6UdpPacket raw) : ¬ byteAt raw 0 >>> 4 = 4 := by
  rw [packet.version]
  decide

/-- What the system stack extracts. -/
theorem systemDatagram_eq (packet : Ipv6UdpPacket raw) : ∃ src dst data,
    systemDatagram raw = some (src, dst, data)
      ∧ src = .v6 (Octets.ofSlice 16 raw 8) (portAt raw (transportOffset raw)) 0 0
      ∧ dst = .v6 (Octets.ofSlice 16 raw 24) (portAt raw (transportOffset raw + 2)) 0 0
      ∧ data = slice raw (transportOffset raw + 8) (be16 raw (transportOffset raw + 4) - 8) := by
  obtain ⟨-, -, payload⟩ := transportOffset_spec packet.header
  have extracted := packet.datagram.parseUdpV6_eq (Octets.ofSlice 16 raw 8)
    (Octets.ofSlice 16 raw 24)
  rw [← payload] at extracted
  exact ⟨_, _, _, (if_neg packet.not_version4).trans extracted, rfl, rfl, rfl⟩

/-- **IPv6 without extension headers**: as over IPv4. -/
theorem carried_of_direct (packet : Ipv6UdpPacket raw) (reads : ReadsFixedHeaders smoltcp)
    (direct : byteAt raw 6 = ipprotoUdp) : carriedProtocol smoltcp raw = some .udp
      ∧ ∃ src dst data, systemDatagram raw = some (src, dst, data)
        ∧ SplitRead.parse smoltcp raw = some ⟨data, src, dst⟩ := by
  have header := packet.header
  have offset : transportOffset raw = 40 := by
    rw [transportOffset, extensionWalk, direct,
      skipIpv6ExtensionHeaders_of_direct _ (by decide) (by decide), List.length_drop]
    omega
  have datagram := packet.datagram
  rw [offset] at datagram
  have view := udpNewChecked_datagram datagram reads
  rw [Nat.add_sub_cancel_left] at view
  obtain ⟨src, dst, data, extracted, rfl, rfl, rfl⟩ := packet.systemDatagram_eq
  constructor
  · rw [carriedProtocol, packet.newChecked reads, direct]
    rfl
  · refine ⟨_, _, _, extracted, ?_⟩
    rw [SplitRead.parse, packet.newChecked reads]
    dsimp only [IpPacket.payload]
    rw [view, offset]
    rfl

/-- **IPv6 with extension headers**: the sink accepts the packet, and ignores it. -/
theorem ignored_of_extended (packet : Ipv6UdpPacket raw) (reads : ReadsFixedHeaders smoltcp)
    (extended : byteAt raw 6 ≠ ipprotoUdp) : carriedProtocol smoltcp raw = none := by
  rw [carriedProtocol, packet.newChecked reads]
  obtain hopopts | routing | dstopts := skippable_of_extended packet.protocol extended
  · rw [hopopts]
    rfl
  · rw [routing]
    rfl
  · rw [dstopts]
    rfl

end Ipv6UdpPacket

/-! ### Delivery -/

/-- The results of that many calls of `recv`, up to one that waits. -/
def recvTimes (smoltcp : Smoltcp) : Nat → Channel Bytes → List (Option UdpPacket)
  | 0, _ => []
  | count + 1, channel =>
      match SplitRead.recv smoltcp channel with
      | none => []
      | some (result, channel) => result :: recvTimes smoltcp count channel

/-- The results of `recv` for all that waits. -/
def recvWaiting (smoltcp : Smoltcp) (channel : Channel Bytes) : List (Option UdpPacket) :=
  recvTimes smoltcp channel.waiting.length channel

/-- **Every frame is received once**, in order. -/
theorem recvWaiting_eq (smoltcp : Smoltcp) (channel : Channel Bytes) :
    recvWaiting smoltcp channel = channel.waiting.map (SplitRead.parse smoltcp) := by
  unfold recvWaiting
  generalize waits : channel.waiting = frames
  induction frames generalizing channel with
  | nil => rfl
  | cons frame rest ih =>
      have received : SplitRead.recv smoltcp channel = some (SplitRead.parse smoltcp frame,
          { channel with received := channel.received ++ [frame], waiting := rest }) := by
        rw [SplitRead.recv, Channel.receive, waits]
        rfl
      rw [List.length_cons, recvTimes, received]
      dsimp only
      rw [ih _ rfl, List.map_cons]

/-- **The packet is delivered exactly once**, as the system stack reads it: the read loop goes on,
and from then on `recv` returns the datagram once more than it would have, behind all others. -/
def Delivered (smoltcp : Smoltcp) (config : ReadLoopConfig) (sink : StackSplitSink) (raw : Bytes) :
    Prop :=
  ∃ next src dst data, mixedTurn smoltcp config sink (.packet raw) = .next next
    ∧ next.Open
    ∧ systemDatagram raw = some (src, dst, data)
    ∧ recvWaiting smoltcp next.udpInbound
      = recvWaiting smoltcp sink.udpInbound ++ [some ⟨data, src, dst⟩]
    ∧ next.tcpInbound = sink.tcpInbound

section Turn

variable {smoltcp : Smoltcp} {config : ReadLoopConfig} {sink : StackSplitSink} {raw : Bytes}

/-- The turn of the read loop for a packet that is dispatched to the sink. -/
theorem mixedTurn_of_sink (routed : mixedDispatch config raw = .sink) (isOpen : sink.Open)
    (accepted : IpPacket.newChecked smoltcp raw ≠ none) :
    mixedTurn smoltcp config sink (.packet raw) = .next (sink.handed smoltcp raw) := by
  have nonempty : raw ≠ [] := by
    rintro rfl
    cases routed
  rw [mixedTurn_eq, if_pos routed, offer_of_open smoltcp isOpen nonempty, if_neg accepted]

/-- A packet that the sink carries as UDP and `recv` reads as the system stack does is delivered. -/
theorem delivered_of_carried (routed : mixedDispatch config raw = .sink) (isOpen : sink.Open)
    (carried : carriedProtocol smoltcp raw = some .udp)
    (read : ∃ src dst data, systemDatagram raw = some (src, dst, data)
      ∧ SplitRead.parse smoltcp raw = some ⟨data, src, dst⟩) :
    Delivered smoltcp config sink raw := by
  obtain ⟨src, dst, data, extracted, parsed⟩ := read
  have accepted : IpPacket.newChecked smoltcp raw ≠ none := by
    intro rejected
    rw [carriedProtocol, rejected] at carried
    cases carried
  have handed : sink.handed smoltcp raw = { sink with
      udpInbound := { sink.udpInbound with waiting := sink.udpInbound.waiting ++ [raw] } } := by
    rw [StackSplitSink.handed, carried]
  refine ⟨_, src, dst, data, mixedTurn_of_sink routed isOpen accepted, isOpen.handed smoltcp raw,
    extracted, ?_, ?_⟩
  · rw [handed, recvWaiting_eq, recvWaiting_eq, List.map_append, ← parsed]
    rfl
  · rw [handed]

/-- A packet that the sink ignores is not delivered. -/
theorem not_delivered_of_ignored (routed : mixedDispatch config raw = .sink) (isOpen : sink.Open)
    (accepted : IpPacket.newChecked smoltcp raw ≠ none)
    (ignored : carriedProtocol smoltcp raw = none) : ¬ Delivered smoltcp config sink raw := by
  rintro ⟨next, src, dst, data, turned, -, -, once, -⟩
  have same : sink.handed smoltcp raw = sink := by
    rw [StackSplitSink.handed, ignored]
  rw [mixedTurn_of_sink routed isOpen accepted, same] at turned
  cases turned
  have lengths := congrArg List.length once
  rw [List.length_append] at lengths
  exact absurd lengths (by simp)

end Turn

/-- **A UDP packet that is dispatched to the sink is delivered exactly once**, as the system stack
reads it, exactly when it is an IPv4 packet or the fixed IPv6 header names UDP. -/
theorem mixed_udp_delivered_iff {smoltcp : Smoltcp} (reads : ReadsFixedHeaders smoltcp)
    {config : ReadLoopConfig} {sink : StackSplitSink} {raw : Bytes}
    (packet : Ipv4UdpPacket raw ∨ Ipv6UdpPacket raw) (routed : mixedDispatch config raw = .sink)
    (isOpen : sink.Open) : Delivered smoltcp config sink raw
      ↔ byteAt raw 0 >>> 4 = 4 ∨ byteAt raw 6 = ipprotoUdp := by
  obtain v4 | v6 := packet
  · obtain ⟨carried, read⟩ := carried_v4 v4 reads
    exact ⟨fun _ => Or.inl v4.version, fun _ => delivered_of_carried routed isOpen carried read⟩
  · by_cases direct : byteAt raw 6 = ipprotoUdp
    · obtain ⟨carried, read⟩ := v6.carried_of_direct reads direct
      exact ⟨fun _ => Or.inr direct, fun _ => delivered_of_carried routed isOpen carried read⟩
    · refine ⟨fun delivered => ?_, fun either => absurd either ?_⟩
      · refine absurd delivered (not_delivered_of_ignored routed isOpen ?_
          (v6.ignored_of_extended reads direct))
        rw [v6.newChecked reads]
        exact nofun
      · rintro (four | udp)
        · exact v6.not_version4 four
        · exact direct udp

theorem mixed_udp_delivered_iff_sample :
    Delivered lengthChecking ⟨[], [], true⟩ .new (sampleUdpFrame [7]) := by
  have packet : Ipv4UdpPacket (sampleUdpFrame [7]) :=
    ⟨by decide, by decide, ⟨by decide, by decide, by decide⟩, by decide, by decide⟩
  exact (mixed_udp_delivered_iff lengthChecking_reads (Or.inl packet) (by decide)
    StackSplitSink.open_new).mpr (Or.inl (by decide))

/-- The datagram `[7]` from port 1234 of 2001:db8::2 to port 53 of 2001:db8::35, behind a hop-by-hop
header of eight bytes. -/
def sampleExtended : Bytes :=
  [0x60, 0, 0, 0, 0, 17, 0, 64, 0x20, 0x01, 0x0D, 0xB8, 0, 0, 0, 0, 0, 0, 0, 0, 0, 0, 0, 2,
    0x20, 0x01, 0x0D, 0xB8, 0, 0, 0, 0, 0, 0, 0, 0, 0, 0, 0, 0x35, 17, 0, 1, 4, 0, 0, 0, 0,
    4, 210, 0, 53, 0, 9, 0, 0, 7]

/-- **A datagram behind a hop-by-hop header is lost**: it is dispatched to the sink and the system
stack reads it, but the sink hands nothing over. -/
theorem extended_datagram_lost :
    Ipv6UdpPacket sampleExtended
      ∧ mixedDispatch ⟨[], [], true⟩ sampleExtended = .sink
      ∧ (systemDatagram sampleExtended).map (fun extracted => extracted.2.2) = some [7]
      ∧ StackSplitSink.new.handed lengthChecking sampleExtended = .new
      ∧ ¬ Delivered lengthChecking ⟨[], [], true⟩ .new sampleExtended := by
  have packet : Ipv6UdpPacket sampleExtended :=
    ⟨by decide, by decide, ⟨by decide +kernel, by decide +kernel, by decide +kernel⟩,
      by decide +kernel, by decide +kernel, by decide +kernel⟩
  have ignored := packet.ignored_of_extended lengthChecking_reads (by decide)
  have routed : mixedDispatch ⟨[], [], true⟩ sampleExtended = .sink := by decide +kernel
  refine ⟨packet, routed, by decide +kernel, by decide +kernel,
    not_delivered_of_ignored routed StackSplitSink.open_new ?_ ignored⟩
  rw [packet.newChecked lengthChecking_reads]
  exact nofun

end RsTun.Mixed
