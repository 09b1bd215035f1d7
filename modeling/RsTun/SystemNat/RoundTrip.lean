/-
**The NAT round trip of a TCP packet.**

A client packet that a handler forwards leaves from the client address and its NAT port for the
server address and the port of a listener. Whatever packet the listener sends back along the same
way, the handler turns into one packet from the original destination to the original source, as long
as the session is in the table. Both rewrites leave valid checksums.

* `forwards_spec`, `answers_spec` — the two passes, for either family.
* `Ipv4TcpPacket.rewritten`, `Ipv6TcpPacket.rewritten` — what is emitted is again such a packet,
  with its TCP header where it was.
* `nat_round_trip` — their composition over IPv4 and over IPv6, through the handlers as the packet
  processing calls them.
-/

import RsTun.SystemNat.HandleTcp

namespace RsTun.SystemNat

open Library Library.Bytes Packet

/-- A well-formed, unfragmented TCP packet over IPv4 whose total length is that of the slice. -/
structure Ipv4TcpPacket (raw : Bytes) : Prop where
  version : byteAt raw 0 >>> 4 = 4
  header : 20 ≤ headerLength raw
  segment : headerLength raw + 20 ≤ raw.length
  totalLength : be16 raw 2 = raw.length
  unfragmented : be16 raw 6 &&& 0x3fff = 0
  protocol : byteAt raw 9 = ipprotoTcp

/-- The walk over the extension headers of an IPv6 packet. -/
def extensionWalk (raw : Bytes) : ExtensionWalk :=
  skipIpv6ExtensionHeaders (byteAt raw 6) (raw.drop 40)

/-- The offset of the transport header of an IPv6 packet. -/
def transportOffset (raw : Bytes) : Nat := raw.length - (extensionWalk raw).payload.length

/-- A well-formed, unfragmented TCP packet over IPv6, behind any chain of extension headers that can
be skipped, whose payload length is that of the slice. -/
structure Ipv6TcpPacket (raw : Bytes) : Prop where
  version : byteAt raw 0 >>> 4 = 6
  header : 40 ≤ raw.length
  payloadLength : be16 raw 4 + 40 = raw.length
  segment : 20 ≤ (extensionWalk raw).payload.length
  unfragmented : (extensionWalk raw).isFragment = false
  transport : (extensionWalk raw).transportPresent = true
  protocol : (extensionWalk raw).protocol = ipprotoTcp

/-- `handle_tcp_v4`, as `process_ipv4` calls it. -/
def feedV4 (config : TcpConfig 4) (nat : TcpNat) (now : Nat) (raw : Bytes) : TcpOutcome :=
  handleTcpV4 config nat now raw (raw.drop (headerLength raw)) (Octets.ofSlice 4 raw 12)
    (Octets.ofSlice 4 raw 16)

/-- `handle_tcp_v6`, as `process_ipv6` calls it. -/
def feedV6 (config : TcpConfig 16) (nat : TcpNat) (now : Nat) (raw : Bytes) : TcpOutcome :=
  handleTcpV6 config nat now raw (extensionWalk raw).payload (Octets.ofSlice 16 raw 8)
    (Octets.ofSlice 16 raw 24)

/-! ### The two passes -/

theorem portAt_drop (raw : Bytes) (tcpOff start : Nat) :
    portAt (raw.drop tcpOff) start = portAt raw (tcpOff + start) := by
  rw [portAt, portAt, be16, be16, slice, slice, List.drop_drop]

/-- The port of the listener that a packet is sent to is one the handlers recognise. -/
theorem effectiveTcpPort_listens {size : Nat} (config : TcpConfig size) (dstPort : UInt16) :
    effectiveTcpPort config dstPort = config.tcpPort
      ∨ config.dnsTcpPort = some (effectiveTcpPort config dstPort) := by
  unfold effectiveTcpPort
  split
  · split
    · rename_i port configured
      exact Or.inr configured
    · exact Or.inl rfl
  · exact Or.inl rfl

section Passes

variable {size : Nat} {family : TcpFamily size} (spec : TcpFamilySpec family)
variable {config : TcpConfig size} {server client : Octets size} {nat : TcpNat} {now : Nat}
variable {raw : Bytes} {tcpOff : Nat}

/-- **The way out**: one packet, from the client address and the NAT port to a listener. -/
theorem forwards_spec (located : spec.Located raw tcpOff) {natPort : UInt16}
    (forwards : (family.handleTcp config server client nat now raw (raw.drop tcpOff)
      (Octets.ofSlice size raw family.srcAt) (Octets.ofSlice size raw family.dstAt) tcpOff).verdict
        = .forwarded natPort) :
    ∃ rewritten port, (family.handleTcp config server client nat now raw (raw.drop tcpOff)
        (Octets.ofSlice size raw family.srcAt) (Octets.ofSlice size raw family.dstAt) tcpOff).writes
          = [rewritten]
      ∧ (port = config.tcpPort ∨ config.dnsTcpPort = some port)
      ∧ spec.Valid rewritten tcpOff ∧ spec.Rewrites config.tcpMss tcpOff raw rewritten
      ∧ family.source rewritten tcpOff = family.wrap client natPort
      ∧ family.destination rewritten tcpOff = family.wrap server port := by
  simp only [TcpFamily.handleTcp] at forwards ⊢
  split at forwards
  · unfold TcpFamily.handleReply at forwards
    split at forwards
    · cases forwards
    · split at forwards
      · cases forwards
      · split at forwards <;> cases forwards
  · rename_i notReply
    rw [if_neg notReply]
    split at forwards
    · cases forwards
    · rename_i unicast
      rw [if_neg unicast]
      split at forwards
      · cases forwards
      · rename_i notLoopback
        rw [if_neg notLoopback]
        split at forwards
        · cases forwards
        · cases forwards
          exact ⟨_, _, rfl, effectiveTcpPort_listens config _,
            spec.rewritten_spec located _ _ _ _ _⟩

/-- **The way back**: a packet of a listener for the NAT port of a session becomes one packet from
the destination of the session to its source. -/
theorem answers_spec (located : spec.Located raw tcpOff) {port natPort : UInt16}
    {srcIp dstIp : Octets size} {srcPort dstPort : UInt16} {entry : TcpNatEntry}
    (listens : port = config.tcpPort ∨ config.dnsTcpPort = some port)
    (fromServer : family.source raw tcpOff = family.wrap server port)
    (toClient : family.destination raw tcpOff = family.wrap client natPort)
    (session : nat.portMap.lookup natPort = some entry)
    (entrySource : entry.source = family.wrap srcIp srcPort)
    (entryDestination : entry.destination = family.wrap dstIp dstPort) :
    ∃ answer, (family.handleTcp config server client nat now raw (raw.drop tcpOff)
        (Octets.ofSlice size raw family.srcAt) (Octets.ofSlice size raw family.dstAt) tcpOff).writes
          = [answer]
      ∧ spec.Valid answer tcpOff ∧ spec.Rewrites config.tcpMss tcpOff raw answer
      ∧ family.source answer tcpOff = family.wrap dstIp dstPort
      ∧ family.destination answer tcpOff = family.wrap srcIp srcPort := by
  obtain ⟨serverIp, serverPort⟩ := spec.wrap_injective fromServer
  obtain ⟨-, clientPort⟩ := spec.wrap_injective toClient
  have recognised : Octets.ofSlice size raw family.srcAt = server
      ∧ (portAt (raw.drop tcpOff) 0 = config.tcpPort
        ∨ config.dnsTcpPort = some (portAt (raw.drop tcpOff) 0)) := by
    rw [portAt_drop, Nat.add_zero, serverPort]
    exact ⟨serverIp, listens⟩
  have known : nat.lookupBack now natPort = (some entry.key, nat.touch entry now) := by
    rw [TcpNat.lookupBack, session]
  simp only [TcpFamily.handleTcp]
  rw [if_pos recognised, portAt_drop, clientPort, TcpFamily.handleReply, known]
  simp only [TcpNatEntry.key, entrySource, entryDestination, spec.unwrap_wrap]
  exact ⟨_, rfl, spec.rewritten_spec located dstIp srcIp dstPort srcPort config.tcpMss⟩

end Passes

/-! ### The handlers -/

theorem Ipv4TcpPacket.located {raw : Bytes} (packet : Ipv4TcpPacket raw) :
    ipv4Spec.Located raw (headerLength raw) := ⟨rfl, packet.header, packet.segment⟩

/-- The transport payload is what stands behind the transport offset. -/
theorem transportOffset_spec {raw : Bytes} (header : 40 ≤ raw.length) :
    40 ≤ transportOffset raw ∧ transportOffset raw ≤ raw.length
      ∧ (extensionWalk raw).payload = raw.drop (transportOffset raw) := by
  obtain ⟨skipped, within, rest⟩ :=
    skipIpv6ExtensionHeaders_suffix (byteAt raw 6) (raw.drop 40)
  rw [List.drop_drop] at rest
  rw [List.length_drop] at within
  have size : (extensionWalk raw).payload.length = raw.length - (40 + skipped) := by
    rw [extensionWalk, rest, List.length_drop]
  have offset : transportOffset raw = 40 + skipped := by
    rw [transportOffset, size]
    omega
  refine ⟨by omega, by omega, ?_⟩
  rw [offset]
  exact rest

/-- A TCP header behind the extension headers. -/
theorem located_transport {raw : Bytes} (header : 40 ≤ raw.length)
    (segment : 20 ≤ (extensionWalk raw).payload.length) :
    ipv6Spec.Located raw (transportOffset raw) := by
  obtain ⟨low, -, -⟩ := transportOffset_spec header
  refine ⟨low, ?_⟩
  rw [transportOffset]
  have : (extensionWalk raw).payload.length ≤ raw.length := by
    obtain ⟨skipped, -, rest⟩ := skipIpv6ExtensionHeaders_suffix (byteAt raw 6) (raw.drop 40)
    rw [extensionWalk, rest, List.length_drop, List.length_drop]
    omega
  omega

theorem Ipv6TcpPacket.located {raw : Bytes} (packet : Ipv6TcpPacket raw) :
    ipv6Spec.Located raw (transportOffset raw) := located_transport packet.header packet.segment

/-- A configured handler passes a TCP packet over IPv4 on to the common part. -/
theorem feedV4_eq {config : TcpConfig 4} {server client : Ipv4Addr}
    (hasServer : config.serverAddr = some server) (hasClient : config.clientAddr = some client)
    (nat : TcpNat) (now : Nat) {raw : Bytes} (segment : headerLength raw + 20 ≤ raw.length) :
    feedV4 config nat now raw = ipv4Family.handleTcp config server client nat now raw
      (raw.drop (headerLength raw)) (Octets.ofSlice 4 raw ipv4Family.srcAt)
      (Octets.ofSlice 4 raw ipv4Family.dstAt) (headerLength raw) := by
  have long : ¬ (raw.drop (headerLength raw)).length < 20 := by
    rw [List.length_drop]
    omega
  rw [feedV4, handleTcpV4, hasServer, hasClient]
  exact if_neg long

/-- A configured handler passes a TCP packet over IPv6 on to the common part. -/
theorem feedV6_eq {config : TcpConfig 16} {server client : Ipv6Addr}
    (hasServer : config.serverAddr = some server) (hasClient : config.clientAddr = some client)
    (nat : TcpNat) (now : Nat) {raw : Bytes} (header : 40 ≤ raw.length)
    (segment : 20 ≤ (extensionWalk raw).payload.length) :
    feedV6 config nat now raw = ipv6Family.handleTcp config server client nat now raw
      (raw.drop (transportOffset raw)) (Octets.ofSlice 16 raw ipv6Family.srcAt)
      (Octets.ofSlice 16 raw ipv6Family.dstAt) (transportOffset raw) := by
  obtain ⟨-, -, payload⟩ := transportOffset_spec header
  obtain ⟨low, high⟩ := located_transport header segment
  rw [feedV6, handleTcpV6, hasServer, hasClient]
  dsimp only
  rw [if_neg (Nat.not_lt.mpr segment), ← transportOffset, if_neg (by omega), payload]
  rfl

/-- A handler that forwards has its two addresses. -/
theorem feedV4_configured {config : TcpConfig 4} {nat : TcpNat} {now : Nat} {raw : Bytes}
    {natPort : UInt16} (forwards : (feedV4 config nat now raw).verdict = .forwarded natPort) :
    ∃ server client, config.serverAddr = some server ∧ config.clientAddr = some client := by
  unfold feedV4 handleTcpV4 at forwards
  split at forwards
  · rename_i server client hasServer hasClient
    exact ⟨server, client, hasServer, hasClient⟩
  · cases forwards

/-- A handler that forwards has its two addresses. -/
theorem feedV6_configured {config : TcpConfig 16} {nat : TcpNat} {now : Nat} {raw : Bytes}
    {natPort : UInt16} (forwards : (feedV6 config nat now raw).verdict = .forwarded natPort) :
    ∃ server client, config.serverAddr = some server ∧ config.clientAddr = some client := by
  unfold feedV6 handleTcpV6 at forwards
  split at forwards
  · rename_i server client hasServer hasClient
    exact ⟨server, client, hasServer, hasClient⟩
  · cases forwards

/-! ### A rewritten packet is a packet of the same shape -/

/-- All that a rewrite may change. -/
theorem TcpFamilySpec.Rewrites.agreeOff {size : Nat} {family : TcpFamily size}
    {spec : TcpFamilySpec family} {tcpMss : Option UInt16} {tcpOff : Nat} {before after : Bytes}
    (rewrites : spec.Rewrites tcpMss tcpOff before after) :
    AgreeOff ({index | tcpOff + 20 ≤ index} ∪ (family.addressing tcpOff ∪ spec.sums tcpOff))
      before after := by
  obtain ⟨lowered, lowers, agree⟩ := rewrites
  exact (lowers.agreeOff.mono Set.subset_union_left).trans (agree.mono Set.subset_union_right)

/-- **A rewritten IPv4 packet** is a TCP packet with the same header length. -/
theorem Ipv4TcpPacket.rewritten {tcpMss : Option UInt16} {before after : Bytes}
    (packet : Ipv4TcpPacket before)
    (rewrites : ipv4Spec.Rewrites tcpMss (headerLength before) before after) :
    Ipv4TcpPacket after ∧ headerLength after = headerLength before := by
  have header := packet.header
  have agree : AgreeOff {index | 10 ≤ index} before after := by
    refine rewrites.agreeOff.mono fun index inside => ?_
    have fields : headerLength before + 20 ≤ index
        ∨ (12 ≤ index ∧ index < 20 ∨ headerLength before ≤ index ∧ index < headerLength before + 4)
        ∨ (10 ≤ index ∧ index < 12
          ∨ headerLength before + 16 ≤ index ∧ index < headerLength before + 18) := inside
    show 10 ≤ index
    omega
  have early : ∀ start, start + 2 ≤ 10 → be16 after start = be16 before start := fun start within =>
    be16_congr (agree.slice_eq fun index _ high inside =>
      absurd (show 10 ≤ index from inside) (by omega))
  have same : headerLength after = headerLength before := headerLength_congr agree (by simp)
  refine ⟨⟨?_, ?_, ?_, ?_, ?_, ?_⟩, same⟩
  · rw [agree.byteAt_eq (by simp)]
    exact packet.version
  · rw [same]
    exact header
  · rw [same, agree.1]
    exact packet.segment
  · rw [early 2 (by omega), agree.1]
    exact packet.totalLength
  · rw [early 6 (by omega)]
    exact packet.unfragmented
  · rw [agree.byteAt_eq (by simp)]
    exact packet.protocol

/-- **A rewritten IPv6 packet** is a TCP packet with the same extension headers. -/
theorem Ipv6TcpPacket.rewritten {tcpMss : Option UInt16} {before after : Bytes}
    (packet : Ipv6TcpPacket before)
    (rewrites : ipv6Spec.Rewrites tcpMss (transportOffset before) before after) :
    Ipv6TcpPacket after ∧ transportOffset after = transportOffset before := by
  have header := packet.header
  obtain ⟨low, high, payload⟩ := transportOffset_spec header
  have agree : AgreeOff {index | 8 ≤ index ∧ (index < 40 ∨ transportOffset before ≤ index)}
      before after := by
    refine rewrites.agreeOff.mono fun index inside => ?_
    have fields : transportOffset before + 20 ≤ index
        ∨ (8 ≤ index ∧ index < 40
          ∨ transportOffset before ≤ index ∧ index < transportOffset before + 4)
        ∨ transportOffset before + 16 ≤ index ∧ index < transportOffset before + 18 := inside
    show 8 ≤ index ∧ (index < 40 ∨ transportOffset before ≤ index)
    omega
  have first : byteAt after 6 = byteAt before 6 := agree.byteAt_eq (by simp)
  have walk : extensionWalk after = { extensionWalk before with
      payload := (after.drop 40).drop
        ((before.drop 40).length - (extensionWalk before).payload.length) } := by
    rw [extensionWalk, first]
    refine skipIpv6ExtensionHeaders_congr ?_ packet.transport fun index within => ?_
    · rw [List.length_drop, List.length_drop, agree.1]
    · rw [List.getElem?_drop, List.getElem?_drop]
      refine agree.2 _ ?_
      rintro ⟨-, early | late⟩
      · omega
      · change index < (before.drop 40).length - (extensionWalk before).payload.length at within
        rw [payload, List.length_drop, List.length_drop] at within
        omega
  have size : (extensionWalk after).payload.length = (extensionWalk before).payload.length := by
    rw [walk]
    simp only [List.length_drop, agree.1, payload]
    omega
  refine ⟨⟨?_, ?_, ?_, ?_, ?_, ?_, ?_⟩, ?_⟩
  · rw [agree.byteAt_eq (by simp)]
    exact packet.version
  · rw [agree.1]
    exact header
  · rw [agree.1, be16_congr (agree.slice_eq fun index _ high' inside => ?_)]
    · exact packet.payloadLength
    · exact absurd inside.1 (by omega)
  · rw [size]
    exact packet.segment
  · rw [walk]
    exact packet.unfragmented
  · rw [walk]
    exact packet.transport
  · rw [walk]
    exact packet.protocol
  · rw [transportOffset, size, agree.1, transportOffset]

/-! ### The round trip -/

/-- **A handler as it is fed with packets**, over one of the families. -/
structure TcpFeed {size : Nat} {family : TcpFamily size} (spec : TcpFamilySpec family) where
  /-- The packets it is fed with. -/
  Packet : Bytes → Prop
  /-- Where their TCP header stands. -/
  offset : Bytes → Nat
  feed : TcpConfig size → TcpNat → Nat → Bytes → TcpOutcome
  located : ∀ {raw}, Packet raw → spec.Located raw (offset raw)
  configured : ∀ {config nat now raw natPort},
    (feed config nat now raw).verdict = .forwarded natPort →
      ∃ server client, config.serverAddr = some server ∧ config.clientAddr = some client
  feed_eq : ∀ {config server client}, config.serverAddr = some server →
    config.clientAddr = some client → ∀ nat now {raw}, Packet raw →
      feed config nat now raw = family.handleTcp config server client nat now raw
        (raw.drop (offset raw)) (Octets.ofSlice size raw family.srcAt)
        (Octets.ofSlice size raw family.dstAt) (offset raw)
  rewritten : ∀ {tcpMss before after}, Packet before →
    spec.Rewrites tcpMss (offset before) before after →
      Packet after ∧ offset after = offset before

namespace TcpFeed

variable {size : Nat} {family : TcpFamily size} {spec : TcpFamilySpec family} (fed : TcpFeed spec)

/-- **What is written for a packet**: a packet of the same shape with valid checksums, different in
addresses, ports, checksums and a lowered MSS option only, from `src` to `dst`. -/
structure Emits (tcpMss : Option UInt16) (packet : Bytes) (writes : List Bytes) (out : Bytes)
    (src dst : SocketAddr) : Prop where
  only : writes = [out]
  shape : fed.Packet out ∧ fed.offset out = fed.offset packet
  valid : spec.Valid out (fed.offset packet)
  rewrites : spec.Rewrites tcpMss (fed.offset packet) packet out
  source : family.source out (fed.offset packet) = src
  destination : family.destination out (fed.offset packet) = dst

/-- **The round trip of a handler.** A packet that it forwards is emitted from some `client` address
and the NAT port to some `listener`; and every packet from that listener to that address is emitted
from the first packet's destination to the first packet's source, in every NAT state in which the
NAT port has the session of the first packet. -/
def RoundTrips : Prop :=
  ∀ (config : TcpConfig size) (nat : TcpNat) (now : Nat) (packet : Bytes) (natPort : UInt16),
    fed.Packet packet → (fed.feed config nat now packet).verdict = .forwarded natPort →
    ∃ rewritten client listener,
      fed.Emits config.tcpMss packet (fed.feed config nat now packet).writes rewritten client
        listener
        ∧ ∀ (nat' : TcpNat) (now' : Nat) (reply : Bytes) (entry : TcpNatEntry), fed.Packet reply →
          family.source reply (fed.offset reply) = listener →
          family.destination reply (fed.offset reply) = client →
          nat'.portMap.lookup natPort = some entry →
          entry.source = family.source packet (fed.offset packet) →
          entry.destination = family.destination packet (fed.offset packet) →
          ∃ answer, fed.Emits config.tcpMss reply (fed.feed config nat' now' reply).writes answer
            (family.destination packet (fed.offset packet))
            (family.source packet (fed.offset packet))

theorem roundTrips : fed.RoundTrips := by
  intro config nat now packet natPort wellFormed forwards
  obtain ⟨server, client, hasServer, hasClient⟩ := fed.configured forwards
  rw [fed.feed_eq hasServer hasClient nat now wellFormed] at forwards ⊢
  obtain ⟨rewritten, port, written, listens, valid, rewrites, source, destination⟩ :=
    forwards_spec spec (fed.located wellFormed) forwards
  refine ⟨rewritten, family.wrap client natPort, family.wrap server port,
    ⟨written, fed.rewritten wellFormed rewrites, valid, rewrites, source, destination⟩, ?_⟩
  intro nat' now' reply entry replyFormed fromListener toClient session entrySource entryDestination
  rw [fed.feed_eq hasServer hasClient nat' now' replyFormed]
  obtain ⟨answer, answered, valid', rewrites', source', destination'⟩ :=
    answers_spec spec (fed.located replyFormed) listens fromListener toClient session entrySource
      entryDestination
  exact ⟨answer, answered, fed.rewritten replyFormed rewrites', valid', rewrites', source',
    destination'⟩

end TcpFeed

/-- `handle_tcp_v4`, fed with unfragmented TCP packets. -/
def tcpFeedV4 : TcpFeed ipv4Spec where
  Packet := Ipv4TcpPacket
  offset := headerLength
  feed := feedV4
  located := Ipv4TcpPacket.located
  configured := feedV4_configured
  feed_eq hasServer hasClient nat now _ packet :=
    feedV4_eq hasServer hasClient nat now packet.segment
  rewritten := Ipv4TcpPacket.rewritten

/-- `handle_tcp_v6`, fed with unfragmented TCP packets. -/
def tcpFeedV6 : TcpFeed ipv6Spec where
  Packet := Ipv6TcpPacket
  offset := transportOffset
  feed := feedV6
  located := Ipv6TcpPacket.located
  configured := feedV6_configured
  feed_eq hasServer hasClient nat now _ packet :=
    feedV6_eq hasServer hasClient nat now packet.header packet.segment
  rewritten := Ipv6TcpPacket.rewritten

/-- **The NAT round trip**, over IPv4 and over IPv6: for every NAT state, every configuration of the
handlers and every unfragmented TCP packet. -/
theorem nat_round_trip : tcpFeedV4.RoundTrips ∧ tcpFeedV6.RoundTrips :=
  ⟨tcpFeedV4.roundTrips, tcpFeedV6.roundTrips⟩

/-- A listener on 10.0.0.1:5000, clients translated to 10.0.0.2, and an MSS bound of 1400. -/
def sampleConfig : TcpConfig 4 where
  serverAddr := some (Octets.ofNat 4 0x0A000001)
  clientAddr := some (Octets.ofNat 4 0x0A000002)
  loopback := []
  tcpPort := 5000
  dnsTcpPort := none
  tcpMss := some 1400
  dnsHijack := false

/-- A SYN from 10.0.0.5:4000 to 1.1.1.1:443 with an MSS of 1460. -/
def sampleSyn : Bytes :=
  [0x45, 0, 0, 44, 0, 1, 0, 0, 64, 6, 0, 0, 10, 0, 0, 5, 1, 1, 1, 1,
    0x0F, 0xA0, 0x01, 0xBB, 0, 0, 0, 1, 0, 0, 0, 0, 0x60, 0x02, 0xFF, 0xFF, 0, 0, 0, 0,
    2, 4, 0x05, 0xB4]

/-- The answer of the listener, from 10.0.0.1:5000 to 10.0.0.2:10000. -/
def sampleSynAck : Bytes :=
  [0x45, 0, 0, 40, 0, 2, 0, 0, 64, 6, 0, 0, 10, 0, 0, 1, 10, 0, 0, 2,
    0x13, 0x88, 0x27, 0x10, 0, 0, 0, 9, 0, 0, 0, 2, 0x50, 0x12, 0xFF, 0xFF, 0, 0, 0, 0]

theorem nat_round_trip_sample :
    ∃ answer, (feedV4 sampleConfig (feedV4 sampleConfig TcpNat.new 0 sampleSyn).nat 0
        sampleSynAck).writes = [answer]
      ∧ ipv4Family.source answer 20 = ipv4Family.destination sampleSyn 20
      ∧ ipv4Family.destination answer 20 = ipv4Family.source sampleSyn 20
      ∧ ipv4Spec.Valid answer 20 := by
  have syn : Ipv4TcpPacket sampleSyn :=
    ⟨by decide, by decide, by decide, by decide, by decide, by decide⟩
  have synAck : Ipv4TcpPacket sampleSynAck :=
    ⟨by decide, by decide, by decide, by decide, by decide, by decide⟩
  obtain ⟨rewritten, client, listener, emits, answers⟩ :=
    nat_round_trip.1 sampleConfig TcpNat.new 0 sampleSyn 10000 syn rfl
  have written := emits.only
  have source := emits.source
  have destination := emits.destination
  rw [show (tcpFeedV4.feed sampleConfig TcpNat.new 0 sampleSyn).writes = _ from rfl] at written
  cases written
  have fromListener :
      ipv4Family.source sampleSynAck (tcpFeedV4.offset sampleSynAck) = listener := by
    rw [← destination]
    decide
  have toClient : ipv4Family.destination sampleSynAck (tcpFeedV4.offset sampleSynAck) = client := by
    rw [← source]
    decide
  obtain ⟨answer, answered⟩ := answers (feedV4 sampleConfig TcpNat.new 0 sampleSyn).nat 0
    sampleSynAck ⟨ipv4Family.source sampleSyn 20, ipv4Family.destination sampleSyn 20, 0⟩ synAck
    fromListener toClient (by decide) rfl rfl
  exact ⟨answer, answered.only, answered.source, answered.destination, answered.valid⟩

end RsTun.SystemNat
