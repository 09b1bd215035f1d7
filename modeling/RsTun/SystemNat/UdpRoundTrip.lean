/-
**The round trip of a UDP reply.**

A request that `process_ipv4` or `process_ipv6` dispatches leaves its header as the template of the
replies to it. The template covers all extension headers of an IPv6 request, but
`build_udp_reply_v6_with_template` copies its first 48 bytes, as if there were none.

* `udp_reply_round_trip_iff` — every reply that fits is parsed again, with the source of the reply,
  the client as destination, the payload and valid checksums, **exactly** when the request is an
  IPv4 packet or has no extension headers.
* `extended_request_unanswered` — the reply to a request with a hop-by-hop header is no UDP packet.
-/

import RsTun.SystemNat.UdpReply

namespace RsTun.SystemNat

open Library Library.Bytes Packet

/-- The arguments of a call of `dispatch_udp` that come from the packet. -/
structure UdpDispatch where
  src : SocketAddr
  dst : SocketAddr
  data : Bytes
  headerTemplate : Bytes
  deriving DecidableEq

/-- The call of `dispatch_udp` that `process_ipv4` or `process_ipv6` makes, by the version of the
packet. -/
def systemUdp (inet4Broadcast : Option Ipv4Addr) (raw : Bytes) : Option UdpDispatch :=
  if byteAt raw 0 >>> 4 = 4 then
    match dispatchIpv4 inet4Broadcast raw with
    | .udp src dst data headerTemplate => some ⟨src, dst, data, headerTemplate⟩
    | _ => none
  else if byteAt raw 0 >>> 4 = 6 then
    match dispatchIpv6 raw with
    | .udp src dst data headerTemplate => some ⟨src, dst, data, headerTemplate⟩
    | _ => none
  else none

/-- Two addresses of one family. -/
def SameFamily : SocketAddr → SocketAddr → Prop
  | .v4 _ _, .v4 _ _ => True
  | .v6 _ _ _ _, .v6 _ _ _ _ => True
  | _, _ => False

/-- What a packet carries of an address. -/
def onWire : SocketAddr → SocketAddr
  | .v4 ip port => .v4 ip port
  | .v6 ip port _ _ => .v6 ip port 0 0

/-- The length field of the IP header can state the length of the reply. -/
def ReplyFits (raw payload : Bytes) : Prop :=
  if byteAt raw 0 >>> 4 = 4 then headerLength raw + 8 + payload.length ≤ 65535
  else 8 + payload.length ≤ 65535

instance (raw payload : Bytes) : Decidable (ReplyFits raw payload) := by
  unfold ReplyFits
  infer_instance

/-- **An IPv4 packet that the parsers accept** as the datagram `payload` from `src` to `dst`. -/
structure AcceptedV4 (pkt : Bytes) (src dst : SocketAddr) (payload : Bytes) : Prop where
  version : byteAt pkt 0 >>> 4 = 4
  header : WholeIpv4Header pkt
  totalLength : be16 pkt 2 = pkt.length
  unfragmented : ¬ FragmentBits pkt
  protocol : byteAt pkt 9 = ipprotoUdp
  udpLength : headerLength pkt + be16 pkt (headerLength pkt + 4) = pkt.length
  parsed : parseUdpV4 (pkt.drop (headerLength pkt)) (Octets.ofSlice 4 pkt 12)
    (Octets.ofSlice 4 pkt 16) = some (src, dst, payload)
  headerChecksum : Ipv4ChecksumValid pkt
  udpChecksum : TransportChecksumValidV4 ipprotoUdp pkt (headerLength pkt)

/-- **An IPv6 packet that the parsers accept** as the datagram `payload` from `src` to `dst`. -/
structure AcceptedV6 (pkt : Bytes) (src dst : SocketAddr) (payload : Bytes) : Prop where
  version : byteAt pkt 0 >>> 4 = 6
  header : 40 ≤ pkt.length
  payloadLength : 40 + be16 pkt 4 = pkt.length
  unfragmented : (extensionWalk pkt).isFragment = false
  transport : (extensionWalk pkt).transportPresent = true
  protocol : (extensionWalk pkt).protocol = ipprotoUdp
  udpLength : transportOffset pkt + be16 pkt (transportOffset pkt + 4) = pkt.length
  parsed : parseUdpV6 (extensionWalk pkt).payload (Octets.ofSlice 16 pkt 8)
    (Octets.ofSlice 16 pkt 24) = some (src, dst, payload)
  udpChecksum : TransportChecksumValidV6 ipprotoUdp pkt (transportOffset pkt)

/-- **The reply is parsed again**: the packet of the reply task is accepted as a datagram from the
source of the reply to the client. -/
def RoundTrips (request : UdpDispatch) (replySrc : SocketAddr) (payload : Bytes) : Prop :=
  ∃ pkt, replyPacket request.headerTemplate replySrc request.src payload = .ok (some pkt)
    ∧ (AcceptedV4 pkt (onWire replySrc) request.src payload
      ∨ AcceptedV6 pkt (onWire replySrc) request.src payload)

/-! ### Requests -/

/-- A port is read as the number it was written as. -/
theorem portAt_of_be16 {data : Bytes} {start : Nat} {port : UInt16}
    (number : be16 data start = port.toNat) : portAt data start = port := by
  rw [portAt, number]
  exact UInt16.ofNat_toNat

/-- Ports with one number are the same. -/
theorem portAt_congr {data data' : Bytes} {start start' : Nat}
    (same : be16 data start = be16 data' start') : portAt data start = portAt data' start' :=
  congrArg UInt16.ofNat same

/-- Addresses with one slice are the same. -/
theorem ofSlice_congr {size : Nat} {data data' : Bytes} {start start' : Nat}
    (fits : start + size ≤ data.length) (fits' : start' + size ≤ data'.length)
    (same : slice data start size = slice data' start' size) :
    Octets.ofSlice size data start = Octets.ofSlice size data' start' := by
  apply Octets.ext
  rw [Octets.ofSlice_bytes fits, Octets.ofSlice_bytes fits', same]

/-- An address is read as it was written. -/
theorem ofSlice_of_bytes {size : Nat} {data : Bytes} {start : Nat} {addr : Octets size}
    (fits : start + size ≤ data.length) (same : slice data start size = addr.bytes) :
    Octets.ofSlice size data start = addr := by
  apply Octets.ext
  rw [Octets.ofSlice_bytes fits, same]

/-- **A request over IPv4**: an unfragmented UDP packet, its client, and its header as the
template. -/
theorem dispatchIpv4_udp {inet4Broadcast : Option Ipv4Addr} {raw data headerTemplate : Bytes}
    {src dst : SocketAddr}
    (dispatched : dispatchIpv4 inet4Broadcast raw = .udp src dst data headerTemplate) :
    20 ≤ headerLength raw ∧ headerLength raw + 8 ≤ raw.length ∧ byteAt raw 9 = ipprotoUdp
      ∧ ¬ FragmentBits raw
      ∧ src = .v4 (Octets.ofSlice 4 raw 12) (portAt raw (headerLength raw))
      ∧ headerTemplate = raw.take (headerLength raw + 8) := by
  unfold dispatchIpv4 at dispatched
  dsimp only at dispatched
  by_cases tiny : raw.length < 20
  · rw [if_pos tiny] at dispatched
    cases dispatched
  rw [if_neg tiny] at dispatched
  by_cases broken : raw.length < headerLength raw ∨ headerLength raw < 20
  · rw [if_pos broken] at dispatched
    cases dispatched
  rw [if_neg broken] at dispatched
  by_cases broadcast : some (Octets.ofSlice 4 raw 16) = inet4Broadcast
  · rw [if_pos broadcast] at dispatched
    cases dispatched
  rw [if_neg broadcast] at dispatched
  by_cases tcp : byteAt raw 9 = ipprotoTcp
  · rw [if_pos tcp] at dispatched
    split at dispatched <;> cases dispatched
  rw [if_neg tcp] at dispatched
  by_cases udp : byteAt raw 9 = ipprotoUdp
  · rw [if_pos udp] at dispatched
    by_cases fragment : be16 raw 6 &&& 0x2000 ≠ 0 ∨ be16 raw 6 &&& 0x1fff ≠ 0
    · rw [if_pos fragment] at dispatched
      cases dispatched
    rw [if_neg fragment] at dispatched
    by_cases unicast : isGlobalUnicastV4 (Octets.ofSlice 4 raw 16) = false
    · rw [if_pos unicast] at dispatched
      cases dispatched
    rw [if_neg unicast, parseUdpV4] at dispatched
    by_cases short : (raw.drop (headerLength raw)).length < 8
    · rw [if_pos short] at dispatched
      cases dispatched
    rw [if_neg short] at dispatched
    rw [List.length_drop] at short
    have long : headerLength raw + 8 ≤ raw.length := by omega
    cases dispatched
    refine ⟨by omega, long, udp, fragment, ?_, ?_⟩
    · rw [portAt_drop, Nat.add_zero]
    · rw [Nat.min_eq_left long]
  · rw [if_neg udp] at dispatched
    repeat' split at dispatched
    all_goals cases dispatched

/-- **A request over IPv6**: its client, and all its headers as the template. -/
theorem dispatchIpv6_udp {raw data headerTemplate : Bytes} {src dst : SocketAddr}
    (dispatched : dispatchIpv6 raw = .udp src dst data headerTemplate) :
    40 ≤ raw.length ∧ transportOffset raw + 8 ≤ raw.length
      ∧ (extensionWalk raw).protocol = ipprotoUdp
      ∧ src = .v6 (Octets.ofSlice 16 raw 8) (portAt raw (transportOffset raw)) 0 0
      ∧ headerTemplate = raw.take (transportOffset raw + 8) := by
  unfold dispatchIpv6 at dispatched
  dsimp only at dispatched
  rw [← extensionWalk] at dispatched
  by_cases tiny : raw.length < 40
  · rw [if_pos tiny] at dispatched
    cases dispatched
  rw [if_neg tiny] at dispatched
  have header := Nat.not_lt.mp tiny
  obtain ⟨-, within, payload⟩ := transportOffset_spec header
  by_cases rejected : (extensionWalk raw).isFragment = true
      ∨ (extensionWalk raw).transportPresent = false
  · rw [if_pos rejected] at dispatched
    cases dispatched
  rw [if_neg rejected] at dispatched
  by_cases tcp : (extensionWalk raw).protocol = ipprotoTcp
  · rw [if_pos tcp] at dispatched
    cases dispatched
  rw [if_neg tcp] at dispatched
  by_cases udp : (extensionWalk raw).protocol = ipprotoUdp
  · rw [if_pos udp] at dispatched
    by_cases unicast : isGlobalUnicastV6 (Octets.ofSlice 16 raw 24) = false
    · rw [if_pos unicast] at dispatched
      cases dispatched
    rw [if_neg unicast, parseUdpV6] at dispatched
    by_cases short : (extensionWalk raw).payload.length < 8
    · rw [if_pos short] at dispatched
      cases dispatched
    rw [if_neg short] at dispatched
    have long : transportOffset raw + 8 ≤ raw.length := by
      rw [payload, List.length_drop] at short
      omega
    cases dispatched
    refine ⟨header, long, udp, ?_, ?_⟩
    · rw [payload, portAt_drop, Nat.add_zero]
    · rw [← transportOffset, Nat.min_eq_left long]
  · rw [if_neg udp] at dispatched
    repeat' split at dispatched
    all_goals cases dispatched

/-! ### The template, filled in -/

/-- **The reply over IPv4**: the template of a request is used, and the packet is accepted. -/
theorem roundTrips_v4 {inet4Broadcast : Option Ipv4Addr} {raw data headerTemplate payload : Bytes}
    {src dst : SocketAddr} (version : byteAt raw 0 >>> 4 = 4)
    (dispatched : dispatchIpv4 inet4Broadcast raw = .udp src dst data headerTemplate)
    (fits : headerLength raw + 8 + payload.length ≤ 65535) (ip : Ipv4Addr) (port : UInt16) :
    ∃ pkt, replyPacket headerTemplate (.v4 ip port) src payload = .ok (some pkt)
      ∧ AcceptedV4 pkt (.v4 ip port) src payload := by
  obtain ⟨header, long, udp, whole, rfl, rfl⟩ := dispatchIpv4_udp dispatched
  have size : (raw.take (headerLength raw + 8)).length = headerLength raw + 8 := by
    rw [List.length_take, Nat.min_eq_left long]
  have same : headerLength (raw.take (headerLength raw + 8)) = headerLength raw := by
    rw [headerLength, byteAt_take (by omega), ← headerLength]
  obtain ⟨out, built, filled⟩ := @buildUdpReply_of_template_v4
    (raw.take (headerLength raw + 8)) payload
    (by rw [byteAt_take (by omega), version]) (by rw [same]; exact header) (by rw [same, size])
    (by rw [same]; exact fits) ip (Octets.ofSlice 4 raw 12) port (portAt raw (headerLength raw))
  rw [same, List.take_take, Nat.min_self] at filled
  refine ⟨out, replyPacket_of_template built, ?_⟩
  have sized := @length_template raw payload _ long
  have first : headerLength (raw.take (headerLength raw + 8) ++ payload) = headerLength raw := by
    rw [headerLength, byteAt_template long (by omega), ← headerLength]
  obtain ⟨fields, agree, total, headerChecksum, udpChecksum⟩ :=
    fillUdpReplyV4_spec _ _ ip port first header (by rw [sized]; omega) filled
  -- the bytes that the reply keeps of the request
  have kept : ∀ {index : Nat}, index < 2 ∨ 4 ≤ index ∧ index < 10 →
      index ∉ replyTouchedV4 (headerLength raw) := by
    rintro index apart (⟨low, high⟩ | ⟨low, high⟩ | ⟨low, high⟩) <;> omega
  have byte : ∀ {index : Nat}, index < 2 ∨ 4 ≤ index ∧ index < 10 →
      byteAt out index = byteAt raw index := by
    intro index apart
    rw [agree.byteAt_eq (kept apart), byteAt_template long (by omega)]
  have length : out.length = headerLength raw + 8 + payload.length := fields.length.trans sized
  have outHeader : headerLength out = headerLength raw := by
    rw [headerLength, byte (Or.inl (by omega)), ← headerLength]
  have flags : be16 out 6 = be16 raw 6 := by
    rw [agree.be16_eq (kept (Or.inr (by omega))) (kept (Or.inr (by omega)))]
    exact be16_congr (slice_template long (by omega))
  have udpLength : be16 out (headerLength raw + 4) = 8 + payload.length := by
    rw [fields.udpLength, Nat.mod_eq_of_lt (by omega)]
  have datagram : DatagramAt out (headerLength raw) out.length :=
    ⟨Nat.le_refl _, by omega, by omega⟩
  have client : Octets.ofSlice 4 out 16 = Octets.ofSlice 4 raw 12 :=
    ofSlice_congr (by omega) (by omega)
      (fields.dst.trans (slice_template long (by omega)))
  have clientPort : portAt out (headerLength raw + 2) = portAt raw (headerLength raw) :=
    portAt_congr (fields.dstPort.trans (be16_congr (slice_template long (by omega))))
  have carried : slice out (headerLength raw + 8) (8 + payload.length - 8) = payload := by
    rw [slice, fields.payload, drop_template long, Nat.add_sub_cancel_left, List.take_length]
  refine ⟨?_, ?_, ?_, ?_, ?_, ?_, ?_, headerChecksum, ?_⟩
  · rw [byte (Or.inl (by omega)), version]
  · unfold WholeIpv4Header
    omega
  · rw [total, Nat.mod_eq_of_lt (by omega)]
    omega
  · unfold FragmentBits
    rw [flags]
    exact whole
  · rw [byte (Or.inr (by omega)), udp]
  · rw [outHeader, udpLength]
    omega
  · rw [outHeader, datagram.parseUdpV4_eq, udpLength, carried, clientPort, client,
      ofSlice_of_bytes (by omega) fields.src, portAt_of_be16 fields.srcPort]
  · rw [outHeader]
    exact udpChecksum

/-- The offset of the transport header without extension headers. -/
theorem transportOffset_of_direct {raw : Bytes} (header : 40 ≤ raw.length)
    (direct : byteAt raw 6 = ipprotoUdp) :
    extensionWalk raw = ⟨ipprotoUdp, raw.drop 40, false, true⟩ ∧ transportOffset raw = 40 := by
  have walk : extensionWalk raw = ⟨ipprotoUdp, raw.drop 40, false, true⟩ := by
    rw [extensionWalk, direct, skipIpv6ExtensionHeaders_of_direct _ (by decide) (by decide)]
  refine ⟨walk, ?_⟩
  rw [transportOffset, walk, List.length_drop]
  omega

/-- **A packet built from an IPv6 template**: its length, its first header, and its fields. -/
theorem built_v6 {raw data headerTemplate : Bytes} {src dst : SocketAddr} (payload : Bytes)
    (version : byteAt raw 0 >>> 4 = 6)
    (dispatched : dispatchIpv6 raw = .udp src dst data headerTemplate)
    (fits : 8 + payload.length ≤ 65535) (ip : Ipv6Addr) (port : UInt16)
    (flowinfo scopeId : UInt32) :
    ∃ out, replyPacket headerTemplate (.v6 ip port flowinfo scopeId) src payload = .ok (some out)
      ∧ 48 ≤ raw.length
      ∧ out.length = 48 + payload.length
      ∧ byteAt out 0 = byteAt raw 0
      ∧ byteAt out 6 = byteAt raw 6
      ∧ be16 out 4 = 8 + payload.length
      ∧ ReplyFields (raw.take 48 ++ payload) out 8 40 ip port (8 + payload.length)
      ∧ TransportChecksumValidV6 ipprotoUdp out 40 := by
  obtain ⟨header, long, -, rfl, rfl⟩ := dispatchIpv6_udp dispatched
  obtain ⟨low, -, -⟩ := transportOffset_spec header
  have enough : 48 ≤ raw.length := by omega
  obtain ⟨out, built, filled⟩ := @buildUdpReply_of_template_v6
    (raw.take (transportOffset raw + 8)) payload
    (by rw [byteAt_take (by omega), version])
    (by rw [List.length_take, Nat.min_eq_left long]; omega) fits ip (Octets.ofSlice 16 raw 8) port
    (portAt raw (transportOffset raw)) flowinfo scopeId 0 0
  rw [List.take_take, Nat.min_eq_left (by omega)] at filled
  have sized := @length_template raw payload _ enough
  obtain ⟨fields, agree, length, checksum⟩ :=
    fillUdpReplyV6_spec (8 + payload.length) ip port (by rw [sized]; omega) filled
  have byte : ∀ {index : Nat}, index < 4 ∨ 6 ≤ index ∧ index < 8 →
      byteAt out index = byteAt raw index := by
    intro index apart
    have kept : index ∉ replyTouchedV6 := by
      rintro (⟨near, far⟩ | ⟨near, far⟩) <;> omega
    rw [agree.byteAt_eq kept, byteAt_template enough (by omega)]
  refine ⟨out, replyPacket_of_template built, enough, fields.length.trans sized,
    byte (Or.inl (by omega)), byte (Or.inr (by omega)), ?_, fields, checksum⟩
  rw [length, Nat.mod_eq_of_lt (by omega)]

/-- **The reply over IPv6 without extension headers** is accepted. -/
theorem roundTrips_v6 {raw data headerTemplate payload : Bytes} {src dst : SocketAddr}
    (version : byteAt raw 0 >>> 4 = 6)
    (dispatched : dispatchIpv6 raw = .udp src dst data headerTemplate)
    (direct : byteAt raw 6 = ipprotoUdp) (fits : 8 + payload.length ≤ 65535) (ip : Ipv6Addr)
    (port : UInt16) (flowinfo scopeId : UInt32) :
    ∃ pkt, replyPacket headerTemplate (.v6 ip port flowinfo scopeId) src payload = .ok (some pkt)
      ∧ AcceptedV6 pkt (.v6 ip port 0 0) src payload := by
  obtain ⟨out, built, enough, length, first, protocol, total, fields, checksum⟩ :=
    built_v6 payload version dispatched fits ip port flowinfo scopeId
  refine ⟨out, built, ?_⟩
  obtain ⟨-, -, -, rfl, -⟩ := dispatchIpv6_udp dispatched
  obtain ⟨-, offset⟩ := transportOffset_of_direct (by omega) direct
  obtain ⟨walk, outOffset⟩ := @transportOffset_of_direct out (by omega) (protocol.trans direct)
  have udpLength : be16 out (40 + 4) = 8 + payload.length := by
    rw [fields.udpLength, Nat.mod_eq_of_lt (by omega)]
  have datagram : DatagramAt out 40 out.length := ⟨Nat.le_refl _, by omega, by omega⟩
  have client : Octets.ofSlice 16 out 24 = Octets.ofSlice 16 raw 8 :=
    ofSlice_congr (by omega) (by omega)
      (fields.dst.trans (slice_template enough (by omega)))
  have clientPort : portAt out (40 + 2) = portAt raw 40 :=
    portAt_congr (fields.dstPort.trans (be16_congr (slice_template enough (by omega))))
  have carried : slice out (40 + 8) (8 + payload.length - 8) = payload := by
    rw [slice, fields.payload, drop_template enough, Nat.add_sub_cancel_left, List.take_length]
  refine ⟨?_, ?_, ?_, ?_, ?_, ?_, ?_, ?_, ?_⟩
  · rw [first, version]
  · omega
  · omega
  · rw [walk]
  · rw [walk]
  · rw [walk]
  · rw [outOffset, udpLength]
    omega
  · rw [walk, datagram.parseUdpV6_eq, udpLength, carried, clientPort, client,
      ofSlice_of_bytes (by omega) fields.src, portAt_of_be16 fields.srcPort, offset]
  · rw [outOffset]
    exact checksum

/-- Of a parsed datagram, at least the header is not data. -/
theorem parseUdpV6_shorter {udp data : Bytes} {srcIp dstIp : Ipv6Addr} {src dst : SocketAddr}
    (parsed : parseUdpV6 udp srcIp dstIp = some (src, dst, data)) :
    data.length + 8 ≤ udp.length := by
  unfold parseUdpV6 at parsed
  by_cases short : udp.length < 8
  · rw [if_pos short] at parsed
    cases parsed
  · rw [if_neg short] at parsed
    cases parsed
    rw [slice, List.length_take, List.length_drop]
    omega

/-- **The reply to a request with extension headers** is not accepted: its first header is read as
an extension header, and what is left is shorter than the payload. -/
theorem not_accepted_of_extended {out payload : Bytes} {src dst : SocketAddr}
    (extended : byteAt out 6 = ipprotoHopopts ∨ byteAt out 6 = ipprotoRouting
      ∨ byteAt out 6 = ipprotoDstopts) (length : out.length = 48 + payload.length) :
    ¬ AcceptedV6 out src dst payload := by
  intro accepted
  have shorter := parseUdpV6_shorter accepted.parsed
  have skipped := skipIpv6ExtensionHeaders_shortens extended accepted.transport
  rw [← extensionWalk, List.length_drop] at skipped
  omega

/-- **No reply to a request with extension headers** is parsed again. -/
theorem not_roundTrips_of_extended {raw data headerTemplate payload : Bytes} {src dst : SocketAddr}
    (version : byteAt raw 0 >>> 4 = 6)
    (dispatched : dispatchIpv6 raw = .udp src dst data headerTemplate)
    (extended : byteAt raw 6 ≠ ipprotoUdp) (fits : 8 + payload.length ≤ 65535) (ip : Ipv6Addr)
    (port : UInt16) (flowinfo scopeId : UInt32) :
    ¬ RoundTrips ⟨src, dst, data, headerTemplate⟩ (.v6 ip port flowinfo scopeId) payload := by
  rintro ⟨pkt, sent, accepted⟩
  obtain ⟨-, -, protocol, -, -⟩ := dispatchIpv6_udp dispatched
  obtain ⟨out, built, -, length, -, same, -⟩ :=
    built_v6 payload version dispatched fits ip port flowinfo scopeId
  cases built.symm.trans sent
  obtain v4 | v6 := accepted
  · exact absurd v4.parsed (by simp [onWire, parseUdpV4])
  · refine not_accepted_of_extended ?_ length v6
    rw [same]
    exact skippable_of_extended protocol extended

/-- **A UDP reply is parsed again**, from any source of the family of its request and with any
payload that fits, exactly when the request is an IPv4 packet or the fixed IPv6 header names UDP. -/
theorem udp_reply_round_trip_iff {inet4Broadcast : Option Ipv4Addr} {raw payload : Bytes}
    {request : UdpDispatch} {replySrc : SocketAddr}
    (dispatched : systemUdp inet4Broadcast raw = some request)
    (family : SameFamily replySrc request.src) (fits : ReplyFits raw payload) :
    RoundTrips request replySrc payload ↔ byteAt raw 0 >>> 4 = 4 ∨ byteAt raw 6 = ipprotoUdp := by
  unfold systemUdp at dispatched
  unfold ReplyFits at fits
  by_cases four : byteAt raw 0 >>> 4 = 4
  · rw [if_pos four] at dispatched fits
    refine ⟨fun _ => Or.inl four, fun _ => ?_⟩
    split at dispatched
    · rename_i src dst data headerTemplate called
      cases dispatched
      obtain ⟨-, -, -, -, rfl, -⟩ := dispatchIpv4_udp called
      cases replySrc with
      | v4 ip port =>
          obtain ⟨pkt, built, accepted⟩ := roundTrips_v4 four called fits ip port
          exact ⟨pkt, built, Or.inl accepted⟩
      | v6 ip port flowinfo scopeId => exact family.elim
    · cases dispatched
  · rw [if_neg four] at dispatched fits
    by_cases six : byteAt raw 0 >>> 4 = 6
    · rw [if_pos six] at dispatched
      split at dispatched
      · rename_i src dst data headerTemplate called
        cases dispatched
        obtain ⟨-, -, -, rfl, -⟩ := dispatchIpv6_udp called
        cases replySrc with
        | v4 ip port => exact family.elim
        | v6 ip port flowinfo scopeId =>
            constructor
            · intro accepted
              refine Or.inr ?_
              by_contra extended
              exact not_roundTrips_of_extended six called extended fits ip port flowinfo scopeId
                accepted
            · rintro (v4 | direct)
              · exact absurd v4 four
              · obtain ⟨pkt, built, accepted⟩ :=
                  roundTrips_v6 six called direct fits ip port flowinfo scopeId
                exact ⟨pkt, built, Or.inr accepted⟩
      · cases dispatched
    · rw [if_neg six] at dispatched
      cases dispatched

/-- A query from 10.0.0.2:1234 to 8.8.8.8:53 with four bytes of IP options. -/
def sampleQuery : Bytes :=
  [0x46, 0, 0, 33, 0, 7, 0x40, 0, 64, 17, 0, 0, 10, 0, 0, 2, 8, 8, 8, 8, 1, 1, 1, 0,
    4, 210, 0, 53, 0, 9, 0, 0, 7]

theorem udp_reply_round_trip_iff_sample : ∃ request, systemUdp none sampleQuery = some request
    ∧ RoundTrips request (.v4 (Octets.ofNat 4 0x09090909) 53) [1, 2, 3] := by
  have dispatched : systemUdp none sampleQuery = some ⟨.v4 (Octets.ofNat 4 0x0A000002) 1234,
      .v4 (Octets.ofNat 4 0x08080808) 53, [7], sampleQuery.take 32⟩ := by decide +kernel
  have family : SameFamily (.v4 (Octets.ofNat 4 0x09090909) 53)
      (.v4 (Octets.ofNat 4 0x0A000002) 1234) := trivial
  exact ⟨_, dispatched, (udp_reply_round_trip_iff dispatched family (by decide)).mpr
    (Or.inl (by decide))⟩

/-- A query from port 1234 of 2001:db8::2 to port 53 of 2001:db8::35, behind a hop-by-hop header. -/
def sampleExtendedQuery : Bytes :=
  [0x60, 0, 0, 0, 0, 17, 0, 64, 0x20, 0x01, 0x0D, 0xB8, 0, 0, 0, 0, 0, 0, 0, 0, 0, 0, 0, 2,
    0x20, 0x01, 0x0D, 0xB8, 0, 0, 0, 0, 0, 0, 0, 0, 0, 0, 0, 0x35, 17, 0, 1, 4, 0, 0, 0, 0,
    4, 210, 0, 53, 0, 9, 0, 0, 7]

/-- **The reply to a request with a hop-by-hop header is no UDP packet**: the server's answer from
the address and port that were asked is not parsed again. -/
theorem extended_request_unanswered : ∃ request,
    systemUdp none sampleExtendedQuery = some request
      ∧ request.data = [7]
      ∧ SameFamily request.dst request.src
      ∧ ReplyFits sampleExtendedQuery [1, 2, 3]
      ∧ ¬ RoundTrips request request.dst [1, 2, 3] := by
  have dispatched : dispatchIpv6 sampleExtendedQuery
      = .udp (.v6 (Octets.ofSlice 16 sampleExtendedQuery 8) 1234 0 0)
        (.v6 (Octets.ofSlice 16 sampleExtendedQuery 24) 53 0 0) [7]
        (sampleExtendedQuery.take 56) := by decide +kernel
  have family : SameFamily (.v6 (Octets.ofSlice 16 sampleExtendedQuery 24) 53 0 0)
      (.v6 (Octets.ofSlice 16 sampleExtendedQuery 8) 1234 0 0) := trivial
  refine ⟨_, ?_, rfl, family, by decide, not_roundTrips_of_extended (by decide) dispatched
    (by decide) (by decide) _ _ _ _⟩
  rw [systemUdp, if_neg (by decide), if_pos (by decide), dispatched]

end RsTun.SystemNat
