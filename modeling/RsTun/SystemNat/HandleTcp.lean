/-
**`handle_tcp_v4` and `handle_tcp_v6`.**

The two handlers are one definition over a `TcpFamily`: where the addresses stand, how they are
wrapped into a `SocketAddr`, which destinations are global unicast, and which checksums are
recomputed. They differ in how the offset of the TCP header is found, and `handle_tcp_v6` checks it.
The outcome is the verdict on the packet, the NAT table afterwards, and the packets written to the
TUN device.

* `TcpFamilySpec` — what a rewrite has to know of a family; `ipv4Spec` and `ipv6Spec` provide it.
* `rewritten_spec` — a rewritten packet carries the new addresses and ports and valid checksums, and
  differs from the old one in these and in a lowered MSS option only.
-/

import RsTun.Packet.Checksum
import RsTun.Packet.Header
import RsTun.Packet.Mss
import RsTun.SystemNat.Table

namespace RsTun.SystemNat

open Library Library.Bytes Packet

/-- What differs between the two IP versions. -/
structure TcpFamily (size : Nat) where
  /-- The offset of the source address. -/
  srcAt : Nat
  /-- The offset of the destination address. -/
  dstAt : Nat
  wrap : Octets size → UInt16 → SocketAddr
  unwrap : SocketAddr → Option (Octets size × UInt16)
  isGlobalUnicast : Octets size → Bool
  recomputeChecksums : Bytes → Nat → Bytes

/-- IPv4. -/
def ipv4Family : TcpFamily 4 where
  srcAt := 12
  dstAt := 16
  wrap := .v4
  unwrap
    | .v4 ip port => some (ip, port)
    | .v6 _ _ _ _ => none
  isGlobalUnicast := isGlobalUnicastV4
  recomputeChecksums pkt ihl := recomputeIpv4Checksum (recomputeTcpChecksumV4 pkt ihl)

/-- IPv6, whose header has no checksum. -/
def ipv6Family : TcpFamily 16 where
  srcAt := 8
  dstAt := 24
  wrap ip port := .v6 ip port 0 0
  unwrap
    | .v6 ip port _ _ => some (ip, port)
    | .v4 _ _ => none
  isGlobalUnicast := isGlobalUnicastV6
  recomputeChecksums := recomputeTcpChecksumV6

/-- The arguments of the handlers that do not change from packet to packet. -/
structure TcpConfig (size : Nat) where
  serverAddr : Option (Octets size)
  clientAddr : Option (Octets size)
  loopback : List (Octets size)
  tcpPort : UInt16
  dnsTcpPort : Option UInt16
  tcpMss : Option UInt16
  dnsHijack : Bool

/-- How a handler leaves a packet. -/
inductive Verdict where
  /-- No server or client address is configured. -/
  | noAddress
  /-- The TCP header is not all there. -/
  | malformed
  /-- A packet of the listener, translated back if its session is known. -/
  | listenerReply
  | notGlobalUnicast
  | loopback
  /-- No NAT port was free. -/
  | exhausted
  /-- Sent on to the listener, from the NAT port. -/
  | forwarded (natPort : UInt16)
  deriving DecidableEq

/-- What a handler did. -/
structure TcpOutcome where
  verdict : Verdict
  nat : TcpNat
  writes : List Bytes

/-- `u16::from_be_bytes` of two bytes, as a port. -/
def portAt (raw : Bytes) (start : Nat) : UInt16 := UInt16.ofNat (be16 raw start)

/-- Destination port 53 goes to the DNS listener if DNS is hijacked. -/
def effectiveTcpPort {size : Nat} (config : TcpConfig size) (dstPort : UInt16) : UInt16 :=
  if config.dnsHijack = true ∧ dstPort = 53 then
    match config.dnsTcpPort with
    | some port => port
    | none => config.tcpPort
  else config.tcpPort

namespace TcpFamily

variable {size : Nat} (family : TcpFamily size)

/-- `pkt[src].copy_from_slice(..)` and `pkt[dst].copy_from_slice(..)`. -/
def rewriteAddrs (pkt : Bytes) (src dst : Octets size) : Bytes :=
  overwrite (overwrite pkt family.srcAt src.bytes) family.dstAt dst.bytes

/-- The two ports of the TCP header. -/
def rewritePorts (pkt : Bytes) (tcpOff : Nat) (srcPort dstPort : UInt16) : Bytes :=
  overwrite (overwrite pkt tcpOff (encode 2 srcPort.toNat)) (tcpOff + 2) (encode 2 dstPort.toNat)

/-- Clamp the MSS if a bound is configured, and recompute the checksums. -/
def finish (tcpMss : Option UInt16) (pkt : Bytes) (tcpOff : Nat) : Bytes :=
  match tcpMss with
  | some maxMss => family.recomputeChecksums (clampTcpMss pkt tcpOff maxMss).1 tcpOff
  | none => family.recomputeChecksums pkt tcpOff

/-- A packet with new addresses and ports. -/
def rewritten (tcpMss : Option UInt16) (raw : Bytes) (tcpOff : Nat) (src dst : Octets size)
    (srcPort dstPort : UInt16) : Bytes :=
  family.finish tcpMss (rewritePorts (family.rewriteAddrs raw src dst) tcpOff srcPort dstPort)
    tcpOff

/-- The branch of the handlers for packets of the listener. -/
def handleReply (config : TcpConfig size) (nat : TcpNat) (now : Nat) (raw : Bytes) (tcpOff : Nat)
    (dstPort : UInt16) : TcpOutcome :=
  match nat.lookupBack now dstPort with
  | (none, nat) => ⟨.listenerReply, nat, []⟩
  | (some (origSrc, origDst), nat) =>
      match family.unwrap origDst with
      | none => ⟨.listenerReply, nat, []⟩
      | some (newSrcIp, newSrcPort) =>
          match family.unwrap origSrc with
          | none => ⟨.listenerReply, nat, []⟩
          | some (newDstIp, newDstPort) =>
              ⟨.listenerReply, nat, [family.rewritten config.tcpMss raw tcpOff newSrcIp newDstIp
                newSrcPort newDstPort]⟩

/-- The common part of the two handlers, after the checks of the header. -/
def handleTcp (config : TcpConfig size) (server client : Octets size) (nat : TcpNat) (now : Nat)
    (raw tcpPayload : Bytes) (srcIp dstIp : Octets size) (tcpOff : Nat) : TcpOutcome :=
  let srcPort := portAt tcpPayload 0
  let dstPort := portAt tcpPayload 2
  if srcIp = server ∧ (srcPort = config.tcpPort ∨ config.dnsTcpPort = some srcPort) then
    family.handleReply config nat now raw tcpOff dstPort
  else if family.isGlobalUnicast dstIp = false then ⟨.notGlobalUnicast, nat, []⟩
  else if dstIp ∈ config.loopback then
    ⟨.loopback, nat, [family.finish config.tcpMss (family.rewriteAddrs raw dstIp srcIp) tcpOff]⟩
  else
    match nat.lookupOrInsert now (family.wrap srcIp srcPort) (family.wrap dstIp dstPort) with
    | (none, nat) => ⟨.exhausted, nat, []⟩
    | (some natPort, nat) =>
        ⟨.forwarded natPort, nat, [family.rewritten config.tcpMss raw tcpOff client server natPort
          (effectiveTcpPort config dstPort)]⟩

end TcpFamily

/-- `handle_tcp_v4`. -/
def handleTcpV4 (config : TcpConfig 4) (nat : TcpNat) (now : Nat) (raw tcpPayload : Bytes)
    (srcIp dstIp : Ipv4Addr) : TcpOutcome :=
  match config.serverAddr, config.clientAddr with
  | some server, some client =>
      if tcpPayload.length < 20 then ⟨.malformed, nat, []⟩
      else ipv4Family.handleTcp config server client nat now raw tcpPayload srcIp dstIp
        (headerLength raw)
  | _, _ => ⟨.noAddress, nat, []⟩

/-- `handle_tcp_v6`, which derives the offset of the TCP header from the payload. -/
def handleTcpV6 (config : TcpConfig 16) (nat : TcpNat) (now : Nat) (raw tcpPayload : Bytes)
    (srcIp dstIp : Ipv6Addr) : TcpOutcome :=
  match config.serverAddr, config.clientAddr with
  | some server, some client =>
      if tcpPayload.length < 20 then ⟨.malformed, nat, []⟩
      else
        let tcpOff := raw.length - tcpPayload.length
        if tcpOff < 40 ∨ raw.length < tcpOff + 20 then ⟨.malformed, nat, []⟩
        else ipv6Family.handleTcp config server client nat now raw tcpPayload srcIp dstIp tcpOff
  | _, _ => ⟨.noAddress, nat, []⟩

/-! ### What a rewrite does to a packet -/

/-- **What a rewrite has to know of a family**: that its fields do not overlap, and that its
checksums come out valid and touch nothing else. -/
structure TcpFamilySpec {size : Nat} (family : TcpFamily size) where
  /-- A TCP header stands at the offset of the packet. -/
  Located : Bytes → Nat → Prop
  /-- The checksums of the packet, with the TCP header at the offset. -/
  Valid : Bytes → Nat → Prop
  /-- The bytes of the checksum fields. -/
  sums : Nat → Set Nat
  positive : 0 < family.srcAt
  adjacent : family.srcAt + size = family.dstAt
  before : ∀ {raw tcpOff}, Located raw tcpOff → family.dstAt + size ≤ tcpOff
  fits : ∀ {raw tcpOff}, Located raw tcpOff → tcpOff + 20 ≤ raw.length
  located_congr : ∀ {touched : Set Nat} {raw pkt tcpOff}, AgreeOff touched raw pkt →
    0 ∉ touched → Located raw tcpOff → Located pkt tcpOff
  sums_apart : ∀ {tcpOff index}, index ∈ sums tcpOff →
    index < family.srcAt ∨ tcpOff + 4 ≤ index
  agreeOff_recompute : ∀ {pkt tcpOff}, Located pkt tcpOff →
    AgreeOff (sums tcpOff) pkt (family.recomputeChecksums pkt tcpOff)
  valid_recompute : ∀ {pkt tcpOff}, Located pkt tcpOff →
    Valid (family.recomputeChecksums pkt tcpOff) tcpOff
  unwrap_wrap : ∀ ip port, family.unwrap (family.wrap ip port) = some (ip, port)

/-- IPv4: the header checksum, and the TCP checksum. -/
def ipv4Spec : TcpFamilySpec ipv4Family where
  Located raw tcpOff := headerLength raw = tcpOff ∧ 20 ≤ tcpOff ∧ tcpOff + 20 ≤ raw.length
  Valid pkt tcpOff := Ipv4ChecksumValid pkt ∧ TcpChecksumValidV4 pkt tcpOff
  sums tcpOff :=
    {index | 10 ≤ index ∧ index < 12} ∪ {index | tcpOff + 16 ≤ index ∧ index < tcpOff + 18}
  positive := by decide
  adjacent := rfl
  before located := located.2.1
  fits located := located.2.2
  located_congr agree outside located := by
    rw [headerLength_congr agree outside, agree.1]
    exact located
  sums_apart inside := by
    rcases inside with ⟨low, high⟩ | ⟨low, high⟩
    · exact Or.inl high
    · refine Or.inr ?_
      omega
  agreeOff_recompute := by
    intro pkt tcpOff _
    exact ((agreeOff_recomputeTcpChecksumV4 pkt tcpOff).mono Set.subset_union_right).trans
      ((agreeOff_recomputeIpv4Checksum _).mono Set.subset_union_left)
  valid_recompute := by
    rintro pkt tcpOff ⟨rfl, header, fits⟩
    have agree := agreeOff_recomputeTcpChecksumV4 pkt (headerLength pkt)
    have same : headerLength (recomputeTcpChecksumV4 pkt (headerLength pkt)) = headerLength pkt :=
      headerLength_congr agree (by simp)
    constructor
    · refine ipv4ChecksumValid_recompute ?_ ?_
      · rw [same]
        exact header
      · rw [same, agree.1]
        omega
    · refine (tcpChecksumValidV4_recompute (by omega) header).congr
        (agreeOff_recomputeIpv4Checksum _) (fun index inside => ?_) header
      exact inside.2
  unwrap_wrap _ _ := rfl

/-- IPv6: the TCP checksum. -/
def ipv6Spec : TcpFamilySpec ipv6Family where
  Located raw tcpOff := 40 ≤ tcpOff ∧ tcpOff + 20 ≤ raw.length
  Valid := TcpChecksumValidV6
  sums tcpOff := {index | tcpOff + 16 ≤ index ∧ index < tcpOff + 18}
  positive := by decide
  adjacent := rfl
  before located := located.1
  fits located := located.2
  located_congr agree _ located := by
    rw [agree.1]
    exact located
  sums_apart inside := Or.inr (by
    have := inside.1
    omega)
  agreeOff_recompute _ := agreeOff_recomputeTcpChecksumV6 _ _
  valid_recompute located :=
    tcpChecksumValidV6_recompute (Nat.le_trans (by omega) located.2) located.1
  unwrap_wrap _ _ := rfl

namespace TcpFamily

variable {size : Nat} (family : TcpFamily size)

/-- The source of a packet. -/
def source (pkt : Bytes) (tcpOff : Nat) : SocketAddr :=
  family.wrap (Octets.ofSlice size pkt family.srcAt) (portAt pkt tcpOff)

/-- The destination of a packet. -/
def destination (pkt : Bytes) (tcpOff : Nat) : SocketAddr :=
  family.wrap (Octets.ofSlice size pkt family.dstAt) (portAt pkt (tcpOff + 2))

/-- The bytes of the addresses and of the ports. -/
def addressing (tcpOff : Nat) : Set Nat :=
  {index | family.srcAt ≤ index ∧ index < family.dstAt + size
    ∨ tcpOff ≤ index ∧ index < tcpOff + 4}

end TcpFamily

namespace TcpFamilySpec

variable {size : Nat} {family : TcpFamily size} (spec : TcpFamilySpec family)

/-- **The packets differ in addresses, ports, checksums and a lowered MSS option only.** -/
def Rewrites (tcpMss : Option UInt16) (tcpOff : Nat) (before after : Bytes) : Prop :=
  ∃ lowered, LowersMss tcpOff tcpMss before lowered
    ∧ AgreeOff (family.addressing tcpOff ∪ spec.sums tcpOff) lowered after

variable {spec} {raw pkt : Bytes} {tcpOff : Nat}

theorem wrap_injective (spec : TcpFamilySpec family) {ip ip' : Octets size} {port port' : UInt16}
    (same : family.wrap ip port = family.wrap ip' port') : ip = ip' ∧ port = port' := by
  have unwrapped := congrArg family.unwrap same
  rw [spec.unwrap_wrap, spec.unwrap_wrap] at unwrapped
  cases unwrapped
  exact ⟨rfl, rfl⟩

/-- A port that was written is read back. -/
theorem portAt_encode {data : Bytes} {start : Nat} {port : UInt16}
    (written : slice data start 2 = encode 2 port.toNat) : portAt data start = port := by
  rw [portAt, be16, written, value_encode,
    Nat.mod_eq_of_lt (show port.toNat < 256 ^ 2 from port.toNat_lt)]
  exact UInt16.ofNat_toNat

/-- **Clamping and recomputing**: the checksums come out valid, and nothing but them and a lowered
MSS option changes. -/
theorem finish_spec (spec : TcpFamilySpec family) (tcpMss : Option UInt16)
    (located : spec.Located pkt tcpOff) :
    spec.Valid (family.finish tcpMss pkt tcpOff) tcpOff
      ∧ ∃ clamped, LowersMss tcpOff tcpMss pkt clamped
        ∧ AgreeOff (spec.sums tcpOff) clamped (family.finish tcpMss pkt tcpOff) := by
  obtain ⟨clamped, same, lowers⟩ : ∃ clamped, family.finish tcpMss pkt tcpOff
      = family.recomputeChecksums clamped tcpOff ∧ LowersMss tcpOff tcpMss pkt clamped := by
    cases tcpMss with
    | none => exact ⟨pkt, rfl, Or.inl rfl⟩
    | some maxMss => exact ⟨_, rfl, clampTcpMss_cases pkt tcpOff maxMss⟩
  have still : spec.Located clamped tcpOff :=
    spec.located_congr lowers.agreeOff (fun inside => absurd inside (by simp)) located
  rw [same]
  exact ⟨spec.valid_recompute still, clamped, lowers, spec.agreeOff_recompute still⟩

section Rewritten

variable (spec) (located : spec.Located raw tcpOff) (src dst : Octets size)
variable (srcPort dstPort : UInt16)

include located

/-- The addresses and the ports fit into the packet, one after the other. -/
theorem fields_fit : family.srcAt + src.bytes.length ≤ raw.length
    ∧ family.dstAt + dst.bytes.length ≤ raw.length ∧ tcpOff + 4 ≤ raw.length := by
  have adjacent := spec.adjacent
  have before := spec.before located
  have fits := spec.fits located
  rw [src.length_eq, dst.length_eq]
  omega

/-- Writing the addresses and the ports changes nothing else. -/
theorem agreeOff_addressed : AgreeOff (family.addressing tcpOff) raw
    (TcpFamily.rewritePorts (family.rewriteAddrs raw src dst) tcpOff srcPort dstPort) := by
  obtain ⟨fitsSrc, fitsDst, fitsPorts⟩ := fields_fit spec located src dst
  have adjacent := spec.adjacent
  have one : AgreeOff (family.addressing tcpOff) raw (overwrite raw family.srcAt src.bytes) :=
    agreeOff_overwrite fitsSrc fun index low high => Or.inl ⟨low, by
      rw [src.length_eq] at high
      omega⟩
  have two : AgreeOff (family.addressing tcpOff) raw (family.rewriteAddrs raw src dst) :=
    one.trans (agreeOff_overwrite (by rwa [one.1]) fun index low high => Or.inl ⟨by omega, by
      rw [dst.length_eq] at high
      exact high⟩)
  have three : AgreeOff (family.addressing tcpOff) raw
      (overwrite (family.rewriteAddrs raw src dst) tcpOff (encode 2 srcPort.toNat)) := by
    refine two.trans (agreeOff_overwrite ?_ fun index low high => Or.inr ⟨low, ?_⟩)
    · rw [length_encode, two.1]
      omega
    · rw [length_encode] at high
      omega
  refine three.trans (agreeOff_overwrite ?_ fun index low high => Or.inr ⟨by omega, ?_⟩)
  · rw [length_encode, three.1]
    omega
  · rw [length_encode] at high
    omega

/-- The addresses and the ports read back what was written. -/
theorem slices_addressed :
    let addressed := TcpFamily.rewritePorts (family.rewriteAddrs raw src dst) tcpOff srcPort dstPort
    slice addressed family.srcAt size = src.bytes ∧ slice addressed family.dstAt size = dst.bytes
      ∧ slice addressed tcpOff 2 = encode 2 srcPort.toNat
      ∧ slice addressed (tcpOff + 2) 2 = encode 2 dstPort.toNat := by
  obtain ⟨fitsSrc, fitsDst, fitsPorts⟩ := fields_fit spec located src dst
  have adjacent := spec.adjacent
  have before := spec.before located
  have lengthOne : (overwrite raw family.srcAt src.bytes).length = raw.length :=
    length_overwrite fitsSrc
  have lengthTwo : (family.rewriteAddrs raw src dst).length = raw.length := by
    rw [TcpFamily.rewriteAddrs, length_overwrite (by rwa [lengthOne]), lengthOne]
  have fitsThree : tcpOff + (encode 2 srcPort.toNat).length
      ≤ (family.rewriteAddrs raw src dst).length := by
    rw [length_encode, lengthTwo]
    omega
  have fitsFour : tcpOff + 2 + (encode 2 dstPort.toNat).length
      ≤ (overwrite (family.rewriteAddrs raw src dst) tcpOff (encode 2 srcPort.toNat)).length := by
    rw [length_encode, length_overwrite fitsThree, lengthTwo]
    omega
  have fitsTwo : family.dstAt + dst.bytes.length
      ≤ (overwrite raw family.srcAt src.bytes).length := by
    rwa [lengthOne]
  intro addressed
  refine ⟨?_, ?_, ?_, ?_⟩
  · show slice (TcpFamily.rewritePorts _ tcpOff srcPort dstPort) _ _ = _
    rw [TcpFamily.rewritePorts,
      slice_overwrite_of_disjoint fitsFour (Or.inl (by omega)),
      slice_overwrite_of_disjoint fitsThree (Or.inl (by omega)), TcpFamily.rewriteAddrs,
      slice_overwrite_of_disjoint fitsTwo (Or.inl (by omega))]
    exact src.slice_overwrite fitsSrc
  · show slice (TcpFamily.rewritePorts _ tcpOff srcPort dstPort) _ _ = _
    rw [TcpFamily.rewritePorts,
      slice_overwrite_of_disjoint fitsFour (Or.inl (by omega)),
      slice_overwrite_of_disjoint fitsThree (Or.inl (by omega)), TcpFamily.rewriteAddrs]
    exact dst.slice_overwrite fitsTwo
  · show slice (TcpFamily.rewritePorts _ tcpOff srcPort dstPort) _ _ = _
    rw [TcpFamily.rewritePorts,
      slice_overwrite_of_disjoint fitsFour (Or.inl (Nat.le_refl _))]
    exact slice_overwrite_self fitsThree
  · exact slice_overwrite_self fitsFour

/-- **A rewritten packet** has valid checksums, the new addresses and ports, and is otherwise the
old one with its MSS option lowered. -/
theorem rewritten_spec (tcpMss : Option UInt16) :
    let out := family.rewritten tcpMss raw tcpOff src dst srcPort dstPort
    spec.Valid out tcpOff ∧ spec.Rewrites tcpMss tcpOff raw out
      ∧ family.source out tcpOff = family.wrap src srcPort
      ∧ family.destination out tcpOff = family.wrap dst dstPort := by
  have adjacent := spec.adjacent
  have positive := spec.positive
  have before := spec.before located
  have fits := spec.fits located
  have agree := agreeOff_addressed spec located src dst srcPort dstPort
  obtain ⟨srcSlice, dstSlice, srcPortSlice, dstPortSlice⟩ :=
    slices_addressed spec located src dst srcPort dstPort
  have below : ∀ index ∈ family.addressing tcpOff, 0 < index ∧ index < tcpOff + 12 := by
    intro index inside
    have either : family.srcAt ≤ index ∧ index < family.dstAt + size
        ∨ tcpOff ≤ index ∧ index < tcpOff + 4 := inside
    omega
  have still :=
    spec.located_congr agree (fun inside => absurd (below 0 inside).1 (by omega)) located
  obtain ⟨valid, clamped, lowers, sums⟩ := spec.finish_spec tcpMss still
  have lengths : (family.rewritten tcpMss raw tcpOff src dst srcPort dstPort).length = raw.length :=
    sums.1.trans (lowers.agreeOff.1.trans agree.1)
  -- a slice of an address or of a port goes through the clamping and the recomputation unchanged
  have kept : ∀ start width, family.srcAt ≤ start → start + width ≤ tcpOff + 4 →
      slice (family.rewritten tcpMss raw tcpOff src dst srcPort dstPort) start width
        = slice (TcpFamily.rewritePorts (family.rewriteAddrs raw src dst) tcpOff srcPort dstPort)
          start width := by
    intro start width low high
    refine (sums.slice_eq fun index above below' inside => ?_).trans
      (lowers.agreeOff.slice_eq fun index above below' inside => ?_)
    · have := spec.sums_apart inside
      omega
    · have : tcpOff + 20 ≤ index := inside
      omega
  have address : ∀ {start : Nat} {addr : Octets size}, start + size ≤ tcpOff →
      slice (family.rewritten tcpMss raw tcpOff src dst srcPort dstPort) start size = addr.bytes →
      Octets.ofSlice size (family.rewritten tcpMss raw tcpOff src dst srcPort dstPort) start
        = addr := by
    intro start addr within written
    refine Octets.ext ?_
    rw [Octets.ofSlice_bytes (by omega), written]
  refine ⟨valid, ?_, ?_, ?_⟩
  · obtain ⟨lowered, lowersRaw, agreeLowered⟩ :=
      lowers.congr agree fun index inside => (below index inside).2
    exact ⟨lowered, lowersRaw, (agreeLowered.mono Set.subset_union_left).trans
      (sums.mono Set.subset_union_right)⟩
  · rw [TcpFamily.source, address (by omega) ((kept _ _ (Nat.le_refl _) (by omega)).trans srcSlice),
      portAt_encode ((kept _ _ (by omega) (by omega)).trans srcPortSlice)]
  · rw [TcpFamily.destination, address (by omega) ((kept _ _ (by omega) (by omega)).trans dstSlice),
      portAt_encode ((kept _ _ (by omega) (by omega)).trans dstPortSlice)]

end Rewritten

end TcpFamilySpec

end RsTun.SystemNat
