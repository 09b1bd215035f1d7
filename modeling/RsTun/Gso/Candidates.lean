/-
**What the merging reads off a packet.**

No index or slice of these functions is out of range, and the item of a packet describes its flow.

* `packetIsGroCandidate_spec` — what a candidate looks like.
* `tcpGroItem_spec`, `udpGroItem_spec` — the item that stands for a packet.
* `checksumValid_eq_ok`, `ipHeadersCanCoalesce_eq_ok` — the tests, whatever they find.
-/

import RsTun.Gso.Gro
import RsTun.Gso.View

namespace RsTun.Gso

open Library Library.Bytes Library.OnesComplement Packet

/-! ### Candidates -/

/-- The length of an IP header without options or extension headers. -/
def ipHeaderLen (isV6 : Bool) : Nat := if isV6 then 40 else 20

theorem ipHeaderLen_bounds (isV6 : Bool) : 20 ≤ ipHeaderLen isV6 ∧ ipHeaderLen isV6 ≤ 40 := by
  cases isV6 with
  | true => decide
  | false => decide

/-- A packet with an IP header of fixed length in front of a TCP or UDP header. -/
structure GroCandidate (isV6 : Bool) (proto : UInt8) (pkt : Bytes) : Prop where
  version : byteAt pkt 0 >>> 4 = if isV6 then 6 else 4
  plain : isV6 = false → byteAt pkt 0 &&& 0x0f = 5
  protocol : byteAt pkt (if isV6 then 6 else 9) = proto
  long : ipHeaderLen isV6 + (if proto = 6 then 20 else 8) ≤ pkt.length

/-- What a packet of the type is. -/
def GroCandidateType.Fits (pkt : Bytes) : GroCandidateType → Prop
  | .notCandidate => True
  | .tcp4 => GroCandidate false 6 pkt
  | .tcp6 => GroCandidate true 6 pkt
  | .udp4 => GroCandidate false 17 pkt
  | .udp6 => GroCandidate true 17 pkt

theorem packetIsGroCandidate_spec (pkt : Bytes) (gro : GroDisablementFlags) :
    ∃ candidate, packetIsGroCandidate pkt gro = .ok candidate ∧ candidate.Fits pkt := by
  unfold packetIsGroCandidate
  by_cases short : pkt.length < 28
  · rw [if_pos short]
    exact ⟨_, rfl, trivial⟩
  rw [if_neg short, Checked.index_eq_ok (by omega)]
  simp only [bind, Except.bind]
  by_cases four : byteAt pkt 0 >>> 4 = 4
  · rw [if_pos four]
    by_cases options : byteAt pkt 0 &&& 0x0f ≠ 5
    · rw [if_pos options]
      exact ⟨_, rfl, trivial⟩
    rw [if_neg options, Checked.index_eq_ok (by omega)]
    dsimp only
    have plain : byteAt pkt 0 &&& 0x0f = 5 := not_not.mp options
    split
    · rename_i tcp
      exact ⟨_, rfl, four, fun _ => plain, tcp.1, tcp.2.1⟩
    split
    · rename_i udp
      exact ⟨_, rfl, four, fun _ => plain, udp.1, Nat.le_of_not_lt short⟩
    · exact ⟨_, rfl, trivial⟩
  rw [if_neg four]
  by_cases six : byteAt pkt 0 >>> 4 = 6
  · rw [if_pos six, Checked.index_eq_ok (by omega)]
    dsimp only
    split
    · rename_i tcp
      exact ⟨_, rfl, six, nofun, tcp.1, tcp.2.1⟩
    split
    · rename_i udp
      exact ⟨_, rfl, six, nofun, udp.1, udp.2.1⟩
    · exact ⟨_, rfl, trivial⟩
  · rw [if_neg six]
    exact ⟨_, rfl, trivial⟩

/-! ### Tests -/

theorem groChecksum_eq_ok {data : Bytes} {initial : Nat} (small : data.length ≤ 131068)
    (fits : initial < 65536) :
    groChecksum data initial = .ok (foldCarries (initial + wordSum data)) := by
  rw [groChecksum, checksum_eq_ok small fits]
  rfl

theorem pseudoHeaderChecksum_lt (proto : UInt8) (src dst : Bytes) (length : Nat) :
    pseudoHeaderChecksum proto src dst length < 65536 := foldCarries_lt _

theorem checksumValid_eq_ok {pkt : Bytes} {iphLen : Nat} (proto : UInt8) (isV6 : Bool)
    (header : iphLen ≤ pkt.length) (small : pkt.length ≤ 65535) :
    ∃ valid, checksumValid pkt iphLen proto isV6 = .ok valid := by
  unfold checksumValid
  dsimp only
  generalize (if isV6 then 8 else 12) = srcOff
  generalize (if isV6 then 16 else 4) = addrLen
  by_cases short : pkt.length < srcOff + addrLen * 2
  · exact ⟨_, if_pos short⟩
  rw [if_neg short, Checked.minus_eq_ok header]
  simp only [bind, Except.bind]
  rw [Checked.range_eq_ok (by omega) (by omega), Checked.range_eq_ok (by omega) (by omega),
    Checked.range_eq_ok header (Nat.le_refl _)]
  dsimp only
  rw [groChecksum_eq_ok _ (pseudoHeaderChecksum_lt _ _ _ _)]
  · exact ⟨_, rfl⟩
  · rw [length_slice (by omega)]
    omega

theorem ipHeadersCanCoalesce_eq_ok (pktA pktB : Bytes) :
    ∃ same, ipHeadersCanCoalesce pktA pktB = .ok same := by
  unfold ipHeadersCanCoalesce
  by_cases short : pktA.length < 9 ∨ pktB.length < 9
  · rw [if_pos short]
    exact ⟨_, rfl⟩
  rw [if_neg short, Checked.index_eq_ok (by omega)]
  simp only [bind, Except.bind]
  split
  · rw [Checked.index_eq_ok (by omega), Checked.index_eq_ok (by omega),
      Checked.index_eq_ok (by omega), Checked.index_eq_ok (by omega),
      Checked.index_eq_ok (by omega)]
    exact ⟨_, rfl⟩
  · rw [Checked.index_eq_ok (by omega), Checked.index_eq_ok (by omega),
      Checked.index_eq_ok (by omega), Checked.index_eq_ok (by omega),
      Checked.index_eq_ok (by omega), Checked.index_eq_ok (by omega)]
    exact ⟨_, rfl⟩

theorem invalidCsum_eq_ok {pkt target : Bytes} {iphLen : Nat} (numMerged : Nat) (proto : UInt8)
    (isV6 : Bool) (header : iphLen ≤ pkt.length) (small : pkt.length ≤ 65535)
    (header' : iphLen ≤ target.length) (small' : target.length ≤ 65535) :
    ∃ result, invalidCsum pkt target iphLen numMerged proto isV6 = .ok result
      ∧ (result = none
        ∨ result = some .pktInvalidCsum ∧ checksumValid pkt iphLen proto isV6 = .ok false
        ∨ result = some .itemInvalidCsum ∧ numMerged = 0) := by
  obtain ⟨itemValid, item⟩ := checksumValid_eq_ok proto isV6 header' small'
  obtain ⟨pktValid, packet⟩ := checksumValid_eq_ok proto isV6 header small
  have tested : ∃ valid, itemCsumValid target iphLen numMerged proto isV6 = .ok valid
      ∧ (valid = false → numMerged = 0) := by
    by_cases single : numMerged = 0
    · exact ⟨itemValid, (if_pos single).trans item, fun _ => single⟩
    · exact ⟨true, if_neg single, nofun⟩
  obtain ⟨valid, same, invalid⟩ := tested
  unfold invalidCsum
  rw [same]
  simp only [bind, Except.bind]
  rw [packet]
  cases valid with
  | false => exact ⟨_, rfl, .inr (.inr ⟨rfl, invalid rfl⟩)⟩
  | true =>
      cases pktValid with
      | false => exact ⟨_, rfl, .inr (.inl ⟨rfl, rfl⟩)⟩
      | true => exact ⟨_, rfl, .inl rfl⟩

/-- No wrong checksum was found: that of the packet is right. -/
theorem checksumValid_of_invalidCsum {pkt target : Bytes} {iphLen numMerged : Nat} {proto : UInt8}
    {isV6 : Bool} (valid : invalidCsum pkt target iphLen numMerged proto isV6 = .ok none) :
    checksumValid pkt iphLen proto isV6 = .ok true := by
  unfold invalidCsum at valid
  obtain ⟨itemValid, -, rest⟩ := Checked.bind_eq_ok.mp valid
  split at rest
  · cases rest
  obtain ⟨pktValid, tested, rest⟩ := Checked.bind_eq_ok.mp rest
  cases pktValid with
  | false => cases rest
  | true => exact tested

/-! ### The flow of a packet -/

/-- An address in the array of a key. -/
def padAddr (addr : Bytes) : Bytes := overwrite (List.replicate 16 0) 0 addr

/-- The key of a flow of TCP packets. -/
def Flow.tcpKey (flow : Flow) (ack : Nat) : TcpFlowKey :=
  ⟨padAddr flow.source, padAddr flow.destination, flow.sourcePort, flow.destinationPort, ack,
    flow.isV6⟩

/-- The key of a flow of UDP packets. -/
def Flow.udpKey (flow : Flow) : UdpFlowKey :=
  ⟨padAddr flow.source, padAddr flow.destination, flow.sourcePort, flow.destinationPort, flow.isV6⟩

/-- The flow that the headers of a packet name. -/
def flowOf (isV6 : Bool) (tcp : Option TcpFlow) (pkt : Bytes) : Flow where
  isV6 := isV6
  source := slice pkt (if isV6 then 8 else 12) (if isV6 then 16 else 4)
  destination := slice pkt ((if isV6 then 8 else 12) + if isV6 then 16 else 4)
    (if isV6 then 16 else 4)
  sourcePort := be16 pkt (ipHeaderLen isV6)
  destinationPort := be16 pkt (ipHeaderLen isV6 + 2)
  tcp := tcp

/-- The length of a TCP header whose packet starts with `start` bytes of IP header. -/
def tcpHeaderLen (pkt : Bytes) (start : Nat) : Nat := (byteAt pkt (start + 12) >>> 4).toNat * 4

/-- The TCP part of the flow. -/
def tcpFlowOf (pkt : Bytes) (start : Nat) : TcpFlow where
  ack := value (slice pkt (start + 8) 4)
  options := slice pkt (start + 20) (tcpHeaderLen pkt start - 20)

theorem Flow.Carries.length_source {flow : Flow} {seq : Nat} {pkt : Bytes}
    (carries : flow.Carries seq pkt) : flow.source.length = flow.addrLen := by
  have whole := carries.whole
  have enough := flow.start_add_eight_le
  have layout := flow.layout
  rw [← carries.source, length_slice (by omega)]

theorem Flow.Carries.length_destination {flow : Flow} {seq : Nat} {pkt : Bytes}
    (carries : flow.Carries seq pkt) : flow.destination.length = flow.addrLen := by
  have whole := carries.whole
  have enough := flow.start_add_eight_le
  have layout := flow.layout
  rw [← carries.destination, length_slice (by omega)]

theorem padAddr_injective {first second : Bytes} (sized : first.length = second.length)
    (same : padAddr first = padAddr second) : first = second := by
  have front : ∀ addr : Bytes, (padAddr addr).take addr.length = addr := fun addr => by
    rw [padAddr, overwrite, List.take_zero, List.nil_append, List.take_left]
  rw [← front first, same, sized, front second]

/-- A sequence number fits its field. -/
theorem value_slice_four_lt (pkt : Bytes) (start : Nat) : value (slice pkt start 4) < 2 ^ 32 := by
  have bound := value_lt (slice pkt start 4)
  have short : (slice pkt start 4).length ≤ 4 := List.length_take_le 4 _
  exact lt_of_lt_of_le bound (Nat.pow_le_pow_right (by norm_num) short)

section Candidate

variable {isV6 : Bool} {pkt : Bytes}

theorem GroCandidate.carries_tcp (candidate : GroCandidate isV6 6 pkt)
    (header : 20 ≤ tcpHeaderLen pkt (ipHeaderLen isV6))
    (inside : ipHeaderLen isV6 + tcpHeaderLen pkt (ipHeaderLen isV6)
      ≤ pkt.length) :
    (flowOf isV6 (some (tcpFlowOf pkt (ipHeaderLen isV6))) pkt).Carries
      (value (slice pkt (ipHeaderLen isV6 + 4) 4)) pkt := by
  have options : (slice pkt (ipHeaderLen isV6 + 20)
      (tcpHeaderLen pkt (ipHeaderLen isV6) - 20)).length
        = tcpHeaderLen pkt (ipHeaderLen isV6) - 20 := length_slice (by omega)
  exact {
    version := candidate.version
    plain := fun family => by rw [headerLength, candidate.plain family]; rfl
    source := rfl
    destination := rfl
    protocol := candidate.protocol
    sourcePort := rfl
    destinationPort := rfl
    ack := fun tcp same => by cases same; rfl
    dataOffset := fun tcp same => by
      cases same
      show tcpHeaderLen pkt (ipHeaderLen isV6) = 20 + (slice pkt _ _).length
      rw [options]
      omega
    options := fun tcp same => by
      cases same
      show slice pkt (ipHeaderLen isV6 + 20) (slice pkt _ _).length = slice pkt _ _
      rw [options]
    sequence := fun _ => (Nat.mod_eq_of_lt (value_slice_four_lt _ _)).symm
    whole := by
      show ipHeaderLen isV6 + (20 + (slice pkt _ _).length) ≤ pkt.length
      rw [options]
      omega }

theorem GroCandidate.carries_udp (candidate : GroCandidate isV6 17 pkt) :
    (flowOf isV6 none pkt).Carries 0 pkt where
  version := candidate.version
  plain := fun family => by rw [headerLength, candidate.plain family]; rfl
  source := rfl
  destination := rfl
  protocol := candidate.protocol
  sourcePort := rfl
  destinationPort := rfl
  ack := nofun
  dataOffset := nofun
  options := nofun
  sequence := nofun
  whole := candidate.long

/-! ### The item of a packet -/

theorem GroCandidate.groIphLen_eq_ok {proto : UInt8} (candidate : GroCandidate isV6 proto pkt) :
    groIphLen pkt isV6 = .ok (ipHeaderLen isV6) := by
  have long := candidate.long
  unfold groIphLen
  cases isV6 with
  | true => rfl
  | false =>
      rw [if_neg Bool.false_ne_true, Checked.index_eq_ok (by split at long <;> omega)]
      simp only [bind, Except.bind]
      rw [candidate.plain rfl]
      rfl

theorem groLengthAgrees_eq_ok {iphLen : Nat} (header : iphLen ≤ pkt.length)
    (long : 28 ≤ pkt.length) : ∃ agrees, groLengthAgrees pkt iphLen isV6 = .ok agrees := by
  unfold groLengthAgrees
  cases isV6 with
  | true =>
      rw [if_pos rfl, Checked.readU16_eq_ok (by omega), Checked.minus_eq_ok header]
      exact ⟨_, rfl⟩
  | false =>
      rw [if_neg Bool.false_ne_true, Checked.readU16_eq_ok (by omega)]
      exact ⟨_, rfl⟩

theorem groIsFragment_eq_ok (long : 28 ≤ pkt.length) :
    ∃ fragment, groIsFragment pkt isV6 = .ok fragment := by
  unfold groIsFragment
  cases isV6 with
  | true => exact ⟨_, rfl⟩
  | false =>
      rw [if_neg Bool.false_ne_true, Checked.index_eq_ok (by omega),
        Checked.index_eq_ok (by omega)]
      exact ⟨_, rfl⟩

theorem keyAddr_eq_ok {start stop size : Nat} (sized : start + size = stop) (small : size ≤ 16)
    (inside : stop ≤ pkt.length) :
    keyAddr pkt start stop size = .ok (padAddr (slice pkt start size)) := by
  subst sized
  have length : (slice pkt start size).length = size := length_slice inside
  rw [keyAddr, Checked.range_eq_ok (by omega) inside, Nat.add_sub_cancel_left]
  exact Checked.copyFromSlice_eq_ok (by rw [length, Nat.zero_add])
    (by rw [List.length_replicate]; exact small)

/-- The addresses of a key are those of the flow. -/
theorem keyAddrs_eq_ok {tcp : Option TcpFlow} (long : ipHeaderLen isV6 ≤ pkt.length) :
    keyAddr pkt (groAddresses isV6).1 ((groAddresses isV6).1 + (groAddresses isV6).2)
        (groAddresses isV6).2 = .ok (padAddr (flowOf isV6 tcp pkt).source)
      ∧ keyAddr pkt ((groAddresses isV6).1 + (groAddresses isV6).2)
        ((groAddresses isV6).1 + (groAddresses isV6).2 + (groAddresses isV6).2)
        (groAddresses isV6).2 = .ok (padAddr (flowOf isV6 tcp pkt).destination)
      ∧ ((groAddresses isV6).2 == 16) = isV6 := by
  cases isV6 with
  | true =>
      exact ⟨keyAddr_eq_ok rfl (by decide) (Nat.le_trans (by decide) long),
        keyAddr_eq_ok rfl (by decide) (Nat.le_trans (by decide) long), rfl⟩
  | false =>
      exact ⟨keyAddr_eq_ok rfl (by decide) (Nat.le_trans (by decide) long),
        keyAddr_eq_ok rfl (by decide) (Nat.le_trans (by decide) long), rfl⟩

theorem TcpFlowKey.new_eq_ok (tcp : TcpFlow)
    (long : ipHeaderLen isV6 + 20 ≤ pkt.length) :
    TcpFlowKey.new pkt (groAddresses isV6).1 ((groAddresses isV6).1 + (groAddresses isV6).2)
        (ipHeaderLen isV6)
      = .ok ((flowOf isV6 (some tcp) pkt).tcpKey
        (value (slice pkt (ipHeaderLen isV6 + 8) 4))) := by
  unfold TcpFlowKey.new
  rw [Checked.minus_eq_ok (Nat.le_add_right _ _), Nat.add_sub_cancel_left]
  simp only [bind, Except.bind]
  rw [Checked.readU16_eq_ok (by omega), Checked.readU16_eq_ok (by omega),
    Checked.readU32_eq_ok (by omega)]
  obtain ⟨source, destination, sized⟩ := @keyAddrs_eq_ok isV6 pkt (some tcp) (by omega)
  rw [source, destination, sized]
  rfl

theorem UdpFlowKey.new_eq_ok (long : ipHeaderLen isV6 + 8 ≤ pkt.length) :
    UdpFlowKey.new pkt (groAddresses isV6).1 ((groAddresses isV6).1 + (groAddresses isV6).2)
        (ipHeaderLen isV6) = .ok (flowOf isV6 none pkt).udpKey := by
  unfold UdpFlowKey.new
  rw [Checked.minus_eq_ok (Nat.le_add_right _ _), Nat.add_sub_cancel_left]
  simp only [bind, Except.bind]
  rw [Checked.readU16_eq_ok (by omega), Checked.readU16_eq_ok (by omega)]
  obtain ⟨source, destination, sized⟩ := @keyAddrs_eq_ok isV6 pkt none (by omega)
  rw [source, destination, sized]
  rfl

end Candidate

/-- The item is of this flow of TCP packets. -/
structure TcpGroItem.Describes (item : TcpGroItem) (flow : Flow) : Prop where
  iphLen : item.iphLen = flow.start
  isV6 : item.key.isV6 = flow.isV6
  tcp : ∃ tcp, flow.tcp = some tcp ∧ item.key = flow.tcpKey tcp.ack
    ∧ item.tcphLen = 20 + tcp.options.length

/-- The item is of this flow of UDP packets. -/
structure UdpGroItem.Describes (item : UdpGroItem) (flow : Flow) : Prop where
  iphLen : item.iphLen = flow.start
  udp : flow.tcp = none
  key : item.key = flow.udpKey

section Items

variable {isV6 : Bool} {pkt : Bytes} {pktI : Nat}

/-- **The item of a TCP packet** is of its flow, and stands for the packet alone. -/
theorem tcpGroItem_spec (candidate : GroCandidate isV6 6 pkt) (pktI : Nat) :
    ∃ result, tcpGroItem pkt pktI isV6 = .ok result ∧ ∀ item, result = some item →
      item.bufsIndex = pktI ∧ item.numMerged = 0 ∧ item.sentSeq < 2 ^ 32
        ∧ ∃ flow, item.Describes flow ∧ flow.isV6 = isV6
          ∧ flow.Holds item.sentSeq item.gsoSize 0 pkt := by
  have long : ipHeaderLen isV6 + 20 ≤ pkt.length := candidate.long
  have bounds := ipHeaderLen_bounds isV6
  unfold tcpGroItem
  by_cases big : 65535 < pkt.length
  · rw [if_pos big]
    exact ⟨none, rfl, nofun⟩
  obtain ⟨agrees, agreed⟩ :=
    @groLengthAgrees_eq_ok isV6 pkt (ipHeaderLen isV6) (by omega) (by omega)
  obtain ⟨fragment, fragmented⟩ := @groIsFragment_eq_ok isV6 pkt (by omega)
  rw [if_neg big, candidate.groIphLen_eq_ok]
  simp only [bind, Except.bind]
  rw [agreed]
  dsimp only
  by_cases wrong : agrees = false
  · rw [if_pos wrong]
    exact ⟨none, rfl, nofun⟩
  rw [if_neg wrong, if_neg (by omega), Checked.index_eq_ok (by omega)]
  dsimp only
  have dataOffset : (byteAt pkt (ipHeaderLen isV6 + 12) >>> 4).toNat * 4
      = tcpHeaderLen pkt (ipHeaderLen isV6) := rfl
  rw [dataOffset]
  by_cases header : ¬ (20 ≤ tcpHeaderLen pkt (ipHeaderLen isV6)
      ∧ tcpHeaderLen pkt (ipHeaderLen isV6) ≤ 60)
  · rw [if_pos header]
    exact ⟨none, rfl, nofun⟩
  rw [if_neg header]
  obtain ⟨least, -⟩ := not_not.mp header
  by_cases outside : pkt.length < ipHeaderLen isV6 + tcpHeaderLen pkt (ipHeaderLen isV6)
  · rw [if_pos outside]
    exact ⟨none, rfl, nofun⟩
  rw [if_neg outside, fragmented]
  dsimp only
  by_cases part : fragment = true
  · rw [if_pos part]
    exact ⟨none, rfl, nofun⟩
  have flagsInside : ipHeaderLen isV6 + tcpFlagsOffset < pkt.length := by
    show ipHeaderLen isV6 + 13 < _
    omega
  rw [if_neg part, Checked.index_eq_ok flagsInside]
  dsimp only
  split
  · exact ⟨none, rfl, nofun⟩
  have carries := candidate.carries_tcp least (Nat.le_of_not_lt outside)
  have options : (tcpFlowOf pkt (ipHeaderLen isV6)).options.length
      = tcpHeaderLen pkt (ipHeaderLen isV6) - 20 := length_slice (by omega)
  have headers : (flowOf isV6 (some (tcpFlowOf pkt (ipHeaderLen isV6))) pkt).headersLen
      = ipHeaderLen isV6 + tcpHeaderLen pkt (ipHeaderLen isV6) := by
    show ipHeaderLen isV6 + (20 + (tcpFlowOf pkt (ipHeaderLen isV6)).options.length) = _
    rw [options]
    omega
  have payload : pkt.length - tcpHeaderLen pkt (ipHeaderLen isV6) - ipHeaderLen isV6
      = pkt.length - (flowOf isV6 (some (tcpFlowOf pkt (ipHeaderLen isV6))) pkt).headersLen := by
    rw [headers]
    omega
  rw [Checked.minus_eq_ok (show _ ≤ pkt.length by omega)]
  dsimp only
  rw [Checked.minus_eq_ok (by omega), payload]
  dsimp only
  rw [Nat.mod_eq_of_lt (show _ - _ < 65536 by omega)]
  by_cases empty : pkt.length
      - (flowOf isV6 (some (tcpFlowOf pkt (ipHeaderLen isV6))) pkt).headersLen < 1
  · rw [if_pos empty]
    exact ⟨none, rfl, nofun⟩
  rw [if_neg empty, Checked.readU32_eq_ok (by omega),
    TcpFlowKey.new_eq_ok (tcpFlowOf pkt (ipHeaderLen isV6)) long]
  refine ⟨_, rfl, fun item same => ?_⟩
  cases same
  have holds := carries.holds (by omega) (by omega)
  refine ⟨rfl, rfl, value_slice_four_lt _ _, _, ⟨?_, rfl, _, rfl, rfl, ?_⟩, rfl, holds⟩
  · exact Nat.mod_eq_of_lt (by omega)
  · dsimp only
    rw [options]
    omega

theorem groLengthAgrees_v4 {iphLen : Nat} (long : 4 ≤ pkt.length)
    (total : be16 pkt 2 = pkt.length) : groLengthAgrees pkt iphLen false = .ok true := by
  unfold groLengthAgrees
  rw [if_neg Bool.false_ne_true, Checked.readU16_eq_ok long, total]
  exact congrArg _ (beq_self_eq_true _)

theorem groIsFragment_v4 (long : 8 ≤ pkt.length)
    (unfragmented : byteAt pkt 6 &&& ipv4FlagMoreFragments = 0 ∧ byteAt pkt 6 <<< 3 = 0
      ∧ byteAt pkt 7 = 0) : groIsFragment pkt false = .ok false := by
  unfold groIsFragment
  rw [if_neg Bool.false_ne_true, Checked.index_eq_ok (by omega)]
  simp only [bind, Except.bind]
  rw [Checked.index_eq_ok long]
  dsimp only
  rw [unfragmented.1, unfragmented.2.1, unfragmented.2.2]
  rfl

/-- **The item of a TCP segment over IPv4** with 20 bytes of header, ACK alone, and a payload. -/
theorem tcpGroItem_segment (candidate : GroCandidate false 6 pkt) (pktI : Nat)
    (total : be16 pkt 2 = pkt.length) (header : tcpHeaderLen pkt 20 = 20)
    (payload : 40 < pkt.length)
    (unfragmented : byteAt pkt 6 &&& ipv4FlagMoreFragments = 0 ∧ byteAt pkt 6 <<< 3 = 0
      ∧ byteAt pkt 7 = 0)
    (flags : byteAt pkt 33 = tcpFlagAck) : tcpGroItem pkt pktI false = .ok (some {
      key := (flowOf false (some (tcpFlowOf pkt 20)) pkt).tcpKey (value (slice pkt 28 4))
      sentSeq := value (slice pkt 24 4)
      bufsIndex := pktI
      numMerged := 0
      gsoSize := pkt.length - 40
      iphLen := 20
      tcphLen := 20
      pshSet := false }) := by
  have small := be16_lt pkt 2
  have header20 : groIphLen pkt false = .ok 20 := candidate.groIphLen_eq_ok
  have agrees : groLengthAgrees pkt 20 false = .ok true := groLengthAgrees_v4 (by omega) total
  have fragment : groIsFragment pkt false = .ok false := groIsFragment_v4 (by omega) unfragmented
  have dataOffset : (byteAt pkt (20 + 12) >>> 4).toNat * 4 = 20 := header
  have flagsAt : byteAt pkt (20 + tcpFlagsOffset) = tcpFlagAck := flags
  have flagsInside : 20 + tcpFlagsOffset < pkt.length := by
    show 20 + 13 < _
    omega
  have size : (pkt.length - 20 - 20) % 65536 = pkt.length - 40 := by omega
  have key : TcpFlowKey.new pkt (groAddresses false).1
        ((groAddresses false).1 + (groAddresses false).2) 20
      = .ok ((flowOf false (some (tcpFlowOf pkt 20)) pkt).tcpKey (value (slice pkt 28 4))) :=
    TcpFlowKey.new_eq_ok (tcpFlowOf pkt 20) (Nat.le_of_lt payload)
  unfold tcpGroItem
  rw [if_neg (by omega), header20]
  simp only [bind, Except.bind]
  rw [agrees]
  dsimp only
  rw [if_neg (by decide), if_neg (by omega), Checked.index_eq_ok (by omega)]
  dsimp only
  rw [dataOffset, if_neg (by omega), if_neg (by omega), fragment]
  dsimp only
  rw [if_neg Bool.false_ne_true, Checked.index_eq_ok flagsInside]
  dsimp only
  rw [flagsAt, if_neg (by decide), Checked.minus_eq_ok (by omega)]
  dsimp only
  rw [Checked.minus_eq_ok (by omega)]
  dsimp only
  rw [size, if_neg (by omega), Checked.readU32_eq_ok (by omega)]
  dsimp only
  rw [key]
  rfl

/-- **The item of a UDP packet** is of its flow, and stands for the packet alone. -/
theorem udpGroItem_spec (candidate : GroCandidate isV6 17 pkt) (pktI : Nat) :
    ∃ result, udpGroItem pkt pktI isV6 = .ok result ∧ ∀ item, result = some item →
      item.bufsIndex = pktI ∧ item.numMerged = 0
        ∧ ∃ flow, item.Describes flow ∧ flow.isV6 = isV6 ∧ flow.Holds 0 item.gsoSize 0 pkt := by
  have long : ipHeaderLen isV6 + 8 ≤ pkt.length := candidate.long
  have bounds := ipHeaderLen_bounds isV6
  have carries := candidate.carries_udp
  have headers : (flowOf isV6 none pkt).headersLen = ipHeaderLen isV6 + 8 := rfl
  unfold udpGroItem
  by_cases big : 65535 < pkt.length
  · rw [if_pos big]
    exact ⟨none, rfl, nofun⟩
  obtain ⟨agrees, agreed⟩ :=
    @groLengthAgrees_eq_ok isV6 pkt (ipHeaderLen isV6) (by omega) (by omega)
  obtain ⟨fragment, fragmented⟩ := @groIsFragment_eq_ok isV6 pkt (by omega)
  rw [if_neg big, candidate.groIphLen_eq_ok]
  simp only [bind, Except.bind]
  rw [agreed]
  dsimp only
  by_cases wrong : agrees = false
  · rw [if_pos wrong]
    exact ⟨none, rfl, nofun⟩
  have inside : ¬ (pkt.length < ipHeaderLen isV6
      ∨ pkt.length < ipHeaderLen isV6 + udpHdrLen) := by
    show ¬ (_ ∨ pkt.length < ipHeaderLen isV6 + 8)
    omega
  rw [if_neg wrong, if_neg inside, fragmented]
  dsimp only
  by_cases part : fragment = true
  · rw [if_pos part]
    exact ⟨none, rfl, nofun⟩
  have payload : pkt.length - udpHdrLen - ipHeaderLen isV6
      = pkt.length - (flowOf isV6 none pkt).headersLen := by
    show pkt.length - 8 - ipHeaderLen isV6 = _
    omega
  have udpInside : udpHdrLen ≤ pkt.length := by
    show 8 ≤ _
    omega
  have ipInside : ipHeaderLen isV6 ≤ pkt.length - udpHdrLen := by
    show _ ≤ pkt.length - 8
    omega
  rw [if_neg part, Checked.minus_eq_ok udpInside]
  dsimp only
  rw [Checked.minus_eq_ok ipInside, payload]
  dsimp only
  rw [Nat.mod_eq_of_lt (show _ - _ < 65536 by omega)]
  by_cases empty : pkt.length - (flowOf isV6 none pkt).headersLen < 1
  · rw [if_pos empty]
    exact ⟨none, rfl, nofun⟩
  rw [if_neg empty, UdpFlowKey.new_eq_ok long]
  refine ⟨_, rfl, fun item same => ?_⟩
  cases same
  exact ⟨rfl, rfl, _, ⟨Nat.mod_eq_of_lt (by omega), rfl, rfl⟩, rfl,
    carries.holds (by omega) (by omega)⟩

/-- **The item of a UDP datagram over IPv4** with a payload. -/
theorem udpGroItem_datagram (candidate : GroCandidate false 17 pkt) (pktI : Nat)
    (total : be16 pkt 2 = pkt.length) (payload : 28 < pkt.length)
    (unfragmented : byteAt pkt 6 &&& ipv4FlagMoreFragments = 0 ∧ byteAt pkt 6 <<< 3 = 0
      ∧ byteAt pkt 7 = 0) : udpGroItem pkt pktI false = .ok (some {
      key := (flowOf false none pkt).udpKey
      bufsIndex := pktI
      numMerged := 0
      gsoSize := pkt.length - 28
      iphLen := 20 }) := by
  have small := be16_lt pkt 2
  have header20 : groIphLen pkt false = .ok 20 := candidate.groIphLen_eq_ok
  have agrees : groLengthAgrees pkt 20 false = .ok true := groLengthAgrees_v4 (by omega) total
  have fragment : groIsFragment pkt false = .ok false := groIsFragment_v4 (by omega) unfragmented
  have inside : ¬ (pkt.length < 20 ∨ pkt.length < 20 + udpHdrLen) := by
    show ¬ (_ ∨ pkt.length < 20 + 8)
    omega
  have udpInside : udpHdrLen ≤ pkt.length := Nat.le_trans (by decide) (Nat.le_of_lt payload)
  have ipInside : 20 ≤ pkt.length - udpHdrLen := by
    show _ ≤ pkt.length - 8
    omega
  have size : (pkt.length - udpHdrLen - 20) % 65536 = pkt.length - 28 := by
    show (pkt.length - 8 - 20) % 65536 = _
    omega
  have key : UdpFlowKey.new pkt (groAddresses false).1
      ((groAddresses false).1 + (groAddresses false).2) 20
        = .ok (flowOf false none pkt).udpKey := UdpFlowKey.new_eq_ok (Nat.le_of_lt payload)
  unfold udpGroItem
  rw [if_neg (by omega), header20]
  simp only [bind, Except.bind]
  rw [agrees]
  dsimp only
  rw [if_neg (by decide), if_neg inside, fragment]
  dsimp only
  rw [if_neg Bool.false_ne_true, Checked.minus_eq_ok udpInside]
  dsimp only
  rw [Checked.minus_eq_ok ipInside]
  dsimp only
  rw [size, if_neg (by omega), key]
  rfl

end Items

end RsTun.Gso
