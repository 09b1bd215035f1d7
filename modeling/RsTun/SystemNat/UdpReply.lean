/-
**UDP replies: built from the header of a request, and parsed again.**

The reply task of a UDP session copies the header template that `process_ipv4` or `process_ipv6` has
captured, and rewrites addresses, ports, lengths and checksums in place; without a template it
builds the headers anew.

* `replyFields_of_stages` — the addresses and the UDP header after the two stages that both
  families share.
* `fillUdpReplyV4_spec`, `fillUdpReplyV6_spec` — a filled-in template reads as the reply, and its
  checksums are valid.
-/

import RsTun.Library.Checked
import RsTun.SystemNat.Dispatch

namespace RsTun.SystemNat

open Library Library.Bytes Library.OnesComplement Packet

/-! ### The builders -/

/-- The addresses of a reply: its destination is the source in the template. -/
def replyAddrs {size : Nat} (pkt : Bytes) (srcAt : Nat) (replySrc : Octets size) : Bytes :=
  let origSrcIp := slice pkt srcAt size
  let pkt := overwrite pkt (srcAt + size) origSrcIp
  overwrite pkt srcAt replySrc.bytes

/-- The UDP header of a reply, its checksum cleared: its destination port is the source port in the
template. -/
def replyUdpHeader (pkt : Bytes) (udpOff : Nat) (replyPort : UInt16) (udpLen : Nat) : Bytes :=
  let origSrcPort := be16 pkt udpOff
  let pkt := overwrite pkt (udpOff + 2) (encode 2 origSrcPort)
  let pkt := overwrite pkt udpOff (encode 2 replyPort.toNat)
  let pkt := overwrite pkt (udpOff + 4) (encode 2 udpLen)
  overwrite pkt (udpOff + 6) [0, 0]

/-- The sum that `udp_checksum_v4` takes in `u32`. -/
def udpSumV4 (src dst udp : Bytes) : Nat :=
  wordSum (pseudoV4 src dst ipprotoUdp udp.length) + wordSum udp

/-- The sum that `udp_checksum_v6` takes in `u32`. -/
def udpSumV6 (src dst udp : Bytes) : Nat :=
  wordSum src + wordSum dst + udp.length / 65536 % 65536 + udp.length % 65536 + ipprotoUdp.toNat
    + wordSum udp

/-- `udp_checksum_v4`. -/
def udpChecksumV4 (src dst udp : Bytes) : Checked Empty Nat := do
  let _ ← Checked.inBits 32 (udpSumV4 src dst udp)
  return checksumWithPseudoV4 src dst ipprotoUdp udp

/-- `udp_checksum_v6`. -/
def udpChecksumV6 (src dst udp : Bytes) : Checked Empty Nat := do
  let _ ← Checked.inBits 32 (udpSumV6 src dst udp)
  return checksumWithPseudoV6 src dst ipprotoUdp udp

/-- The writes of `build_udp_reply_v4_with_template`. -/
def fillUdpReplyV4 (pkt : Bytes) (ihl totalLen udpLen : Nat) (replySrc : Ipv4Addr)
    (replyPort : UInt16) : Checked Empty Bytes := do
  let pkt := overwrite pkt 2 (encode 2 totalLen)
  let pkt := replyAddrs pkt 12 replySrc
  let udpOff := ihl
  let pkt := replyUdpHeader pkt udpOff replyPort udpLen
  let cksum ← udpChecksumV4 (slice pkt 12 4) (slice pkt 16 4) (pkt.drop udpOff)
  let pkt := overwrite pkt (udpOff + 6) (encode 2 cksum)
  let pkt := overwrite pkt 10 [0, 0]
  return overwrite pkt 10 (encode 2 (internetChecksum (pkt.take ihl)))

/-- `build_udp_reply_v4_with_template`. -/
def buildUdpReplyV4WithTemplate (template : Bytes) (replySrc : Ipv4Addr) (replyPort : UInt16)
    (payload : Bytes) : Checked Empty (Option Bytes) :=
  if template.length < 28 then .ok none
  else
    let ihl := headerLength template
    if ihl < 20 ∨ template.length < ihl + 8 then .ok none
    else do
      let udpLen := (8 + payload.length) % 65536
      let totalLen ← Checked.inBits 16 (ihl + udpLen)
      let pkt := template.take (ihl + 8) ++ payload
      return some (← fillUdpReplyV4 pkt ihl totalLen udpLen replySrc replyPort)

/-- The writes of `build_udp_reply_v6_with_template`. -/
def fillUdpReplyV6 (pkt : Bytes) (udpLen : Nat) (replySrc : Ipv6Addr) (replyPort : UInt16) :
    Checked Empty Bytes := do
  let pkt := overwrite pkt 4 (encode 2 udpLen)
  let pkt := replyAddrs pkt 8 replySrc
  let udpOff := 40
  let pkt := replyUdpHeader pkt udpOff replyPort udpLen
  let cksum ← udpChecksumV6 (slice pkt 8 16) (slice pkt 24 16) (pkt.drop udpOff)
  return overwrite pkt (udpOff + 6) (encode 2 cksum)

/-- `build_udp_reply_v6_with_template`. -/
def buildUdpReplyV6WithTemplate (template : Bytes) (replySrc : Ipv6Addr) (replyPort : UInt16)
    (payload : Bytes) : Checked Empty (Option Bytes) :=
  if template.length < 48 then .ok none
  else do
    let udpLen := (8 + payload.length) % 65536
    let pkt := template.take 48 ++ payload
    return some (← fillUdpReplyV6 pkt udpLen replySrc replyPort)

/-- `build_udp_reply_packet_with_template`. -/
def buildUdpReplyPacketWithTemplate (template : Bytes) (replySrc replyDst : SocketAddr)
    (payload : Bytes) : Checked Empty (Option Bytes) :=
  if template = [] then .ok none
  else
    match replySrc, replyDst with
    | .v4 ip port, .v4 _ _ =>
        if byteAt template 0 >>> 4 = 4 then buildUdpReplyV4WithTemplate template ip port payload
        else .ok none
    | .v6 ip port _ _, .v6 _ _ _ _ =>
        if byteAt template 0 >>> 4 = 6 then buildUdpReplyV6WithTemplate template ip port payload
        else .ok none
    | _, _ => .ok none

/-- `build_udp_reply_v4`. -/
def buildUdpReplyV4 (src : Ipv4Addr) (srcPort : UInt16) (dst : Ipv4Addr) (dstPort : UInt16)
    (payload : Bytes) : Checked Empty (Option Bytes) := do
  let udpLen := (8 + payload.length) % 65536
  let totalLen ← Checked.inBits 16 (20 + udpLen)
  let pkt := [0x45, 0x00] ++ encode 2 totalLen
    ++ [0x00, 0x00, 0x40, 0x00, 64, ipprotoUdp, 0x00, 0x00] ++ src.bytes ++ dst.bytes
  let pkt := overwrite pkt 10 (encode 2 (internetChecksum (pkt.take 20)))
  let udpStart := pkt.length
  let pkt := pkt ++ encode 2 srcPort.toNat ++ encode 2 dstPort.toNat ++ encode 2 udpLen ++ [0, 0]
    ++ payload
  let cksum ← udpChecksumV4 src.bytes dst.bytes (pkt.drop udpStart)
  return some (overwrite pkt (udpStart + 6) (encode 2 cksum))

/-- `build_udp_reply_v6`. -/
def buildUdpReplyV6 (src : Ipv6Addr) (srcPort : UInt16) (dst : Ipv6Addr) (dstPort : UInt16)
    (payload : Bytes) : Checked Empty (Option Bytes) := do
  let udpLen := (8 + payload.length) % 65536
  let pkt := [0x60, 0x00, 0x00, 0x00] ++ encode 2 udpLen ++ [ipprotoUdp, 64] ++ src.bytes
    ++ dst.bytes
  let udpStart := pkt.length
  let pkt := pkt ++ encode 2 srcPort.toNat ++ encode 2 dstPort.toNat ++ encode 2 udpLen ++ [0, 0]
    ++ payload
  let cksum ← udpChecksumV6 src.bytes dst.bytes (pkt.drop udpStart)
  return some (overwrite pkt (udpStart + 6) (encode 2 cksum))

/-- `build_udp_reply_packet`. -/
def buildUdpReplyPacket (src dst : SocketAddr) (payload : Bytes) : Checked Empty (Option Bytes) :=
  match src, dst with
  | .v4 s sPort, .v4 d dPort => buildUdpReplyV4 s sPort d dPort payload
  | .v6 s sPort _ _, .v6 d dPort _ _ => buildUdpReplyV6 s sPort d dPort payload
  | _, _ => .ok none

/-- The packet that the reply task of a session builds: from the template, or else anew. -/
def replyPacket (headerTemplate : Bytes) (serverSrc src : SocketAddr) (payload : Bytes) :
    Checked Empty (Option Bytes) := do
  match ← buildUdpReplyPacketWithTemplate headerTemplate serverSrc src payload with
  | some pkt => .ok (some pkt)
  | none => buildUdpReplyPacket serverSrc src payload

/-! ### The checksum -/

/-- The sum over an IPv4 datagram whose length fits 16 bits. -/
theorem udpSumV4_lt {src dst udp : Bytes} (fitsSrc : src.length ≤ 4) (fitsDst : dst.length ≤ 4)
    (fits : udp.length < 65536) : udpSumV4 src dst udp < 2 ^ 32 :=
  (checksumWithPseudo_sums_lt ipprotoUdp (by omega) (by omega) fits).1

/-- The sum over an IPv6 datagram whose length fits 16 bits. -/
theorem udpSumV6_lt {src dst udp : Bytes} (fitsSrc : src.length ≤ 16) (fitsDst : dst.length ≤ 16)
    (fits : udp.length < 65536) : udpSumV6 src dst udp < 2 ^ 32 :=
  (checksumWithPseudo_sums_lt ipprotoUdp fitsSrc fitsDst fits).2

/-- **What `udp_checksum_v4` returns** when its sum fits. -/
theorem udpChecksumV4_eq_ok {src dst udp : Bytes} (fits : udpSumV4 src dst udp < 2 ^ 32) :
    udpChecksumV4 src dst udp = .ok (checksumWithPseudoV4 src dst ipprotoUdp udp) := by
  rw [udpChecksumV4, Checked.inBits_eq_ok fits]
  rfl

/-- **What `udp_checksum_v6` returns** when its sum fits. -/
theorem udpChecksumV6_eq_ok {src dst udp : Bytes} (fits : udpSumV6 src dst udp < 2 ^ 32) :
    udpChecksumV6 src dst udp = .ok (checksumWithPseudoV6 src dst ipprotoUdp udp) := by
  rw [udpChecksumV6, Checked.inBits_eq_ok fits]
  rfl

theorem udpChecksumV4_ok {src dst udp : Bytes} {cksum : Nat}
    (summed : udpChecksumV4 src dst udp = .ok cksum) :
    cksum = checksumWithPseudoV4 src dst ipprotoUdp udp := by
  obtain ⟨_, -, same⟩ := Checked.bind_eq_ok.mp summed
  cases same
  rfl

theorem udpChecksumV6_ok {src dst udp : Bytes} {cksum : Nat}
    (summed : udpChecksumV6 src dst udp = .ok cksum) :
    cksum = checksumWithPseudoV6 src dst ipprotoUdp udp := by
  obtain ⟨_, -, same⟩ := Checked.bind_eq_ok.mp summed
  cases same
  rfl

/-- A reply that the template gives is what the task sends. -/
theorem replyPacket_of_template {headerTemplate payload pkt : Bytes} {serverSrc src : SocketAddr}
    (built : buildUdpReplyPacketWithTemplate headerTemplate serverSrc src payload
      = .ok (some pkt)) : replyPacket headerTemplate serverSrc src payload = .ok (some pkt) := by
  unfold replyPacket
  rw [built]
  rfl

/-! ### The stages -/

/-- The two addresses of a header. -/
def addressesAt (srcAt size : Nat) : Set Nat :=
  {index | srcAt ≤ index ∧ index < srcAt + size + size}

/-- A UDP header. -/
def udpHeaderAt (udpOff : Nat) : Set Nat := {index | udpOff ≤ index ∧ index < udpOff + 8}

section Addrs

variable {size srcAt : Nat} {pkt : Bytes} (replySrc : Octets size)
variable (fits : srcAt + size + size ≤ pkt.length)

include fits

theorem agreeOff_replyAddrs : AgreeOff (addressesAt srcAt size) pkt
    (replyAddrs pkt srcAt replySrc) := by
  unfold replyAddrs
  have sized : (slice pkt srcAt size).length = size := length_slice (by omega)
  have dst : AgreeOff (addressesAt srcAt size) pkt
      (overwrite pkt (srcAt + size) (slice pkt srcAt size)) := by
    refine agreeOff_overwrite (by rwa [sized]) fun index low high => ?_
    rw [sized] at high
    exact ⟨by omega, high⟩
  refine dst.trans (agreeOff_overwrite ?_ fun index low high => ?_)
  · rw [dst.1, replySrc.length_eq]
    omega
  · rw [replySrc.length_eq] at high
    exact ⟨low, by omega⟩

/-- **The source is the source of the reply.** -/
theorem slice_src_replyAddrs :
    slice (replyAddrs pkt srcAt replySrc) srcAt size = replySrc.bytes := by
  unfold replyAddrs
  have sized : (slice pkt srcAt size).length = size := length_slice (by omega)
  refine replySrc.slice_overwrite ?_
  rw [length_overwrite (by rwa [sized]), replySrc.length_eq]
  omega

/-- **The destination is the source of the template.** -/
theorem slice_dst_replyAddrs :
    slice (replyAddrs pkt srcAt replySrc) (srcAt + size) size = slice pkt srcAt size := by
  unfold replyAddrs
  have sized : (slice pkt srcAt size).length = size := length_slice (by omega)
  have inside : srcAt + size + (slice pkt srcAt size).length ≤ pkt.length := by rwa [sized]
  have written := slice_overwrite_self inside
  rw [sized] at written
  rw [slice_overwrite_of_disjoint, written]
  · rw [length_overwrite inside, replySrc.length_eq]
    omega
  · rw [replySrc.length_eq]
    exact Or.inr (Nat.le_refl _)

end Addrs

section UdpHeader

variable {pkt : Bytes} {udpOff : Nat} (replyPort : UInt16) (udpLen : Nat)

variable (fits : udpOff + 8 ≤ pkt.length)

include fits

theorem agreeOff_replyUdpHeader : AgreeOff (udpHeaderAt udpOff) pkt
    (replyUdpHeader pkt udpOff replyPort udpLen) := by
  have word : ∀ {data : Bytes} (place : Nat) {source : Bytes}, data.length = pkt.length →
      place ≤ 6 → source.length = 2 →
      AgreeOff (udpHeaderAt udpOff) data (overwrite data (udpOff + place) source) := by
    intro data place source same early two
    refine agreeOff_overwrite (by omega) fun index low high => ⟨by omega, by omega⟩
  unfold replyUdpHeader
  have dstPort := word 2 rfl (by omega) (length_encode 2 (be16 pkt udpOff))
  have srcPort := dstPort.trans (word 0 dstPort.1 (by omega) (length_encode 2 replyPort.toNat))
  have length := srcPort.trans (word 4 srcPort.1 (by omega) (length_encode 2 udpLen))
  exact length.trans (word 6 length.1 (by omega) rfl)

/-- **The fields of the header**: the port of the reply, the source port of the template, the length
and a cleared checksum. -/
theorem replyUdpHeader_fields :
    be16 (replyUdpHeader pkt udpOff replyPort udpLen) udpOff = replyPort.toNat
      ∧ be16 (replyUdpHeader pkt udpOff replyPort udpLen) (udpOff + 2) = be16 pkt udpOff
      ∧ be16 (replyUdpHeader pkt udpOff replyPort udpLen) (udpOff + 4) = udpLen % 65536
      ∧ slice (replyUdpHeader pkt udpOff replyPort udpLen) (udpOff + 6) 2 = [0, 0] := by
  have word : ∀ number, (encode 2 number).length = 2 := length_encode 2
  unfold replyUdpHeader
  dsimp only
  have one : (overwrite pkt (udpOff + 2) (encode 2 (be16 pkt udpOff))).length = pkt.length :=
    length_overwrite (by rw [word]; omega)
  generalize dstPort : overwrite pkt (udpOff + 2) (encode 2 (be16 pkt udpOff)) = first at one ⊢
  have two : (overwrite first udpOff (encode 2 replyPort.toNat)).length = pkt.length :=
    (length_overwrite (by rw [word, one]; omega)).trans one
  generalize srcPort : overwrite first udpOff (encode 2 replyPort.toNat) = second at two ⊢
  have three : (overwrite second (udpOff + 4) (encode 2 udpLen)).length = pkt.length :=
    (length_overwrite (by rw [word, two]; omega)).trans two
  generalize length : overwrite second (udpOff + 4) (encode 2 udpLen) = third at three ⊢
  have cleared : udpOff + 6 + ([0, 0] : Bytes).length ≤ third.length := by
    rw [three]
    exact fits
  refine ⟨?_, ?_, ?_, slice_overwrite_self cleared⟩
  · rw [be16_overwrite_of_disjoint cleared (Or.inl (by omega)), ← length,
      be16_overwrite_of_disjoint (by rw [word, two]; omega) (Or.inl (by omega)), ← srcPort,
      be16_overwrite (by rw [one]; omega)]
    exact Nat.mod_eq_of_lt replyPort.toNat_lt
  · rw [be16_overwrite_of_disjoint cleared (Or.inl (by omega)), ← length,
      be16_overwrite_of_disjoint (by rw [word, two]; omega) (Or.inl (by omega)), ← srcPort,
      be16_overwrite_of_disjoint (by rw [word, one]; omega) (Or.inr (by rw [word])), ← dstPort,
      be16_overwrite (by omega)]
    exact Nat.mod_eq_of_lt (be16_lt pkt udpOff)
  · rw [be16_overwrite_of_disjoint cleared (Or.inl (by omega)), ← length,
      be16_overwrite (by rw [two]; omega)]

end UdpHeader

/-! ### A filled-in template -/

/-- **What a reply owes to its template**: the addresses and the ports, its length and its
payload. -/
structure ReplyFields {size : Nat} (before after : Bytes) (srcAt udpOff : Nat)
    (replySrc : Octets size) (replyPort : UInt16) (udpLen : Nat) : Prop where
  length : after.length = before.length
  src : slice after srcAt size = replySrc.bytes
  dst : slice after (srcAt + size) size = slice before srcAt size
  srcPort : be16 after udpOff = replyPort.toNat
  dstPort : be16 after (udpOff + 2) = be16 before udpOff
  udpLength : be16 after (udpOff + 4) = udpLen % 65536
  payload : after.drop (udpOff + 8) = before.drop (udpOff + 8)

section Fields

variable {size srcAt udpOff udpLen : Nat} {replySrc : Octets size} {replyPort : UInt16}
variable {first before after last pkt : Bytes} {touched : Set Nat}

/-- **The two shared stages** write the fields, clear the checksum, and change nothing else. -/
theorem replyFields_of_stages (replySrc : Octets size) (replyPort : UInt16) (udpLen : Nat)
    (apart : srcAt + size + size ≤ udpOff) (fits : udpOff + 8 ≤ pkt.length) :
    ReplyFields pkt (replyUdpHeader (replyAddrs pkt srcAt replySrc) udpOff replyPort udpLen) srcAt
        udpOff replySrc replyPort udpLen
      ∧ AgreeOff (addressesAt srcAt size ∪ udpHeaderAt udpOff) pkt
        (replyUdpHeader (replyAddrs pkt srcAt replySrc) udpOff replyPort udpLen)
      ∧ slice (replyUdpHeader (replyAddrs pkt srcAt replySrc) udpOff replyPort udpLen)
        (udpOff + 6) 2 = [0, 0] := by
  have within : srcAt + size + size ≤ pkt.length := by omega
  have addrs := agreeOff_replyAddrs replySrc within
  have fits' : udpOff + 8 ≤ (replyAddrs pkt srcAt replySrc).length := by rwa [addrs.1]
  have header := agreeOff_replyUdpHeader replyPort udpLen fits'
  obtain ⟨srcPort, dstPort, length, cleared⟩ := replyUdpHeader_fields replyPort udpLen fits'
  have before : ∀ {start width : Nat}, start + width ≤ udpOff →
      slice (replyUdpHeader (replyAddrs pkt srcAt replySrc) udpOff replyPort udpLen) start width
        = slice (replyAddrs pkt srcAt replySrc) start width := by
    intro start width early
    exact header.slice_eq fun index _ high inside => by
      have := inside.1
      omega
  have behind : ∀ index, udpOff ≤ index → index ∉ addressesAt srcAt size := by
    rintro index low ⟨-, high⟩
    omega
  refine ⟨⟨header.1.trans addrs.1, ?_, ?_, srcPort, ?_, length, ?_⟩,
    (addrs.mono Set.subset_union_left).trans (header.mono Set.subset_union_right), cleared⟩
  · rw [before (by omega), slice_src_replyAddrs replySrc within]
  · rw [before apart, slice_dst_replyAddrs replySrc within]
  · rw [dstPort, addrs.be16_eq (behind _ (Nat.le_refl _)) (behind _ (Nat.le_succ _))]
  · rw [header.drop_eq fun index inside => inside.2, addrs.drop_eq fun index inside => ?_]
    exact Nat.lt_of_lt_of_le inside.2 (Nat.le_trans apart (Nat.le_add_right _ _))

/-- A later change outside the fields. -/
theorem ReplyFields.later
    (fields : ReplyFields before after srcAt udpOff replySrc replyPort udpLen)
    (agree : AgreeOff touched after last)
    (addrs : ∀ index ∈ touched, index < srcAt ∨ srcAt + size + size ≤ index)
    (ports : ∀ index ∈ touched, index < udpOff ∨ udpOff + 6 ≤ index ∧ index < udpOff + 8) :
    ReplyFields before last srcAt udpOff replySrc replyPort udpLen := by
  have kept : ∀ index, udpOff ≤ index → index < udpOff + 6 → index ∉ touched := by
    intro index low high inside
    have := ports index inside
    omega
  have address : ∀ index, srcAt ≤ index → index < srcAt + size + size → index ∉ touched := by
    intro index low high inside
    have := addrs index inside
    omega
  refine ⟨agree.1.trans fields.length, ?_, ?_, ?_, ?_, ?_, ?_⟩
  · rw [agree.slice_eq fun index low high => address index low (by omega), fields.src]
  · rw [agree.slice_eq fun index low high => address index (by omega) high, fields.dst]
  · rw [agree.be16_eq (kept _ (by omega) (by omega)) (kept _ (by omega) (by omega)),
      fields.srcPort]
  · rw [agree.be16_eq (kept _ (by omega) (by omega)) (kept _ (by omega) (by omega)),
      fields.dstPort]
  · rw [agree.be16_eq (kept _ (by omega) (by omega)) (kept _ (by omega) (by omega)),
      fields.udpLength]
  · rw [agree.drop_eq fun index inside => ?_, fields.payload]
    have := ports index inside
    omega

/-- An earlier change before the fields. -/
theorem ReplyFields.earlier
    (fields : ReplyFields before after srcAt udpOff replySrc replyPort udpLen)
    (agree : AgreeOff touched first before) (apart : srcAt ≤ udpOff)
    (addrs : ∀ index ∈ touched, index < srcAt) :
    ReplyFields first after srcAt udpOff replySrc replyPort udpLen := by
  have kept : ∀ index, srcAt ≤ index → index ∉ touched :=
    fun index low inside => absurd (addrs index inside) (Nat.not_lt.mpr low)
  refine ⟨fields.length.trans agree.1, fields.src, ?_, fields.srcPort, ?_, fields.udpLength, ?_⟩
  · rw [fields.dst, agree.slice_eq fun index low _ => kept index low]
  · rw [fields.dstPort, agree.be16_eq (kept _ apart) (kept _ (Nat.le_succ_of_le apart))]
  · rw [fields.payload, agree.drop_eq fun index inside => ?_]
    have := addrs index inside
    omega

end Fields

/-- What the IPv4 builder may change. -/
def replyTouchedV4 (ihl : Nat) : Set Nat :=
  {index | 2 ≤ index ∧ index < 4 ∨ 10 ≤ index ∧ index < 20 ∨ ihl ≤ index ∧ index < ihl + 8}

/-- What the IPv6 builder may change. -/
def replyTouchedV6 : Set Nat := {index | 4 ≤ index ∧ index < 6 ∨ 8 ≤ index ∧ index < 48}

/-- **A filled-in IPv4 template** has the fields of the reply, its total length, and valid
checksums. -/
theorem fillUdpReplyV4_spec {pkt : Bytes} {ihl : Nat} (totalLen udpLen : Nat)
    (replySrc : Ipv4Addr) (replyPort : UInt16) (same : headerLength pkt = ihl) (header : 20 ≤ ihl)
    (fits : ihl + 8 ≤ pkt.length) {out : Bytes}
    (filled : fillUdpReplyV4 pkt ihl totalLen udpLen replySrc replyPort = .ok out) :
    ReplyFields pkt out 12 ihl replySrc replyPort udpLen
      ∧ AgreeOff (replyTouchedV4 ihl) pkt out
      ∧ be16 out 2 = totalLen % 65536
      ∧ Ipv4ChecksumValid out
      ∧ TransportChecksumValidV4 ipprotoUdp out ihl := by
  unfold fillUdpReplyV4 at filled
  dsimp only at filled
  obtain ⟨cksum, summed, filled⟩ := Checked.bind_eq_ok.mp filled
  rw [udpChecksumV4_ok summed] at filled
  replace filled := Except.ok.inj filled
  have total : AgreeOff (wordAt 2) pkt (overwrite pkt 2 (encode 2 totalLen)) :=
    agreeOff_word (length_encode _ _) (by omega)
  have length := @be16_overwrite pkt 2 totalLen (by omega)
  generalize overwrite pkt 2 (encode 2 totalLen) = first at total length filled
  have fits' : ihl + 8 ≤ first.length := by rwa [total.1]
  obtain ⟨fields, stages, cleared⟩ :=
    @replyFields_of_stages 4 12 ihl first replySrc replyPort udpLen header fits'
  generalize replyUdpHeader (replyAddrs first 12 replySrc) ihl replyPort udpLen = second
    at fields stages cleared filled
  have inside : ihl + 6 + 2 ≤ second.length := by rwa [fields.length]
  have udp := transportChecksumValidV4_store ipprotoUdp header rfl inside cleared
  have store := @agreeOff_word second (encode 2 (checksumWithPseudoV4 (slice second 12 4)
    (slice second 16 4) ipprotoUdp (second.drop ihl))) (ihl + 6) (length_encode _ _) inside
  generalize overwrite second (ihl + 6) (encode 2 (checksumWithPseudoV4 (slice second 12 4)
    (slice second 16 4) ipprotoUdp (second.drop ihl))) = third at udp store filled
  -- nothing before the header checksum but the total length has changed so far
  have agree : AgreeOff (replyTouchedV4 ihl) pkt third := by
    refine ((total.mono ?_).trans (stages.mono ?_)).trans (store.mono ?_)
    · exact fun index written => Or.inl written
    · rintro index (⟨low, high⟩ | written)
      · exact Or.inr (Or.inl ⟨by omega, high⟩)
      · exact Or.inr (Or.inr written)
    · rintro index ⟨low, high⟩
      exact Or.inr (Or.inr ⟨by omega, by omega⟩)
  have first0 : 0 ∉ replyTouchedV4 ihl := by
    rintro (⟨low, -⟩ | ⟨low, -⟩ | ⟨low, -⟩) <;> omega
  have still : headerLength third = ihl := (headerLength_congr agree first0).trans same
  have sized : ihl + 8 ≤ third.length := by rwa [agree.1]
  have recomputed : out = recomputeIpv4Checksum third := by
    rw [recomputeIpv4Checksum, if_neg (by omega), still, if_neg (by omega), ← filled]
  have ip := agreeOff_recomputeIpv4Checksum third
  have valid := @ipv4ChecksumValid_recompute third (by omega) (by omega)
  rw [← recomputed] at ip valid
  refine ⟨?_, agree.trans (ip.mono fun index written => Or.inr (Or.inl ⟨written.1, by
    have := written.2
    omega⟩)), ?_, valid, udp.congr ip (fun index written => written.2) header⟩
  · refine ((fields.earlier total (by omega) fun index written => ?_).later store
      (fun index written => ?_) fun index written => ?_).later ip
      (fun index written => Or.inl written.2) fun index written => Or.inl ?_
    · exact Nat.lt_of_lt_of_le written.2 (by omega)
    · exact Or.inr (Nat.le_trans header (Nat.le_trans (Nat.le_add_right _ _) written.1))
    · exact Or.inr ⟨written.1, written.2⟩
    · exact Nat.lt_of_lt_of_le written.2 (by omega)
  · have early : ∀ index, 2 ≤ index → index < 4 →
        index ∉ addressesAt 12 4 ∪ udpHeaderAt ihl ∧ index ∉ wordAt (ihl + 6)
          ∧ index ∉ {index | 10 ≤ index ∧ index < 12} := by
      intro index low high
      refine ⟨?_, ?_, ?_⟩
      · rintro (⟨near, -⟩ | ⟨near, -⟩) <;> omega
      · rintro ⟨near, -⟩
        omega
      · rintro ⟨near, -⟩
        omega
    obtain ⟨two, two', two''⟩ := early 2 (by omega) (by omega)
    obtain ⟨three, three', three''⟩ := early 3 (by omega) (by omega)
    rw [ip.be16_eq two'' three'', store.be16_eq two' three', stages.be16_eq two three, length]

/-- **A filled-in IPv6 template** has the fields of the reply, its payload length, and a valid
checksum. -/
theorem fillUdpReplyV6_spec {pkt : Bytes} (udpLen : Nat) (replySrc : Ipv6Addr)
    (replyPort : UInt16) (fits : 48 ≤ pkt.length) {out : Bytes}
    (filled : fillUdpReplyV6 pkt udpLen replySrc replyPort = .ok out) :
    ReplyFields pkt out 8 40 replySrc replyPort udpLen
      ∧ AgreeOff replyTouchedV6 pkt out
      ∧ be16 out 4 = udpLen % 65536
      ∧ TransportChecksumValidV6 ipprotoUdp out 40 := by
  unfold fillUdpReplyV6 at filled
  dsimp only at filled
  obtain ⟨cksum, summed, filled⟩ := Checked.bind_eq_ok.mp filled
  rw [udpChecksumV6_ok summed] at filled
  replace filled := Except.ok.inj filled
  have total : AgreeOff (wordAt 4) pkt (overwrite pkt 4 (encode 2 udpLen)) :=
    agreeOff_word (length_encode _ _) (by omega)
  have length := @be16_overwrite pkt 4 udpLen (by omega)
  generalize overwrite pkt 4 (encode 2 udpLen) = first at total length filled
  have fits' : 40 + 8 ≤ first.length := by rwa [total.1]
  obtain ⟨fields, stages, cleared⟩ :=
    @replyFields_of_stages 16 8 40 first replySrc replyPort udpLen (Nat.le_refl _) fits'
  generalize replyUdpHeader (replyAddrs first 8 replySrc) 40 replyPort udpLen = second
    at fields stages cleared filled
  have inside : 40 + 6 + 2 ≤ second.length := by rwa [fields.length]
  have udp := transportChecksumValidV6_store ipprotoUdp (Nat.le_refl 40) rfl inside cleared
  have store := @agreeOff_word second (encode 2 (checksumWithPseudoV6 (slice second 8 16)
    (slice second 24 16) ipprotoUdp (second.drop 40))) (40 + 6) (length_encode _ _) inside
  rw [filled] at udp store
  refine ⟨?_, ?_, ?_, udp⟩
  · refine (fields.earlier total (by omega) fun index written => ?_).later store
      (fun index written => ?_) fun index written => ?_
    · exact Nat.lt_of_lt_of_le written.2 (by omega)
    · exact Or.inr (Nat.le_trans (by omega) written.1)
    · exact Or.inr written
  · refine ((total.mono ?_).trans (stages.mono ?_)).trans (store.mono ?_)
    · exact fun index written => Or.inl written
    · rintro index (⟨low, high⟩ | ⟨low, high⟩)
      · exact Or.inr ⟨low, by omega⟩
      · exact Or.inr ⟨by omega, by omega⟩
    · rintro index ⟨low, high⟩
      exact Or.inr ⟨by omega, by omega⟩
  · have early : ∀ index, 4 ≤ index → index < 6 →
        index ∉ addressesAt 8 16 ∪ udpHeaderAt 40 ∧ index ∉ wordAt (40 + 6) := by
      intro index low high
      refine ⟨?_, ?_⟩
      · rintro (⟨near, -⟩ | ⟨near, -⟩) <;> omega
      · rintro ⟨near, -⟩
        omega
    obtain ⟨four, four'⟩ := early 4 (by omega) (by omega)
    obtain ⟨five, five'⟩ := early 5 (by omega) (by omega)
    rw [store.be16_eq four' five', stages.be16_eq four five, length]

/-! ### A template that is used -/

section Template

variable {raw payload : Bytes} {stop : Nat}

/-- A slice of a template behind which the payload was put. -/
theorem slice_template (inside : stop ≤ raw.length) {start size : Nat}
    (within : start + size ≤ stop) :
    slice (raw.take stop ++ payload) start size = slice raw start size := by
  rw [slice_append_of_le payload (by rw [List.length_take, Nat.min_eq_left inside]; exact within),
    slice_take within]

theorem byteAt_template (inside : stop ≤ raw.length) {index : Nat} (within : index < stop) :
    byteAt (raw.take stop ++ payload) index = byteAt raw index := by
  rw [byteAt_append_of_lt payload (by rw [List.length_take, Nat.min_eq_left inside]; exact within),
    byteAt_take within]

theorem length_template (inside : stop ≤ raw.length) :
    (raw.take stop ++ payload).length = stop + payload.length := by
  rw [List.length_append, List.length_take, Nat.min_eq_left inside]

theorem drop_template (inside : stop ≤ raw.length) :
    (raw.take stop ++ payload).drop stop = payload := by
  have front : (raw.take stop).length = stop := by rw [List.length_take, Nat.min_eq_left inside]
  have cut := @List.drop_left _ (raw.take stop) payload
  rwa [front] at cut

end Template

/-- **The checksum of a filled-in IPv4 template** does not overflow for a datagram whose length fits
16 bits. -/
theorem fillUdpReplyV4_eq_ok {pkt : Bytes} {ihl : Nat} (totalLen udpLen : Nat)
    (replySrc : Ipv4Addr) (replyPort : UInt16) (header : 20 ≤ ihl) (fits : ihl + 8 ≤ pkt.length)
    (short : pkt.length < ihl + 65536) :
    ∃ out, fillUdpReplyV4 pkt ihl totalLen udpLen replySrc replyPort = .ok out := by
  have total : (overwrite pkt 2 (encode 2 totalLen)).length = pkt.length :=
    length_overwrite (by rw [length_encode]; omega)
  obtain ⟨fields, -, -⟩ := @replyFields_of_stages 4 12 ihl (overwrite pkt 2 (encode 2 totalLen))
    replySrc replyPort udpLen header (by rwa [total])
  unfold fillUdpReplyV4
  dsimp only
  generalize replyUdpHeader (replyAddrs (overwrite pkt 2 (encode 2 totalLen)) 12 replySrc) ihl
    replyPort udpLen = second at fields ⊢
  have sum := @udpSumV4_lt (slice second 12 4) (slice second 16 4) (second.drop ihl)
    (List.length_take_le _ _) (List.length_take_le _ _)
    (by rw [List.length_drop, fields.length, total]; omega)
  rw [udpChecksumV4_eq_ok sum]
  exact ⟨_, rfl⟩

/-- **The checksum of a filled-in IPv6 template** does not overflow for a datagram whose length fits
16 bits. -/
theorem fillUdpReplyV6_eq_ok {pkt : Bytes} (udpLen : Nat) (replySrc : Ipv6Addr)
    (replyPort : UInt16) (fits : 48 ≤ pkt.length) (short : pkt.length < 40 + 65536) :
    ∃ out, fillUdpReplyV6 pkt udpLen replySrc replyPort = .ok out := by
  have total : (overwrite pkt 4 (encode 2 udpLen)).length = pkt.length :=
    length_overwrite (by rw [length_encode]; omega)
  obtain ⟨fields, -, -⟩ := @replyFields_of_stages 16 8 40 (overwrite pkt 4 (encode 2 udpLen))
    replySrc replyPort udpLen (Nat.le_refl _) (by rwa [total])
  unfold fillUdpReplyV6
  dsimp only
  generalize replyUdpHeader (replyAddrs (overwrite pkt 4 (encode 2 udpLen)) 8 replySrc) 40
    replyPort udpLen = second at fields ⊢
  have sum := @udpSumV6_lt (slice second 8 16) (slice second 24 16) (second.drop 40)
    (List.length_take_le _ _) (List.length_take_le _ _)
    (by rw [List.length_drop, fields.length, total]; omega)
  rw [udpChecksumV6_eq_ok sum]
  exact ⟨_, rfl⟩

/-- **A template with a whole IPv4 header is used**, and its lengths do not overflow for a payload
that fits. -/
theorem buildUdpReply_of_template_v4 {template payload : Bytes}
    (version : byteAt template 0 >>> 4 = 4) (header : 20 ≤ headerLength template)
    (whole : headerLength template + 8 ≤ template.length)
    (fits : headerLength template + 8 + payload.length ≤ 65535) (ip dst : Ipv4Addr)
    (port dstPort : UInt16) : ∃ out,
    buildUdpReplyPacketWithTemplate template (.v4 ip port) (.v4 dst dstPort) payload
        = .ok (some out)
      ∧ fillUdpReplyV4 (template.take (headerLength template + 8) ++ payload)
        (headerLength template) (headerLength template + (8 + payload.length))
        (8 + payload.length) ip port = .ok out := by
  have nonempty : template ≠ [] := List.ne_nil_of_length_pos (by omega)
  have total : Checked.inBits 16 (headerLength template + (8 + payload.length))
      = (.ok (headerLength template + (8 + payload.length)) : Checked Empty Nat) :=
    Checked.inBits_eq_ok (by omega)
  have length := @length_template template payload _ whole
  obtain ⟨out, filled⟩ := @fillUdpReplyV4_eq_ok
    (template.take (headerLength template + 8) ++ payload) _
    (headerLength template + (8 + payload.length)) (8 + payload.length) ip port header
    (by omega) (by omega)
  refine ⟨out, ?_, filled⟩
  unfold buildUdpReplyPacketWithTemplate buildUdpReplyV4WithTemplate
  rw [if_neg nonempty]
  dsimp only
  rw [if_pos version, if_neg (by omega), if_neg (by omega)]
  show Except.bind (Checked.inBits 16 _) _ = _
  rw [Nat.mod_eq_of_lt (by omega), total]
  show Except.bind (fillUdpReplyV4 _ _ _ _ _ _) _ = _
  rw [filled]
  rfl

/-- **A template of 48 bytes is used** over IPv6. -/
theorem buildUdpReply_of_template_v6 {template payload : Bytes}
    (version : byteAt template 0 >>> 4 = 6) (whole : 48 ≤ template.length)
    (fits : 8 + payload.length ≤ 65535) (ip dst : Ipv6Addr) (port dstPort : UInt16)
    (flowinfo scopeId flowinfo' scopeId' : UInt32) : ∃ out,
    buildUdpReplyPacketWithTemplate template (.v6 ip port flowinfo scopeId)
        (.v6 dst dstPort flowinfo' scopeId') payload = .ok (some out)
      ∧ fillUdpReplyV6 (template.take 48 ++ payload) (8 + payload.length) ip port = .ok out := by
  have nonempty : template ≠ [] := List.ne_nil_of_length_pos (by omega)
  have length := @length_template template payload _ whole
  obtain ⟨out, filled⟩ := @fillUdpReplyV6_eq_ok (template.take 48 ++ payload)
    (8 + payload.length) ip port (by omega) (by omega)
  refine ⟨out, ?_, filled⟩
  unfold buildUdpReplyPacketWithTemplate buildUdpReplyV6WithTemplate
  rw [if_neg nonempty]
  dsimp only
  rw [if_pos version, if_neg (by omega), Nat.mod_eq_of_lt (by omega)]
  show Except.bind (fillUdpReplyV6 _ _ _ _) _ = _
  rw [filled]
  rfl

end RsTun.SystemNat
