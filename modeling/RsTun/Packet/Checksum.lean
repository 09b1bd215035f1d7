/-
**The checksums of IPv4 headers and of TCP segments.**

A packet is its bytes from the first byte of the IP header on. The sums are taken in `u32` by the
source and in `Nat` here; `checksumWithPseudo_sums_lt` says that this makes no difference for a
packet whose length an IP header can state.

* `tcpChecksumValidV4_recompute`, `tcpChecksumValidV6_recompute`, `ipv4ChecksumValid_recompute` —
  a recomputed checksum is valid, against the pseudo header a receiver forms.
* `agreeOff_recomputeTcpChecksumV4`, `agreeOff_recomputeTcpChecksumV6`,
  `agreeOff_recomputeIpv4Checksum` — nothing but the field changes.
-/

import RsTun.Library.OnesComplement

namespace RsTun.Packet

open Library Library.Bytes Library.OnesComplement

/-- `IPPROTO_TCP`. -/
def ipprotoTcp : UInt8 := 6

/-- `IPPROTO_UDP`. -/
def ipprotoUdp : UInt8 := 17

/-- `IPPROTO_ICMP`. -/
def ipprotoIcmp : UInt8 := 1

/-- The IHL field, in bytes: `((pkt[0] & 0x0f) as usize) * 4`. -/
def headerLength (pkt : Bytes) : Nat := (byteAt pkt 0 &&& 0x0f).toNat * 4

/-- `internet_checksum`. -/
def internetChecksum (data : Bytes) : Nat := complement (foldCarries (wordSum data))

/-- The pseudo header of `checksum_with_pseudo_v4`, with the length truncated to 16 bits. -/
def pseudoV4 (src dst : Bytes) (proto : UInt8) (length : Nat) : Bytes :=
  src ++ dst ++ [0, proto] ++ encode 2 length

/-- `checksum_with_pseudo_v4`. -/
def checksumWithPseudoV4 (src dst : Bytes) (proto : UInt8) (data : Bytes) : Nat :=
  complement (foldCarries (wordSum (pseudoV4 src dst proto data.length) + wordSum data))

/-- `checksum_with_pseudo_v6`, which sums the parts of the pseudo header without laying it out. -/
def checksumWithPseudoV6 (src dst : Bytes) (proto : UInt8) (data : Bytes) : Nat :=
  complement (foldCarries (wordSum src + wordSum dst + data.length / 65536 % 65536
    + data.length % 65536 + proto.toNat + wordSum data))

/-- `recompute_ipv4_checksum`. -/
def recomputeIpv4Checksum (pkt : Bytes) : Bytes :=
  if pkt.length < 20 then pkt
  else if headerLength pkt < 20 ∨ pkt.length < headerLength pkt then pkt
  else
    let cleared := overwrite pkt 10 [0, 0]
    overwrite cleared 10 (encode 2 (internetChecksum (cleared.take (headerLength pkt))))

/-- `recompute_tcp_checksum_v4`. -/
def recomputeTcpChecksumV4 (pkt : Bytes) (ihl : Nat) : Bytes :=
  if pkt.length < ihl + 18 then pkt
  else
    let cleared := overwrite pkt (ihl + 16) [0, 0]
    overwrite cleared (ihl + 16) (encode 2
      (checksumWithPseudoV4 (slice pkt 12 4) (slice pkt 16 4) ipprotoTcp (cleared.drop ihl)))

/-- `recompute_tcp_checksum_v6`. -/
def recomputeTcpChecksumV6 (pkt : Bytes) (tcpOff : Nat) : Bytes :=
  if pkt.length < tcpOff + 18 ∨ tcpOff < 40 then pkt
  else
    let cleared := overwrite pkt (tcpOff + 16) [0, 0]
    overwrite cleared (tcpOff + 16) (encode 2
      (checksumWithPseudoV6 (slice pkt 8 16) (slice pkt 24 16) ipprotoTcp (cleared.drop tcpOff)))

/-! ### What a receiver checks -/

/-- The pseudo header of IPv6: addresses, length, three zero bytes and the protocol. -/
def pseudoV6 (src dst : Bytes) (proto : UInt8) (length : Nat) : Bytes :=
  src ++ dst ++ encode 4 length ++ [0, 0, 0, proto]

/-- The header checksum of an IPv4 packet verifies. -/
def Ipv4ChecksumValid (pkt : Bytes) : Prop := Verifies (wordSum (pkt.take (headerLength pkt)))

/-- The checksum of the TCP segment at `ihl` verifies. -/
def TcpChecksumValidV4 (pkt : Bytes) (ihl : Nat) : Prop :=
  Verifies (wordSum (pseudoV4 (slice pkt 12 4) (slice pkt 16 4) ipprotoTcp (pkt.length - ihl))
    + wordSum (pkt.drop ihl))

/-- The checksum of the TCP segment at `tcpOff` verifies. -/
def TcpChecksumValidV6 (pkt : Bytes) (tcpOff : Nat) : Prop :=
  Verifies (wordSum (pseudoV6 (slice pkt 8 16) (slice pkt 24 16) ipprotoTcp (pkt.length - tcpOff))
    + wordSum (pkt.drop tcpOff))

/-- The checksum of the transport segment at `off` verifies, under protocol number `proto`. -/
def TransportChecksumValidV4 (proto : UInt8) (pkt : Bytes) (off : Nat) : Prop :=
  Verifies (wordSum (pseudoV4 (slice pkt 12 4) (slice pkt 16 4) proto (pkt.length - off))
    + wordSum (pkt.drop off))

/-- The checksum of the transport segment at `off` verifies, under protocol number `proto`. -/
def TransportChecksumValidV6 (proto : UInt8) (pkt : Bytes) (off : Nat) : Prop :=
  Verifies (wordSum (pseudoV6 (slice pkt 8 16) (slice pkt 24 16) proto (pkt.length - off))
    + wordSum (pkt.drop off))

/-- **The `u32` sums do not overflow**, over either pseudo header. -/
theorem checksumWithPseudo_sums_lt {src dst data : Bytes} (proto : UInt8)
    (fitsSrc : src.length ≤ 16) (fitsDst : dst.length ≤ 16) (fits : data.length < 65536) :
    wordSum (pseudoV4 src dst proto data.length) + wordSum data < 2 ^ 32 ∧
      wordSum src + wordSum dst + data.length / 65536 % 65536 + data.length % 65536 + proto.toNat
        + wordSum data < 2 ^ 32 := by
  have sumSrc := wordSum_le src
  have sumDst := wordSum_le dst
  have sumData := wordSum_le data
  have sumPseudo := wordSum_le (pseudoV4 src dst proto data.length)
  have size : (pseudoV4 src dst proto data.length).length = src.length + dst.length + 4 := by
    simp only [pseudoV4, List.length_append, length_encode, List.length_cons, List.length_nil]
  have byte := proto.toNat_lt
  constructor <;> omega

/-- Clearing a field and writing it changes nothing else. -/
theorem agreeOff_refill {pkt : Bytes} {start : Nat} (number : Nat) {touched : Set Nat}
    (fits : start + 2 ≤ pkt.length) (covered : ∀ index, start ≤ index → index < start + 2 →
      index ∈ touched) :
    AgreeOff touched pkt (overwrite (overwrite pkt start [0, 0]) start (encode 2 number)) := by
  have first : AgreeOff touched pkt (overwrite pkt start [0, 0]) := agreeOff_overwrite fits covered
  refine first.trans (agreeOff_overwrite ?_ ?_)
  · rw [length_encode, first.1]
    exact fits
  · rw [length_encode]
    exact covered

/-- The sum of the IPv6 pseudo header is what the source sums. -/
theorem wordSum_pseudoV6 {src dst : Bytes} (proto : UInt8) (length : Nat)
    (evenSrc : src.length % 2 = 0) (evenDst : dst.length % 2 = 0) :
    wordSum (pseudoV6 src dst proto length)
      = wordSum src + wordSum dst + length / 65536 % 65536 + length % 65536 + proto.toNat := by
  have words : wordSum (encode 4 length) = length / 65536 % 65536 + length % 65536 := by
    simp only [encode, wordSum, UInt8.toNat_ofNat']
    omega
  have last : wordSum [0, 0, 0, proto] = proto.toNat := by
    simp [wordSum]
  rw [pseudoV6, wordSum_append, wordSum_append, wordSum_append _ evenSrc, words, last]
  · omega
  · rw [List.length_append]
    omega
  · rw [List.length_append, List.length_append, length_encode]
    omega

/-- The sum of the IPv4 pseudo header. -/
theorem wordSum_pseudoV4 {src dst : Bytes} (proto : UInt8) (length : Nat)
    (evenSrc : src.length % 2 = 0) (evenDst : dst.length % 2 = 0) :
    wordSum (pseudoV4 src dst proto length)
      = wordSum src + wordSum dst + proto.toNat + length % 65536 := by
  have word : wordSum (encode 2 length) = length % 65536 := by
    rw [wordSum_pair (length_encode 2 length), value_encode]
    rfl
  have middle : wordSum [0, proto] = proto.toNat := by
    simp [wordSum]
  rw [pseudoV4, wordSum_append, wordSum_append, wordSum_append _ evenSrc, word, middle]
  · rw [List.length_append]
    omega
  · rw [List.length_append, List.length_append]
    show (src.length + dst.length + 2) % 2 = 0
    omega

/-- **A checksum written into a cleared field** of the segment at `off` is valid, over IPv4. -/
theorem transportChecksumValidV4_store {pkt : Bytes} {off place : Nat} (proto : UInt8)
    (header : 20 ≤ off) (even : place % 2 = 0) (inside : off + place + 2 ≤ pkt.length)
    (cleared : slice pkt (off + place) 2 = [0, 0]) :
    TransportChecksumValidV4 proto (overwrite pkt (off + place)
      (encode 2 (checksumWithPseudoV4 (slice pkt 12 4) (slice pkt 16 4) proto (pkt.drop off))))
      off := by
  have fits : ∀ number, off + place + (encode 2 number).length ≤ pkt.length := fun number => by
    rw [length_encode]
    exact inside
  have cleared' : slice (pkt.drop off) place 2 = [0, 0] := by
    rw [slice_drop, cleared]
  rw [TransportChecksumValidV4, slice_overwrite_of_disjoint (fits _) (Or.inl (by omega)),
    slice_overwrite_of_disjoint (fits _) (Or.inl (by omega)), length_overwrite (fits _),
    drop_overwrite_of_ge (fits _) (Nat.le_add_right _ _), Nat.add_sub_cancel_left,
    checksumWithPseudoV4, List.length_drop]
  exact verifies_overwrite_of_cleared even (by rw [List.length_drop]; omega) cleared'

/-- **A checksum written into a cleared field** of the segment at `off` is valid, over IPv6. -/
theorem transportChecksumValidV6_store {pkt : Bytes} {off place : Nat} (proto : UInt8)
    (header : 40 ≤ off) (even : place % 2 = 0) (inside : off + place + 2 ≤ pkt.length)
    (cleared : slice pkt (off + place) 2 = [0, 0]) :
    TransportChecksumValidV6 proto (overwrite pkt (off + place)
      (encode 2 (checksumWithPseudoV6 (slice pkt 8 16) (slice pkt 24 16) proto (pkt.drop off))))
      off := by
  have fits : ∀ number, off + place + (encode 2 number).length ≤ pkt.length := fun number => by
    rw [length_encode]
    exact inside
  have src : (slice pkt 8 16).length % 2 = 0 := by
    rw [length_slice (by omega)]
  have dst : (slice pkt 24 16).length % 2 = 0 := by
    rw [length_slice (by omega)]
  have cleared' : slice (pkt.drop off) place 2 = [0, 0] := by
    rw [slice_drop, cleared]
  rw [TransportChecksumValidV6, slice_overwrite_of_disjoint (fits _) (Or.inl (by omega)),
    slice_overwrite_of_disjoint (fits _) (Or.inl (by omega)), length_overwrite (fits _),
    drop_overwrite_of_ge (fits _) (Nat.le_add_right _ _), Nat.add_sub_cancel_left,
    checksumWithPseudoV6, List.length_drop, wordSum_pseudoV6 _ _ src dst]
  exact verifies_overwrite_of_cleared even (by rw [List.length_drop]; omega) cleared'

section Tcp

variable {pkt : Bytes} {tcpOff : Nat}

/-- The cleared checksum of the segment at `tcpOff`, and what lies in front of it. -/
theorem clear_tcpChecksum (fits : tcpOff + 18 ≤ pkt.length) :
    (overwrite pkt (tcpOff + 16) [0, 0]).length = pkt.length
      ∧ slice (overwrite pkt (tcpOff + 16) [0, 0]) (tcpOff + 16) 2 = [0, 0]
      ∧ ∀ {start size : Nat}, start + size ≤ tcpOff + 16 →
        slice (overwrite pkt (tcpOff + 16) [0, 0]) start size = slice pkt start size := by
  have fits' : tcpOff + 16 + ([0, 0] : Bytes).length ≤ pkt.length := fits
  exact ⟨length_overwrite fits', slice_overwrite_self fits',
    fun before => slice_overwrite_of_disjoint fits' (Or.inl before)⟩

/-- **A recomputed TCP checksum is valid**, over IPv4. -/
theorem tcpChecksumValidV4_recompute (fits : tcpOff + 18 ≤ pkt.length) (header : 20 ≤ tcpOff) :
    TcpChecksumValidV4 (recomputeTcpChecksumV4 pkt tcpOff) tcpOff := by
  obtain ⟨length, cleared, same⟩ := clear_tcpChecksum fits
  rw [recomputeTcpChecksumV4, if_neg (Nat.not_lt.mpr fits)]
  dsimp only
  rw [← same (show 12 + 4 ≤ tcpOff + 16 by omega), ← same (show 16 + 4 ≤ tcpOff + 16 by omega)]
  exact transportChecksumValidV4_store ipprotoTcp header rfl (by omega) cleared

/-- **A recomputed TCP checksum is valid**, over IPv6. -/
theorem tcpChecksumValidV6_recompute (fits : tcpOff + 18 ≤ pkt.length) (header : 40 ≤ tcpOff) :
    TcpChecksumValidV6 (recomputeTcpChecksumV6 pkt tcpOff) tcpOff := by
  obtain ⟨length, cleared, same⟩ := clear_tcpChecksum fits
  rw [recomputeTcpChecksumV6, if_neg (by omega)]
  dsimp only
  rw [← same (show 8 + 16 ≤ tcpOff + 16 by omega), ← same (show 24 + 16 ≤ tcpOff + 16 by omega)]
  exact transportChecksumValidV6_store ipprotoTcp header rfl (by omega) cleared

end Tcp

/-- Only the checksum field changes. -/
theorem agreeOff_recomputeTcpChecksumV4 (pkt : Bytes) (ihl : Nat) :
    AgreeOff {index | ihl + 16 ≤ index ∧ index < ihl + 18} pkt
      (recomputeTcpChecksumV4 pkt ihl) := by
  unfold recomputeTcpChecksumV4
  split
  · exact AgreeOff.refl _ _
  · exact agreeOff_refill _ (by omega) fun index low high => ⟨low, high⟩

/-- Only the checksum field changes. -/
theorem agreeOff_recomputeTcpChecksumV6 (pkt : Bytes) (tcpOff : Nat) :
    AgreeOff {index | tcpOff + 16 ≤ index ∧ index < tcpOff + 18} pkt
      (recomputeTcpChecksumV6 pkt tcpOff) := by
  unfold recomputeTcpChecksumV6
  split
  · exact AgreeOff.refl _ _
  · exact agreeOff_refill _ (by omega) fun index low high => ⟨low, high⟩

/-- Only the checksum field changes. -/
theorem agreeOff_recomputeIpv4Checksum (pkt : Bytes) :
    AgreeOff {index | 10 ≤ index ∧ index < 12} pkt (recomputeIpv4Checksum pkt) := by
  unfold recomputeIpv4Checksum
  split
  · exact AgreeOff.refl _ _
  · split
    · exact AgreeOff.refl _ _
    · exact agreeOff_refill _ (by omega) fun index low high => ⟨low, high⟩

/-- Packets that agree on their first byte have one header length. -/
theorem headerLength_congr {touched : Set Nat} {before after : Bytes}
    (agree : AgreeOff touched before after) (outside : 0 ∉ touched) :
    headerLength after = headerLength before := by
  rw [headerLength, headerLength, agree.byteAt_eq outside]

/-- **A recomputed header checksum is valid.** -/
theorem ipv4ChecksumValid_recompute {pkt : Bytes} (header : 20 ≤ headerLength pkt)
    (fits : headerLength pkt ≤ pkt.length) : Ipv4ChecksumValid (recomputeIpv4Checksum pkt) := by
  have same : headerLength (recomputeIpv4Checksum pkt) = headerLength pkt :=
    headerLength_congr (agreeOff_recomputeIpv4Checksum pkt) (by simp)
  have fits' : 10 + ([0, 0] : Bytes).length ≤ pkt.length := by
    show 12 ≤ pkt.length
    omega
  have covered : 10 + ([0, 0] : Bytes).length ≤ headerLength pkt := by
    show 12 ≤ headerLength pkt
    omega
  have inside : 10 + 2 ≤ (pkt.take (headerLength pkt)).length := by
    rw [List.length_take]
    omega
  rw [Ipv4ChecksumValid, same, recomputeIpv4Checksum, if_neg (by omega), if_neg (by omega),
    take_overwrite_of_ge (by rw [length_encode]; omega)
      (by rw [length_overwrite fits']; exact fits),
    take_overwrite_of_ge covered fits, internetChecksum]
  have verified := @verifies_overwrite _ 10 0 rfl inside
  simpa only [Nat.zero_add] using verified

/-- A change outside the addresses and the segment leaves a transport checksum valid. -/
theorem TransportChecksumValidV4.congr {touched : Set Nat} {proto : UInt8} {before after : Bytes}
    {off : Nat} (valid : TransportChecksumValidV4 proto before off)
    (agree : AgreeOff touched before after) (apart : ∀ index ∈ touched, index < 12)
    (header : 20 ≤ off) : TransportChecksumValidV4 proto after off := by
  have outside : ∀ index, 12 ≤ index → index ∉ touched :=
    fun index high inside => absurd (apart index inside) (Nat.not_lt.mpr high)
  have segment : after.drop off = before.drop off :=
    agree.drop_eq fun index inside => Nat.lt_of_lt_of_le (apart index inside) (by omega)
  have src : slice after 12 4 = slice before 12 4 :=
    agree.slice_eq fun index low _ => outside index low
  have dst : slice after 16 4 = slice before 16 4 :=
    agree.slice_eq fun index low _ => outside index (Nat.le_trans (by omega) low)
  rw [TransportChecksumValidV4, segment, src, dst, agree.1]
  exact valid

/-- A change outside the addresses and the segment leaves a TCP checksum valid. -/
theorem TcpChecksumValidV4.congr {touched : Set Nat} {before after : Bytes} {ihl : Nat}
    (valid : TcpChecksumValidV4 before ihl) (agree : AgreeOff touched before after)
    (apart : ∀ index ∈ touched, index < 12) (header : 20 ≤ ihl) :
    TcpChecksumValidV4 after ihl :=
  TransportChecksumValidV4.congr valid agree apart header

end RsTun.Packet
