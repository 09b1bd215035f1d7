/-
**What the builders of UDP replies emit.**

The four builders lay out the same datagram: the reply's source port, the client's port, a length
truncated to 16 bits, a cleared checksum, and the payload. They differ in where the addresses and
the client's port come from, and in the IP header.

* `buildUdpReplyV4_emitted`, `buildUdpReplyV6_emitted` — the packets that are built anew.
* `buildUdpReplyV4WithTemplate_emitted`, `buildUdpReplyV6WithTemplate_emitted` — the packets that
  are built from a template.

Each of these holds for a payload of any length for which a packet is returned.
-/

import RsTun.SystemNat.UdpReply

namespace RsTun.SystemNat

open Library Library.Bytes Library.OnesComplement Packet

/-- The datagram of a reply, its checksum cleared. -/
def replyDatagram (srcPort dstPort : Nat) (payload : Bytes) : Bytes :=
  encode 2 srcPort ++ encode 2 dstPort ++ encode 2 ((8 + payload.length) % 65536) ++ [0, 0]
    ++ payload

/-- **An emitted IPv4 packet**: its addresses, its lengths, its data, and the sum that its checksum
was taken of. -/
structure EmittedV4 (pkt payload src dst : Bytes) (srcPort dstPort ihl : Nat) : Prop where
  version : byteAt pkt 0 >>> 4 = 4
  header : headerLength pkt = ihl
  length : pkt.length = ihl + 8 + payload.length
  totalLength : be16 pkt 2 = ihl + (8 + payload.length) % 65536
  source : slice pkt 12 4 = src
  destination : slice pkt 16 4 = dst
  sourcePort : be16 pkt ihl = srcPort
  destinationPort : be16 pkt (ihl + 2) = dstPort
  udpLength : be16 pkt (ihl + 4) = (8 + payload.length) % 65536
  checksum : be16 pkt (ihl + 6)
    = complement (foldCarries (udpSumV4 src dst (replyDatagram srcPort dstPort payload)))
  data : pkt.drop (ihl + 8) = payload

/-- **An emitted IPv6 packet**: its addresses, its lengths, its data, and the sum that its checksum
was taken of. -/
structure EmittedV6 (pkt payload src dst : Bytes) (srcPort dstPort : Nat) : Prop where
  version : byteAt pkt 0 >>> 4 = 6
  length : pkt.length = 48 + payload.length
  payloadLength : be16 pkt 4 = (8 + payload.length) % 65536
  source : slice pkt 8 16 = src
  destination : slice pkt 24 16 = dst
  sourcePort : be16 pkt 40 = srcPort
  destinationPort : be16 pkt 42 = dstPort
  udpLength : be16 pkt 44 = (8 + payload.length) % 65536
  checksum : be16 pkt 46
    = complement (foldCarries (udpSumV6 src dst (replyDatagram srcPort dstPort payload)))
  data : pkt.drop 48 = payload

/-! ### Headers built anew -/

section Anew

variable {hdr payload : Bytes} {srcPort dstPort : Nat}

theorem length_replyDatagram :
    (replyDatagram srcPort dstPort payload).length = 8 + payload.length := by
  simp only [replyDatagram, List.length_append, length_encode, List.length_cons, List.length_nil]

theorem behind_header_eq : hdr ++ encode 2 srcPort ++ encode 2 dstPort
    ++ encode 2 ((8 + payload.length) % 65536) ++ [0, 0] ++ payload
      = hdr ++ replyDatagram srcPort dstPort payload := by
  simp only [replyDatagram, List.append_assoc]

/-- The words of a datagram. -/
theorem be16_replyDatagram :
    be16 (replyDatagram srcPort dstPort payload) 0 = srcPort % 65536
      ∧ be16 (replyDatagram srcPort dstPort payload) 2 = dstPort % 65536
      ∧ be16 (replyDatagram srcPort dstPort payload) 4 = (8 + payload.length) % 65536 :=
  ⟨value_encode 2 srcPort, value_encode 2 dstPort,
    (value_encode 2 ((8 + payload.length) % 65536)).trans (Nat.mod_mod _ _)⟩

/-- **A datagram behind a header**, with its checksum filled in. -/
structure Behind (pkt hdr payload : Bytes) (srcPort dstPort cksum : Nat) : Prop where
  length : pkt.length = hdr.length + 8 + payload.length
  header : ∀ start size, start + size ≤ hdr.length → slice pkt start size = slice hdr start size
  sourcePort : be16 pkt hdr.length = srcPort % 65536
  destinationPort : be16 pkt (hdr.length + 2) = dstPort % 65536
  udpLength : be16 pkt (hdr.length + 4) = (8 + payload.length) % 65536
  checksum : be16 pkt (hdr.length + 6) = cksum % 65536
  data : pkt.drop (hdr.length + 8) = payload

theorem behind_header (cksum : Nat) {pkt : Bytes}
    (built : overwrite (hdr ++ replyDatagram srcPort dstPort payload) (hdr.length + 6)
      (encode 2 cksum) = pkt) : Behind pkt hdr payload srcPort dstPort cksum := by
  have total : (hdr ++ replyDatagram srcPort dstPort payload).length
      = hdr.length + 8 + payload.length := by
    rw [List.length_append, length_replyDatagram, Nat.add_assoc]
  have inside : hdr.length + 6 + (encode 2 cksum).length
      ≤ (hdr ++ replyDatagram srcPort dstPort payload).length := by
    rw [length_encode, total]
    omega
  have word : ∀ place, place ≤ 4 → be16 pkt (hdr.length + place)
      = be16 (replyDatagram srcPort dstPort payload) place := by
    intro place early
    rw [← built, be16_overwrite_of_disjoint inside (Or.inl (by omega)), ← be16_drop,
      List.drop_left]
  obtain ⟨src, dst, length⟩ := @be16_replyDatagram payload srcPort dstPort
  refine ⟨?_, fun start size within => ?_, (word 0 (by omega)).trans src,
    (word 2 (by omega)).trans dst, (word 4 (by omega)).trans length, ?_, ?_⟩
  · rw [← built]
    exact (length_overwrite inside).trans total
  · rw [← built, slice_overwrite_of_disjoint inside (Or.inl (by omega)),
      slice_append_of_le _ within]
  · rw [← built]
    exact be16_overwrite (by rw [length_encode] at inside; exact inside)
  · rw [← built, drop_overwrite_of_le inside (by rw [length_encode]), ← List.drop_drop,
      List.drop_left]
    rfl

end Anew

/-- A byte is the slice at its place. -/
theorem byteAt_congr {data data' : Bytes} {index : Nat}
    (same : slice data index 1 = slice data' index 1) : byteAt data index = byteAt data' index := by
  have head := congrArg (fun bytes => byteAt bytes 0) same
  dsimp only [slice] at head
  rwa [byteAt_take Nat.one_pos, byteAt_take Nat.one_pos, byteAt_drop, byteAt_drop] at head

/-- The header of `build_udp_reply_v4`, with any header checksum. -/
theorem replyHeaderV4 (src dst : Ipv4Addr) (totalLen cksum : Nat) {hdr : Bytes}
    (built : overwrite ([0x45, 0x00] ++ encode 2 totalLen
      ++ [0x00, 0x00, 0x40, 0x00, 64, ipprotoUdp, 0x00, 0x00] ++ src.bytes ++ dst.bytes) 10
      (encode 2 cksum) = hdr) :
    hdr.length = 20 ∧ byteAt hdr 0 = 0x45 ∧ be16 hdr 2 = totalLen % 65536
      ∧ slice hdr 12 4 = src.bytes ∧ slice hdr 16 4 = dst.bytes := by
  have front : ([0x45, 0x00] ++ encode 2 totalLen
      ++ [0x00, 0x00, 0x40, 0x00, 64, ipprotoUdp, 0x00, 0x00]).length = 12 := rfl
  generalize written : [0x45, 0x00] ++ encode 2 totalLen
    ++ [0x00, 0x00, 0x40, 0x00, 64, ipprotoUdp, 0x00, 0x00] = fixed at front built
  have total : (fixed ++ src.bytes ++ dst.bytes).length = 20 := by
    rw [List.length_append, List.length_append, front, src.length_eq, dst.length_eq]
  have inside : 10 + (encode 2 cksum).length ≤ (fixed ++ src.bytes ++ dst.bytes).length := by
    rw [length_encode, total]
    omega
  have kept : ∀ start size, start + size ≤ 10 ∨ 12 ≤ start →
      slice hdr start size = slice (fixed ++ src.bytes ++ dst.bytes) start size := by
    intro start size apart
    rw [← built]
    exact slice_overwrite_of_disjoint inside (by rwa [length_encode])
  refine ⟨?_, ?_, ?_, ?_, ?_⟩
  · rw [← built]
    exact (length_overwrite inside).trans total
  · rw [byteAt_congr (kept 0 1 (by omega)), ← written]
    rfl
  · rw [be16_congr (kept 2 2 (by omega)), ← written]
    exact value_encode 2 totalLen
  · rw [kept 12 4 (by omega)]
    exact slice_middle front src.length_eq
  · rw [kept 16 4 (by omega), ← List.append_nil (fixed ++ src.bytes ++ dst.bytes)]
    exact slice_middle (by rw [List.length_append, front, src.length_eq]) dst.length_eq

/-- **The reply of `build_udp_reply_v4`.** -/
theorem buildUdpReplyV4_emitted {src dst : Ipv4Addr} {srcPort dstPort : UInt16}
    {payload pkt : Bytes}
    (built : buildUdpReplyV4 src srcPort dst dstPort payload = .ok (some pkt)) :
    EmittedV4 pkt payload src.bytes dst.bytes srcPort.toNat dstPort.toNat 20 := by
  unfold buildUdpReplyV4 at built
  dsimp only at built
  obtain ⟨totalLen, summed, later⟩ := Checked.bind_eq_ok.mp built
  obtain ⟨small, same⟩ := Checked.inBits_ok summed
  generalize named : overwrite _ 10 _ = hdr at later
  obtain ⟨size, first, total, source, destination⟩ := replyHeaderV4 src dst totalLen _ named
  obtain ⟨cksum, checked, done⟩ := Checked.bind_eq_ok.mp later
  replace done := Option.some.inj (Except.ok.inj done)
  rw [behind_header_eq] at checked done
  rw [List.drop_left] at checked
  obtain ⟨length, kept, sourcePort, destinationPort, udpLength, stored, data⟩ :=
    behind_header cksum done
  rw [size] at length sourcePort destinationPort udpLength stored data
  have one : byteAt pkt 0 = 0x45 := (byteAt_congr (kept 0 1 (by omega))).trans first
  refine ⟨?_, ?_, length, ?_, (kept 12 4 (by omega)).trans source,
    (kept 16 4 (by omega)).trans destination,
    sourcePort.trans (Nat.mod_eq_of_lt srcPort.toNat_lt),
    destinationPort.trans (Nat.mod_eq_of_lt dstPort.toNat_lt), udpLength, ?_, data⟩
  · rw [one]
    rfl
  · rw [headerLength, one]
    rfl
  · rw [be16_congr (kept 2 2 (by omega)), total, same]
    exact Nat.mod_eq_of_lt small
  · rw [stored, udpChecksumV4_ok checked, checksumWithPseudoV4,
      Nat.mod_eq_of_lt (complement_lt _)]
    rfl

/-- The header of `build_udp_reply_v6`. -/
theorem replyHeaderV6 (src dst : Ipv6Addr) (udpLen : Nat) {hdr : Bytes}
    (built : [0x60, 0x00, 0x00, 0x00] ++ encode 2 udpLen ++ [ipprotoUdp, 64] ++ src.bytes
      ++ dst.bytes = hdr) :
    hdr.length = 40 ∧ byteAt hdr 0 = 0x60 ∧ be16 hdr 4 = udpLen % 65536
      ∧ slice hdr 8 16 = src.bytes ∧ slice hdr 24 16 = dst.bytes := by
  have front : ([0x60, 0x00, 0x00, 0x00] ++ encode 2 udpLen ++ [ipprotoUdp, 64]).length = 8 := rfl
  rw [← built]
  refine ⟨?_, rfl, value_encode 2 udpLen, slice_middle front src.length_eq, ?_⟩
  · rw [List.length_append, List.length_append, front, src.length_eq, dst.length_eq]
  · rw [← List.append_nil ([0x60, 0x00, 0x00, 0x00] ++ encode 2 udpLen ++ [ipprotoUdp, 64]
      ++ src.bytes ++ dst.bytes)]
    exact slice_middle (by rw [List.length_append, front, src.length_eq]) dst.length_eq

/-- **The reply of `build_udp_reply_v6`.** -/
theorem buildUdpReplyV6_emitted {src dst : Ipv6Addr} {srcPort dstPort : UInt16}
    {payload pkt : Bytes}
    (built : buildUdpReplyV6 src srcPort dst dstPort payload = .ok (some pkt)) :
    EmittedV6 pkt payload src.bytes dst.bytes srcPort.toNat dstPort.toNat := by
  unfold buildUdpReplyV6 at built
  dsimp only at built
  generalize named : [0x60, 0x00, 0x00, 0x00] ++ encode 2 ((8 + payload.length) % 65536)
    ++ [ipprotoUdp, 64] ++ src.bytes ++ dst.bytes = hdr at built
  obtain ⟨size, first, total, source, destination⟩ := replyHeaderV6 src dst _ named
  obtain ⟨cksum, checked, done⟩ := Checked.bind_eq_ok.mp built
  replace done := Option.some.inj (Except.ok.inj done)
  rw [behind_header_eq] at checked done
  rw [List.drop_left] at checked
  obtain ⟨length, kept, sourcePort, destinationPort, udpLength, stored, data⟩ :=
    behind_header cksum done
  rw [size] at length sourcePort destinationPort udpLength stored data
  have one : byteAt pkt 0 = 0x60 := (byteAt_congr (kept 0 1 (by omega))).trans first
  refine ⟨?_, by omega, ?_, (kept 8 16 (by omega)).trans source,
    (kept 24 16 (by omega)).trans destination,
    sourcePort.trans (Nat.mod_eq_of_lt srcPort.toNat_lt),
    destinationPort.trans (Nat.mod_eq_of_lt dstPort.toNat_lt), udpLength, ?_, data⟩
  · rw [one]
    rfl
  · rw [be16_congr (kept 4 2 (by omega)), total, Nat.mod_mod]
  · rw [stored, udpChecksumV6_ok checked, checksumWithPseudoV6,
      Nat.mod_eq_of_lt (complement_lt _)]
    rfl

/-! ### Headers from a template -/

/-- **A UDP header and its data**, read as words. -/
theorem drop_of_udpHeader {data : Bytes} {udpOff : Nat} (fits : udpOff + 8 ≤ data.length) :
    data.drop udpOff = encode 2 (be16 data udpOff) ++ encode 2 (be16 data (udpOff + 2))
      ++ encode 2 (be16 data (udpOff + 4)) ++ slice data (udpOff + 6) 2
      ++ data.drop (udpOff + 8) := by
  have word : ∀ {start : Nat}, start + 2 ≤ data.length →
      data.drop start = slice data start 2 ++ data.drop (start + 2) := by
    intro start inside
    rw [slice, ← List.drop_drop, List.take_append_drop]
  rw [word (show udpOff + 2 ≤ data.length by omega),
    word (show udpOff + 2 + 2 ≤ data.length by omega),
    word (show udpOff + 4 + 2 ≤ data.length by omega),
    word (show udpOff + 6 + 2 ≤ data.length by omega), encode_be16 (by omega),
    encode_be16 (by omega), encode_be16 (by omega)]
  simp only [List.append_assoc]

/-- The datagram that the stages leave to be summed. -/
theorem ReplyFields.datagram {size srcAt udpOff : Nat} {replySrc : Octets size}
    {replyPort : UInt16} {before after payload : Bytes}
    (fields : ReplyFields before after srcAt udpOff replySrc replyPort
      ((8 + payload.length) % 65536))
    (cleared : slice after (udpOff + 6) 2 = [0, 0]) (fits : udpOff + 8 ≤ before.length)
    (behind : before.drop (udpOff + 8) = payload) :
    after.drop udpOff = replyDatagram replyPort.toNat (be16 before udpOff) payload := by
  rw [drop_of_udpHeader (by rw [fields.length]; exact fits), fields.srcPort, fields.dstPort,
    fields.udpLength, fields.payload, cleared, behind, Nat.mod_mod]
  rfl

/-- **The checksum of a filled-in IPv4 template.** -/
theorem fillUdpReplyV4_checksum {pkt payload out : Bytes} {ihl totalLen : Nat}
    {replySrc : Ipv4Addr} {replyPort : UInt16} (header : 20 ≤ ihl) (fits : ihl + 8 ≤ pkt.length)
    (behind : pkt.drop (ihl + 8) = payload)
    (filled : fillUdpReplyV4 pkt ihl totalLen ((8 + payload.length) % 65536) replySrc replyPort
      = .ok out) :
    be16 out (ihl + 6) = complement (foldCarries (udpSumV4 replySrc.bytes (slice pkt 12 4)
      (replyDatagram replyPort.toNat (be16 pkt ihl) payload))) := by
  unfold fillUdpReplyV4 at filled
  dsimp only at filled
  have total : AgreeOff (wordAt 2) pkt (overwrite pkt 2 (encode 2 totalLen)) :=
    agreeOff_word (length_encode _ _) (by omega)
  generalize overwrite pkt 2 (encode 2 totalLen) = first at total filled
  have fits' : ihl + 8 ≤ first.length := by rwa [total.1]
  have kept : ∀ index, 12 ≤ index → index ∉ wordAt 2 := by
    rintro index low ⟨-, high⟩
    omega
  obtain ⟨fields, -, cleared⟩ := @replyFields_of_stages 4 12 ihl first replySrc replyPort
    ((8 + payload.length) % 65536) header fits'
  generalize replyUdpHeader (replyAddrs first 12 replySrc) ihl replyPort
    ((8 + payload.length) % 65536) = second at fields cleared filled
  obtain ⟨cksum, summed, done⟩ := Checked.bind_eq_ok.mp filled
  replace done := Except.ok.inj done
  have datagram := fields.datagram cleared fits'
    ((total.drop_eq fun index written => Nat.lt_of_lt_of_le written.2 (by omega)).trans behind)
  rw [datagram, fields.src, fields.dst, total.slice_eq fun index low _ => kept index low,
    total.be16_eq (kept _ (by omega)) (kept _ (by omega))] at summed
  have stored := @be16_overwrite second (ihl + 6) cksum (by rw [fields.length]; omega)
  have sized : (overwrite second (ihl + 6) (encode 2 cksum)).length = first.length :=
    (length_overwrite (by rw [length_encode, fields.length]; omega)).trans fields.length
  generalize overwrite second (ihl + 6) (encode 2 cksum) = third at done stored sized
  -- the header checksum is written before the UDP header
  have inside : 10 + ([0, 0] : Bytes).length ≤ third.length := by
    show 12 ≤ third.length
    omega
  have apart : 10 + ([0, 0] : Bytes).length ≤ ihl + 6 := by
    show 12 ≤ ihl + 6
    omega
  have inside' : ∀ number, 10 + (encode 2 number).length
      ≤ (overwrite third 10 [0, 0]).length := fun number => by
    rw [length_overwrite inside, length_encode]
    exact inside
  rw [← done, be16_overwrite_of_disjoint (inside' _) (Or.inr (by rw [length_encode]; exact apart)),
    be16_overwrite_of_disjoint inside (Or.inr apart), stored, udpChecksumV4_ok summed,
    checksumWithPseudoV4, Nat.mod_eq_of_lt (complement_lt _)]
  rfl

/-- **The checksum of a filled-in IPv6 template.** -/
theorem fillUdpReplyV6_checksum {pkt payload out : Bytes} {replySrc : Ipv6Addr}
    {replyPort : UInt16} (fits : 48 ≤ pkt.length) (behind : pkt.drop 48 = payload)
    (filled : fillUdpReplyV6 pkt ((8 + payload.length) % 65536) replySrc replyPort = .ok out) :
    be16 out 46 = complement (foldCarries (udpSumV6 replySrc.bytes (slice pkt 8 16)
      (replyDatagram replyPort.toNat (be16 pkt 40) payload))) := by
  unfold fillUdpReplyV6 at filled
  dsimp only at filled
  have total : AgreeOff (wordAt 4) pkt
      (overwrite pkt 4 (encode 2 ((8 + payload.length) % 65536))) :=
    agreeOff_word (length_encode _ _) (by omega)
  generalize overwrite pkt 4 (encode 2 ((8 + payload.length) % 65536)) = first at total filled
  have fits' : 40 + 8 ≤ first.length := by rwa [total.1]
  have kept : ∀ index, 8 ≤ index → index ∉ wordAt 4 := by
    rintro index low ⟨-, high⟩
    omega
  obtain ⟨fields, -, cleared⟩ := @replyFields_of_stages 16 8 40 first replySrc replyPort
    ((8 + payload.length) % 65536) (Nat.le_refl _) fits'
  generalize replyUdpHeader (replyAddrs first 8 replySrc) 40 replyPort
    ((8 + payload.length) % 65536) = second at fields cleared filled
  obtain ⟨cksum, summed, done⟩ := Checked.bind_eq_ok.mp filled
  replace done := Except.ok.inj done
  have datagram := fields.datagram cleared fits'
    ((total.drop_eq fun index written => Nat.lt_of_lt_of_le written.2 (by omega)).trans behind)
  rw [datagram, fields.src, fields.dst, total.slice_eq fun index low _ => kept index low,
    total.be16_eq (kept _ (by omega)) (kept _ (by omega))] at summed
  rw [← done, be16_overwrite (by rw [fields.length]; omega), udpChecksumV6_ok summed,
    checksumWithPseudoV6, Nat.mod_eq_of_lt (complement_lt _)]
  rfl

/-- **An IPv4 template with a whole header** and room for a UDP header. -/
def UsableV4 (template : Bytes) : Prop :=
  byteAt template 0 >>> 4 = 4 ∧ 20 ≤ headerLength template
    ∧ headerLength template + 8 ≤ template.length

/-- **An IPv6 template with a fixed header** and room for a UDP header. -/
def UsableV6 (template : Bytes) : Prop := byteAt template 0 >>> 4 = 6 ∧ 48 ≤ template.length

instance (template : Bytes) : Decidable (UsableV4 template) := by
  unfold UsableV4
  infer_instance

instance (template : Bytes) : Decidable (UsableV6 template) := by
  unfold UsableV6
  infer_instance

/-- **The reply of `build_udp_reply_v4_with_template`**, to the client and its port in the
template. -/
theorem buildUdpReplyV4WithTemplate_emitted {template payload pkt : Bytes} {replySrc : Ipv4Addr}
    {replyPort : UInt16} (version : byteAt template 0 >>> 4 = 4)
    (built : buildUdpReplyV4WithTemplate template replySrc replyPort payload = .ok (some pkt)) :
    UsableV4 template ∧ EmittedV4 pkt payload replySrc.bytes (slice template 12 4)
      replyPort.toNat (be16 template (headerLength template)) (headerLength template) := by
  unfold buildUdpReplyV4WithTemplate at built
  split at built
  · cases built
  rename_i long
  dsimp only at built
  split at built
  · cases built
  rename_i header
  obtain ⟨low, whole⟩ := not_or.mp header
  rw [Nat.not_lt] at low whole
  obtain ⟨totalLen, summed, later⟩ := Checked.bind_eq_ok.mp built
  obtain ⟨small, rfl⟩ := Checked.inBits_ok summed
  obtain ⟨out, filled, same⟩ := Checked.bind_eq_ok.mp later
  obtain rfl := Option.some.inj (Except.ok.inj same)
  have sized := @length_template template payload _ whole
  have fits : headerLength template + 8
      ≤ (template.take (headerLength template + 8) ++ payload).length := by omega
  have start : byteAt (template.take (headerLength template + 8) ++ payload) 0
      = byteAt template 0 := byteAt_template whole (by omega)
  have checksum := fillUdpReplyV4_checksum low fits (drop_template whole) filled
  rw [slice_template whole (by omega), be16_congr (slice_template whole (by omega))] at checksum
  obtain ⟨fields, agree, total, -, -⟩ := fillUdpReplyV4_spec _ _ replySrc replyPort
    (by rw [headerLength, start, ← headerLength]) low fits filled
  have outside : 0 ∉ replyTouchedV4 (headerLength template) := by
    rintro (⟨near, -⟩ | ⟨near, -⟩ | ⟨near, -⟩) <;> omega
  have one : byteAt out 0 = byteAt template 0 := (agree.byteAt_eq outside).trans start
  refine ⟨⟨version, low, whole⟩, ?_, ?_, fields.length.trans sized, ?_, fields.src,
    fields.dst.trans (slice_template whole (by omega)), fields.srcPort,
    fields.dstPort.trans (be16_congr (slice_template whole (by omega))), ?_, checksum,
    fields.payload.trans (drop_template whole)⟩
  · rw [one, version]
  · rw [headerLength, one, ← headerLength]
  · rw [total]
    exact Nat.mod_eq_of_lt small
  · rw [fields.udpLength, Nat.mod_mod]

/-- **The reply of `build_udp_reply_v6_with_template`**, to the client in the template and the port
at offset 40. -/
theorem buildUdpReplyV6WithTemplate_emitted {template payload pkt : Bytes} {replySrc : Ipv6Addr}
    {replyPort : UInt16} (version : byteAt template 0 >>> 4 = 6)
    (built : buildUdpReplyV6WithTemplate template replySrc replyPort payload = .ok (some pkt)) :
    UsableV6 template ∧ EmittedV6 pkt payload replySrc.bytes (slice template 8 16)
      replyPort.toNat (be16 template 40) := by
  unfold buildUdpReplyV6WithTemplate at built
  split at built
  · cases built
  rename_i long
  rw [Nat.not_lt] at long
  obtain ⟨out, filled, same⟩ := Checked.bind_eq_ok.mp built
  obtain rfl := Option.some.inj (Except.ok.inj same)
  have sized := @length_template template payload _ long
  have fits : 48 ≤ (template.take 48 ++ payload).length := by omega
  have checksum := fillUdpReplyV6_checksum fits (drop_template long) filled
  rw [slice_template long (by omega), be16_congr (slice_template long (by omega))] at checksum
  obtain ⟨fields, agree, total, -⟩ := fillUdpReplyV6_spec _ replySrc replyPort fits filled
  have outside : 0 ∉ replyTouchedV6 := by
    rintro (⟨near, -⟩ | ⟨near, -⟩) <;> omega
  have one : byteAt out 0 = byteAt template 0 :=
    (agree.byteAt_eq outside).trans (byteAt_template long (by omega))
  refine ⟨⟨version, long⟩, ?_, fields.length.trans sized, ?_, fields.src,
    fields.dst.trans (slice_template long (by omega)), fields.srcPort,
    fields.dstPort.trans (be16_congr (slice_template long (by omega))), ?_, checksum,
    fields.payload.trans (drop_template long)⟩
  · rw [one, version]
  · rw [total, Nat.mod_mod]
  · rw [fields.udpLength, Nat.mod_mod]

end RsTun.SystemNat
