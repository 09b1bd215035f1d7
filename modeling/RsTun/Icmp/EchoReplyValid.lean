/-
**Whether the reply of a flow is a complete Echo Reply.**

`build_echo_reply_packet` puts the header of the flow's first request, turned round, in front of
what came from upstream. It asks neither for the eight bytes of an ICMP header nor for a length that
fits the header's field, and it keeps the fragment flags of the request.

* `buildEchoReplyV4_eq`, `buildEchoReplyV6_eq` — the packet as a header and a message.
* `turned_spec` — the header: addresses and length are written, the rest is the template's.
* **`buildEchoReplyPacket_reply_iff`** — the result is a complete and valid Echo Reply if and only
  if the message has a whole ICMP header, its length fits, and the request was no fragment.
-/

import RsTun.Icmp.Forwarder
import RsTun.Packet.Fragment

namespace RsTun.Icmp

open Library Library.Bytes Library.OnesComplement Packet

/-! ### A header and what is behind it -/

section Parts

variable {front back : Bytes}

/-- **A packet with its header checksum**, when its header has the first byte and the flags of a
template: it splits where that of the template does. -/
theorem recomputed_spec {template : Bytes} {fields : Set Nat}
    (agree : AgreeOff fields (template.take (headerLength template)) front)
    (header : 20 ≤ headerLength template) (fits : headerLength template ≤ template.length)
    (first : 0 ∉ fields) (flags : ∀ index ∈ wordAt 6, index ∉ fields) :
    headerLength (recomputeIpv4Checksum (front ++ back)) = headerLength template
      ∧ (recomputeIpv4Checksum (front ++ back)).drop (headerLength template) = back
      ∧ flagsFrag (recomputeIpv4Checksum (front ++ back)) = flagsFrag template := by
  have size : front.length = headerLength template := agree.1.trans (List.length_take_of_le fits)
  have summed := agreeOff_recomputeIpv4Checksum (front ++ back)
  have touched : ∀ index : Nat, index ∈ {index : Nat | 10 ≤ index ∧ index < 12}
      ↔ 10 ≤ index ∧ index < 12 := fun index => Iff.rfl
  refine ⟨?_, ?_, ?_⟩
  · rw [headerLength_congr summed (by rw [touched]; omega), headerLength,
      byteAt_append_of_lt _ (by omega), agree.byteAt_eq first, byteAt_take (by omega)]
    rfl
  · rw [summed.drop_eq fun index inside => lt_of_lt_of_le inside.2 (by omega), List.drop_left' size]
  · have kept : slice (recomputeIpv4Checksum (front ++ back)) 6 2 = slice front 6 2 := by
      rw [summed.slice_eq fun index low high inside => by
          rw [touched] at inside
          omega,
        slice_append_of_le _ (by omega)]
    rw [flagsFrag, be16_congr kept, be16_congr (agree.slice_eq fun index low high =>
      flags index ⟨low, high⟩), be16_congr (slice_take (by omega)), flagsFrag]

end Parts

/-- Where the fields of an IP header are that a reply writes. -/
structure HeaderLayout where
  srcAt : Nat
  dstAt : Nat
  lenAt : Nat
  /-- the size of an address -/
  size : Nat

def ipv4Layout : HeaderLayout := ⟨12, 16, 2, 4⟩
def ipv6Layout : HeaderLayout := ⟨8, 24, 4, 16⟩

/-- The bytes that a reply writes. -/
def HeaderLayout.fields (layout : HeaderLayout) : Set Nat :=
  {index | layout.lenAt ≤ index ∧ index < layout.lenAt + 2
    ∨ layout.srcAt ≤ index ∧ index < layout.dstAt + layout.size}

/-- The first `off` bytes of a template with both addresses and the length written. -/
def turned (layout : HeaderLayout) (template : Bytes) (off : Nat) (src dst : Bytes)
    (length : Nat) : Bytes :=
  overwrite (overwrite (overwrite (template.take off) layout.srcAt src) layout.dstAt dst)
    layout.lenAt (encode 2 length)

/-- A header has the addresses and the length, and otherwise the bytes of the template. -/
structure Turned (layout : HeaderLayout) (template : Bytes) (off : Nat) (src dst : Bytes)
    (length : Nat) (header : Bytes) : Prop where
  length_eq : header.length = off
  src_eq : slice header layout.srcAt layout.size = src
  dst_eq : slice header layout.dstAt layout.size = dst
  len_eq : be16 header layout.lenAt = length % 65536
  agree : AgreeOff layout.fields (template.take off) header

/-- **The header of a reply.** -/
theorem turned_spec {layout : HeaderLayout} {template src dst : Bytes} {off : Nat} (length : Nat)
    (fits : off ≤ template.length) (srcSize : src.length = layout.size)
    (dstSize : dst.length = layout.size) (adjacent : layout.srcAt + layout.size = layout.dstAt)
    (inside : layout.dstAt + layout.size ≤ off) (before : layout.lenAt + 2 ≤ layout.srcAt) :
    Turned layout template off src dst length (turned layout template off src dst length) := by
  have whole : (template.take off).length = off := List.length_take_of_le fits
  have field := length_encode 2 length
  have fitsSrc : layout.srcAt + src.length ≤ (template.take off).length := by omega
  have one : (overwrite (template.take off) layout.srcAt src).length = off := by
    rw [length_overwrite fitsSrc, whole]
  have fitsDst : layout.dstAt + dst.length
      ≤ (overwrite (template.take off) layout.srcAt src).length := by omega
  have two : (overwrite (overwrite (template.take off) layout.srcAt src) layout.dstAt dst).length
      = off := by
    rw [length_overwrite fitsDst, one]
  have fitsLen : layout.lenAt + (encode 2 length).length
      ≤ (overwrite (overwrite (template.take off) layout.srcAt src) layout.dstAt dst).length := by
    omega
  refine ⟨by rw [turned, length_overwrite fitsLen, two], ?_, ?_, ?_, ?_⟩
  · have written := slice_overwrite_self fitsSrc
    rw [srcSize] at written
    rw [turned, slice_overwrite_of_disjoint fitsLen (Or.inr (by omega)),
      slice_overwrite_of_disjoint fitsDst (Or.inl (by omega)), written]
  · have written := slice_overwrite_self fitsDst
    rw [dstSize] at written
    rw [turned, slice_overwrite_of_disjoint fitsLen (Or.inr (by omega)), written]
  · rw [turned, be16_overwrite (by omega)]
  · have first : AgreeOff layout.fields _ _ := agreeOff_overwrite fitsSrc
      fun index low high => Or.inr ⟨low, by omega⟩
    have second : AgreeOff layout.fields _ _ := agreeOff_overwrite fitsDst
      fun index low high => Or.inr ⟨by omega, by omega⟩
    have third : AgreeOff layout.fields _ _ := agreeOff_overwrite fitsLen
      fun index low high => Or.inl ⟨low, by omega⟩
    exact (first.trans second).trans third

/-- **A packet with a turned header** that was changed outside the header's written fields. -/
structure Headed (layout : HeaderLayout) (template : Bytes) (off : Nat) (src dst : Bytes)
    (length : Nat) (touched : Set Nat) (pkt : Bytes) : Prop where
  src_eq : slice pkt layout.srcAt layout.size = src
  dst_eq : slice pkt layout.dstAt layout.size = dst
  len_eq : be16 pkt layout.lenAt = length % 65536
  kept : ∀ index < off, index ∉ layout.fields → index ∉ touched →
    byteAt pkt index = byteAt template index
  keptWord : ∀ start, start + 2 ≤ off → (∀ index ∈ wordAt start, index ∉ layout.fields ∪ touched) →
    be16 pkt start = be16 template start

theorem Turned.headed {layout : HeaderLayout} {template src dst front back pkt : Bytes}
    {off length : Nat} {touched : Set Nat}
    (header : Turned layout template off src dst length front)
    (agree : AgreeOff touched (front ++ back) pkt)
    (apart : ∀ index ∈ touched, index ∉ layout.fields)
    (adjacent : layout.srcAt + layout.size = layout.dstAt)
    (inside : layout.dstAt + layout.size ≤ off) (before : layout.lenAt + 2 ≤ layout.srcAt) :
    Headed layout template off src dst length touched pkt := by
  have long := header.length_eq
  -- a slice of the fields is that of the front
  have field : ∀ start size, start + size ≤ off →
      (∀ index, start ≤ index → index < start + size → index ∈ layout.fields) →
      slice pkt start size = slice front start size := by
    intro start size fits written
    rw [agree.slice_eq fun index low high touched => apart index touched (written index low high),
      slice_append_of_le _ (by omega)]
  refine ⟨?_, ?_, ?_, ?_, ?_⟩
  · rw [field _ _ (by omega) fun index low high => Or.inr ⟨low, by omega⟩, header.src_eq]
  · rw [field _ _ (by omega) fun index low high => Or.inr ⟨by omega, high⟩, header.dst_eq]
  · rw [be16_congr (field _ _ (by omega) fun index low high => Or.inl ⟨low, high⟩), header.len_eq]
  · intro index low unwritten untouched
    rw [agree.byteAt_eq untouched, byteAt_append_of_lt _ (by omega),
      header.agree.byteAt_eq unwritten, byteAt_take low]
  · intro start fits outside
    have same : slice pkt start 2 = slice front start 2 := by
      rw [agree.slice_eq fun index low high touched =>
        outside index ⟨low, high⟩ (Or.inr touched), slice_append_of_le _ (by omega)]
    rw [be16_congr same, be16_congr (header.agree.slice_eq fun index low high written =>
      outside index ⟨low, high⟩ (Or.inl written)), be16_congr (slice_take fits)]

/-! ### The packets -/

/-- The message as an Echo Reply over IPv4, with its checksum. -/
def answeredV4 (message : Bytes) : Bytes :=
  let cleared := overwrite message 0 [icmpv4EchoReply, 0, 0, 0]
  overwrite cleared 2 (encode 2 (internetChecksum cleared))

/-- The message as an Echo Reply over IPv6, without its checksum. -/
def answeredV6 (message : Bytes) : Bytes := overwrite message 0 [icmpv6EchoReply, 0]

section Packets

variable {template message : Bytes} {key : FlowKey}

/-- The zeros that the header is copied into. -/
theorem copyFromSlice_zeros {off size : Nat} (fits : off ≤ template.length) :
    (Checked.copyFromSlice (List.replicate (off + size) 0) 0 off (template.take off)
      : Checked Empty Bytes) = .ok (template.take off ++ List.replicate size 0) := by
  have front : (template.take off).length = off := List.length_take_of_le fits
  have zeros : (List.replicate off (0 : UInt8)).length = off := List.length_replicate
  rw [List.replicate_add, Checked.copyFromSlice_front (by omega) (by omega),
    overwrite_whole (by rw [front, zeros])]

/-- **The three copies into the header**, in front of anything. -/
theorem copies_turned {Result : Type} {layout : HeaderLayout} {off : Nat} {src dst : Bytes}
    (length : Nat) (back : Bytes) (next : Bytes → Checked Empty Result)
    (fits : off ≤ template.length) (srcSize : src.length = layout.size)
    (dstSize : dst.length = layout.size) (adjacent : layout.srcAt + layout.size = layout.dstAt)
    (inside : layout.dstAt + layout.size ≤ off) (before : layout.lenAt + 2 ≤ layout.srcAt) :
    (Except.bind (Checked.copyFromSlice (template.take off ++ back) layout.srcAt
        (layout.srcAt + layout.size) src) fun pkt =>
      Except.bind (Checked.copyFromSlice pkt layout.dstAt (layout.dstAt + layout.size) dst)
        fun pkt => Except.bind
          (Checked.copyFromSlice pkt layout.lenAt (layout.lenAt + 2) (encode 2 length)) next)
      = next (turned layout template off src dst length ++ back) := by
  have whole : (template.take off).length = off := List.length_take_of_le fits
  have field := length_encode 2 length
  have one : (overwrite (template.take off) layout.srcAt src).length = off := by
    rw [length_overwrite (by omega), whole]
  have two : (overwrite (overwrite (template.take off) layout.srcAt src) layout.dstAt dst).length
      = off := by
    rw [length_overwrite (by omega), one]
  rw [Checked.copyFromSlice_front (by omega) (by omega), Checked.ok_bind,
    Checked.copyFromSlice_front (by omega) (by omega), Checked.ok_bind,
    Checked.copyFromSlice_front (by omega) (by omega), Checked.ok_bind, turned]

/-- **`build_echo_reply_v4`**, for a message of at least four bytes. -/
theorem buildEchoReplyV4_eq {src dst : Ipv4Addr} (header : 20 ≤ headerLength template)
    (fits : headerLength template ≤ template.length) (sameSrc : key.src = .v4 src)
    (sameDst : key.dst = .v4 dst) (long : 4 ≤ message.length) :
    buildEchoReplyV4 template key message = .ok (some (recomputeIpv4Checksum
      (turned ipv4Layout template (headerLength template) dst.bytes src.bytes
        (headerLength template + message.length) ++ answeredV4 message))) := by
  have present : message ≠ [] := List.ne_nil_of_length_pos (by omega)
  have plain : ¬ (template.length < 20 ∨ message = []) := not_or.mpr ⟨by omega, present⟩
  have size := (@turned_spec ipv4Layout template dst.bytes src.bytes (headerLength template)
    (headerLength template + message.length) fits dst.length_eq src.length_eq rfl header
    (by decide)).length_eq
  have zeros : (List.replicate message.length (0 : UInt8)).length = message.length :=
    List.length_replicate
  have typed : (overwrite message 0 [icmpv4EchoReply, 0, 0, 0]).length = message.length :=
    length_overwrite (by simpa using long)
  simp only [buildEchoReplyV4, if_neg plain, if_neg (not_or.mpr ⟨Nat.not_lt.mpr header,
    Nat.not_lt.mpr fits⟩), sameDst, sameSrc, bind, copyFromSlice_zeros fits, Checked.ok_bind]
  refine (@copies_turned template _ ipv4Layout _ _ _ _ _ _ fits dst.length_eq src.length_eq rfl
    header (by decide)).trans ?_
  generalize turned ipv4Layout template (headerLength template) dst.bytes src.bytes
    (headerLength template + message.length) = front at size ⊢
  have copied := @Checked.copyFromSlice_back Empty message 0
    (headerLength template + message.length) front (List.replicate message.length 0)
    (headerLength template) size rfl (by omega)
  have assigned := @Checked.copyFromSlice_back Empty [icmpv4EchoReply, 0, 0, 0] 0
    (headerLength template + 4) front message (headerLength template) size rfl (by omega)
  rw [copied, Checked.ok_bind, overwrite_whole zeros.symm, assigned, Checked.ok_bind,
    List.drop_left' size]
  have summed := @Checked.copyFromSlice_back Empty
    (encode 2 (internetChecksum (overwrite message 0 [icmpv4EchoReply, 0, 0, 0]))) 2
    (headerLength template + 4) front (overwrite message 0 [icmpv4EchoReply, 0, 0, 0])
    (headerLength template + 2) (by omega) (by rw [length_encode]) (by omega)
  rw [summed]
  rfl

/-- **`build_echo_reply_v6`**, for a message of at least two bytes. -/
theorem buildEchoReplyV6_eq {src dst : Ipv6Addr} (fits : 40 ≤ template.length)
    (sameSrc : key.src = .v6 src) (sameDst : key.dst = .v6 dst) (long : 2 ≤ message.length) :
    buildEchoReplyV6 template key message = .ok (some (recomputeIcmpv6Checksum
      (turned ipv6Layout template 40 dst.bytes src.bytes message.length
        ++ answeredV6 message))) := by
  have present : message ≠ [] := List.ne_nil_of_length_pos (by omega)
  have plain : ¬ (template.length < 40 ∨ message = []) := not_or.mpr ⟨by omega, present⟩
  have size := (@turned_spec ipv6Layout template dst.bytes src.bytes 40 message.length fits
    dst.length_eq src.length_eq rfl (by decide) (by decide)).length_eq
  have zeros : (List.replicate message.length (0 : UInt8)).length = message.length :=
    List.length_replicate
  simp only [buildEchoReplyV6, if_neg plain, sameDst, sameSrc, bind, copyFromSlice_zeros fits,
    Checked.ok_bind]
  refine (@copies_turned template _ ipv6Layout _ _ _ _ _ _ fits dst.length_eq src.length_eq rfl
    (by decide) (by decide)).trans ?_
  generalize turned ipv6Layout template 40 dst.bytes src.bytes message.length = front at size ⊢
  have copied := @Checked.copyFromSlice_back Empty message 0 (40 + message.length) front
    (List.replicate message.length 0) 40 size rfl (by omega)
  have assigned := @Checked.copyFromSlice_back Empty [icmpv6EchoReply, 0] 0 42 front message 40
    size rfl (by omega)
  rw [copied, Checked.ok_bind, overwrite_whole zeros.symm, assigned]
  rfl

/-! ### What a reply has to be -/

/-- A complete ICMP Echo Reply over IPv4 from the first address to the second: its header is as long
as it says and holds the eight bytes of an ICMP header behind it, the packet is as long as it says
and no fragment, and both checksums are valid. -/
structure EchoReplyV4 (src dst : Ipv4Addr) (pkt : Bytes) : Prop where
  version : byteAt pkt 0 >>> 4 = 4
  header : 20 ≤ headerLength pkt
  complete : headerLength pkt + 8 ≤ pkt.length
  totalLength : be16 pkt 2 = pkt.length
  notFragment : flagsFrag pkt &&& 0x3fff = 0
  protocol : byteAt pkt 9 = ipprotoIcmp
  source : slice pkt 12 4 = src.bytes
  destination : slice pkt 16 4 = dst.bytes
  type : byteAt pkt (headerLength pkt) = icmpv4EchoReply
  code : byteAt pkt (headerLength pkt + 1) = 0
  headerChecksum : Ipv4ChecksumValid pkt
  icmpChecksum : Verifies (wordSum (pkt.drop (headerLength pkt)))

/-- A complete ICMPv6 Echo Reply from the first address to the second, without extension headers. -/
structure EchoReplyV6 (src dst : Ipv6Addr) (pkt : Bytes) : Prop where
  version : byteAt pkt 0 >>> 4 = 6
  complete : 48 ≤ pkt.length
  payloadLength : be16 pkt 4 = pkt.length - 40
  nextHeader : byteAt pkt 6 = ipprotoIcmpv6
  source : slice pkt 8 16 = src.bytes
  destination : slice pkt 24 16 = dst.bytes
  type : byteAt pkt 40 = icmpv6EchoReply
  code : byteAt pkt 41 = 0
  icmpChecksum : TransportChecksumValidV6 ipprotoIcmpv6 pkt 40

/-- A complete Echo Reply of a flow: from its destination to its source. -/
def EchoReply (key : FlowKey) (pkt : Bytes) : Prop :=
  match key.dst, key.src with
  | .v4 dst, .v4 src => EchoReplyV4 dst src pkt
  | .v6 dst, .v6 src => EchoReplyV6 dst src pkt
  | _, _ => False

/-- **The result is sound**: no panic, and if there is a packet, it is a complete Echo Reply. -/
def SoundReply (key : FlowKey) (result : Checked Empty (Option Bytes)) : Prop :=
  ∃ built, result = .ok built ∧ ∀ pkt, built = some pkt → EchoReply key pkt

/-- The message has the eight bytes of an ICMP header, its packet is no longer than the length field
of its header can say, and the template is of no fragment. -/
def ReplyFits (template message : Bytes) (isV6 : Bool) : Prop :=
  8 ≤ message.length
    ∧ if isV6 then message.length ≤ 65535
      else headerLength template + message.length ≤ 65535 ∧ flagsFrag template &&& 0x3fff = 0

/-! ### Over IPv4 -/

/-- The message as a reply: its length, type, code and checksum. -/
theorem answeredV4_spec (long : 4 ≤ message.length) :
    (answeredV4 message).length = message.length
      ∧ byteAt (answeredV4 message) 0 = icmpv4EchoReply ∧ byteAt (answeredV4 message) 1 = 0
      ∧ Verifies (wordSum (answeredV4 message)) := by
  obtain ⟨a, b, c, d, rest, rfl⟩ : ∃ a b c d rest, message = a :: b :: c :: d :: rest := by
    match message, long with
    | a :: b :: c :: d :: rest, _ => exact ⟨a, b, c, d, rest, rfl⟩
  have verified := @verifies_overwrite_of_cleared (icmpv4EchoReply :: 0 :: 0 :: 0 :: rest) 2 0 rfl
    (by simp) rfl
  rw [Nat.zero_add, Nat.zero_add] at verified
  simp only [answeredV4, overwrite_cons_zero, overwrite_nil, internetChecksum]
  refine ⟨?_, ?_, ?_, verified⟩
  · rw [length_overwrite (by rw [length_encode]; simp)]
    rfl
  · rfl
  · rfl

/-- **A reply over IPv4** is sound exactly when its message is long enough, its length fits and the
request was no fragment. -/
theorem echoReplyV4_iff (src dst : Ipv4Addr) (header : 20 ≤ headerLength template)
    (fits : headerLength template ≤ template.length) (version : byteAt template 0 >>> 4 = 4)
    (protocol : byteAt template 9 = ipprotoIcmp) (long : 4 ≤ message.length) :
    EchoReplyV4 src dst (recomputeIpv4Checksum
        (turned ipv4Layout template (headerLength template) src.bytes dst.bytes
          (headerLength template + message.length) ++ answeredV4 message))
      ↔ ReplyFits template message false := by
  have valid := @turned_spec ipv4Layout template src.bytes dst.bytes (headerLength template)
    (headerLength template + message.length) fits src.length_eq dst.length_eq rfl header (by decide)
  have size := valid.length_eq
  obtain ⟨same, type, code, verified⟩ := answeredV4_spec long
  generalize turned ipv4Layout template (headerLength template) src.bytes dst.bytes
    (headerLength template + message.length) = front at valid size ⊢
  have agree := agreeOff_recomputeIpv4Checksum (front ++ answeredV4 message)
  have fields : ∀ index, index ∈ ipv4Layout.fields
      ↔ 2 ≤ index ∧ index < 4 ∨ 12 ≤ index ∧ index < 20 := fun index => Iff.rfl
  have touched : ∀ index : Nat, index ∈ {index : Nat | 10 ≤ index ∧ index < 12}
      ↔ 10 ≤ index ∧ index < 12 := fun index => Iff.rfl
  have apart : ∀ index ∈ {index : Nat | 10 ≤ index ∧ index < 12}, index ∉ ipv4Layout.fields := by
    intro index inside
    rw [touched] at inside
    rw [fields]
    omega
  have headed := valid.headed agree apart rfl header (by decide)
  obtain ⟨ihl', back, flags⟩ := @recomputed_spec front (answeredV4 message) template
    ipv4Layout.fields valid.agree header fits (by rw [fields]; omega) (by
      rintro index ⟨low, high⟩
      rw [fields]
      omega)
  -- before the checksum is computed, the header is as long as that of the template, too
  have ihl : headerLength (front ++ answeredV4 message) = headerLength template := by
    rw [← ihl', headerLength_congr agree (by rw [touched]; omega)]
  have whole : (front ++ answeredV4 message).length
      = headerLength template + message.length := by
    rw [List.length_append, size, same]
  have whole' := agree.1.trans whole
  have behind : ∀ index, byteAt (recomputeIpv4Checksum (front ++ answeredV4 message))
      (headerLength template + index) = byteAt (answeredV4 message) index := by
    intro index
    rw [← byteAt_drop, back]
  have total := headed.len_eq
  constructor
  · intro reply
    have complete := reply.complete
    have stated := reply.totalLength
    have unfragmented := reply.notFragment
    rw [ihl', whole'] at complete
    rw [whole'] at stated
    rw [flags] at unfragmented
    have bound := be16_lt (recomputeIpv4Checksum (front ++ answeredV4 message)) 2
    rw [stated] at bound
    exact ⟨by omega, by omega, unfragmented⟩
  · rintro ⟨enough, short, unfragmented⟩
    refine ⟨?_, ?_, ?_, ?_, ?_, ?_, headed.src_eq, headed.dst_eq, ?_, ?_, ?_, ?_⟩
    · rw [headed.kept 0 (by omega) (by rw [fields]; omega) (by rw [touched]; omega), version]
    · rw [ihl']
      exact header
    · rw [ihl', whole']
      omega
    · rw [whole']
      exact total.trans (Nat.mod_eq_of_lt (by omega))
    · rw [flags, unfragmented]
    · rw [headed.kept 9 (by omega) (by rw [fields]; omega) (by rw [touched]; omega), protocol]
    · rw [ihl', ← type, ← behind 0, Nat.add_zero]
    · rw [ihl', behind 1, code]
    · exact ipv4ChecksumValid_recompute (by rw [ihl]; exact header) (by rw [ihl, whole]; omega)
    · rw [ihl', back]
      exact verified

/-! ### Over IPv6 -/

/-- A recomputed ICMPv6 checksum is valid. -/
theorem icmpv6ChecksumValid_recompute {pkt : Bytes} (long : 48 ≤ pkt.length) :
    TransportChecksumValidV6 ipprotoIcmpv6 (recomputeIcmpv6Checksum pkt) 40 := by
  have fits : 42 + ([0, 0] : Bytes).length ≤ pkt.length := by
    show 44 ≤ pkt.length
    omega
  have src : slice (overwrite pkt 42 [0, 0]) 8 16 = slice pkt 8 16 :=
    slice_overwrite_of_disjoint fits (Or.inl (by decide))
  have dst : slice (overwrite pkt 42 [0, 0]) 24 16 = slice pkt 24 16 :=
    slice_overwrite_of_disjoint fits (Or.inl (by decide))
  have stored := @transportChecksumValidV6_store (overwrite pkt 42 [0, 0]) 40 2 ipprotoIcmpv6
    (by decide) rfl (by rw [length_overwrite fits]; omega) (slice_overwrite_self fits)
  rw [src, dst] at stored
  rw [recomputeIcmpv6Checksum, if_neg (by omega)]
  exact stored

/-- **A reply over IPv6** is sound exactly when its message is long enough and its length fits. -/
theorem echoReplyV6_iff (src dst : Ipv6Addr) (fits : 40 ≤ template.length)
    (version : byteAt template 0 >>> 4 = 6) (next : byteAt template 6 = ipprotoIcmpv6)
    (long : 2 ≤ message.length) :
    EchoReplyV6 src dst (recomputeIcmpv6Checksum
        (turned ipv6Layout template 40 src.bytes dst.bytes message.length ++ answeredV6 message))
      ↔ ReplyFits template message true := by
  have valid := @turned_spec ipv6Layout template src.bytes dst.bytes 40 message.length fits
    src.length_eq dst.length_eq rfl (by decide) (by decide)
  have size := valid.length_eq
  generalize turned ipv6Layout template 40 src.bytes dst.bytes message.length = front
    at valid size ⊢
  obtain ⟨a, b, rest, rfl⟩ : ∃ a b rest, message = a :: b :: rest := by
    match message, long with
    | a :: b :: rest, _ => exact ⟨a, b, rest, rfl⟩
  have answered : answeredV6 (a :: b :: rest) = icmpv6EchoReply :: 0 :: rest := by
    simp only [answeredV6, overwrite_cons_zero, overwrite_nil]
  rw [answered]
  have agree := agreeOff_recomputeIcmpv6Checksum (front ++ icmpv6EchoReply :: 0 :: rest)
  have fields : ∀ index, index ∈ ipv6Layout.fields
      ↔ 4 ≤ index ∧ index < 6 ∨ 8 ≤ index ∧ index < 40 := fun index => Iff.rfl
  have touched : ∀ index, index ∈ wordAt 42 ↔ 42 ≤ index ∧ index < 44 := fun index => Iff.rfl
  have apart : ∀ index ∈ wordAt 42, index ∉ ipv6Layout.fields := by
    intro index inside
    rw [touched] at inside
    rw [fields]
    omega
  have headed := valid.headed agree apart rfl (by decide) (by decide)
  have whole : (front ++ icmpv6EchoReply :: 0 :: rest).length
      = 40 + (a :: b :: rest).length := by
    rw [List.length_append, size]
    rfl
  have whole' := agree.1.trans whole
  have behind : ∀ index < 2, byteAt (recomputeIcmpv6Checksum
      (front ++ icmpv6EchoReply :: 0 :: rest)) (40 + index)
      = byteAt (icmpv6EchoReply :: 0 :: rest) index := by
    intro index low
    rw [agree.byteAt_eq (by rw [touched]; omega), ← byteAt_drop, List.drop_left' size]
  have total := headed.len_eq
  constructor
  · intro reply
    have complete := reply.complete
    have stated := reply.payloadLength
    rw [whole'] at complete
    rw [whole', Nat.add_sub_cancel_left] at stated
    have bound := be16_lt (recomputeIcmpv6Checksum (front ++ icmpv6EchoReply :: 0 :: rest)) 4
    rw [stated] at bound
    exact ⟨by omega, Nat.lt_succ_iff.mp bound⟩
  · rintro ⟨enough, short⟩
    have short : (a :: b :: rest).length ≤ 65535 := short
    refine ⟨?_, ?_, ?_, ?_, headed.src_eq, headed.dst_eq, behind 0 (by decide),
      behind 1 (by decide), icmpv6ChecksumValid_recompute (by rw [whole]; omega)⟩
    · rw [headed.kept 0 (by decide) (by rw [fields]; omega) (by rw [touched]; omega), version]
    · rw [whole']
      omega
    · rw [whole', Nat.add_sub_cancel_left]
      exact total.trans (Nat.mod_eq_of_lt (by omega))
    · rw [headed.kept 6 (by decide) (by rw [fields]; omega) (by rw [touched]; omega), next]

end Packets

/-! ### The replies to accepted requests -/

/-- An accepted request over IPv4. -/
theorem handleV4_eq_some {raw : Bytes} {request : EchoRequest}
    (accepted : handleV4 raw = some request) :
    20 ≤ headerLength raw ∧ headerLength raw + 8 ≤ raw.length ∧ byteAt raw 9 = ipprotoIcmp
      ∧ request.template = raw ∧ request.isV6 = false
      ∧ request.key = ⟨.v4 (Octets.ofSlice 4 raw 12), .v4 (Octets.ofSlice 4 raw 16),
        .ofNat (be16 raw (headerLength raw + 4))⟩ := by
  unfold handleV4 at accepted
  dsimp only at accepted
  split at accepted
  case isTrue => cases accepted
  case isFalse =>
    split at accepted
    case isTrue => cases accepted
    case isFalse whole =>
      split at accepted
      case isTrue => cases accepted
      case isFalse fields =>
        cases accepted
        exact ⟨by omega, by omega, not_not.mp (not_or.mp fields).1, rfl, rfl, rfl⟩

/-- An accepted request over IPv6. -/
theorem handleV6_eq_some {raw : Bytes} {request : EchoRequest}
    (accepted : handleV6 raw = some request) :
    48 ≤ raw.length ∧ byteAt raw 6 = ipprotoIcmpv6
      ∧ request.template = raw ∧ request.isV6 = true
      ∧ request.key = ⟨.v6 (Octets.ofSlice 16 raw 8), .v6 (Octets.ofSlice 16 raw 24),
        .ofNat (be16 raw 44)⟩ := by
  unfold handleV6 at accepted
  split at accepted
  case isTrue => cases accepted
  case isFalse whole =>
    split at accepted
    case isTrue => cases accepted
    case isFalse fields =>
      cases accepted
      exact ⟨by omega, not_not.mp (not_or.mp fields).1, rfl, rfl, rfl⟩

/-- A call that panics is not sound. -/
theorem not_soundReply_of_panics {key : FlowKey} {result : Checked Empty (Option Bytes)}
    (panics : result = .error .panicked) : ¬ SoundReply key result := by
  rintro ⟨built, returned, -⟩
  rw [panics] at returned
  cases returned

/-- A call that returns a packet is sound when the packet is an Echo Reply. -/
theorem soundReply_some_iff {key : FlowKey} {result : Checked Empty (Option Bytes)} {pkt : Bytes}
    (returned : result = .ok (some pkt)) : SoundReply key result ↔ EchoReply key pkt := by
  constructor
  · rintro ⟨built, same, replies⟩
    cases returned.symm.trans same
    exact replies pkt rfl
  · intro reply
    exact ⟨some pkt, returned, fun other same => Option.some.inj same ▸ reply⟩

/-- **The reply to an accepted request** is sound for a message from upstream if and only if the
message has a whole ICMP header, its length fits the header's field, and, over IPv4, the request was
no fragment. -/
theorem buildEchoReplyPacket_reply_iff {raw message : Bytes} {request : EchoRequest}
    (accepted : handlePacket raw = some request) (present : message ≠ []) :
    SoundReply request.key
        (buildEchoReplyPacket request.template request.key message request.isV6)
      ↔ ReplyFits raw message request.isV6 := by
  unfold handlePacket at accepted
  split at accepted
  case isTrue => cases accepted
  case isFalse =>
    split at accepted
    case isTrue version =>
      obtain ⟨header, fits, protocol, template, family, key⟩ := handleV4_eq_some accepted
      rw [template, family, key]
      by_cases long : 4 ≤ message.length
      · have built := @buildEchoReplyV4_eq raw message request.key _ _ header (by omega)
          (by rw [key]) (by rw [key]) long
        rw [key] at built
        rw [buildEchoReplyPacket, if_neg Bool.false_ne_true, soundReply_some_iff built]
        exact echoReplyV4_iff _ _ header (by omega) version protocol long
      · have usable : Usable raw request.key false := by
          rw [key]
          exact ⟨header, by omega, ⟨_, rfl⟩, _, rfl⟩
        have panics := (buildEchoReplyV4_spec usable present).1 (by omega)
        rw [key] at panics
        refine iff_of_false (not_soundReply_of_panics panics) fun answerable => ?_
        have enough := answerable.1
        omega
    case isFalse =>
      split at accepted
      case isFalse => cases accepted
      case isTrue version =>
        obtain ⟨fits, next, template, family, key⟩ := handleV6_eq_some accepted
        rw [template, family, key]
        by_cases long : 2 ≤ message.length
        · have built := @buildEchoReplyV6_eq raw message request.key _ _ (by omega)
            (by rw [key]) (by rw [key]) long
          rw [key] at built
          rw [buildEchoReplyPacket, if_pos rfl, soundReply_some_iff built]
          exact echoReplyV6_iff _ _ (by omega) version next long
        · have usable : Usable raw request.key true := by
            rw [key]
            exact ⟨by omega, ⟨_, rfl⟩, _, rfl⟩
          have panics := (buildEchoReplyV6_spec usable present).1 (by omega)
          rw [key] at panics
          refine iff_of_false (not_soundReply_of_panics panics) fun answerable => ?_
          have enough := answerable.1
          omega

/-- An Echo Request from 198.18.0.2 to 8.8.8.8 without data. -/
def wholeRequest : Bytes :=
  [0x45, 0, 0, 28, 0, 7, 0, 0, 64, 1, 0, 0, 198, 18, 0, 2, 8, 8, 8, 8, 8, 0, 0, 0, 0, 7, 0, 1]

/-- What `handle_packet` makes of it. -/
def wholeRequestParsed : EchoRequest where
  key := ⟨.v4 (.new 198 18 0 2), .v4 (.new 8 8 8 8), 7⟩
  payload := [8, 0, 0, 0, 0, 7, 0, 1]
  template := wholeRequest
  isV6 := false

theorem buildEchoReplyPacket_reply_iff_whole :
    SoundReply wholeRequestParsed.key (buildEchoReplyPacket wholeRequest wholeRequestParsed.key
      [0, 0, 0, 0, 0, 7, 0, 1] false) :=
  (@buildEchoReplyPacket_reply_iff wholeRequest [0, 0, 0, 0, 0, 7, 0, 1] wholeRequestParsed
    (by decide) (by decide)).mpr ⟨by decide, by decide, by decide⟩

/-- The first fragment of a longer request. -/
def begunRequest : Bytes :=
  [0x45, 0, 0, 28, 0, 7, 0x20, 0, 64, 1, 0, 0, 198, 18, 0, 2, 8, 8, 8, 8, 8, 0, 0, 0, 0, 7, 0, 1]

/-- What is built behind it for an Echo Reply of eight bytes: the first fragment of a longer one. -/
def begunReply : Bytes :=
  [0x45, 0, 0, 28, 0, 7, 0x20, 0, 64, 1, 132, 182, 8, 8, 8, 8, 198, 18, 0, 2,
    0, 0, 255, 247, 0, 7, 0, 1]

/-- **Three bytes from upstream** make the task of the flow panic; and behind a first request with
More Fragments set, a whole Echo Reply comes back as a fragment. -/
theorem short_message_panics :
    handlePacket wholeRequest = some wholeRequestParsed
      ∧ buildEchoReplyPacket wholeRequest wholeRequestParsed.key [0, 0, 0] false
        = .error .panicked
      ∧ handlePacket begunRequest = some { wholeRequestParsed with template := begunRequest }
      ∧ buildEchoReplyPacket begunRequest wholeRequestParsed.key [0, 0, 0, 0, 0, 7, 0, 1] false
        = .ok (some begunReply)
      ∧ ¬ SoundReply wholeRequestParsed.key
        (buildEchoReplyPacket begunRequest wholeRequestParsed.key [0, 0, 0, 0, 0, 7, 0, 1] false)
      := by
  have built : buildEchoReplyPacket begunRequest wholeRequestParsed.key [0, 0, 0, 0, 0, 7, 0, 1]
      false = .ok (some begunReply) := by decide
  refine ⟨by decide, by decide, by decide, built, fun sound => ?_⟩
  have reply : EchoReplyV4 (.new 8 8 8 8) (.new 198 18 0 2) begunReply :=
    (soundReply_some_iff built).mp sound
  exact absurd reply.notFragment (by decide)

end RsTun.Icmp
