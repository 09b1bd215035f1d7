/-
**The lengths of UDP replies.**

A reply channel accepts payloads of any length, and the builders state a length in 16 bits: they
truncate that of the datagram, and add the header of an IPv4 packet to what is left.

* `EmittedV4.lengthsMatch_iff`, `EmittedV6.lengthsMatch_iff` — an emitted packet states its own
  lengths exactly when they fit its fields.
* **`reply_lengths_iff`** — each builder, and the reply task that uses both of them, returns nothing
  or a packet with its own lengths **exactly** when the length of the reply fits.
* `large_replies_break` — replies of 65508 and of 65528 bytes.
-/

import RsTun.SystemNat.EmittedReply
import RsTun.SystemNat.UdpRoundTrip

namespace RsTun.SystemNat

open Library Library.Bytes Library.OnesComplement Packet

/-- **A packet that states its own lengths**: in the IP header, and in the UDP header behind it. -/
def LengthsMatch (pkt : Bytes) : Prop :=
  if byteAt pkt 0 >>> 4 = 4 then
    be16 pkt 2 = pkt.length ∧ headerLength pkt + be16 pkt (headerLength pkt + 4) = pkt.length
  else 40 + be16 pkt 4 = pkt.length ∧ 40 + be16 pkt 44 = pkt.length

instance (pkt : Bytes) : Decidable (LengthsMatch pkt) := by
  unfold LengthsMatch
  infer_instance

/-- A call that does not panic, and returns nothing or a packet with its own lengths. -/
def LengthSafe (result : Checked Empty (Option Bytes)) : Prop :=
  result = .ok none ∨ ∃ pkt, result = .ok (some pkt) ∧ LengthsMatch pkt

/-- The lengths of a reply that is built anew fit. -/
def PlainFits (payload : Bytes) : SocketAddr → SocketAddr → Prop
  | .v4 _ _, .v4 _ _ => 28 + payload.length ≤ 65535
  | .v6 _ _ _ _, .v6 _ _ _ _ => 8 + payload.length ≤ 65535
  | _, _ => True

/-- The lengths of a reply that is built from the template fit, if the template is usable. -/
def TemplateFits (template payload : Bytes) : SocketAddr → SocketAddr → Prop
  | .v4 _ _, .v4 _ _ => UsableV4 template → headerLength template + 8 + payload.length ≤ 65535
  | .v6 _ _ _ _, .v6 _ _ _ _ => UsableV6 template → 8 + payload.length ≤ 65535
  | _, _ => True

/-- The lengths of the packet that the reply task builds fit. -/
def TaskFits (template payload : Bytes) : SocketAddr → SocketAddr → Prop
  | .v4 _ _, .v4 _ _ =>
      (if UsableV4 template then headerLength template else 20) + 8 + payload.length ≤ 65535
  | .v6 _ _ _ _, .v6 _ _ _ _ => 8 + payload.length ≤ 65535
  | _, _ => True

/-! ### An emitted packet -/

section Emitted

variable {pkt payload src dst : Bytes} {srcPort dstPort ihl : Nat}

/-- **An emitted IPv4 packet states its own lengths** exactly when they fit. -/
theorem EmittedV4.lengthsMatch_iff
    (emitted : EmittedV4 pkt payload src dst srcPort dstPort ihl) :
    LengthsMatch pkt ↔ ihl + 8 + payload.length ≤ 65535 := by
  have bound := be16_lt pkt 2
  unfold LengthsMatch
  rw [if_pos emitted.version, emitted.header, emitted.totalLength, emitted.udpLength,
    emitted.length]
  rw [emitted.totalLength] at bound
  omega

/-- **An emitted IPv6 packet states its own lengths** exactly when they fit. -/
theorem EmittedV6.lengthsMatch_iff (emitted : EmittedV6 pkt payload src dst srcPort dstPort) :
    LengthsMatch pkt ↔ 8 + payload.length ≤ 65535 := by
  have other : byteAt pkt 0 >>> 4 ≠ 4 := by
    rw [emitted.version]
    decide
  unfold LengthsMatch
  rw [if_neg other, emitted.payloadLength, emitted.udpLength, emitted.length]
  omega

end Emitted

/-! ### The builders -/

/-- A call that returns a packet whenever its lengths fit, and never nothing. -/
theorem lengthSafe_iff {result : Checked Empty (Option Bytes)} {Fits : Prop}
    (something : result ≠ .ok none)
    (emitted : ∀ pkt, result = .ok (some pkt) → (LengthsMatch pkt ↔ Fits))
    (returns : Fits → ∃ pkt, result = .ok (some pkt)) : LengthSafe result ↔ Fits := by
  constructor
  · rintro (nothing | ⟨pkt, built, lengths⟩)
    · exact absurd nothing something
    · exact (emitted pkt built).mp lengths
  · intro fits
    obtain ⟨pkt, built⟩ := returns fits
    exact Or.inr ⟨pkt, built, (emitted pkt built).mpr fits⟩

/-- A sequence that ends with a packet does not return nothing. -/
theorem bind_some_ne_none {Value : Type} {call : Checked Empty Value}
    {next : Value → Checked Empty (Option Bytes)} (ends : ∀ value, next value ≠ .ok none) :
    Except.bind call next ≠ .ok none := by
  intro nothing
  obtain ⟨value, -, none⟩ := Checked.bind_eq_ok.mp nothing
  exact ends value none

section Builders

variable {payload template : Bytes}

/-- Between addresses of one family, a packet is returned. -/
theorem plain_ne_none {src dst : SocketAddr} (same : SameFamily src dst) :
    buildUdpReplyPacket src dst payload ≠ .ok none := by
  cases src <;> cases dst
  case v4.v4 => exact bind_some_ne_none fun _ => bind_some_ne_none fun _ => nofun
  case v6.v6 =>
    unfold buildUdpReplyPacket buildUdpReplyV6
    exact bind_some_ne_none fun _ => nofun
  case v4.v6 => exact absurd same id
  case v6.v4 => exact absurd same id

/-- **`build_udp_reply_v4`.** -/
theorem lengthSafe_plain_v4 (src dst : Ipv4Addr) (srcPort dstPort : UInt16) :
    LengthSafe (buildUdpReplyV4 src srcPort dst dstPort payload)
      ↔ 28 + payload.length ≤ 65535 := by
  have same : SameFamily (.v4 src srcPort) (.v4 dst dstPort) := trivial
  have something := @plain_ne_none payload _ _ same
  refine lengthSafe_iff something (fun pkt built => ?_) fun fits => ?_
  · exact (buildUdpReplyV4_emitted built).lengthsMatch_iff
  · have total : Checked.inBits 16 (20 + (8 + payload.length) % 65536)
        = (.ok (20 + (8 + payload.length) % 65536) : Checked Empty Nat) :=
      Checked.inBits_eq_ok (by omega)
    unfold buildUdpReplyV4
    dsimp only
    rw [total]
    dsimp only [bind, Except.bind]
    rw [behind_header_eq, List.drop_left, udpChecksumV4_eq_ok]
    · exact ⟨_, rfl⟩
    · exact udpSumV4_lt (Nat.le_of_eq src.length_eq) (Nat.le_of_eq dst.length_eq)
        (by rw [length_replyDatagram]; omega)

/-- **`build_udp_reply_v6`.** -/
theorem lengthSafe_plain_v6 (src dst : Ipv6Addr) (srcPort dstPort : UInt16) :
    LengthSafe (buildUdpReplyV6 src srcPort dst dstPort payload)
      ↔ 8 + payload.length ≤ 65535 := by
  have same : SameFamily (.v6 src srcPort 0 0) (.v6 dst dstPort 0 0) := trivial
  have something := @plain_ne_none payload _ _ same
  refine lengthSafe_iff something (fun pkt built => ?_) fun fits => ?_
  · exact (buildUdpReplyV6_emitted built).lengthsMatch_iff
  · unfold buildUdpReplyV6
    dsimp only
    rw [behind_header_eq, List.drop_left, udpChecksumV6_eq_ok]
    · exact ⟨_, rfl⟩
    · exact udpSumV6_lt (Nat.le_of_eq src.length_eq) (Nat.le_of_eq dst.length_eq)
        (by rw [length_replyDatagram]; omega)

/-- An IPv4 template that is not usable gives no packet. -/
theorem withTemplate_unusable_v4 (unusable : ¬ UsableV4 template) (ip dst : Ipv4Addr)
    (port dstPort : UInt16) :
    buildUdpReplyPacketWithTemplate template (.v4 ip port) (.v4 dst dstPort) payload
      = .ok none := by
  unfold buildUdpReplyPacketWithTemplate
  split
  · rfl
  · dsimp only
    split
    · rename_i version
      unfold buildUdpReplyV4WithTemplate
      split
      · rfl
      · dsimp only
        split
        · rfl
        · rename_i whole
          obtain ⟨low, room⟩ := not_or.mp whole
          exact absurd ⟨version, Nat.not_lt.mp low, Nat.not_lt.mp room⟩ unusable
    · rfl

/-- An IPv6 template that is not usable gives no packet. -/
theorem withTemplate_unusable_v6 (unusable : ¬ UsableV6 template) (ip dst : Ipv6Addr)
    (port dstPort : UInt16) (flowinfo scopeId flowinfo' scopeId' : UInt32) :
    buildUdpReplyPacketWithTemplate template (.v6 ip port flowinfo scopeId)
      (.v6 dst dstPort flowinfo' scopeId') payload = .ok none := by
  unfold buildUdpReplyPacketWithTemplate
  split
  · rfl
  · dsimp only
    split
    · rename_i version
      unfold buildUdpReplyV6WithTemplate
      split
      · rfl
      · rename_i long
        exact absurd ⟨version, Nat.not_lt.mp long⟩ unusable
    · rfl

/-- A usable IPv4 template is used. -/
theorem withTemplate_usable_v4 (usable : UsableV4 template) (ip dst : Ipv4Addr)
    (port dstPort : UInt16) :
    buildUdpReplyPacketWithTemplate template (.v4 ip port) (.v4 dst dstPort) payload
      = buildUdpReplyV4WithTemplate template ip port payload := by
  obtain ⟨version, low, room⟩ := usable
  unfold buildUdpReplyPacketWithTemplate
  rw [if_neg (List.ne_nil_of_length_pos (by omega))]
  exact if_pos version

/-- A usable IPv6 template is used. -/
theorem withTemplate_usable_v6 (usable : UsableV6 template) (ip dst : Ipv6Addr)
    (port dstPort : UInt16) (flowinfo scopeId flowinfo' scopeId' : UInt32) :
    buildUdpReplyPacketWithTemplate template (.v6 ip port flowinfo scopeId)
        (.v6 dst dstPort flowinfo' scopeId') payload
      = buildUdpReplyV6WithTemplate template ip port payload := by
  obtain ⟨version, long⟩ := usable
  unfold buildUdpReplyPacketWithTemplate
  rw [if_neg (List.ne_nil_of_length_pos (by omega))]
  exact if_pos version

/-- A usable template never gives nothing. -/
theorem withTemplate_ne_none_v4 (usable : UsableV4 template) (ip : Ipv4Addr) (port : UInt16) :
    buildUdpReplyV4WithTemplate template ip port payload ≠ .ok none := by
  obtain ⟨version, low, room⟩ := usable
  unfold buildUdpReplyV4WithTemplate
  rw [if_neg (by omega)]
  dsimp only
  rw [if_neg (by omega)]
  exact bind_some_ne_none fun _ => bind_some_ne_none fun _ => nofun

theorem withTemplate_ne_none_v6 (usable : UsableV6 template) (ip : Ipv6Addr) (port : UInt16) :
    buildUdpReplyV6WithTemplate template ip port payload ≠ .ok none := by
  unfold buildUdpReplyV6WithTemplate
  rw [if_neg (Nat.not_lt.mpr usable.2)]
  exact bind_some_ne_none fun _ => nofun

/-- **`build_udp_reply_v4_with_template`**, with a usable template. -/
theorem lengthSafe_template_v4 (usable : UsableV4 template) (ip : Ipv4Addr) (port : UInt16) :
    LengthSafe (buildUdpReplyV4WithTemplate template ip port payload)
      ↔ headerLength template + 8 + payload.length ≤ 65535 := by
  refine lengthSafe_iff (withTemplate_ne_none_v4 usable ip port) (fun pkt built => ?_)
    fun fits => ?_
  · exact (buildUdpReplyV4WithTemplate_emitted usable.1 built).2.lengthsMatch_iff
  · obtain ⟨out, built, -⟩ := buildUdpReply_of_template_v4 usable.1 usable.2.1 usable.2.2 fits ip ip
      port port
    exact ⟨out, (withTemplate_usable_v4 usable ip ip port port).symm.trans built⟩

/-- **`build_udp_reply_v6_with_template`**, with a usable template. -/
theorem lengthSafe_template_v6 (usable : UsableV6 template) (ip : Ipv6Addr) (port : UInt16) :
    LengthSafe (buildUdpReplyV6WithTemplate template ip port payload)
      ↔ 8 + payload.length ≤ 65535 := by
  refine lengthSafe_iff (withTemplate_ne_none_v6 usable ip port) (fun pkt built => ?_)
    fun fits => ?_
  · exact (buildUdpReplyV6WithTemplate_emitted usable.1 built).2.lengthsMatch_iff
  · obtain ⟨out, built, -⟩ := buildUdpReply_of_template_v6 usable.1 usable.2 fits ip ip port port
      0 0 0 0
    exact ⟨out, (withTemplate_usable_v6 usable ip ip port port 0 0 0 0).symm.trans built⟩

/-- Nothing is safe. -/
theorem lengthSafe_none : LengthSafe (.ok none) := Or.inl rfl

/-- **`build_udp_reply_packet`.** -/
theorem lengthSafe_plain (payload : Bytes) (replySrc replyDst : SocketAddr) :
    LengthSafe (buildUdpReplyPacket replySrc replyDst payload)
      ↔ PlainFits payload replySrc replyDst := by
  cases replySrc <;> cases replyDst
  case v4.v4 => exact lengthSafe_plain_v4 ..
  case v6.v6 => exact lengthSafe_plain_v6 ..
  case v4.v6 => exact iff_of_true lengthSafe_none trivial
  case v6.v4 => exact iff_of_true lengthSafe_none trivial

/-- A template is not used across families. -/
theorem withTemplate_mixed {replySrc replyDst : SocketAddr}
    (mixed : ¬ SameFamily replySrc replyDst) :
    buildUdpReplyPacketWithTemplate template replySrc replyDst payload = .ok none := by
  unfold buildUdpReplyPacketWithTemplate
  split
  · rfl
  · cases replySrc <;> cases replyDst
    case v4.v4 => exact absurd trivial mixed
    case v6.v6 => exact absurd trivial mixed
    case v4.v6 => rfl
    case v6.v4 => rfl

/-- **`build_udp_reply_packet_with_template`.** -/
theorem lengthSafe_template (template payload : Bytes) (replySrc replyDst : SocketAddr) :
    LengthSafe (buildUdpReplyPacketWithTemplate template replySrc replyDst payload)
      ↔ TemplateFits template payload replySrc replyDst := by
  cases replySrc <;> cases replyDst
  case v4.v4 ip port dst dstPort =>
      by_cases usable : UsableV4 template
      · rw [withTemplate_usable_v4 usable, lengthSafe_template_v4 usable]
        exact ⟨fun fits _ => fits, fun fits => fits usable⟩
      · rw [withTemplate_unusable_v4 usable]
        exact iff_of_true lengthSafe_none fun used => absurd used usable
  case v6.v6 ip port flowinfo scopeId dst dstPort flowinfo' scopeId' =>
      by_cases usable : UsableV6 template
      · rw [withTemplate_usable_v6 usable, lengthSafe_template_v6 usable]
        exact ⟨fun fits _ => fits, fun fits => fits usable⟩
      · rw [withTemplate_unusable_v6 usable]
        exact iff_of_true lengthSafe_none fun used => absurd used usable
  case v4.v6 =>
      rw [withTemplate_mixed id]
      exact iff_of_true lengthSafe_none trivial
  case v6.v4 =>
      rw [withTemplate_mixed id]
      exact iff_of_true lengthSafe_none trivial

/-! ### The reply task -/

/-- The task builds the reply anew when the template gives nothing. -/
theorem replyPacket_of_none {replySrc replyDst : SocketAddr}
    (unused : buildUdpReplyPacketWithTemplate template replySrc replyDst payload = .ok none) :
    replyPacket template replySrc replyDst payload
      = buildUdpReplyPacket replySrc replyDst payload := by
  unfold replyPacket
  rw [unused]
  rfl

/-- The task does what the template gives, unless that is nothing. -/
theorem replyPacket_of_ne_none {replySrc replyDst : SocketAddr}
    (used : buildUdpReplyPacketWithTemplate template replySrc replyDst payload ≠ .ok none) :
    replyPacket template replySrc replyDst payload
      = buildUdpReplyPacketWithTemplate template replySrc replyDst payload := by
  unfold replyPacket
  generalize buildUdpReplyPacketWithTemplate template replySrc replyDst payload = result at used ⊢
  cases result with
  | error fault => rfl
  | ok packet =>
      cases packet with
      | none => exact absurd rfl used
      | some pkt => rfl

/-- **The reply task.** -/
theorem lengthSafe_task (template payload : Bytes) (replySrc replyDst : SocketAddr) :
    LengthSafe (replyPacket template replySrc replyDst payload)
      ↔ TaskFits template payload replySrc replyDst := by
  cases replySrc <;> cases replyDst
  case v4.v4 ip port dst dstPort =>
      unfold TaskFits
      by_cases usable : UsableV4 template
      · have same := @withTemplate_usable_v4 payload template usable ip dst port dstPort
        rw [replyPacket_of_ne_none (same ▸ withTemplate_ne_none_v4 usable ip port), same,
          lengthSafe_template_v4 usable]
        dsimp only
        rw [if_pos usable]
      · rw [replyPacket_of_none (withTemplate_unusable_v4 usable ip dst port dstPort),
          lengthSafe_plain]
        dsimp only
        rw [if_neg usable]
        exact Iff.rfl
  case v6.v6 ip port flowinfo scopeId dst dstPort flowinfo' scopeId' =>
      by_cases usable : UsableV6 template
      · have same := @withTemplate_usable_v6 payload template usable ip dst port dstPort flowinfo
          scopeId flowinfo' scopeId'
        rw [replyPacket_of_ne_none (same ▸ withTemplate_ne_none_v6 usable ip port), same,
          lengthSafe_template_v6 usable]
        exact Iff.rfl
      · rw [replyPacket_of_none (withTemplate_unusable_v6 usable ip dst port dstPort flowinfo
          scopeId flowinfo' scopeId'), lengthSafe_plain]
        exact Iff.rfl
  case v4.v6 =>
      rw [replyPacket_of_none (withTemplate_mixed id), lengthSafe_plain]
      exact Iff.rfl
  case v6.v4 =>
      rw [replyPacket_of_none (withTemplate_mixed id), lengthSafe_plain]
      exact Iff.rfl

end Builders

/-- **The lengths of a reply.** For every source, destination, template and payload, either builder
and the reply task return nothing or a packet that states its own lengths exactly when the lengths
of the reply fit 16 bits: 28 bytes and the payload over IPv4, or those of the template's header; 8
bytes and the payload over IPv6. -/
theorem reply_lengths_iff (template payload : Bytes) (replySrc replyDst : SocketAddr) :
    (LengthSafe (buildUdpReplyPacket replySrc replyDst payload)
        ↔ PlainFits payload replySrc replyDst)
      ∧ (LengthSafe (buildUdpReplyPacketWithTemplate template replySrc replyDst payload)
        ↔ TemplateFits template payload replySrc replyDst)
      ∧ (LengthSafe (replyPacket template replySrc replyDst payload)
        ↔ TaskFits template payload replySrc replyDst) :=
  ⟨lengthSafe_plain payload replySrc replyDst,
    lengthSafe_template template payload replySrc replyDst,
    lengthSafe_task template payload replySrc replyDst⟩

/-- A resolver and its client. -/
def sampleReply : SocketAddr × SocketAddr :=
  (.v4 (Ipv4Addr.new 8 8 8 8) 53, .v4 (Ipv4Addr.new 198 18 0 2) 40000)

/-- The total length of an IPv4 reply with 65508 bytes overflows. -/
theorem replyPacket_overflow {payload : Bytes} (length : payload.length = 65508) :
    replyPacket [] sampleReply.1 sampleReply.2 payload = .error .panicked := by
  rw [replyPacket_of_none (if_pos rfl)]
  show buildUdpReplyV4 _ _ _ _ payload = _
  unfold buildUdpReplyV4
  dsimp only
  rw [length]
  rfl

/-- The lengths of an IPv4 reply with 65528 bytes are truncated. -/
theorem replyPacket_truncated {payload : Bytes} (length : payload.length = 65528) :
    ¬ LengthSafe (replyPacket [] sampleReply.1 sampleReply.2 payload) := by
  intro safe
  have fits : 20 + 8 + payload.length ≤ 65535 := (lengthSafe_task [] payload _ _).mp safe
  omega

/-- **Replies that are too long**: one of 65508 bytes makes the reply task panic, and the packet for
one of 65528 bytes states lengths that are not its own. -/
theorem large_replies_break :
    replyPacket [] sampleReply.1 sampleReply.2 (List.replicate 65508 0) = .error .panicked
      ∧ ¬ LengthSafe (replyPacket [] sampleReply.1 sampleReply.2 (List.replicate 65528 0)) :=
  ⟨replyPacket_overflow List.length_replicate, replyPacket_truncated List.length_replicate⟩

end RsTun.SystemNat
