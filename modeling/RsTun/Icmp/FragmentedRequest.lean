/-
**Fragments of an Echo Request on the three ways to a reply.**

`process_ipv4` and `run_mixed` call `handle_icmpv4`, and `IcmpForwarder::handle_packet` forwards
upstream. All three look for an ICMP header at the start of the payload; none of them asks for the
flags and the offset of the packet, which the TCP and UDP branches of `process_ipv4` do.

* `treats_iff` — the IPv4 packets that a way treats as an Echo Request.
* `handleIcmpv4_spec`, `buildEchoReplyPacket_kept` — a reply keeps the flags and the offset of its
  request, and the checksum of its message is valid.
* `SentAs` — an ICMP message sent in any number of fragments; `replies_verify` — what is put
  together from replies is valid all the same, so that nobody notices.
* **`answersWhole_iff`** — no fragment is answered if and only if none of those that arrive begins
  like an Echo Request; and a request that a way admits must have been sent in one packet.
-/

import RsTun.Icmp.EchoReplyValid
import RsTun.Mixed.Dispatch

namespace RsTun.Icmp

open Library Library.Bytes Library.OnesComplement Packet SystemNat Mixed Netstack

/-- `handle_icmpv4`, up to the packet that it writes. -/
def handleIcmpv4 (raw : Bytes) (ihl : Nat) (srcIp dstIp : Ipv4Addr) : Option Bytes :=
  let payload := raw.drop ihl
  if payload.length < 8 then none
  else if byteAt payload 0 ≠ 8 ∨ byteAt payload 1 ≠ 0 then none
  else
    let pkt := overwrite raw 12 dstIp.bytes
    let pkt := overwrite pkt 16 srcIp.bytes
    let pkt := overwrite pkt ihl [0]
    -- `pkt[ihl + 2]` and `pkt[ihl + 3]`, as below
    let pkt := overwrite pkt (ihl + 2) [0, 0]
    let cksum := internetChecksum (pkt.drop ihl)
    let pkt := overwrite pkt (ihl + 2) (encode 2 cksum)
    some (recomputeIpv4Checksum pkt)

/-- The call of `process_ipv4` carried out, where it is that of `handle_icmpv4`. -/
def answerIpv4 (raw : Bytes) : Ipv4Call → Option Bytes
  | .icmp ihl src dst => handleIcmpv4 raw ihl src dst
  | _ => none

/-- The call of `run_mixed` carried out, where it is that of `handle_icmpv4`. -/
def answerMixed (raw : Bytes) : MixedCall → Option Bytes
  | .icmpv4 ihl src dst => handleIcmpv4 raw ihl src dst
  | _ => none

/-! ### The three ways -/

/-- Who classifies a packet, with what its filters look at. -/
inductive IcmpPath where
  /-- `process_ipv4` -/
  | system (inet4Broadcast : Option Ipv4Addr)
  /-- `run_mixed` -/
  | mixed (config : ReadLoopConfig)
  /-- `IcmpForwarder::handle_packet` -/
  | forwarder

namespace IcmpPath

/-- The reply of `handle_icmpv4`, where the dispatcher calls it and it writes one. -/
def answer : IcmpPath → Bytes → Option Bytes
  | system inet4Broadcast, raw => answerIpv4 raw (dispatchIpv4 inet4Broadcast raw)
  | mixed config, raw => answerMixed raw (mixedDispatch config raw)
  | forwarder, _ => none

/-- The request that is forwarded upstream. -/
def forwarded : IcmpPath → Bytes → Option EchoRequest
  | forwarder, raw => handlePacket raw
  | _, _ => none

/-- A packet is treated as an Echo Request: it is answered, or forwarded upstream. -/
def Treats (path : IcmpPath) (raw : Bytes) : Prop :=
  (∃ reply, path.answer raw = some reply) ∨ ∃ request, path.forwarded raw = some request

/-- A reply that goes back to a packet: that of `handle_icmpv4`, or one that is built with the
header of the packet from any message from upstream. -/
def RepliesTo (path : IcmpPath) (raw reply : Bytes) : Prop :=
  path.answer raw = some reply
    ∨ ∃ request, path.forwarded raw = some request ∧ ∃ message,
      buildEchoReplyPacket request.template request.key message request.isV6 = .ok (some reply)

/-- The addresses between which the filters of the dispatcher let requests pass. -/
def Admits : IcmpPath → (src dst : Ipv4Addr) → Prop
  | system inet4Broadcast, _, dst => some dst ≠ inet4Broadcast ∧ isGlobalUnicastV4 dst = true
  | mixed config, src, dst => ipInLocalSubnetsV4 src config.localSubnetsV4 = false
      ∧ ipInLocalSubnetsV4 dst config.localSubnetsV4 = false
  | forwarder, _, _ => True

end IcmpPath

/-- The payload of an ICMP packet begins like an Echo Request. -/
def BeginsLikeRequest (raw : Bytes) : Prop :=
  20 ≤ headerLength raw ∧ headerLength raw + 8 ≤ raw.length ∧ byteAt raw 9 = ipprotoIcmp
    ∧ byteAt raw (headerLength raw) = icmpv4EchoRequest ∧ byteAt raw (headerLength raw + 1) = 0

instance (raw : Bytes) : Decidable (BeginsLikeRequest raw) := inferInstanceAs (Decidable (_ ∧ _))

section Treated

variable {raw : Bytes}

/-- **`handle_icmpv4` answers** exactly the packets that begin like an Echo Request. -/
theorem handleIcmpv4_isSome_iff (src dst : Ipv4Addr) (header : 20 ≤ headerLength raw)
    (protocol : byteAt raw 9 = ipprotoIcmp) :
    (∃ reply, handleIcmpv4 raw (headerLength raw) src dst = some reply)
      ↔ BeginsLikeRequest raw := by
  unfold handleIcmpv4 BeginsLikeRequest
  dsimp only
  rw [List.length_drop, byteAt_drop, byteAt_drop, Nat.add_zero]
  by_cases short : raw.length - headerLength raw < 8
  · rw [if_pos short]
    refine iff_of_false (fun answered => ?_) (fun begins => ?_)
    · obtain ⟨reply, same⟩ := answered
      cases same
    · have whole := begins.2.1
      omega
  · rw [if_neg short]
    by_cases other : byteAt raw (headerLength raw) ≠ 8 ∨ byteAt raw (headerLength raw + 1) ≠ 0
    · rw [if_pos other]
      refine iff_of_false (fun answered => ?_) (fun begins => ?_)
      · obtain ⟨reply, same⟩ := answered
        cases same
      · exact other.elim (fun differs => differs begins.2.2.2.1)
          (fun differs => differs begins.2.2.2.2)
    · obtain ⟨type, code⟩ := not_or.mp other
      rw [if_neg other]
      exact iff_of_true ⟨_, rfl⟩
        ⟨header, by omega, protocol, not_not.mp type, not_not.mp code⟩

/-- The local subnet filter on an IPv4 packet with its whole header. -/
theorem filters_v4 (config : ReadLoopConfig) (version : byteAt raw 0 >>> 4 = 4)
    (long : 20 ≤ raw.length) : config.filters raw = false
      ↔ ipInLocalSubnetsV4 (.ofSlice 4 raw 12) config.localSubnetsV4 = false
        ∧ ipInLocalSubnetsV4 (.ofSlice 4 raw 16) config.localSubnetsV4 = false := by
  have present : raw ≠ [] := List.ne_nil_of_length_pos (by omega)
  unfold ReadLoopConfig.filters isLocalSubnetPacket
  rw [if_neg present, if_pos version, if_neg (by omega)]
  dsimp only
  obtain ⟨subnets, subnetsV6, icmpForwarder⟩ := config
  cases subnets with
  | nil =>
      have outside : ∀ addr, ipInLocalSubnetsV4 addr [] = false := fun addr => rfl
      simp only [outside, Bool.or_self, Bool.and_false, and_self]
  | cons subnet subnets =>
      simp only [List.isEmpty_cons, Bool.not_false, Bool.true_or, Bool.true_and,
        Bool.or_eq_false_iff]

/-- A reply to the packet of `handle_icmpv4`, called with what the dispatcher reads. -/
def AnsweredBy (raw reply : Bytes) : Prop :=
  WholeIpv4Header raw ∧ byteAt raw 9 = ipprotoIcmp
    ∧ handleIcmpv4 raw (headerLength raw) (.ofSlice 4 raw 12) (.ofSlice 4 raw 16) = some reply

/-- **The replies of `process_ipv4`.** -/
theorem answer_system_iff (inet4Broadcast : Option Ipv4Addr) (reply : Bytes) :
    (IcmpPath.system inet4Broadcast).answer raw = some reply
      ↔ AnsweredBy raw reply
        ∧ (IcmpPath.system inet4Broadcast).Admits (.ofSlice 4 raw 12) (.ofSlice 4 raw 16) := by
  unfold IcmpPath.answer IcmpPath.Admits AnsweredBy dispatchIpv4
  dsimp only
  by_cases tiny : raw.length < 20
  · rw [if_pos tiny]
    refine iff_of_false nofun fun answered => ?_
    have whole := answered.1.1
    unfold WholeIpv4Header at whole
    omega
  · rw [if_neg tiny]
    by_cases broken : raw.length < headerLength raw ∨ headerLength raw < 20
    · rw [if_pos broken]
      refine iff_of_false nofun fun answered => ?_
      have whole := answered.1.1
      unfold WholeIpv4Header at whole
      omega
    · have whole : WholeIpv4Header raw := by
        unfold WholeIpv4Header
        omega
      rw [if_neg broken]
      by_cases broadcast : some (Octets.ofSlice 4 raw 16) = inet4Broadcast
      · rw [if_pos broadcast]
        exact iff_of_false nofun fun answered => answered.2.1 broadcast
      · rw [if_neg broadcast]
        by_cases icmp : byteAt raw 9 = ipprotoIcmp
        · have noTcp : byteAt raw 9 ≠ ipprotoTcp := by rw [icmp]; decide
          have noUdp : byteAt raw 9 ≠ ipprotoUdp := by rw [icmp]; decide
          rw [if_neg noTcp, if_neg noUdp, if_pos icmp]
          cases global : isGlobalUnicastV4 (.ofSlice 4 raw 16) with
          | false =>
              rw [if_pos (Or.inr rfl)]
              exact iff_of_false nofun fun answered => Bool.false_ne_true answered.2.2
          | true =>
              rw [if_neg (not_or.mpr ⟨broadcast, nofun⟩)]
              exact ⟨fun answered => ⟨⟨whole, icmp, answered⟩, broadcast, rfl⟩,
                fun answered => answered.1.2.2⟩
        · refine iff_of_false ?_ fun answered => icmp answered.1.2.1
          rw [if_neg icmp]
          repeat' split
          all_goals nofun

/-- **The replies of `run_mixed`** to IPv4 packets. -/
theorem answer_mixed_iff (config : ReadLoopConfig) (reply : Bytes)
    (version : byteAt raw 0 >>> 4 = 4) :
    (IcmpPath.mixed config).answer raw = some reply
      ↔ AnsweredBy raw reply
        ∧ (IcmpPath.mixed config).Admits (.ofSlice 4 raw 12) (.ofSlice 4 raw 16) := by
  unfold IcmpPath.answer IcmpPath.Admits AnsweredBy mixedDispatch
  dsimp only
  by_cases broken : raw.length < headerLength raw ∨ headerLength raw < 20
  · refine iff_of_false ?_ fun answered => ?_
    · repeat' split
      all_goals nofun
    · have whole := answered.1.1
      unfold WholeIpv4Header at whole
      omega
  · have whole : WholeIpv4Header raw := by
      unfold WholeIpv4Header
      omega
    have present : raw ≠ [] := List.ne_nil_of_length_pos (by omega)
    rw [← filters_v4 config version (by omega), if_neg present]
    cases config.filters raw with
    | true =>
        rw [if_pos rfl]
        exact iff_of_false nofun fun answered => Bool.true_eq_false_eq_False answered.2
    | false =>
        rw [if_neg Bool.false_ne_true, if_pos version, if_neg broken]
        by_cases icmp : byteAt raw 9 = ipprotoIcmp
        · have noTcp : byteAt raw 9 ≠ ipprotoTcp := by rw [icmp]; decide
          have noUdp : byteAt raw 9 ≠ ipprotoUdp := by rw [icmp]; decide
          rw [if_neg noTcp, if_neg noUdp, if_pos icmp]
          exact ⟨fun answered => ⟨⟨whole, icmp, answered⟩, rfl⟩, fun answered => answered.1.2.2⟩
        · refine iff_of_false ?_ fun answered => icmp answered.1.2.1
          rw [if_neg icmp]
          repeat' split
          all_goals nofun

/-- **The packets that the forwarder takes.** -/
theorem handlePacket_isSome_iff (version : byteAt raw 0 >>> 4 = 4) :
    (∃ request, handlePacket raw = some request) ↔ BeginsLikeRequest raw := by
  unfold handlePacket handleV4
  dsimp only
  by_cases whole : 20 ≤ headerLength raw ∧ headerLength raw + 8 ≤ raw.length
  · have present : raw ≠ [] := List.ne_nil_of_length_pos (by omega)
    rw [if_neg present, if_pos version, if_neg (by omega), if_neg (by omega)]
    by_cases other : byteAt raw 9 ≠ 1 ∨ byteAt raw (headerLength raw) ≠ icmpv4EchoRequest
        ∨ byteAt raw (headerLength raw + 1) ≠ 0
    · rw [if_pos other]
      refine iff_of_false ?_ ?_
      · rintro ⟨request, accepted⟩
        cases accepted
      · rintro ⟨-, -, protocol, type, code⟩
        exact other.elim (fun differs => differs protocol) fun differs =>
          differs.elim (fun differs => differs type) fun differs => differs code
    · obtain ⟨protocol, rest⟩ := not_or.mp other
      obtain ⟨type, code⟩ := not_or.mp rest
      rw [if_neg other]
      exact iff_of_true ⟨_, rfl⟩
        ⟨whole.1, whole.2, not_not.mp protocol, not_not.mp type, not_not.mp code⟩
  · refine iff_of_false ?_ fun begins => whole ⟨begins.1, begins.2.1⟩
    rintro ⟨request, accepted⟩
    repeat' split at accepted
    all_goals first | omega | cases accepted

/-- **The IPv4 packets that are treated as Echo Requests.** -/
theorem treats_iff (path : IcmpPath) (version : byteAt raw 0 >>> 4 = 4) :
    path.Treats raw ↔ BeginsLikeRequest raw
      ∧ path.Admits (.ofSlice 4 raw 12) (.ofSlice 4 raw 16) := by
  -- both dispatchers leave it to `handle_icmpv4`
  have answered : (∃ reply, AnsweredBy raw reply) ↔ BeginsLikeRequest raw := by
    constructor
    · rintro ⟨reply, whole, protocol, same⟩
      exact (handleIcmpv4_isSome_iff _ _ whole.1 protocol).mp ⟨reply, same⟩
    · intro begins
      obtain ⟨header, whole, protocol, -⟩ := id begins
      obtain ⟨reply, same⟩ := (handleIcmpv4_isSome_iff _ _ header protocol).mpr begins
      exact ⟨reply, ⟨header, by omega⟩, protocol, same⟩
  unfold IcmpPath.Treats
  cases path with
  | system inet4Broadcast =>
      simp only [answer_system_iff, exists_and_right, answered, IcmpPath.forwarded, reduceCtorEq,
        exists_false, or_false]
  | mixed config =>
      simp only [answer_mixed_iff _ _ version, exists_and_right, answered, IcmpPath.forwarded,
        reduceCtorEq, exists_false, or_false]
  | forwarder =>
      simp only [IcmpPath.answer, IcmpPath.forwarded, reduceCtorEq, exists_false, false_or,
        handlePacket_isSome_iff version, IcmpPath.Admits, and_true]

end Treated

/-! ### The replies -/

section Replies

variable {raw reply : Bytes}

/-- **What every reply keeps of its request, and has of its own**: a valid ICMP checksum. -/
structure Kept (raw reply : Bytes) : Prop where
  headerLength_eq : headerLength reply = headerLength raw
  flags_eq : flagsFrag reply = flagsFrag raw
  verifies : Verifies (wordSum (reply.drop (headerLength raw)))

/-- The packet that `handle_icmpv4` writes for a header and a message. -/
theorem handleIcmpv4_append {front message : Bytes} (src dst : Ipv4Addr)
    (header : 20 ≤ front.length)
    (answered : handleIcmpv4 (front ++ message) front.length src dst = some reply) :
    8 ≤ message.length ∧ reply = recomputeIpv4Checksum
      (overwrite (overwrite front 12 dst.bytes) 16 src.bytes ++ answeredV4 message) := by
  have sizes := And.intro src.length_eq dst.length_eq
  have one : (overwrite front 12 dst.bytes).length = front.length := length_overwrite (by omega)
  have two : (overwrite (overwrite front 12 dst.bytes) 16 src.bytes).length = front.length := by
    rw [length_overwrite (by omega), one]
  unfold handleIcmpv4 at answered
  dsimp only at answered
  rw [List.drop_left, overwrite_front (by omega), overwrite_front (by omega)] at answered
  generalize overwrite (overwrite front 12 dst.bytes) 16 src.bytes = header at two answered ⊢
  split at answered
  case isTrue => cases answered
  case isFalse long =>
    split at answered
    case isTrue => cases answered
    case isFalse other =>
      have enough : 4 ≤ message.length := by omega
      have typed := @overwrite_back header message [0] 0
      rw [Nat.add_zero] at typed
      rw [← two, typed, overwrite_back, overwrite_back, List.drop_left] at answered
      obtain ⟨a, b, c, d, rest, rfl⟩ : ∃ a b c d rest, message = a :: b :: c :: d :: rest := by
        match message, enough with
        | a :: b :: c :: d :: rest, _ => exact ⟨a, b, c, d, rest, rfl⟩
      obtain ⟨-, code⟩ := not_or.mp other
      cases (not_not.mp code : b = 0)
      refine ⟨Nat.not_lt.mp long, ?_⟩
      rw [← Option.some.inj answered, answeredV4]
      rfl

/-- **The reply of `handle_icmpv4`.** -/
theorem handleIcmpv4_spec {src dst : Ipv4Addr} (whole : WholeIpv4Header raw)
    (answered : handleIcmpv4 raw (headerLength raw) src dst = some reply) : Kept raw reply := by
  obtain ⟨header, fits⟩ := whole
  have size : (raw.take (headerLength raw)).length = headerLength raw := List.length_take_of_le fits
  have sizes := And.intro src.length_eq dst.length_eq
  obtain ⟨long, rfl⟩ := @handleIcmpv4_append reply (raw.take (headerLength raw))
    (raw.drop (headerLength raw)) src dst (by omega)
    (by rw [size, List.take_append_drop]; exact answered)
  have turnedDst : AgreeOff {index | 12 ≤ index ∧ index < 20} _ _ :=
    @agreeOff_overwrite _ (raw.take (headerLength raw)) dst.bytes 12 (by omega)
      fun index low high => ⟨low, by omega⟩
  have turnedSrc : AgreeOff {index | 12 ≤ index ∧ index < 20} _ _ :=
    @agreeOff_overwrite _ (overwrite (raw.take (headerLength raw)) 12 dst.bytes) src.bytes 16
      (by rw [turnedDst.1]; omega) fun index low high => ⟨by omega, by omega⟩
  obtain ⟨sameLength, back, flags⟩ := @recomputed_spec _
    (answeredV4 (raw.drop (headerLength raw))) raw _ (turnedDst.trans turnedSrc) header fits
    (fun inside => absurd inside.1 (by decide)) fun index inside outside => by
      have high := inside.2
      have low := outside.1
      omega
  refine ⟨sameLength, flags, ?_⟩
  rw [back]
  exact (answeredV4_spec (by omega)).2.2.2

/-- **The reply that is built** for a message from upstream. -/
theorem buildEchoReplyPacket_kept {message : Bytes} {request : EchoRequest}
    (version : byteAt raw 0 >>> 4 = 4) (accepted : handlePacket raw = some request)
    (built : buildEchoReplyPacket request.template request.key message request.isV6
      = .ok (some reply)) : Kept raw reply := by
  unfold handlePacket at accepted
  split at accepted
  case isTrue => cases accepted
  case isFalse =>
    obtain ⟨header, fits, -, template, family, key⟩ := handleV4_eq_some accepted
    rw [template, family, key, buildEchoReplyPacket, if_neg Bool.false_ne_true] at built
    by_cases long : 4 ≤ message.length
    · rw [buildEchoReplyV4_eq header (by omega) rfl rfl long] at built
      obtain rfl := Option.some.inj (Except.ok.inj built)
      have valid := @turned_spec ipv4Layout raw (Octets.ofSlice 4 raw 16).bytes
        (Octets.ofSlice 4 raw 12).bytes (headerLength raw) (headerLength raw + message.length)
        (by omega) (Octets.length_eq _) (Octets.length_eq _) rfl header (by decide)
      have fields : ∀ index, index ∈ ipv4Layout.fields
          ↔ 2 ≤ index ∧ index < 4 ∨ 12 ≤ index ∧ index < 20 := fun index => Iff.rfl
      obtain ⟨sameLength, back, flags⟩ := @recomputed_spec _ (answeredV4 message) raw _
        valid.agree header (by omega) (by rw [fields]; omega) (by
          rintro index ⟨low, high⟩
          rw [fields]
          omega)
      refine ⟨sameLength, flags, ?_⟩
      rw [back]
      exact (answeredV4_spec long).2.2.2
    · by_cases present : message = []
      · rw [buildEchoReplyV4, present, if_pos (Or.inr rfl)] at built
        cases built
      · have usable : Usable raw ⟨.v4 (Octets.ofSlice 4 raw 12), .v4 (Octets.ofSlice 4 raw 16),
            .ofNat (be16 raw (headerLength raw + 4))⟩ false := ⟨header, by omega, ⟨_, rfl⟩, _, rfl⟩
        rw [(buildEchoReplyV4_spec usable present).1 (by omega)] at built
        cases built

/-- **Every reply to an IPv4 packet** keeps its flags and offset, and its ICMP checksum is valid. -/
theorem repliesTo_kept {path : IcmpPath} (version : byteAt raw 0 >>> 4 = 4)
    (replies : path.RepliesTo raw reply) : Kept raw reply ∧ path.Treats raw := by
  have answered : ∀ {path : IcmpPath}, path.answer raw = some reply →
      AnsweredBy raw reply → Kept raw reply ∧ path.Treats raw := by
    rintro path written ⟨whole, -, same⟩
    exact ⟨handleIcmpv4_spec whole same, Or.inl ⟨reply, written⟩⟩
  obtain written | ⟨request, accepted, message, built⟩ := replies
  · cases path with
    | system inet4Broadcast =>
        exact answered written ((answer_system_iff inet4Broadcast reply).mp written).1
    | mixed config =>
        exact answered written ((answer_mixed_iff config reply version).mp written).1
    | forwarder => cases written
  · cases path with
    | system inet4Broadcast => cases accepted
    | mixed config => cases accepted
    | forwarder =>
        exact ⟨buildEchoReplyPacket_kept version accepted built, Or.inr ⟨request, accepted⟩⟩

end Replies

/-! ### A message in fragments -/

/-- A packet that carries a piece of an ICMP message, from an offset on, between two addresses. -/
structure IcmpFragment (src dst : Ipv4Addr) (start : Nat) (pkt piece : Bytes) : Prop where
  version : byteAt pkt 0 >>> 4 = 4
  header : WholeIpv4Header pkt
  totalLength : be16 pkt 2 = pkt.length
  protocol : byteAt pkt 9 = ipprotoIcmp
  source : Octets.ofSlice 4 pkt 12 = src
  destination : Octets.ofSlice 4 pkt 16 = dst
  offset : fragmentOffset pkt * 8 = start
  carried : pkt.drop (headerLength pkt) = piece

/-- **The rest of an ICMP message, from an offset on, in packets**: the last one alone has More
Fragments clear, and each other one carries a positive multiple of eight bytes. -/
inductive SentAs (src dst : Ipv4Addr) : Nat → Bytes → List Bytes → Prop
  | last {start : Nat} {pkt rest : Bytes} (fragment : IcmpFragment src dst start pkt rest)
      (final : ¬ MoreFragments pkt) : SentAs src dst start rest [pkt]
  | more {start : Nat} {pkt piece rest : Bytes} {packets : List Bytes}
      (fragment : IcmpFragment src dst start pkt piece) (follows : MoreFragments pkt)
      (positive : 0 < piece.length) (aligned : piece.length % 8 = 0)
      (sent : SentAs src dst (start + piece.length) rest packets) :
      SentAs src dst start (piece ++ rest) (pkt :: packets)

theorem SentAs.fragments {src dst : Ipv4Addr} {start : Nat} {message : Bytes}
    {packets : List Bytes} (sent : SentAs src dst start message packets) :
    ∀ raw ∈ packets, ∃ first piece, IcmpFragment src dst first raw piece := by
  induction sent with
  | last fragment final =>
      intro raw inside
      rw [List.mem_singleton.mp inside]
      exact ⟨_, _, fragment⟩
  | more fragment follows positive aligned sent others =>
      intro raw inside
      obtain rfl | later := List.mem_cons.mp inside
      · exact ⟨_, _, fragment⟩
      · exact others raw later

/-- An Echo Request as an ICMP message. -/
structure EchoRequestMessage (message : Bytes) : Prop where
  header : 8 ≤ message.length
  type : byteAt message 0 = icmpv4EchoRequest
  code : byteAt message 1 = 0

/-- A packet that carries the first eight bytes or more of a request begins like one. -/
theorem IcmpFragment.beginsLikeRequest {src dst : Ipv4Addr} {start : Nat} {pkt piece rest : Bytes}
    (fragment : IcmpFragment src dst start pkt piece) (request : EchoRequestMessage (piece ++ rest))
    (long : 8 ≤ piece.length) : BeginsLikeRequest pkt := by
  have carried := fragment.carried
  have size : piece.length = pkt.length - headerLength pkt := by
    rw [← carried, List.length_drop]
  have behind : ∀ index < 8, byteAt pkt (headerLength pkt + index)
      = byteAt (piece ++ rest) index := by
    intro index low
    rw [byteAt_append_of_lt _ (by omega), ← carried, byteAt_drop]
  refine ⟨fragment.header.1, by omega, fragment.protocol, ?_, ?_⟩
  · rw [← request.type, ← behind 0 (by decide), Nat.add_zero]
  · rw [← request.code, ← behind 1 (by decide)]

/-! ### What is answered -/

/-- The replies to some of the packets. -/
def IcmpPath.replies (path : IcmpPath) (arrived : List Bytes) : Set Bytes :=
  {reply | ∃ raw ∈ arrived, path.RepliesTo raw reply}

/-- **Whatever of the replies is a message in fragments has a valid checksum**: that of each of its
pieces is, since they were answered one by one. -/
theorem replies_verify {path : IcmpPath} {arrived answers : List Bytes} {src dst : Ipv4Addr}
    {start : Nat} {message : Bytes} (version : ∀ raw ∈ arrived, byteAt raw 0 >>> 4 = 4)
    (among : ∀ answer ∈ answers, answer ∈ path.replies arrived)
    (sent : SentAs src dst start message answers) : Verifies (wordSum message) := by
  have one : ∀ {first : Nat} {reply piece : Bytes}, reply ∈ path.replies arrived →
      IcmpFragment src dst first reply piece → Verifies (wordSum piece) := by
    rintro first reply piece ⟨raw, inside, replies⟩ fragment
    have keeps := (repliesTo_kept (version raw inside) replies).1
    rw [← fragment.carried, keeps.headerLength_eq]
    exact keeps.verifies
  induction sent with
  | last fragment final => exact one (among _ List.mem_cons_self) fragment
  | @more start pkt piece rest packets fragment follows positive aligned sent verified =>
      have front := verifies_iff.mp (one (among _ List.mem_cons_self) fragment)
      have back := verifies_iff.mp (verified fun answer later =>
        among answer (List.mem_cons_of_mem _ later))
      rw [wordSum_append _ (by omega), verifies_iff]
      omega

/-- **No fragment among the packets is answered as if it were a whole message**: a packet that is
treated as a request is not one; whatever of the replies is a message in fragments has a valid ICMP
checksum; and no reply takes bytes from the middle of a message for its header. -/
structure AnswersWhole (path : IcmpPath) (arrived : List Bytes) : Prop where
  whole : ∀ raw ∈ arrived, path.Treats raw → ¬ MoreFragments raw ∧ fragmentOffset raw = 0
  reassembly : ∀ answers, (∀ answer ∈ answers, answer ∈ path.replies arrived) →
    ∀ src dst message, SentAs src dst 0 message answers → Verifies (wordSum message)
  genuine : ∀ raw ∈ arrived, ∀ reply, path.RepliesTo raw reply → fragmentOffset raw = 0

/-- A fragment that begins like an Echo Request, between addresses that are admitted. -/
def RequestFragment (path : IcmpPath) (raw : Bytes) : Prop :=
  FragmentBits raw ∧ BeginsLikeRequest raw
    ∧ path.Admits (.ofSlice 4 raw 12) (.ofSlice 4 raw 16)

/-- The fragment bits, flag and offset. -/
theorem not_fragmentBits_iff {raw : Bytes} :
    ¬ FragmentBits raw ↔ ¬ MoreFragments raw ∧ fragmentOffset raw = 0 := by
  show ¬ (MoreFragments raw ∨ fragmentOffset raw ≠ 0) ↔ _
  rw [not_or, not_not]

/-- **The packets decide**: no fragment is answered if and only if none of those that arrive begins
like an Echo Request that is admitted. -/
theorem answersWhole_packets_iff (path : IcmpPath) {arrived : List Bytes}
    (version : ∀ raw ∈ arrived, byteAt raw 0 >>> 4 = 4) :
    AnswersWhole path arrived ↔ ∀ raw ∈ arrived, ¬ RequestFragment path raw := by
  constructor
  · rintro answers raw inside ⟨bits, begins⟩
    have treated := (treats_iff path (version raw inside)).mpr begins
    exact not_fragmentBits_iff.mpr (answers.whole raw inside treated) bits
  · intro kept
    have whole : ∀ raw ∈ arrived, path.Treats raw → ¬ FragmentBits raw :=
      fun raw inside treated bits =>
        kept raw inside ⟨bits, (treats_iff path (version raw inside)).mp treated⟩
    refine ⟨fun raw inside treated => not_fragmentBits_iff.mp (whole raw inside treated),
      fun answers among src dst message => replies_verify version among, ?_⟩
    intro raw inside reply replies
    have treated := (repliesTo_kept (version raw inside) replies).2
    exact (not_fragmentBits_iff.mp (whole raw inside treated)).2

/-- **Fragments of ICMP messages.** In front of any packets, no fragment is answered if and only if
none of them begins like an Echo Request that is admitted; and for an Echo Request in any number of
fragments, arriving in any order and any number of times, if and only if it is sent in one packet or
its addresses are not admitted. -/
theorem answersWhole_iff (path : IcmpPath) (arrived : List Bytes)
    (version : ∀ raw ∈ arrived, byteAt raw 0 >>> 4 = 4) :
    (AnswersWhole path arrived ↔ ∀ raw ∈ arrived, ¬ RequestFragment path raw)
      ∧ ∀ src dst message packets, EchoRequestMessage message →
        SentAs src dst 0 message packets → (∀ raw, raw ∈ arrived ↔ raw ∈ packets) →
        (AnswersWhole path arrived ↔ packets.length = 1 ∨ ¬ path.Admits src dst) := by
  have decided := answersWhole_packets_iff path version
  refine ⟨decided, ?_⟩
  intro src dst message packets request sent same
  have between : ∀ raw ∈ packets, RequestFragment path raw → path.Admits src dst := by
    rintro raw inside ⟨-, -, admits⟩
    obtain ⟨start, piece, fragment⟩ := sent.fragments raw inside
    rwa [fragment.source, fragment.destination] at admits
  rw [decided]
  cases sent with
  | last fragment final =>
      refine iff_of_true (fun raw inside requested => ?_) (Or.inl rfl)
      obtain rfl := List.mem_singleton.mp ((same raw).mp inside)
      have offset := fragment.offset
      exact not_fragmentBits_iff.mpr ⟨final, by omega⟩ requested.1
  | @more _ pkt piece rest later fragment follows positive aligned sent =>
      have long : 8 ≤ piece.length := by omega
      have several : ¬ (pkt :: later).length = 1 := by
        cases sent <;> simp
      rw [or_iff_right several]
      constructor
      · intro kept admits
        refine kept pkt ((same pkt).mpr List.mem_cons_self)
          ⟨Or.inl follows, fragment.beginsLikeRequest request long, ?_⟩
        rwa [fragment.source, fragment.destination]
      · intro closed raw inside requested
        exact closed (between raw ((same raw).mp inside) requested)

/-- The two fragments of an Echo Request with sixteen bytes of data, from 198.18.0.2 to 8.8.8.8; the
second half of the data is 8, 0, 1, 2, 3, 4, 5, 6. -/
def requestFragments : List Bytes :=
  [[0x45, 0, 0, 36, 0, 9, 0x20, 0, 64, 1, 0, 0, 198, 18, 0, 2, 8, 8, 8, 8,
      8, 0, 0xE6, 0xEB, 0, 7, 0, 1, 0, 0, 0, 0, 0, 0, 0, 0],
    [0x45, 0, 0, 28, 0, 9, 0, 2, 64, 1, 0, 0, 198, 18, 0, 2, 8, 8, 8, 8, 8, 0, 1, 2, 3, 4, 5, 6]]

/-- They are the request in two packets. -/
theorem sentAs_requestFragments : SentAs (.new 198 18 0 2) (.new 8 8 8 8) 0
    (requestFragments.flatMap fun fragment => fragment.drop 20) requestFragments := by
  refine @SentAs.more _ _ 0 _ [8, 0, 0xE6, 0xEB, 0, 7, 0, 1, 0, 0, 0, 0, 0, 0, 0, 0] _ _ ?_
    (by unfold MoreFragments; decide) (by decide) (by decide) (.last ?_
    (by unfold MoreFragments; decide))
  · constructor <;> decide
  · constructor <;> decide

/-- Behind a local subnet of their source, the last one first. -/
theorem answersWhole_iff_request :
    AnswersWhole (.mixed ⟨[(.new 198 18 0 0, 16)], [], false⟩) requestFragments.reverse :=
  ((answersWhole_iff _ requestFragments.reverse (by decide)).2 _ _ _ requestFragments
    ⟨by decide, by decide, by decide⟩ sentAs_requestFragments fun _ => List.mem_reverse).mpr
    (Or.inr fun admits => absurd admits.1 (by decide))

/-- What `process_ipv4` writes for them. -/
def answeredFragments : List Bytes :=
  [[0x45, 0, 0, 36, 0, 9, 0x20, 0, 64, 1, 132, 172, 8, 8, 8, 8, 198, 18, 0, 2,
      0, 0, 255, 247, 0, 7, 0, 1, 0, 0, 0, 0, 0, 0, 0, 0],
    [0x45, 0, 0, 28, 0, 9, 0, 2, 64, 1, 164, 178, 8, 8, 8, 8, 198, 18, 0, 2,
      0, 0, 247, 245, 3, 4, 5, 6]]

/-- **Both fragments of a request are answered**, the second one for its data: its first four bytes
come back as the type and the checksum of a reply. Upstream, both are requests of their own. -/
theorem fragments_answered :
    SentAs (.new 198 18 0 2) (.new 8 8 8 8) 0
        (requestFragments.flatMap fun fragment => fragment.drop 20) requestFragments
      ∧ Verifies (wordSum (requestFragments.flatMap fun fragment => fragment.drop 20))
      ∧ requestFragments.map (IcmpPath.system none).answer = answeredFragments.map some
      ∧ requestFragments.map (IcmpPath.mixed ⟨[], [], true⟩).answer = answeredFragments.map some
      ∧ SentAs (.new 8 8 8 8) (.new 198 18 0 2) 0
        (answeredFragments.flatMap fun fragment => fragment.drop 20) answeredFragments
      ∧ (answeredFragments.flatMap fun fragment => fragment.drop 20).drop 8
        ≠ (requestFragments.flatMap fun fragment => fragment.drop 20).drop 8
      ∧ ¬ AnswersWhole (.system none) requestFragments
      ∧ ¬ AnswersWhole (.mixed ⟨[], [], true⟩) requestFragments
      ∧ ¬ AnswersWhole .forwarder requestFragments := by
  have answered : SentAs (.new 8 8 8 8) (.new 198 18 0 2) 0
      (answeredFragments.flatMap fun fragment => fragment.drop 20) answeredFragments := by
    refine @SentAs.more _ _ 0 _ [0, 0, 255, 247, 0, 7, 0, 1, 0, 0, 0, 0, 0, 0, 0, 0] _ _ ?_
      (by unfold MoreFragments; decide) (by decide) (by decide) (.last ?_
      (by unfold MoreFragments; decide))
    · constructor <;> decide
    · constructor <;> decide
  have mistaken : ∀ path : IcmpPath, path.Admits (.new 198 18 0 2) (.new 8 8 8 8) →
      ¬ AnswersWhole path requestFragments := by
    intro path admits answers
    have kept := (answersWhole_packets_iff path (by decide)).mp answers
    exact kept requestFragments[1] (by decide) ⟨by decide, by decide, admits⟩
  exact ⟨sentAs_requestFragments, by decide, by decide, by decide, answered, by decide,
    mistaken _ ⟨nofun, by decide⟩, mistaken _ ⟨by decide, by decide⟩, mistaken _ trivial⟩

end RsTun.Icmp
