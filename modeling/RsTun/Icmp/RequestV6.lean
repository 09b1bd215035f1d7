/-
**Echo Requests over IPv6 on the three ways to a reply.**

`process_ipv6` and `run_mixed` go over the extension headers and call `handle_icmpv6`, which reads
the ICMP header behind the fixed header; they call it only when there is nothing in between.
`IcmpForwarder::handle_packet` looks at the fixed header alone.

* `treatsV6_iff` — the packets that a way treats as an Echo Request. `run_mixed` does not ask for a
  global destination, as `process_ipv6` does.
* `turnedV6_of_answered`, `TurnedV6.echoReplyV6_iff` — a reply is its request turned round, and
  complete when the request is as long as its header says.
* **`echoesV6`** — which packets are treated, and what is written for them.
-/

import RsTun.Icmp.FragmentedRequest

namespace RsTun.Icmp

open Library Library.Bytes Packet SystemNat Mixed Netstack

/-- `handle_icmpv6`, up to the packet that it writes. -/
def handleIcmpv6 (raw : Bytes) (srcIp dstIp : Ipv6Addr) : Option Bytes :=
  if raw.length < 48 then none
  else if byteAt raw 40 ≠ 128 ∨ byteAt raw 41 ≠ 0 then none
  else
    let pkt := overwrite raw 8 dstIp.bytes
    let pkt := overwrite pkt 24 srcIp.bytes
    let pkt := overwrite pkt 40 [129]
    some (recomputeIcmpv6Checksum pkt)

/-- The call of `process_ipv6` carried out, where it is that of `handle_icmpv6`. -/
def answerIpv6 (raw : Bytes) : Ipv6Call → Option Bytes
  | .icmp src dst => handleIcmpv6 raw src dst
  | _ => none

/-- The call of `run_mixed` carried out, where it is that of `handle_icmpv6`. -/
def answerMixedV6 (raw : Bytes) : MixedCall → Option Bytes
  | .icmpv6 src dst => handleIcmpv6 raw src dst
  | _ => none

namespace IcmpPath

/-- The reply of `handle_icmpv6`, where the dispatcher calls it and it writes one. -/
def answerV6 : IcmpPath → Bytes → Option Bytes
  | system _, raw => answerIpv6 raw (dispatchIpv6 raw)
  | mixed config, raw => answerMixedV6 raw (mixedDispatch config raw)
  | forwarder, _ => none

/-- A packet is treated as an Echo Request: it is answered, or forwarded upstream. -/
def TreatsV6 (path : IcmpPath) (raw : Bytes) : Prop :=
  (∃ reply, path.answerV6 raw = some reply) ∨ ∃ request, path.forwarded raw = some request

/-- The addresses between which the filters of the dispatcher let requests pass. -/
def AdmitsV6 : IcmpPath → (src dst : Ipv6Addr) → Prop
  | system _, _, dst => isGlobalUnicastV6 dst = true
  | mixed config, src, dst => ipInLocalSubnetsV6 src config.localSubnetsV6 = false
      ∧ ipInLocalSubnetsV6 dst config.localSubnetsV6 = false
  | forwarder, _, _ => True

end IcmpPath

/-- The fixed header is followed by what begins like an Echo Request. -/
def BeginsLikeRequestV6 (raw : Bytes) : Prop :=
  48 ≤ raw.length ∧ byteAt raw 6 = ipprotoIcmpv6 ∧ byteAt raw 40 = icmpv6EchoRequest
    ∧ byteAt raw 41 = 0

instance (raw : Bytes) : Decidable (BeginsLikeRequestV6 raw) :=
  inferInstanceAs (Decidable (_ ∧ _))

variable {raw reply : Bytes}

/-! ### Where the walk ends -/

/-- The walk over a packet without extension headers. -/
theorem extensionWalk_icmpv6 (direct : byteAt raw 6 = ipprotoIcmpv6) :
    skipIpv6ExtensionHeaders (byteAt raw 6) (raw.drop 40)
      = ⟨ipprotoIcmpv6, raw.drop 40, false, true⟩ := by
  rw [direct]
  exact skipIpv6ExtensionHeaders_of_direct _ (by decide) (by decide)

/-- **Behind extension headers** no ICMP message is as long as the payload. -/
theorem shorter_of_extended (extended : byteAt raw 6 ≠ ipprotoIcmpv6)
    (accepted : ¬ ((extensionWalk raw).isFragment = true
      ∨ (extensionWalk raw).transportPresent = false))
    (found : (extensionWalk raw).protocol = ipprotoIcmpv6) :
    (extensionWalk raw).payload.length ≠ raw.length - 40 := by
  intro whole
  have present : (extensionWalk raw).transportPresent = true :=
    Bool.not_eq_false _ ▸ (not_or.mp accepted).2
  have shorter := skipIpv6ExtensionHeaders_shortens (skippable_of_extended found extended) present
  rw [← extensionWalk, whole, List.length_drop] at shorter
  omega

/-! ### Who is answered -/

/-- A reply to the packet of `handle_icmpv6`, called with what the dispatcher reads. -/
def AnsweredByV6 (raw reply : Bytes) : Prop :=
  40 ≤ raw.length ∧ byteAt raw 6 = ipprotoIcmpv6
    ∧ handleIcmpv6 raw (.ofSlice 16 raw 8) (.ofSlice 16 raw 24) = some reply

/-- **The replies of `process_ipv6`.** -/
theorem answerV6_system_iff (inet4Broadcast : Option Ipv4Addr) (reply : Bytes) :
    (IcmpPath.system inet4Broadcast).answerV6 raw = some reply
      ↔ AnsweredByV6 raw reply
        ∧ (IcmpPath.system inet4Broadcast).AdmitsV6 (.ofSlice 16 raw 8) (.ofSlice 16 raw 24) := by
  unfold IcmpPath.answerV6 IcmpPath.AdmitsV6 AnsweredByV6 dispatchIpv6
  dsimp only
  by_cases short : raw.length < 40
  · rw [if_pos short]
    refine iff_of_false (fun answered => ?_) fun answered => ?_
    · cases answered
    · exact absurd answered.1.1 (Nat.not_le.mpr short)
  · rw [if_neg short]
    by_cases direct : byteAt raw 6 = ipprotoIcmpv6
    · have noTcp : ipprotoIcmpv6 ≠ ipprotoTcp := by decide
      have noUdp : ipprotoIcmpv6 ≠ ipprotoUdp := by decide
      rw [extensionWalk_icmpv6 direct]
      dsimp only
      rw [if_neg (by simp), if_neg noTcp, if_neg noUdp, if_pos rfl]
      cases global : isGlobalUnicastV6 (.ofSlice 16 raw 24) with
      | false =>
          rw [if_pos rfl]
          refine iff_of_false (fun answered => ?_) fun answered => ?_
          · cases answered
          · exact Bool.false_ne_true answered.2
      | true =>
          rw [if_neg (Ne.symm Bool.false_ne_true), if_pos List.length_drop]
          exact ⟨fun answered => ⟨⟨Nat.not_lt.mp short, direct, answered⟩, rfl⟩,
            fun answered => answered.1.2.2⟩
    · refine iff_of_false (fun answered => ?_) fun answered => direct answered.1.2.1
      rw [← extensionWalk] at answered
      split at answered
      case isTrue => cases answered
      case isFalse accepted =>
        have shorter := shorter_of_extended direct accepted
        repeat' split at answered
        all_goals first | cases answered | (rename_i found _ whole; exact shorter found whole)

/-- The local subnet filter on an IPv6 packet with its whole header. -/
theorem filters_v6 (config : ReadLoopConfig) (version : byteAt raw 0 >>> 4 = 6)
    (long : 40 ≤ raw.length) : config.filters raw = false
      ↔ ipInLocalSubnetsV6 (.ofSlice 16 raw 8) config.localSubnetsV6 = false
        ∧ ipInLocalSubnetsV6 (.ofSlice 16 raw 24) config.localSubnetsV6 = false := by
  have present : raw ≠ [] := List.ne_nil_of_length_pos (by omega)
  have other : byteAt raw 0 >>> 4 ≠ 4 := by
    rw [version]
    decide
  unfold ReadLoopConfig.filters isLocalSubnetPacket
  rw [if_neg present, if_neg other, if_pos version, if_neg (by omega)]
  dsimp only
  obtain ⟨subnetsV4, subnets, icmpForwarder⟩ := config
  cases subnets with
  | nil =>
      have outside : ∀ addr, ipInLocalSubnetsV6 addr [] = false := fun addr => rfl
      simp only [outside, Bool.or_self, Bool.and_false, and_self]
  | cons subnet subnets =>
      simp only [List.isEmpty_cons, Bool.not_false, Bool.or_true, Bool.true_and,
        Bool.or_eq_false_iff]

/-- **The replies of `run_mixed`** to IPv6 packets. -/
theorem answerV6_mixed_iff (config : ReadLoopConfig) (reply : Bytes)
    (version : byteAt raw 0 >>> 4 = 6) :
    (IcmpPath.mixed config).answerV6 raw = some reply
      ↔ AnsweredByV6 raw reply
        ∧ (IcmpPath.mixed config).AdmitsV6 (.ofSlice 16 raw 8) (.ofSlice 16 raw 24) := by
  have other : byteAt raw 0 >>> 4 ≠ 4 := by
    rw [version]
    decide
  unfold IcmpPath.answerV6 IcmpPath.AdmitsV6 AnsweredByV6 mixedDispatch
  dsimp only
  rw [if_neg other, if_pos version]
  by_cases short : raw.length < 40
  · rw [if_pos short]
    refine iff_of_false (fun answered => ?_) fun answered => ?_
    · repeat' split at answered
      all_goals cases answered
    · exact absurd answered.1.1 (Nat.not_le.mpr short)
  · have present : raw ≠ [] := List.ne_nil_of_length_pos (by omega)
    rw [← filters_v6 config version (Nat.not_lt.mp short), if_neg present, if_neg short]
    cases config.filters raw with
    | true =>
        rw [if_pos rfl]
        refine iff_of_false (fun answered => ?_) fun answered => ?_
        · cases answered
        · exact Bool.false_ne_true answered.2.symm
    | false =>
        rw [if_neg Bool.false_ne_true]
        by_cases direct : byteAt raw 6 = ipprotoIcmpv6
        · have noTcp : ipprotoIcmpv6 ≠ ipprotoTcp := by decide
          have noUdp : ipprotoIcmpv6 ≠ ipprotoUdp := by decide
          rw [extensionWalk_icmpv6 direct]
          dsimp only
          rw [if_neg (by simp), if_neg noTcp, if_neg noUdp, if_pos ⟨rfl, List.length_drop⟩]
          exact ⟨fun answered => ⟨⟨Nat.not_lt.mp short, direct, answered⟩, rfl⟩,
            fun answered => answered.1.2.2⟩
        · refine iff_of_false (fun answered => ?_) fun answered => direct answered.1.2.1
          rw [← extensionWalk] at answered
          split at answered
          case isTrue => cases answered
          case isFalse accepted =>
            have shorter := shorter_of_extended direct accepted
            repeat' split at answered
            all_goals first | cases answered | (rename_i both; exact shorter both.1 both.2)

/-- **`handle_icmpv6` answers** what begins like an Echo Request behind the fixed header. -/
theorem handleIcmpv6_isSome_iff (src dst : Ipv6Addr) :
    (∃ reply, handleIcmpv6 raw src dst = some reply)
      ↔ 48 ≤ raw.length ∧ byteAt raw 40 = icmpv6EchoRequest ∧ byteAt raw 41 = 0 := by
  unfold handleIcmpv6
  split
  case isTrue short =>
    refine iff_of_false (fun answered => ?_) fun begins => by omega
    obtain ⟨reply, same⟩ := answered
    cases same
  case isFalse long =>
    split
    case isTrue other =>
      refine iff_of_false (fun answered => ?_) fun begins => ?_
      · obtain ⟨reply, same⟩ := answered
        cases same
      · exact other.elim (fun differs => differs begins.2.1) fun differs => differs begins.2.2
    case isFalse other =>
      obtain ⟨type, code⟩ := not_or.mp other
      exact iff_of_true ⟨_, rfl⟩ ⟨Nat.not_lt.mp long, not_not.mp type, not_not.mp code⟩

/-- **The IPv6 packets that the forwarder takes.** -/
theorem handlePacketV6_isSome_iff (version : byteAt raw 0 >>> 4 = 6) :
    (∃ request, handlePacket raw = some request) ↔ BeginsLikeRequestV6 raw := by
  have other : byteAt raw 0 >>> 4 ≠ 4 := by
    rw [version]
    decide
  unfold handlePacket handleV6 BeginsLikeRequestV6
  by_cases short : raw.length < 48
  · rw [if_pos short]
    refine iff_of_false (fun accepted => ?_) fun begins => by omega
    obtain ⟨request, same⟩ := accepted
    repeat' split at same
    all_goals cases same
  · have present : raw ≠ [] := List.ne_nil_of_length_pos (by omega)
    rw [if_neg present, if_neg other, if_pos version, if_neg short]
    split
    case isTrue differs =>
      refine iff_of_false (fun accepted => ?_) fun begins => ?_
      · obtain ⟨request, same⟩ := accepted
        cases same
      · exact differs.elim (fun protocol => protocol begins.2.1) fun rest =>
          rest.elim (fun type => type begins.2.2.1) fun code => code begins.2.2.2
    case isFalse same =>
      obtain ⟨protocol, rest⟩ := not_or.mp same
      obtain ⟨type, code⟩ := not_or.mp rest
      exact iff_of_true ⟨_, rfl⟩
        ⟨Nat.not_lt.mp short, not_not.mp protocol, not_not.mp type, not_not.mp code⟩

/-- **The IPv6 packets that are treated as Echo Requests.** -/
theorem treatsV6_iff (path : IcmpPath) (version : byteAt raw 0 >>> 4 = 6) :
    path.TreatsV6 raw ↔ BeginsLikeRequestV6 raw
      ∧ path.AdmitsV6 (.ofSlice 16 raw 8) (.ofSlice 16 raw 24) := by
  -- both dispatchers leave it to `handle_icmpv6`
  have answered : (∃ reply, AnsweredByV6 raw reply) ↔ BeginsLikeRequestV6 raw := by
    unfold AnsweredByV6 BeginsLikeRequestV6
    rw [exists_and_left, exists_and_left, handleIcmpv6_isSome_iff]
    constructor
    · rintro ⟨-, protocol, long, begins⟩
      exact ⟨long, protocol, begins⟩
    · rintro ⟨long, protocol, begins⟩
      exact ⟨by omega, protocol, long, begins⟩
  unfold IcmpPath.TreatsV6
  cases path with
  | system inet4Broadcast =>
      simp only [answerV6_system_iff, exists_and_right, answered, IcmpPath.forwarded, reduceCtorEq,
        exists_false, or_false]
  | mixed config =>
      simp only [answerV6_mixed_iff _ _ version, exists_and_right, answered, IcmpPath.forwarded,
        reduceCtorEq, exists_false, or_false]
  | forwarder =>
      simp only [IcmpPath.answerV6, IcmpPath.forwarded, reduceCtorEq, exists_false, false_or,
        handlePacketV6_isSome_iff version, IcmpPath.AdmitsV6, and_true]

/-! ### What is written -/

/-- The bytes that a reply has of its own: the addresses, the type and the checksum. -/
def replyFieldsV6 : Set Nat := {index | 8 ≤ index ∧ index < 41 ∨ 42 ≤ index ∧ index < 44}

/-- The addresses of the packet are exchanged, and its type is that of a reply. -/
structure ExchangedV6 (src dst : Ipv6Addr) (raw pkt : Bytes) : Prop where
  agree : AgreeOff replyFieldsV6 raw pkt
  source : slice pkt 8 16 = dst.bytes
  destination : slice pkt 24 16 = src.bytes
  type : byteAt pkt 40 = icmpv6EchoReply

/-- A packet turned round: it has a valid checksum, too. -/
structure TurnedV6 (src dst : Ipv6Addr) (raw reply : Bytes) : Prop
    extends ExchangedV6 src dst raw reply where
  icmpChecksum : TransportChecksumValidV6 ipprotoIcmpv6 reply 40

theorem mem_replyFieldsV6 {index : Nat} :
    index ∈ replyFieldsV6 ↔ 8 ≤ index ∧ index < 41 ∨ 42 ≤ index ∧ index < 44 := Iff.rfl

variable {src dst : Ipv6Addr}

/-- **The three assignments of `handle_icmpv6`.** -/
theorem exchangedV6_overwrites (long : 48 ≤ raw.length) : ExchangedV6 src dst raw
    (overwrite (overwrite (overwrite raw 8 dst.bytes) 24 src.bytes) 40 [129]) := by
  have sizes := And.intro src.length_eq dst.length_eq
  have fitsDst : 8 + dst.bytes.length ≤ raw.length := by omega
  have one : (overwrite raw 8 dst.bytes).length = raw.length := length_overwrite fitsDst
  have fitsSrc : 24 + src.bytes.length ≤ (overwrite raw 8 dst.bytes).length := by omega
  have two : (overwrite (overwrite raw 8 dst.bytes) 24 src.bytes).length = raw.length := by
    rw [length_overwrite fitsSrc, one]
  have fitsType : 40 + ([129] : Bytes).length
      ≤ (overwrite (overwrite raw 8 dst.bytes) 24 src.bytes).length := by
    show 41 ≤ _
    omega
  have writtenDst := slice_overwrite_self fitsDst
  have writtenSrc := slice_overwrite_self fitsSrc
  rw [sizes.2] at writtenDst
  rw [sizes.1] at writtenSrc
  refine ⟨?_, ?_, ?_, byteAt_overwrite_singleton (by omega)⟩
  · have first : AgreeOff replyFieldsV6 _ _ := agreeOff_overwrite fitsDst
      fun index low high => Or.inl ⟨low, by omega⟩
    have second : AgreeOff replyFieldsV6 _ _ := agreeOff_overwrite fitsSrc
      fun index low high => Or.inl ⟨by omega, by omega⟩
    have third : AgreeOff replyFieldsV6 _ _ := agreeOff_overwrite fitsType
      fun index low high => Or.inl ⟨by omega, high⟩
    exact (first.trans second).trans third
  · rw [slice_overwrite_of_disjoint fitsType (Or.inl (by decide)),
      slice_overwrite_of_disjoint fitsSrc (Or.inl (by decide)), writtenDst]
  · rw [slice_overwrite_of_disjoint fitsType (Or.inl (by decide)), writtenSrc]

/-- The checksum behind them. -/
theorem ExchangedV6.recomputed {pkt : Bytes} (exchanged : ExchangedV6 src dst raw pkt)
    (long : 48 ≤ raw.length) : TurnedV6 src dst raw (recomputeIcmpv6Checksum pkt) := by
  have summed := agreeOff_recomputeIcmpv6Checksum pkt
  have touched : ∀ index, index ∈ wordAt 42 ↔ 42 ≤ index ∧ index < 44 := fun index => Iff.rfl
  exact {
    agree := exchanged.agree.trans (summed.mono fun index inside => Or.inr inside)
    source := by
      rw [summed.slice_eq fun index low high => by rw [touched]; omega, exchanged.source]
    destination := by
      rw [summed.slice_eq fun index low high => by rw [touched]; omega, exchanged.destination]
    type := by rw [summed.byteAt_eq (by rw [touched]; omega), exchanged.type]
    icmpChecksum := icmpv6ChecksumValid_recompute (by rw [exchanged.agree.1]; exact long) }

/-- **A packet turned round** is a complete Echo Reply if and only if it is as long as its header
says: the length is that of the request. -/
theorem TurnedV6.echoReplyV6_iff (turned : TurnedV6 src dst raw reply)
    (version : byteAt raw 0 >>> 4 = 6) (begins : BeginsLikeRequestV6 raw) :
    EchoReplyV6 dst src reply ↔ be16 raw 4 = raw.length - 40 := by
  obtain ⟨long, next, -, code⟩ := begins
  have agree := turned.agree
  have stated : be16 reply 4 = be16 raw 4 :=
    agree.be16_eq (by rw [mem_replyFieldsV6]; omega) (by rw [mem_replyFieldsV6]; omega)
  constructor
  · intro complete
    rw [← stated, complete.payloadLength, agree.1]
  · intro whole
    exact {
      version := by rw [agree.byteAt_eq (by rw [mem_replyFieldsV6]; omega), version]
      complete := by rw [agree.1]; exact long
      payloadLength := by rw [stated, whole, agree.1]
      nextHeader := by rw [agree.byteAt_eq (by rw [mem_replyFieldsV6]; omega), next]
      source := turned.source
      destination := turned.destination
      type := turned.type
      code := by rw [agree.byteAt_eq (by rw [mem_replyFieldsV6]; omega), code]
      icmpChecksum := turned.icmpChecksum }

/-- **What `handle_icmpv6` writes** is the packet turned round. -/
theorem turnedV6_of_answered (answered : handleIcmpv6 raw src dst = some reply) :
    TurnedV6 src dst raw reply := by
  obtain ⟨long, request, code⟩ := (handleIcmpv6_isSome_iff src dst).mp ⟨reply, answered⟩
  have other : ¬ (byteAt raw 40 ≠ 128 ∨ byteAt raw 41 ≠ 0) :=
    not_or.mpr ⟨not_not.mpr request, not_not.mpr code⟩
  rw [handleIcmpv6, if_neg (Nat.not_lt.mpr long), if_neg other] at answered
  cases answered
  exact (exchangedV6_overwrites long).recomputed long

/-- **Echo Requests over IPv6.** Every way treats exactly the packets that begin like an Echo
Request behind the fixed header, between addresses that its dispatcher admits: a request behind
extension headers is not treated. What `handle_icmpv6` writes is the packet turned round, and a
complete Echo Reply if and only if the packet is as long as its header says. -/
theorem echoesV6 (path : IcmpPath) (raw : Bytes) (version : byteAt raw 0 >>> 4 = 6) :
    (path.TreatsV6 raw ↔ BeginsLikeRequestV6 raw
      ∧ path.AdmitsV6 (.ofSlice 16 raw 8) (.ofSlice 16 raw 24))
      ∧ ∀ reply, path.answerV6 raw = some reply →
        TurnedV6 (.ofSlice 16 raw 8) (.ofSlice 16 raw 24) raw reply
          ∧ (EchoReplyV6 (.ofSlice 16 raw 24) (.ofSlice 16 raw 8) reply
            ↔ be16 raw 4 = raw.length - 40) := by
  refine ⟨treatsV6_iff path version, fun reply answered => ?_⟩
  have called : AnsweredByV6 raw reply := by
    cases path with
    | system inet4Broadcast => exact ((answerV6_system_iff inet4Broadcast reply).mp answered).1
    | mixed config => exact ((answerV6_mixed_iff config reply version).mp answered).1
    | forwarder => cases answered
  have turned := turnedV6_of_answered called.2.2
  have begins := ((treatsV6_iff path version).mp (Or.inl ⟨reply, answered⟩)).1
  exact ⟨turned, turned.echoReplyV6_iff version begins⟩

/-- An Echo Request without data from fd00::2 to all nodes, ff02::1. -/
def multicastRequest : Bytes :=
  [0x60, 0, 0, 0, 0, 8, 58, 64] ++ (0xfd :: 0 :: List.replicate 13 0 ++ [2])
    ++ (0xff :: 2 :: List.replicate 13 0 ++ [1]) ++ [128, 0, 0, 0, 0, 7, 0, 1]

/-- **`run_mixed` answers what is sent to a group**, from the address of the group; `process_ipv6`
does not. -/
theorem echoesV6_multicast : (IcmpPath.system none).answerV6 multicastRequest = none
    ∧ ∃ reply, (IcmpPath.mixed ⟨[], [], true⟩).answerV6 multicastRequest = some reply
      ∧ EchoReplyV6 (.ofSlice 16 multicastRequest 24) (.ofSlice 16 multicastRequest 8) reply := by
  have both := echoesV6 (.mixed ⟨[], [], true⟩) multicastRequest (by decide)
  have treated := both.1.mpr ⟨by decide, by decide, by decide⟩
  refine ⟨by decide, ?_⟩
  obtain ⟨reply, answered⟩ | ⟨request, forwarded⟩ := treated
  · exact ⟨reply, answered, (both.2 reply answered).2.mpr (by decide)⟩
  · cases forwarded

end RsTun.Icmp
