/-
**The UDP checksums that are emitted.**

A UDP checksum of zero stands for none, so that a sum that comes out as zero is sent as `0xFFFF`.
Five paths compute the checksum of a UDP datagram: the two builders of replies, the two that use a
template, and the split of a GSO packet, which completes the checksum of a whole packet or computes
that of each segment. All of them store the complement of the folded sum as it is.

* `Emission` — a call on one of these paths.
* `Emission.stored` — what the path stores is the complement of the folded sum of the words of the
  datagram.
* **`udp_checksum_ne_zero_iff`** — the stored checksum is not zero **exactly** when the words of the
  datagram do not add up to a positive multiple of 65535.
* `zero_checksum_emitted` — a reply with a checksum of zero.
-/

import RsTun.Gso.SplitSafe
import RsTun.SystemNat.EmittedReply

namespace RsTun.Gso

open Library Library.Bytes Library.OnesComplement Packet SystemNat

/-! ### The words of a datagram -/

/-- The words of a reply and of its pseudo header. -/
def replyWords (src dst : Bytes) (pseudoLength srcPort dstPort : Nat) (payload : Bytes) : Nat :=
  wordSum src + wordSum dst + 17 + pseudoLength + srcPort + dstPort
    + (8 + payload.length) % 65536 + wordSum payload

/-- What the segment loop of a UDP packet does not change. -/
def udpPlan (input : Bytes) (options : GsoOptions) : SegmentPlan :=
  if byteAt input 0 >>> 4 = 4 then kernelPlan input options 12 4
  else kernelPlan input options 8 16

/-- The words of the addresses of a packet. -/
def addressWords (input : Bytes) : Nat :=
  if byteAt input 0 >>> 4 = 4 then wordSum (slice input 12 4) + wordSum (slice input 16 4)
  else wordSum (slice input 8 16) + wordSum (slice input 24 16)

/-- The words of segment `index` and of its pseudo header. -/
def segmentWords (input : Bytes) (options : GsoOptions) (index : Nat) : Nat :=
  let next := options.hdrLen.toNat + index * options.gsoSize.toNat
  addressWords input + 17
    + (options.hdrLen.toNat - options.csumStart.toNat + segmentDataLen input options next)
    + wordSum ((clearedSegment input options (udpPlan input options) index next).drop
      options.csumStart.toNat)

/-- A call that emits a UDP datagram with a computed checksum. -/
inductive Emission where
  /-- `build_udp_reply_v4`. -/
  | replyV4 (src : Ipv4Addr) (srcPort : UInt16) (dst : Ipv4Addr) (dstPort : UInt16)
      (payload : Bytes)
  /-- `build_udp_reply_v6`. -/
  | replyV6 (src : Ipv6Addr) (srcPort : UInt16) (dst : Ipv6Addr) (dstPort : UInt16)
      (payload : Bytes)
  /-- `build_udp_reply_v4_with_template`. -/
  | templateV4 (template : Bytes) (replySrc : Ipv4Addr) (replyPort : UInt16) (payload : Bytes)
  /-- `build_udp_reply_v6_with_template`. -/
  | templateV6 (template : Bytes) (replySrc : Ipv6Addr) (replyPort : UInt16) (payload : Bytes)
  /-- `gso_split` of a packet that is not segmented. -/
  | whole (input : Bytes) (options : GsoOptions) (outBufs : Nat)
  /-- Segment `index` of `gso_split`. -/
  | segment (input : Bytes) (options : GsoOptions) (outBufs index : Nat)

namespace Emission

/-- The call emits the packet, with a computed checksum. -/
def Emits (pkt : Bytes) : Emission → Prop
  | replyV4 src srcPort dst dstPort payload =>
      buildUdpReplyV4 src srcPort dst dstPort payload = .ok (some pkt)
  | replyV6 src srcPort dst dstPort payload =>
      buildUdpReplyV6 src srcPort dst dstPort payload = .ok (some pkt)
  | templateV4 template replySrc replyPort payload =>
      byteAt template 0 >>> 4 = 4
        ∧ buildUdpReplyV4WithTemplate template replySrc replyPort payload = .ok (some pkt)
  | templateV6 template replySrc replyPort payload =>
      byteAt template 0 >>> 4 = 6
        ∧ buildUdpReplyV6WithTemplate template replySrc replyPort payload = .ok (some pkt)
  | whole input options outBufs =>
      (options.gsoType = .none ∨ input.length - options.hdrLen.toNat < options.gsoSize.toNat)
        ∧ options.needsCsum = true ∧ gsoSplit input options outBufs = .ok [pkt]
  | segment input options outBufs index =>
      options.gsoType = .udpL4 ∧ options.gsoSize.toNat ≤ input.length - options.hdrLen.toNat
        ∧ ∃ segments, gsoSplit input options outBufs = .ok segments
          ∧ segments[index]? = some pkt

/-- Where the checksum of the packet is. -/
def checksumAt : Emission → Nat
  | replyV4 .. => 26
  | replyV6 .. => 46
  | templateV4 template _ _ _ => headerLength template + 6
  | templateV6 .. => 46
  | whole _ options _ => options.csumStart.toNat + options.csumOffset.toNat
  | segment _ options _ _ => options.csumStart.toNat + options.csumOffset.toNat

/-- The words that the checksum is taken of: those of the datagram, its checksum field cleared, and
of the pseudo header. For a packet that is not segmented, the field holds the sum of the pseudo
header. -/
def words : Emission → Nat
  | replyV4 src srcPort dst dstPort payload =>
      replyWords src.bytes dst.bytes ((8 + payload.length) % 65536) srcPort.toNat dstPort.toNat
        payload
  | replyV6 src srcPort dst dstPort payload =>
      replyWords src.bytes dst.bytes ((8 + payload.length) / 65536 % 65536
        + (8 + payload.length) % 65536) srcPort.toNat dstPort.toNat payload
  | templateV4 template replySrc replyPort payload =>
      replyWords replySrc.bytes (slice template 12 4) ((8 + payload.length) % 65536)
        replyPort.toNat (be16 template (headerLength template)) payload
  | templateV6 template replySrc replyPort payload =>
      replyWords replySrc.bytes (slice template 8 16) ((8 + payload.length) / 65536 % 65536
        + (8 + payload.length) % 65536) replyPort.toNat (be16 template 40) payload
  | whole input options _ => completedSum input options
  | segment input options _ index => segmentWords input options index

end Emission

/-! ### Replies -/

/-- The words of the datagram of a reply. -/
theorem wordSum_replyDatagram {srcPort dstPort : Nat} (payload : Bytes) (smallSrc : srcPort < 65536)
    (smallDst : dstPort < 65536) :
    wordSum (replyDatagram srcPort dstPort payload)
      = srcPort + dstPort + (8 + payload.length) % 65536 + wordSum payload := by
  have word : ∀ number, wordSum (encode 2 number) = number % 65536 := fun number => by
    rw [wordSum_pair (length_encode 2 number), value_encode]
    rfl
  have zeros : wordSum [0, 0] = 0 := rfl
  unfold replyDatagram
  rw [wordSum_append payload (by simp only [List.length_append, length_encode, List.length_cons,
      List.length_nil]),
    wordSum_append _ (by simp only [List.length_append, length_encode]),
    wordSum_append _ (by simp only [List.length_append, length_encode]),
    wordSum_append _ (by rw [length_encode]), word, word, word, zeros, Nat.mod_mod,
    Nat.mod_eq_of_lt smallSrc, Nat.mod_eq_of_lt smallDst, Nat.add_zero]

theorem udpSumV4_replyDatagram {src dst : Bytes} {srcPort dstPort : Nat} (payload : Bytes)
    (evenSrc : src.length % 2 = 0) (evenDst : dst.length % 2 = 0) (smallSrc : srcPort < 65536)
    (smallDst : dstPort < 65536) :
    udpSumV4 src dst (replyDatagram srcPort dstPort payload)
      = replyWords src dst ((8 + payload.length) % 65536) srcPort dstPort payload := by
  have proto : ipprotoUdp.toNat = 17 := rfl
  rw [udpSumV4, wordSum_pseudoV4 _ _ evenSrc evenDst, wordSum_replyDatagram _ smallSrc smallDst,
    length_replyDatagram, replyWords, proto]
  omega

theorem udpSumV6_replyDatagram {src dst : Bytes} {srcPort dstPort : Nat} (payload : Bytes)
    (smallSrc : srcPort < 65536) (smallDst : dstPort < 65536) :
    udpSumV6 src dst (replyDatagram srcPort dstPort payload)
      = replyWords src dst ((8 + payload.length) / 65536 % 65536 + (8 + payload.length) % 65536)
        srcPort dstPort payload := by
  have proto : ipprotoUdp.toNat = 17 := rfl
  rw [udpSumV6, wordSum_replyDatagram _ smallSrc smallDst, length_replyDatagram, replyWords, proto]
  omega

/-! ### Segments -/

section Segments

variable {input : Bytes} {options : GsoOptions} {plan : SegmentPlan}

/-- What the segment loop returns, turn by turn. -/
theorem segmentLoop_get : ∀ {buffers i next : Nat} {segments : List Bytes},
    segmentLoop input options plan buffers i next = .ok segments →
    ∀ {index : Nat} {segment : Bytes}, segments[index]? = some segment →
      next + index * options.gsoSize.toNat ≤ input.length
        ∧ gsoSegment input options plan (i + index) (next + index * options.gsoSize.toNat)
          = .ok segment
  | 0, i, next, segments, done, index, segment, found => by
      obtain ⟨-, rfl⟩ := segmentLoop_zero done
      cases found
  | buffers + 1, i, next, segments, done, index, segment, found => by
      obtain ⟨-, rfl⟩ | ⟨first, rest, more, turn, looped, rfl⟩ := segmentLoop_succ done
      · cases found
      · cases index with
        | zero =>
            obtain rfl := Option.some.inj found
            rw [Nat.zero_mul, Nat.add_zero, Nat.add_zero]
            exact ⟨Nat.le_of_lt more, turn⟩
        | succ index =>
            have below := segmentLoop_get looped found
            rw [Nat.succ_mul, Nat.add_comm (index * _), ← Nat.add_assoc, Nat.add_comm index 1,
              ← Nat.add_assoc]
            exact below

theorem length_clearedSegment {i next : Nat} (header : options.hdrLen.toNat ≤ input.length)
    (begun : next ≤ input.length)
    (fits : SegmentFits input options plan.ipVersion plan.protocol i next) :
    (clearedSegment input options plan i next).length = segmentTotal input options next := by
  have started := @length_start input options next header
  have room := fits.ipHeader
  rw [← started] at room
  have ip := @length_ipHeaderBytes options i (segmentTotal input options next) _ _ room
  have transport := fits.transport
  rw [← started, ← ip] at transport
  have headers := (length_transportHeaderBytes transport).trans (ip.trans started)
  have stop := @segmentDataLen_le input options next begun
  have filled := @length_overwrite _ (slice input next (segmentDataLen input options next))
    options.hdrLen.toNat (by
      rw [headers, length_slice stop]
      exact Nat.le_refl _)
  unfold clearedSegment
  dsimp only
  rw [length_overwrite_word rfl, filled, headers]
  rw [filled, headers]
  exact fits.csumField

/-- **The checksum of a segment.** -/
theorem segmentBytes_checksum {i next : Nat} (header : options.hdrLen.toNat ≤ input.length)
    (begun : next ≤ input.length)
    (fits : SegmentFits input options plan.ipVersion plan.protocol i next) :
    be16 (segmentBytes input options plan i next)
        (options.csumStart.toNat + options.csumOffset.toNat)
      = complement (foldCarries (segmentSum input options plan i next)) := by
  unfold segmentBytes
  rw [be16_overwrite, Nat.mod_eq_of_lt (complement_lt _)]
  rw [length_clearedSegment header begun fits]
  exact fits.csumField

/-- The loop behind the two addresses, which are read first. -/
theorem addressedLoop_ok {outBufs srcOff addrLen : Nat} {segments : List Bytes}
    (udp : options.gsoType = .udpL4)
    (done : (do
      let firstTcpSeqNum ← (.ok 0 : Checked GsoError Nat)
      let pseudoSumBase := pseudoHeaderChecksum 17
        (← Checked.range input srcOff (srcOff + addrLen))
        (← Checked.range input (srcOff + addrLen) (srcOff + addrLen * 2)) 0
      segmentLoop input options ⟨byteAt input 0 >>> 4, 17, firstTcpSeqNum, pseudoSumBase⟩ outBufs 0
        options.hdrLen.toNat : Checked GsoError (List Bytes)) = .ok segments) :
    srcOff + addrLen * 2 ≤ input.length
      ∧ segmentLoop input options (kernelPlan input options srcOff addrLen) outBufs 0
        options.hdrLen.toNat = .ok segments := by
  obtain ⟨seq, first, later⟩ := Checked.bind_eq_ok.mp done
  cases first
  obtain ⟨src, readSrc, later⟩ := Checked.bind_eq_ok.mp later
  obtain ⟨dst, readDst, looped⟩ := Checked.bind_eq_ok.mp later
  obtain ⟨-, rfl⟩ := (Checked.guarded_range (Nat.le_add_right _ _)).ok_of_ok readSrc
  obtain ⟨inside, rfl⟩ := (Checked.guarded_range (by omega)).ok_of_ok readDst
  refine ⟨inside, ?_⟩
  rw [Nat.add_sub_cancel_left, show srcOff + addrLen * 2 - (srcOff + addrLen) = addrLen by omega]
    at looped
  rw [kernelPlan, protocolOf, if_pos udp, if_pos udp]
  exact looped

/-- **A UDP packet that is segmented**: the loop, and the addresses that are in the packet. -/
theorem gsoSplit_udp {outBufs : Nat} {segments : List Bytes} (udp : options.gsoType = .udpL4)
    (payload : options.gsoSize.toNat ≤ input.length - options.hdrLen.toNat)
    (done : gsoSplit input options outBufs = .ok segments) :
    options.hdrLen.toNat ≤ input.length ∧ options.csumStart.toNat ≤ options.hdrLen.toNat
      ∧ (if byteAt input 0 >>> 4 = 4 then 20 else 40) ≤ input.length
      ∧ segmentLoop input options (udpPlan input options) outBufs 0 options.hdrLen.toNat
        = .ok segments := by
  unfold gsoSplit at done
  dsimp only at done
  split at done
  · cases done
  split at done
  · cases done
  rename_i header
  have several : ¬ (options.gsoType = .none
      ∨ input.length - options.hdrLen.toNat < options.gsoSize.toNat) := by
    rintro (none | short)
    · cases udp.symm.trans none
    · omega
  rw [if_neg several] at done
  split at done
  · cases done
  rename_i ordered
  rw [UInt16.lt_iff_toNat_lt] at ordered
  have numbered : firstTcpSeqNum input options 17 = .ok 0 := rfl
  rw [numbered] at done
  refine ⟨by omega, by omega, ?_⟩
  unfold udpPlan
  by_cases four : byteAt input 0 >>> 4 = 4
  · rw [if_pos four] at done ⊢
    rw [if_pos four]
    exact addressedLoop_ok udp done
  · rw [if_neg four] at done ⊢
    rw [if_neg four]
    exact addressedLoop_ok udp done

/-- The sum of a UDP segment is that of its words. -/
theorem verifies_segmentSum {index : Nat} (udp : options.gsoType = .udpL4)
    (addresses : (if byteAt input 0 >>> 4 = 4 then 20 else 40) ≤ input.length) :
    Verifies (segmentSum input options (udpPlan input options) index
        (options.hdrLen.toNat + index * options.gsoSize.toNat))
      ↔ Verifies (segmentWords input options index) := by
  have protocol : protocolOf options = 17 := if_pos udp
  have base : (udpPlan input options).pseudoSumBase = foldCarries (addressWords input + 17) := by
    unfold udpPlan addressWords
    by_cases four : byteAt input 0 >>> 4 = 4
    · rw [if_pos four] at addresses ⊢
      rw [if_pos four, kernelPlan, protocol]
      exact pseudoHeaderChecksum_eq 17 0 (by rw [length_slice (by omega)])
        (by rw [length_slice (by omega)])
    · rw [if_neg four] at addresses ⊢
      rw [if_neg four, kernelPlan, protocol]
      exact pseudoHeaderChecksum_eq 17 0 (by rw [length_slice (by omega)])
        (by rw [length_slice (by omega)])
  rw [segmentSum, checksumCombine, verifies_foldCarries_add, base, Nat.add_assoc,
    verifies_foldCarries_add, ← Nat.add_assoc]
  exact Iff.rfl

end Segments

/-! ### What is stored -/

namespace Emission

/-- **A path stores zero** exactly when the words of the datagram verify without a checksum. -/
theorem stored {pkt : Bytes} {emission : Emission} (emitted : emission.Emits pkt) :
    be16 pkt emission.checksumAt = 0 ↔ Verifies emission.words := by
  cases emission with
  | replyV4 src srcPort dst dstPort payload =>
      have checksum := (buildUdpReplyV4_emitted emitted).checksum
      rw [udpSumV4_replyDatagram payload (by rw [src.length_eq]) (by rw [dst.length_eq])
        srcPort.toNat_lt dstPort.toNat_lt] at checksum
      exact checksum ▸ complement_foldCarries_eq_zero_iff
  | replyV6 src srcPort dst dstPort payload =>
      have checksum := (buildUdpReplyV6_emitted emitted).checksum
      rw [udpSumV6_replyDatagram payload srcPort.toNat_lt dstPort.toNat_lt] at checksum
      exact checksum ▸ complement_foldCarries_eq_zero_iff
  | templateV4 template replySrc replyPort payload =>
      obtain ⟨usable, packet⟩ := buildUdpReplyV4WithTemplate_emitted emitted.1 emitted.2
      have header := usable.2
      have checksum := packet.checksum
      rw [udpSumV4_replyDatagram payload (by rw [replySrc.length_eq])
        (by rw [length_slice (by omega)]) replyPort.toNat_lt (be16_lt _ _)] at checksum
      exact checksum ▸ complement_foldCarries_eq_zero_iff
  | templateV6 template replySrc replyPort payload =>
      have checksum := (buildUdpReplyV6WithTemplate_emitted emitted.1 emitted.2).2.checksum
      rw [udpSumV6_replyDatagram payload replyPort.toNat_lt (be16_lt _ _)] at checksum
      exact checksum ▸ complement_foldCarries_eq_zero_iff
  | whole input options outBufs =>
      obtain ⟨undivided, needed, done⟩ := emitted
      obtain ⟨csumField, header, ⟨-, -, pkt', single, same⟩ | ⟨several, -⟩⟩ := gsoSplit_cases done
      · obtain rfl := List.singleton_inj.mp same
        obtain ⟨-, rfl⟩ := (guarded_gsoSingle csumField).ok_of_ok single
        have cleared := @length_overwrite_word input [0, 0]
          (options.csumStart.toNat + options.csumOffset.toNat) rfl csumField
        unfold completedPacket checksumAt words
        dsimp only
        rw [if_pos needed, be16_overwrite (by omega), Nat.mod_eq_of_lt (complement_lt _)]
        exact complement_foldCarries_eq_zero_iff
      · exact absurd undivided fun either => either.elim several.1 fun short => by
          omega
  | segment input options outBufs index =>
      obtain ⟨udp, payload, segments, done, found⟩ := emitted
      obtain ⟨header, ordered, addresses, looped⟩ := gsoSplit_udp udp payload done
      obtain ⟨begun, turn⟩ := segmentLoop_get looped found
      rw [Nat.zero_add] at turn
      obtain ⟨fits, rfl⟩ := (guarded_gsoSegment header ordered begun).ok_of_ok turn
      have checksum := segmentBytes_checksum header begun fits
      show be16 _ (options.csumStart.toNat + options.csumOffset.toNat) = 0 ↔ _
      rw [checksum, complement_foldCarries_eq_zero_iff, verifies_segmentSum udp addresses]
      exact Iff.rfl

end Emission

/-- **No zero checksum.** On each path and for every input for which it emits a datagram, the
checksum that it stores is not zero exactly when the words of the datagram and its pseudo header add
up to zero or not to a multiple of 65535. -/
theorem udp_checksum_ne_zero_iff {pkt : Bytes} {emission : Emission}
    (emitted : emission.Emits pkt) :
    be16 pkt emission.checksumAt ≠ 0 ↔ emission.words = 0 ∨ emission.words % 65535 ≠ 0 := by
  rw [Ne, emission.stored emitted, verifies_iff, not_and_or, not_not]

/-- A reply from 8.8.8.8:53 to 198.18.0.2:40000 of two bytes. -/
def sampleEmission (payload : Bytes) : Emission :=
  .replyV4 (Ipv4Addr.new 8 8 8 8) 53 (Ipv4Addr.new 198 18 0 2) 40000 payload

/-- The packet of that reply, up to its checksums. -/
def sampleReplyPacket (headerChecksum udpChecksum payload : Bytes) : Bytes :=
  [0x45, 0, 0, 30, 0, 0, 0x40, 0, 64, 17] ++ headerChecksum ++ [8, 8, 8, 8, 198, 18, 0, 2]
    ++ [0, 53, 0x9c, 0x40, 0, 10] ++ udpChecksum ++ payload

theorem udp_checksum_ne_zero_iff_sample :
    be16 (sampleReplyPacket [0x64, 0xab] [0x8d, 0x3f] [0, 1]) (sampleEmission [0, 1]).checksumAt ≠ 0
      ↔ (sampleEmission [0, 1]).words = 0 ∨ (sampleEmission [0, 1]).words % 65535 ≠ 0 := by
  refine udp_checksum_ne_zero_iff ?_
  show buildUdpReplyV4 _ _ _ _ _ = _
  decide +kernel

/-- **A reply with a checksum of zero**: its two bytes bring the words to a multiple of 65535. -/
theorem zero_checksum_emitted :
    (sampleEmission [0x8d, 0x40]).Emits (sampleReplyPacket [0x64, 0xab] [0, 0] [0x8d, 0x40])
      ∧ be16 (sampleReplyPacket [0x64, 0xab] [0, 0] [0x8d, 0x40])
        (sampleEmission [0x8d, 0x40]).checksumAt = 0 := by
  constructor
  · show buildUdpReplyV4 _ _ _ _ _ = _
    decide +kernel
  · decide +kernel

end RsTun.Gso
