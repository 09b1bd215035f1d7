/-
**The sizes of what `tun_write_mtu` writes.**

A packet that fits is written as it is, fragments are cut to the MTU, and Packet Too Big stops at
the minimum MTU of IPv6. Fragmentation Needed stops at 576 bytes, whatever the MTU is.

* `length_fragmentAt_le`, `length_buildPacketTooBig_le` — fragments and Packet Too Big fit.
* `length_buildFragmentationNeeded` — the size of Fragmentation Needed.
* **`tunWriteMtu_fits_iff`** — when everything that is written fits the MTU.
-/

import RsTun.Packet.Mtu

namespace RsTun.Packet

open Library Library.Bytes

/-- The bytes that are written. -/
def MtuWrite.bytes : MtuWrite → Bytes
  | .whole pkt => pkt
  | .fragment frag => frag
  | .fragmentationNeeded reply => reply
  | .packetTooBig reply => reply

/-- The least MTU of the family. -/
def minimumMtu (isIpv6 : Bool) : Nat := if isIpv6 then ipv6MinimumMtu else ipv4MinimumMtu

/-- The size at which Fragmentation Needed stops. -/
def fragmentationNeededCap : Nat := 576

section Sizes

variable {pkt reply : Bytes} {mtu : Nat}

theorem headerLength_le (pkt : Bytes) : headerLength pkt ≤ 60 := by
  have nibble : ((byteAt pkt 0) &&& 0x0f).toNat ≤ 15 := by
    rw [UInt8.toNat_and]
    exact Nat.and_le_right
  exact Nat.mul_le_mul_right 4 nibble

/-- **A fragment** fits. -/
theorem length_fragmentAt_le {index : Nat} (header : 20 ≤ headerLength pkt)
    (more : headerLength pkt < pkt.length) (positive : 0 < maxFragPayload pkt mtu)
    (inside : index < fragmentCount pkt mtu) : (fragmentAt pkt mtu index).length ≤ mtu := by
  have range := fragmentAt_range header more positive inside
  have room : maxFragPayload pkt mtu ≤ mtu - headerLength pkt := Nat.div_mul_le_self _ 8
  have piece : min ((index + 1) * maxFragPayload pkt mtu) (pkt.length - headerLength pkt)
      - index * maxFragPayload pkt mtu ≤ maxFragPayload pkt mtu := by
    rw [Nat.succ_mul]
    omega
  rw [fragmentAt, (fragment_spec range).1]
  omega

/-- **Fragmentation Needed** embeds at most 548 bytes of the packet. -/
theorem length_buildFragmentationNeeded (answerable : Answerable pkt) :
    ∃ reply, buildFragmentationNeeded pkt mtu = some reply
      ∧ reply.length = 28 + min pkt.length 548 := by
  obtain ⟨long, header, transport⟩ := answerable
  refine ⟨_, buildFragmentationNeeded_eq long header transport, ?_⟩
  rw [List.length_append, length_needHeader long]
  simp only [needMessage, List.length_append, List.length_cons, List.length_nil, length_encode,
    List.length_take]
  omega

/-- **Packet Too Big** fits every MTU of IPv6. -/
theorem length_buildPacketTooBig_le (built : buildPacketTooBig pkt mtu = some reply) :
    reply.length ≤ ipv6MinimumMtu := by
  unfold buildPacketTooBig at built
  dsimp only at built
  split at built
  · cases built
  · rename_i long
    rw [Option.some.injEq] at built
    have src : (slice pkt 24 16).length = 16 := length_slice (by omega)
    have dst : (slice pkt 8 16).length = 16 := length_slice (by omega)
    have data : (pkt.take (min pkt.length (ipv6MinimumMtu - 40 - 8))).length
        = min pkt.length (ipv6MinimumMtu - 40 - 8) := List.length_take_of_le (Nat.min_le_left _ _)
    have small : min pkt.length (ipv6MinimumMtu - 40 - 8) ≤ 1232 := Nat.min_le_right _ _
    generalize min pkt.length (ipv6MinimumMtu - 40 - 8) = size at data small built
    have kept : ∀ {before source : Bytes} {start : Nat}, before.length = 40 + 8 + size →
        start + source.length ≤ 40 + 8 + size →
        (overwrite before start source).length = 40 + 8 + size := fun same fits =>
      (length_overwrite (same ▸ fits)).trans same
    have whole : reply.length = 40 + 8 + size := by
      rw [← built]
      refine kept (kept (kept (kept (kept (kept (kept (kept (kept (kept (kept
        List.length_replicate ?_) ?_) ?_) ?_) ?_) ?_) ?_) ?_) ?_) ?_) ?_ <;>
        simp only [length_encode, src, dst, data, List.length_cons, List.length_nil] <;> omega
    rw [whole]
    exact Nat.add_le_add_left small _

end Sizes

/-- **Everything that is written fits the MTU exactly when** no Fragmentation Needed takes the place
of a packet over an MTU below 576. -/
theorem tunWriteMtu_fits_iff (pkt : Bytes) {mtu : Nat} {isIpv6 : Bool}
    (minimum : minimumMtu isIpv6 ≤ mtu) :
    (∀ write ∈ tunWriteMtu pkt mtu isIpv6, write.bytes.length ≤ mtu)
      ↔ isIpv6 = true ∨ pkt.length ≤ mtu ∨ fragmentationNeededCap ≤ mtu
        ∨ ¬ DontFragment pkt ∨ headerLength pkt < 20 := by
  have nibble := headerLength_le pkt
  unfold tunWriteMtu
  by_cases fits : pkt.length ≤ mtu
  · rw [if_pos (Or.inr fits), List.forall_mem_singleton]
    exact iff_of_true fits (Or.inr (Or.inl fits))
  · cases isIpv6 with
    | true =>
        have large : ipv6MinimumMtu ≤ mtu := minimum
        have positive : mtu ≠ 0 := Nat.ne_of_gt (Nat.lt_of_lt_of_le (by decide) large)
        rw [if_neg (not_or.mpr ⟨positive, fits⟩), if_neg (by decide)]
        refine iff_of_true (fun write among => ?_) (Or.inl rfl)
        obtain ⟨reply, built, rfl⟩ := List.mem_map.mp among
        exact Nat.le_trans (length_buildPacketTooBig_le (Option.mem_toList.mp built)) large
    | false =>
        have large : 68 ≤ mtu := minimum
        have positive : mtu ≠ 0 := Nat.ne_of_gt (Nat.lt_of_lt_of_le (by decide) large)
        rw [if_neg (not_or.mpr ⟨positive, fits⟩), if_pos rfl, or_iff_right Bool.false_ne_true,
          or_iff_right fits]
        by_cases broken : headerLength pkt < 20
        · -- neither fragments nor an answer
          have silent : (if DontFragment pkt then none else fragmentIpv4Packet pkt mtu) = none := by
            have unfragmentable : ¬ Fragmentable pkt mtu := fun fragmentable =>
              absurd fragmentable.1 (Nat.not_le.mpr broken)
            rw [fragmentIpv4Packet_eq, if_neg unfragmentable, ite_self]
          have unanswered := @buildFragmentationNeeded_eq_none pkt mtu fun answerable =>
            absurd answerable.2.1 (Nat.not_le.mpr broken)
          rw [silent]
          dsimp only
          rw [unanswered]
          exact iff_of_true (List.forall_mem_nil _) (Or.inr (Or.inr broken))
        · rw [Nat.not_lt] at broken
          have answerable : Answerable pkt := ⟨by omega, broken, by omega⟩
          obtain ⟨reply, built, size⟩ := @length_buildFragmentationNeeded pkt mtu answerable
          by_cases kept : DontFragment pkt
          · rw [if_pos kept]
            dsimp only
            rw [built]
            refine List.forall_mem_singleton.trans ?_
            rw [or_iff_left (not_or.mpr ⟨not_not.mpr kept, Nat.not_lt.mpr broken⟩)]
            show reply.length ≤ mtu ↔ 576 ≤ mtu
            omega
          · have room : 0 < maxFragPayload pkt mtu := by
              unfold maxFragPayload
              omega
            have fragmentable : Fragmentable pkt mtu := ⟨broken, by omega, room⟩
            rw [if_neg kept, fragmentIpv4Packet_eq, if_pos fragmentable]
            refine iff_of_true ?_ (Or.inr (Or.inl kept))
            dsimp only
            rw [List.map_map, List.forall_mem_map]
            intro index inside
            exact length_fragmentAt_le broken (by omega) room (List.mem_range.mp inside)

/-- A packet of 500 bytes with Don't Fragment. -/
def sampleUnfragmented : Bytes :=
  [0x45, 0, 1, 0xf4, 0, 7, 0x40, 0, 64, 17, 0, 0, 10, 0, 0, 1, 10, 0, 0, 2]
    ++ List.replicate 480 0

theorem tunWriteMtu_fits_iff_sample :
    (∀ write ∈ tunWriteMtu sampleUnfragmented 68 false, write.bytes.length ≤ 68)
      ↔ false = true ∨ sampleUnfragmented.length ≤ 68 ∨ fragmentationNeededCap ≤ 68
        ∨ ¬ DontFragment sampleUnfragmented ∨ headerLength sampleUnfragmented < 20 :=
  tunWriteMtu_fits_iff sampleUnfragmented (by decide)

/-- **Over an MTU of 400 bytes** the packet of 500 bytes is answered with 528. -/
theorem notification_exceeds_mtu : minimumMtu false ≤ 400
    ∧ ¬ ∀ write ∈ tunWriteMtu sampleUnfragmented 400 false, write.bytes.length ≤ 400 := by
  refine ⟨by decide, fun all => ?_⟩
  have answerable : Answerable sampleUnfragmented := by decide +kernel
  obtain ⟨reply, built, size⟩ := @length_buildFragmentationNeeded _ 400 answerable
  have written : tunWriteMtu sampleUnfragmented 400 false = [.fragmentationNeeded reply] := by
    unfold tunWriteMtu
    rw [if_neg (by decide +kernel), if_pos rfl, if_pos (by decide +kernel), built]
    rfl
  have small : reply.length ≤ 400 := all (.fragmentationNeeded reply) (by
    rw [written]
    exact List.mem_cons_self)
  have large : reply.length = 528 := size.trans (by decide +kernel)
  omega

end RsTun.Packet
