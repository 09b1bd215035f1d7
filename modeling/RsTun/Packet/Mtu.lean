/-
**Packets that exceed the MTU of the TUN: fragments and ICMP errors, and their checksums.**

`tunWriteMtu` returns the packets that `tun_write_mtu` writes, in order, each with the builder that
made it.

* `buildPacketTooBig_valid` — the ICMPv6 message carries a right checksum.
* `fragment_valid_iff`, `buildFragmentationNeeded_valid_iff` — the IPv4 builders complement the
  complemented sum once more, so that their checksums are right only where they are zero.
* `tunWriteMtu_valid_iff` — when everything that is written is right.
-/

import RsTun.Packet.Fragment

namespace RsTun.Packet

open Library Library.Bytes Library.OnesComplement

/-- `IPPROTO_ICMPV6`. -/
def ipprotoIcmpv6 : UInt8 := 58

/-- `IPV4_MINIMUM_MTU`. -/
def ipv4MinimumMtu : Nat := 68

/-- `IPV6_MINIMUM_MTU`. -/
def ipv6MinimumMtu : Nat := 1280

/-- `SYNTHESIZED_TTL`. -/
def synthesizedTtl : UInt8 := 64

/-- `build_fragmentation_needed`. -/
def buildFragmentationNeeded (orig : Bytes) (mtu : Nat) : Option Bytes :=
  if orig.length < 20 then none
  else
    let ihl := headerLength orig
    if ihl < 20 then none
    else
      let advertised := min (max mtu ipv4MinimumMtu) 0xffff
      if orig.length < ihl + 8 then none
      else
        let payloadLen := min orig.length (576 - 20 - 8)
        let size := 20 + 8 + payloadLen
        let pkt : Bytes := List.replicate size 0
        let pkt := overwrite pkt 0 [0x45]
        let pkt := overwrite pkt 2 (encode 2 size)
        let pkt := overwrite pkt 6 [0, 0]
        let pkt := overwrite pkt 8 [synthesizedTtl]
        let pkt := overwrite pkt 9 [ipprotoIcmp]
        let pkt := overwrite pkt 12 (slice orig 16 4)
        let pkt := overwrite pkt 16 (slice orig 12 4)
        -- `!internet_checksum(..)`, which has complemented the sum already
        let pkt := overwrite pkt 10 (encode 2 (complement (internetChecksum (pkt.take 20))))
        let pkt := overwrite pkt 20 [3]
        let pkt := overwrite pkt 21 [4]
        let pkt := overwrite pkt 26 (encode 2 advertised)
        let pkt := overwrite pkt 28 (orig.take payloadLen)
        some (overwrite pkt 22 (encode 2 (complement (internetChecksum (pkt.drop 20)))))

/-- `build_packet_too_big`. -/
def buildPacketTooBig (orig : Bytes) (mtu : Nat) : Option Bytes :=
  if orig.length < 40 then none
  else
    let advertised := max mtu ipv6MinimumMtu
    let payloadLen := min orig.length (ipv6MinimumMtu - 40 - 8)
    let size := 40 + 8 + payloadLen
    let pkt : Bytes := List.replicate size 0
    let pkt := overwrite pkt 0 [0x60]
    let pkt := overwrite pkt 4 (encode 2 (8 + payloadLen))
    let pkt := overwrite pkt 6 [ipprotoIcmpv6]
    let pkt := overwrite pkt 7 [synthesizedTtl]
    let pkt := overwrite pkt 8 (slice orig 24 16)
    let pkt := overwrite pkt 24 (slice orig 8 16)
    let pkt := overwrite pkt 40 [2]
    let pkt := overwrite pkt 41 [0]
    let pkt := overwrite pkt 44 (encode 4 advertised)
    let pkt := overwrite pkt 48 (orig.take payloadLen)
    some (overwrite pkt 42 (encode 2
      (checksumWithPseudoV6 (slice pkt 8 16) (slice pkt 24 16) ipprotoIcmpv6 (pkt.drop 40))))

/-- A packet that is written to the TUN, and what made it. -/
inductive MtuWrite where
  | whole (pkt : Bytes)
  | fragment (frag : Bytes)
  | fragmentationNeeded (reply : Bytes)
  | packetTooBig (reply : Bytes)

/-- Don't Fragment is set. -/
def DontFragment (pkt : Bytes) : Prop := 8 ≤ pkt.length ∧ flagsFrag pkt &&& 0x4000 ≠ 0

instance (pkt : Bytes) : Decidable (DontFragment pkt) := inferInstanceAs (Decidable (_ ∧ _))

/-- `tun_write_mtu`. -/
def tunWriteMtu (pkt : Bytes) (mtu : Nat) (isIpv6 : Bool) : List MtuWrite :=
  if mtu = 0 ∨ pkt.length ≤ mtu then [.whole pkt]
  else if isIpv6 = false then
    match if DontFragment pkt then none else fragmentIpv4Packet pkt mtu with
    | some fragments => fragments.map .fragment
    | none => (buildFragmentationNeeded pkt mtu).toList.map .fragmentationNeeded
  else (buildPacketTooBig pkt mtu).toList.map .packetTooBig

/-- The checksums that the builders fill in. -/
def MtuWrite.ChecksumsValid : MtuWrite → Prop
  | .whole _ => True
  | .fragment frag => Ipv4ChecksumValid frag
  | .fragmentationNeeded reply =>
      Ipv4ChecksumValid reply ∧ Verifies (wordSum (reply.drop (headerLength reply)))
  | .packetTooBig reply => TransportChecksumValidV6 ipprotoIcmpv6 reply 40

/-! ### Fragmentation Needed -/

theorem exists_four : ∀ {data : Bytes}, data.length = 4 → ∃ a b c d, data = [a, b, c, d]
  | [a, b, c, d], _ => ⟨a, b, c, d, rfl⟩

section FragmentationNeeded

variable {orig : Bytes} {mtu : Nat}

/-- The IP header of the message, with `csum` in its checksum field. -/
def needHeader (orig : Bytes) (csum : Nat) : Bytes :=
  [0x45, 0] ++ encode 2 (28 + min orig.length 548) ++ [0, 0, 0, 0, 64, 1] ++ encode 2 csum
    ++ slice orig 16 4 ++ slice orig 12 4

/-- The ICMP part of the message, with `csum` in its checksum field. -/
def needMessage (orig : Bytes) (mtu csum : Nat) : Bytes :=
  [3, 4] ++ encode 2 csum ++ [0, 0] ++ encode 2 (min (max mtu 68) 0xffff)
    ++ orig.take (min orig.length 548)

/-- **The message**, laid out. -/
theorem buildFragmentationNeeded_eq (long : 20 ≤ orig.length) (header : 20 ≤ headerLength orig)
    (transport : headerLength orig + 8 ≤ orig.length) :
    buildFragmentationNeeded orig mtu
      = some (needHeader orig (complement (internetChecksum (needHeader orig 0)))
        ++ needMessage orig mtu (complement (internetChecksum (needMessage orig mtu 0)))) := by
  obtain ⟨a, b, c, d, src⟩ := exists_four (@length_slice orig 16 4 (by omega))
  obtain ⟨e, f, g, h, dst⟩ := exists_four (@length_slice orig 12 4 (by omega))
  unfold buildFragmentationNeeded
  dsimp only
  rw [if_neg (by omega), if_neg (by omega), if_neg (by omega), List.replicate_add]
  unfold needHeader needMessage
  rw [src, dst]
  -- everything but the embedded packet is laid out byte by byte
  have data : (orig.take (min orig.length 548)).length = min orig.length 548 :=
    List.length_take_of_le (Nat.min_le_left _ _)
  generalize orig.take (min orig.length 548) = embedded at data ⊢
  generalize min orig.length 548 = size at data ⊢
  have zeros : (List.replicate (20 + 8) 0 : Bytes) =
    [0, 0, 0, 0, 0, 0, 0, 0, 0, 0, 0, 0, 0, 0, 0, 0, 0, 0, 0, 0, 0, 0, 0, 0, 0, 0, 0, 0] := rfl
  rw [zeros]
  have filled : overwrite (List.replicate size 0) 0 embedded = embedded :=
    overwrite_whole (by rw [data, List.length_replicate])
  simp only [encode, List.cons_append, List.nil_append, overwrite_cons_zero, overwrite_cons_succ,
    overwrite_nil, filled, List.take_succ_cons, List.take_zero, List.drop_succ_cons, List.drop_zero]
  rfl

theorem length_needHeader (long : 20 ≤ orig.length) (csum : Nat) :
    (needHeader orig csum).length = 20 := by
  unfold needHeader
  simp only [List.length_append, length_encode, length_slice (show 16 + 4 ≤ orig.length by omega),
    length_slice (show 12 + 4 ≤ orig.length by omega), List.length_cons, List.length_nil]

/-- The sum of the IP header of the message without its checksum. -/
def needHeaderSum (orig : Bytes) : Nat :=
  0x4500 + (28 + min orig.length 548) + 0x4001 + wordSum (slice orig 16 4)
    + wordSum (slice orig 12 4)

/-- The sum of the ICMP part of the message without its checksum. -/
def needMessageSum (orig : Bytes) (mtu : Nat) : Nat :=
  0x0304 + min (max mtu 68) 0xffff + wordSum (orig.take (min orig.length 548))

theorem wordSum_word (number : Nat) (rest : Bytes) :
    wordSum (encode 2 number ++ rest) = number % 65536 + wordSum rest := by
  rw [wordSum_append rest (by rw [length_encode]), wordSum_pair (length_encode 2 number),
    value_encode]
  rfl

theorem wordSum_needHeader (long : 20 ≤ orig.length) {csum : Nat} (small : csum < 65536) :
    wordSum (needHeader orig csum) = needHeaderSum orig + csum := by
  have src : (slice orig 16 4).length % 2 = 0 := by
    rw [length_slice (by omega)]
  unfold needHeader needHeaderSum
  rw [List.append_assoc, List.append_assoc, List.append_assoc, List.append_assoc,
    wordSum_append _ rfl, wordSum_word, wordSum_append _ rfl, wordSum_word, wordSum_append _ src,
    Nat.mod_eq_of_lt small, show wordSum [0x45, 0] = 0x4500 from rfl,
    show wordSum [0, 0, 0, 0, 64, 1] = 0x4001 from rfl]
  omega

theorem wordSum_needMessage {csum : Nat} (small : csum < 65536) :
    wordSum (needMessage orig mtu csum) = needMessageSum orig mtu + csum := by
  unfold needMessage needMessageSum
  rw [List.append_assoc, List.append_assoc, List.append_assoc, wordSum_append _ rfl, wordSum_word,
    wordSum_append _ rfl, wordSum_word, Nat.mod_eq_of_lt small,
    show wordSum [3, 4] = 0x0304 from rfl, show wordSum [0, 0] = 0 from rfl]
  omega

/-- What the builder stores for a part whose sum is `sum`. -/
theorem stored_eq {part : Bytes} {sum : Nat} (summed : wordSum part = sum) :
    complement (internetChecksum part) = foldCarries sum := by
  rw [internetChecksum, summed, complement_complement (foldCarries_lt _)]

/-- **Fragmentation Needed** carries right checksums exactly when both of them are zero. -/
theorem buildFragmentationNeeded_valid_iff {reply : Bytes}
    (done : buildFragmentationNeeded orig mtu = some reply) :
    (MtuWrite.fragmentationNeeded reply).ChecksumsValid
      ↔ needHeaderSum orig % 65535 = 0 ∧ needMessageSum orig mtu % 65535 = 0 := by
  obtain ⟨long, header, transport⟩ : 20 ≤ orig.length ∧ 20 ≤ headerLength orig
      ∧ headerLength orig + 8 ≤ orig.length := by
    unfold buildFragmentationNeeded at done
    dsimp only at done
    split at done
    · cases done
    · split at done
      · cases done
      · split at done
        · cases done
        · exact ⟨by omega, by omega, by omega⟩
  rw [buildFragmentationNeeded_eq long header transport, Option.some.injEq,
    stored_eq (wordSum_needHeader long (by norm_num)),
    stored_eq (wordSum_needMessage (by norm_num)), Nat.add_zero, Nat.add_zero] at done
  have size := length_needHeader long (foldCarries (needHeaderSum orig))
  have sameLength : headerLength reply = 20 := by
    have first : byteAt reply 0 = 0x45 := by
      rw [← done]
      rfl
    rw [headerLength, first]
    rfl
  have headerSum : 0 < needHeaderSum orig := by
    unfold needHeaderSum
    omega
  have messageSum : 0 < needMessageSum orig mtu := by
    unfold needMessageSum
    omega
  rw [MtuWrite.ChecksumsValid, Ipv4ChecksumValid, sameLength, ← done, List.take_left' size,
    List.drop_left' size, wordSum_needHeader long (foldCarries_lt _),
    wordSum_needMessage (foldCarries_lt _), verifies_add_foldCarries headerSum,
    verifies_add_foldCarries messageSum]

/-- When the message is built. -/
theorem buildFragmentationNeeded_eq_none
    (none : ¬ (20 ≤ orig.length ∧ 20 ≤ headerLength orig ∧ headerLength orig + 8 ≤ orig.length)) :
    buildFragmentationNeeded orig mtu = .none := by
  unfold buildFragmentationNeeded
  dsimp only
  split
  · rfl
  · split
    · rfl
    · split
      · rfl
      · exact absurd ⟨by omega, by omega, by omega⟩ none

end FragmentationNeeded

/-! ### Fragments -/

/-- The sum of the header of a fragment without its checksum is a multiple of 65535. It is that of
the packet's header with the length, and the flags and the offset, of the fragment. -/
def FragmentSumZero (pkt : Bytes) (mtu index : Nat) : Prop :=
  (wordSum (pkt.take (headerLength pkt))
      + (headerLength pkt + (piece (maxFragPayload pkt mtu)
        (pkt.drop (headerLength pkt)) index).length) % 65536
      + fragmentFlags pkt (index * maxFragPayload pkt mtu)
        (min ((index + 1) * maxFragPayload pkt mtu) (pkt.length - headerLength pkt))) % 65535
    = (be16 pkt 2 + be16 pkt 6 + be16 pkt 10) % 65535

section Fragments

variable {pkt : Bytes} {mtu start stop : Nat}

/-- A fragment's header with its checksum cleared. -/
theorem take_fragmentCleared (range : FragmentRange pkt start stop) :
    (fragmentCleared pkt start stop).take (headerLength pkt)
      = overwrite (overwrite (overwrite (pkt.take (headerLength pkt)) 6
          (encode 2 (fragmentFlags pkt start stop))) 2
          (encode 2 (headerLength pkt + (stop - start)))) 10 [0, 0] := by
  have header := range.header
  have size := length_fragmentBody range
  have flagged : (overwrite (fragmentBody pkt start stop) 6
      (encode 2 (fragmentFlags pkt start stop))).length = headerLength pkt + (stop - start) := by
    rw [length_overwrite (by rw [length_encode]; omega), size]
  have room : 10 + ([0, 0] : Bytes).length ≤ headerLength pkt := by
    show 12 ≤ _
    omega
  unfold fragmentCleared
  dsimp only
  rw [flagged, take_overwrite_of_ge room, take_overwrite_of_ge, take_overwrite_of_ge,
    take_fragmentBody range]
  · rw [length_encode]
    omega
  · omega
  · rw [length_encode]
    omega
  · omega
  · rw [length_overwrite (by rw [length_encode]; omega), flagged]
    omega

/-- The sum of a fragment's header with its checksum cleared. -/
theorem wordSum_fragmentCleared (range : FragmentRange pkt start stop) :
    wordSum ((fragmentCleared pkt start stop).take (headerLength pkt))
        + (be16 pkt 2 + be16 pkt 6 + be16 pkt 10)
      = wordSum (pkt.take (headerLength pkt)) + (headerLength pkt + (stop - start)) % 65536
        + fragmentFlags pkt start stop := by
  have header := range.header
  have size : (pkt.take (headerLength pkt)).length = headerLength pkt :=
    List.length_take_of_le (Nat.le_of_lt range.more)
  have read : ∀ {place : Nat}, place + 2 ≤ 20 →
      be16 (pkt.take (headerLength pkt)) place = be16 pkt place :=
    fun within => be16_congr (slice_take (by omega))
  have replaced := @wordSum_replace_three (pkt.take (headerLength pkt))
    (encode 2 (fragmentFlags pkt start stop)) (encode 2 (headerLength pkt + (stop - start))) [0, 0]
    6 2 10 ⟨length_encode 2 _, length_encode 2 _, rfl⟩ (by decide) (by omega) (by decide)
  rw [read (by decide), read (by decide), read (by decide), value_encode, value_encode,
    Nat.mod_eq_of_lt (lt_of_lt_of_eq (fragmentFlags_lt pkt start stop) (by norm_num)),
    show value [0, 0] = 0 from rfl] at replaced
  rw [take_fragmentCleared range]
  omega

/-- **A fragment** carries a right header checksum exactly when it is zero. -/
theorem fragment_valid_iff (range : FragmentRange pkt start stop) :
    Ipv4ChecksumValid (fragment pkt start stop)
      ↔ wordSum ((fragmentCleared pkt start stop).take (headerLength pkt)) % 65535 = 0 := by
  have header := range.header
  have more := range.more
  have size := length_fragmentBody range
  obtain ⟨fields, zeros, -, -⟩ := fragmentCleared_spec range
  obtain ⟨length, -, headers, -, -⟩ := fragment_spec range
  have clearedSize : (fragmentCleared pkt start stop).length = headerLength pkt + (stop - start) :=
    fields.1.trans size
  have first : byteAt (fragment pkt start stop) 0 = byteAt pkt 0 := by
    refine headers.byteAt_of_take (by omega) ?_
    rintro (⟨low, -⟩ | ⟨low, -⟩ | ⟨low, -⟩) <;> omega
  have sameLength : headerLength (fragment pkt start stop) = headerLength pkt := by
    rw [headerLength, headerLength, first]
  have nonzero : byteAt ((fragmentCleared pkt start stop).take (headerLength pkt)) 0 ≠ 0 := by
    rw [byteAt_take (by omega), fields.byteAt_eq (by simp [fragmentFields]), ← byteAt_take
      (show 0 < headerLength pkt by omega), take_fragmentBody range, byteAt_take (by omega)]
    intro zero
    rw [headerLength, zero] at header
    exact absurd header (by decide)
  have taken : ((fragmentCleared pkt start stop).take (headerLength pkt)).length
      = headerLength pkt := List.length_take_of_le (by omega)
  rw [Ipv4ChecksumValid, sameLength, fragment_eq, take_overwrite_of_ge
    (by rw [length_encode]; omega) (by omega), internetChecksum]
  exact verifies_uncomplemented rfl (by omega) (by rw [slice_take (by omega), zeros])
    (wordSum_pos nonzero)

/-- **Fragment `index`** carries a right header checksum exactly when it is zero. -/
theorem fragmentAt_valid_iff {index : Nat} (header : 20 ≤ headerLength pkt)
    (more : headerLength pkt < pkt.length) (positive : 0 < maxFragPayload pkt mtu)
    (inside : index < fragmentCount pkt mtu) :
    Ipv4ChecksumValid (fragmentAt pkt mtu index) ↔ FragmentSumZero pkt mtu index := by
  have range := fragmentAt_range header more positive inside
  have ordered := range.ordered
  have within := range.inside
  have size : (piece (maxFragPayload pkt mtu) (pkt.drop (headerLength pkt)) index).length
      = min ((index + 1) * maxFragPayload pkt mtu) (pkt.length - headerLength pkt)
        - index * maxFragPayload pkt mtu := by
    rw [← slice_eq_fragment, length_slice]
    rw [List.length_drop]
    omega
  have summed := wordSum_fragmentCleared range
  rw [fragmentAt, fragment_valid_iff range, FragmentSumZero, size, ← summed]
  constructor
  · intro zero
    rw [Nat.add_mod, zero, Nat.zero_add, Nat.mod_mod]
  · intro same
    have cancelled : _ ≡ 0 [MOD 65535] := Nat.ModEq.add_right_cancel' _ (same.trans
      (congrArg (· % 65535) (Nat.zero_add _).symm))
    exact cancelled

end Fragments

/-! ### Packet Too Big -/

/-- The checksum field of the message is still empty. -/
def Blank (size : Nat) (pkt : Bytes) : Prop := pkt.length = size ∧ slice pkt 42 2 = [0, 0]

theorem Blank.overwrite {size start : Nat} {pkt source : Bytes} (blank : Blank size pkt)
    (fits : start + source.length ≤ size)
    (apart : start + source.length ≤ 42 ∨ 44 ≤ start) :
    Blank size (overwrite pkt start source) := by
  have fits' : start + source.length ≤ pkt.length := by
    rwa [blank.1]
  refine ⟨(length_overwrite fits').trans blank.1, ?_⟩
  rw [slice_overwrite_of_disjoint fits' apart.symm, blank.2]

/-- **Packet Too Big** carries a right checksum. -/
theorem buildPacketTooBig_valid {orig reply : Bytes} {mtu : Nat}
    (done : buildPacketTooBig orig mtu = some reply) :
    (MtuWrite.packetTooBig reply).ChecksumsValid := by
  unfold buildPacketTooBig at done
  dsimp only at done
  split at done
  · cases done
  · rename_i long
    rw [Option.some.injEq] at done
    have src : (slice orig 24 16).length = 16 := length_slice (by omega)
    have dst : (slice orig 8 16).length = 16 := length_slice (by omega)
    have data : (orig.take (min orig.length (ipv6MinimumMtu - 40 - 8))).length
        = min orig.length (ipv6MinimumMtu - 40 - 8) := List.length_take_of_le (Nat.min_le_left _ _)
    generalize min orig.length (ipv6MinimumMtu - 40 - 8) = size at data done
    have zeros : Blank (40 + 8 + size) (List.replicate (40 + 8 + size) 0) := by
      refine ⟨List.length_replicate, ?_⟩
      rw [slice, List.drop_replicate, List.take_replicate, Nat.min_eq_left (by omega)]
      rfl
    have step : ∀ {pkt : Bytes} {start : Nat} {source : Bytes}, Blank (40 + 8 + size) pkt →
        start + source.length ≤ 42 ∨ 44 ≤ start ∧ start + source.length ≤ 48 + size →
        Blank (40 + 8 + size) (overwrite pkt start source) := fun blank apart =>
      blank.overwrite (by omega) (by omega)
    have blank := step (step (step (step (step (step (step (step (step (step zeros
      (Or.inl (show 0 + [(0x60 : UInt8)].length ≤ 42 by decide)))
      (Or.inl (show 4 + (encode 2 (8 + size)).length ≤ 42 by rw [length_encode]; decide)))
      (Or.inl (show 6 + [ipprotoIcmpv6].length ≤ 42 by decide)))
      (Or.inl (show 7 + [synthesizedTtl].length ≤ 42 by decide)))
      (Or.inl (show 8 + (slice orig 24 16).length ≤ 42 by rw [src]; decide)))
      (Or.inl (show 24 + (slice orig 8 16).length ≤ 42 by rw [dst]; decide)))
      (Or.inl (show 40 + [(2 : UInt8)].length ≤ 42 by decide)))
      (Or.inl (show 41 + [(0 : UInt8)].length ≤ 42 by decide)))
      (Or.inr ⟨by decide, show 44 + (encode 4 (max mtu ipv6MinimumMtu)).length ≤ 48 + size by
        rw [length_encode]; omega⟩))
      (Or.inr ⟨by decide, show 48 + (orig.take size).length ≤ 48 + size by rw [data]⟩)
    obtain ⟨pkt, blank, stored⟩ : ∃ pkt, Blank (40 + 8 + size) pkt ∧ overwrite pkt 42 (encode 2
        (checksumWithPseudoV6 (slice pkt 8 16) (slice pkt 24 16) ipprotoIcmpv6 (pkt.drop 40)))
          = reply := ⟨_, blank, done⟩
    subst stored
    have inside : 40 + 2 + 2 ≤ pkt.length := by
      rw [blank.1]
      omega
    exact @transportChecksumValidV6_store pkt 40 2 ipprotoIcmpv6 (Nat.le_refl 40) rfl inside blank.2

/-! ### What is written -/

/-- The header is whole, and the packet holds eight bytes behind it. -/
def Answerable (pkt : Bytes) : Prop :=
  20 ≤ pkt.length ∧ 20 ≤ headerLength pkt ∧ headerLength pkt + 8 ≤ pkt.length

instance (pkt : Bytes) : Decidable (Answerable pkt) := inferInstanceAs (Decidable (_ ∧ _))

/-- Every IPv4 checksum that is to be stored happens to be zero. -/
def ChecksumsComeOut (pkt : Bytes) (mtu : Nat) : Prop :=
  if ¬ DontFragment pkt ∧ Fragmentable pkt mtu then
    ∀ index < fragmentCount pkt mtu, FragmentSumZero pkt mtu index
  else Answerable pkt →
    needHeaderSum pkt % 65535 = 0 ∧ needMessageSum pkt mtu % 65535 = 0

/-- **Everything that is written carries right checksums exactly when** the packet is written as it
is, or it is an IPv6 packet, or every checksum to be stored happens to be zero. -/
theorem tunWriteMtu_valid_iff (pkt : Bytes) (mtu : Nat) (isIpv6 : Bool) :
    (∀ write ∈ tunWriteMtu pkt mtu isIpv6, write.ChecksumsValid)
      ↔ (mtu = 0 ∨ pkt.length ≤ mtu) ∨ isIpv6 = true ∨ ChecksumsComeOut pkt mtu := by
  unfold tunWriteMtu
  by_cases whole : mtu = 0 ∨ pkt.length ≤ mtu
  · rw [if_pos whole, List.forall_mem_singleton]
    exact iff_of_true trivial (Or.inl whole)
  · rw [if_neg whole, or_iff_right whole]
    cases isIpv6 with
    | true =>
        rw [if_neg (by decide)]
        refine iff_of_true (fun write among => ?_) (Or.inl rfl)
        obtain ⟨reply, built, rfl⟩ := List.mem_map.mp among
        exact buildPacketTooBig_valid (Option.mem_toList.mp built)
    | false =>
        have produced : (if DontFragment pkt then none else fragmentIpv4Packet pkt mtu)
            = if ¬ DontFragment pkt ∧ Fragmentable pkt mtu then
                some ((List.range (fragmentCount pkt mtu)).map (fragmentAt pkt mtu))
              else none := by
          rw [fragmentIpv4Packet_eq]
          by_cases kept : DontFragment pkt
          · rw [if_pos kept, if_neg fun both => both.1 kept]
          · rw [if_neg kept]
            exact if_congr (and_iff_right kept).symm rfl rfl
        rw [if_pos rfl, or_iff_right (by decide), ChecksumsComeOut, produced]
        by_cases fragments : ¬ DontFragment pkt ∧ Fragmentable pkt mtu
        · obtain ⟨-, header, more, positive⟩ := id fragments
          rw [if_pos fragments, if_pos fragments]
          dsimp only
          rw [List.map_map, List.forall_mem_map]
          refine forall_congr' fun index => ?_
          rw [List.mem_range]
          exact imp_congr_right fun inside => fragmentAt_valid_iff header more positive inside
        · rw [if_neg fragments, if_neg fragments]
          dsimp only
          by_cases answerable : Answerable pkt
          · have built := @buildFragmentationNeeded_eq pkt mtu answerable.1 answerable.2.1
              answerable.2.2
            rw [built]
            refine Iff.trans ?_ (imp_iff_right answerable).symm
            exact List.forall_mem_singleton.trans (buildFragmentationNeeded_valid_iff built)
          · rw [buildFragmentationNeeded_eq_none answerable]
            exact iff_of_true (fun write among => nomatch among) fun impossible =>
              absurd impossible answerable

/-- A packet of 60 bytes of payload without Don't Fragment. -/
def sampleLarge : Bytes :=
  [0x45, 0, 0, 80, 0, 7, 0, 0, 64, 17, 0, 0, 10, 0, 0, 1, 10, 0, 0, 2] ++ List.replicate 60 0

/-- Its two fragments have wrong header checksums. -/
theorem fragments_unverified :
    tunWriteMtu sampleLarge 68 false
        = [.fragment (fragmentAt sampleLarge 68 0), .fragment (fragmentAt sampleLarge 68 1)]
      ∧ ¬ Ipv4ChecksumValid (fragmentAt sampleLarge 68 0)
      ∧ ¬ Ipv4ChecksumValid (fragmentAt sampleLarge 68 1) := by
  have produced : fragmentIpv4Packet sampleLarge 68
      = some [fragmentAt sampleLarge 68 0, fragmentAt sampleLarge 68 1] := by
    rw [fragmentIpv4Packet_eq, if_pos (by decide +kernel)]
    rfl
  refine ⟨?_, ?_, ?_⟩
  · unfold tunWriteMtu
    rw [if_neg (by decide +kernel), if_pos rfl, if_neg (by decide +kernel), produced]
    rfl
  · unfold Ipv4ChecksumValid
    decide +kernel
  · unfold Ipv4ChecksumValid
    decide +kernel

end RsTun.Packet
