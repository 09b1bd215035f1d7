/-
**The fragments of an IPv4 packet, and their reassembly.**

* `fragmentIpv4Packet_eq`, `fragmentAt_spec` — when a packet is fragmented, and what fragment
  `index` is.
* `reassemble_fragments` — the payloads put in place at their offsets, in any order.
* `fragmentIpv4Packet_fragments` — the fragments fit the MTU, state their length and their offset,
  are aligned, and give back the payload in whatever order they are put in place.
-/

import RsTun.Library.Pieces
import RsTun.Packet.Checksum

namespace RsTun.Packet

open Library Library.Bytes Library.OnesComplement

/-- `u16::from_be_bytes([pkt[6], pkt[7]])`. -/
def flagsFrag (pkt : Bytes) : Nat := be16 pkt 6

/-- The flags and the offset of a fragment that starts at `start` in the payload. -/
def fragmentFlags (pkt : Bytes) (start stop : Nat) : Nat :=
  let baseOffset := flagsFrag pkt &&& 0x1fff
  let originalMore := flagsFrag pkt &&& 0x2000 ≠ 0
  -- `flags_frag & !0x2000`
  let baseFlags := flagsFrag pkt &&& 0xdfff
  let flags := if originalMore ∨ stop < pkt.length - headerLength pkt then baseFlags ||| 0x2000
    else baseFlags
  let newOffset := baseOffset + start % 65536 / 8
  -- `flags & !0x1fff | (new_offset & 0x1fff)`
  flags &&& 0xe000 ||| newOffset &&& 0x1fff

/-- The body of the loop of `fragment_ipv4_packet`. The complement of `internet_checksum`, which has
complemented the sum already, is stored. -/
def fragment (pkt : Bytes) (start stop : Nat) : Bytes :=
  let ihl := headerLength pkt
  let frag := pkt.take ihl ++ slice (pkt.drop ihl) start (stop - start)
  let frag := overwrite frag 6 (encode 2 (fragmentFlags pkt start stop))
  let frag := overwrite frag 2 (encode 2 frag.length)
  let frag := overwrite frag 10 [0, 0]
  overwrite frag 10 (encode 2 (complement (internetChecksum (frag.take ihl))))

/-- `while start < payload.len()`, at most `turns` turns of it. -/
def fragmentLoop (pkt : Bytes) (maxFragPayload : Nat) : (turns start : Nat) → List Bytes
  | 0, _ => []
  | turns + 1, start =>
      let payloadLen := pkt.length - headerLength pkt
      if start < payloadLen then
        let stop := min (start + maxFragPayload) payloadLen
        fragment pkt start stop :: fragmentLoop pkt maxFragPayload turns stop
      else []

/-- `(mtu.saturating_sub(ihl)) & !7`. -/
def maxFragPayload (pkt : Bytes) (mtu : Nat) : Nat := (mtu - headerLength pkt) / 8 * 8

/-- `fragment_ipv4_packet`. A turn of its loop takes at least one byte of the payload. -/
def fragmentIpv4Packet (pkt : Bytes) (mtu : Nat) : Option (List Bytes) :=
  if pkt.length < 20 then none
  else if headerLength pkt < 20 ∨ pkt.length ≤ headerLength pkt then none
  else if maxFragPayload pkt mtu = 0 then none
  else some (fragmentLoop pkt (maxFragPayload pkt mtu) pkt.length 0)

/-! ### The loop -/

/-- Fragment `index`. -/
def fragmentAt (pkt : Bytes) (mtu index : Nat) : Bytes :=
  fragment pkt (index * maxFragPayload pkt mtu)
    (min ((index + 1) * maxFragPayload pkt mtu) (pkt.length - headerLength pkt))

/-- The number of fragments. -/
def fragmentCount (pkt : Bytes) (mtu : Nat) : Nat :=
  pieceCount (maxFragPayload pkt mtu) (pkt.length - headerLength pkt)

section Loop

variable {pkt : Bytes} {mtu : Nat}

theorem lt_fragmentCount_iff {index : Nat} (positive : 0 < maxFragPayload pkt mtu) :
    index < fragmentCount pkt mtu
      ↔ index * maxFragPayload pkt mtu < pkt.length - headerLength pkt :=
  lt_pieceCount_iff positive

/-- The loop from a turn on. -/
theorem fragmentLoop_eq (positive : 0 < maxFragPayload pkt mtu) : ∀ {turns index : Nat},
    fragmentCount pkt mtu ≤ index + turns →
    fragmentLoop pkt (maxFragPayload pkt mtu) turns
        (min (index * maxFragPayload pkt mtu) (pkt.length - headerLength pkt))
      = (List.range' index (fragmentCount pkt mtu - index)).map (fragmentAt pkt mtu)
  | 0, index, enough => by
      rw [Nat.sub_eq_zero_of_le (show fragmentCount pkt mtu ≤ index from enough)]
      rfl
  | turns + 1, index, enough => by
      have turn := @lt_fragmentCount_iff pkt mtu index positive
      unfold fragmentLoop
      dsimp only
      by_cases more : index < fragmentCount pkt mtu
      · have longer : fragmentCount pkt mtu - index = fragmentCount pkt mtu - (index + 1) + 1 := by
          omega
        have start := turn.mp more
        have next : min (index * maxFragPayload pkt mtu + maxFragPayload pkt mtu)
            (pkt.length - headerLength pkt)
            = min ((index + 1) * maxFragPayload pkt mtu) (pkt.length - headerLength pkt) := by
          rw [Nat.succ_mul]
        rw [Nat.min_eq_left (Nat.le_of_lt start), if_pos start, next,
          fragmentLoop_eq positive (by omega), longer, List.range'_succ]
        rfl
      · have stop := mt turn.mpr more
        rw [if_neg (by omega), Nat.sub_eq_zero_of_le (by omega)]
        rfl

end Loop

/-! ### One fragment -/

/-- The fields of the header that a fragment sets: length, flags and offset, and checksum. -/
def fragmentFields : Set Nat :=
  {index | 2 ≤ index ∧ index < 4 ∨ 6 ≤ index ∧ index < 8 ∨ 10 ≤ index ∧ index < 12}

theorem fragmentFlags_lt (pkt : Bytes) (start stop : Nat) :
    fragmentFlags pkt start stop < 65536 := by
  have small : ∀ {low high : Nat}, low < 65536 → high < 65536 → low ||| high < 65536 :=
    fun low high => @Nat.or_lt_two_pow _ _ 16 low high
  unfold fragmentFlags
  exact small (Nat.lt_of_le_of_lt Nat.and_le_right (by decide))
    (Nat.lt_of_le_of_lt Nat.and_le_right (by decide))

section Fragment

variable {pkt : Bytes} {start stop : Nat}

/-- The fragment before its header fields are set. -/
def fragmentBody (pkt : Bytes) (start stop : Nat) : Bytes :=
  pkt.take (headerLength pkt) ++ slice (pkt.drop (headerLength pkt)) start (stop - start)

/-- The fragment with its checksum cleared. -/
def fragmentCleared (pkt : Bytes) (start stop : Nat) : Bytes :=
  let flagged := overwrite (fragmentBody pkt start stop) 6
    (encode 2 (fragmentFlags pkt start stop))
  overwrite (overwrite flagged 2 (encode 2 flagged.length)) 10 [0, 0]

theorem fragment_eq (pkt : Bytes) (start stop : Nat) : fragment pkt start stop
    = overwrite (fragmentCleared pkt start stop) 10 (encode 2 (complement (internetChecksum
      ((fragmentCleared pkt start stop).take (headerLength pkt))))) := rfl

/-- A part of a packet's payload that a fragment can carry, behind a header of 20 bytes or more. -/
structure FragmentRange (pkt : Bytes) (start stop : Nat) : Prop where
  header : 20 ≤ headerLength pkt
  ordered : start ≤ stop
  inside : stop ≤ pkt.length - headerLength pkt
  more : headerLength pkt < pkt.length

theorem length_fragmentBody (range : FragmentRange pkt start stop) :
    (fragmentBody pkt start stop).length = headerLength pkt + (stop - start) := by
  obtain ⟨-, ordered, inside, more⟩ := range
  rw [fragmentBody, List.length_append, List.length_take_of_le (Nat.le_of_lt more), length_slice]
  rw [List.length_drop]
  omega

theorem take_fragmentBody (range : FragmentRange pkt start stop) :
    (fragmentBody pkt start stop).take (headerLength pkt) = pkt.take (headerLength pkt) :=
  List.take_left' (List.length_take_of_le (Nat.le_of_lt range.more))

theorem drop_fragmentBody (range : FragmentRange pkt start stop) :
    (fragmentBody pkt start stop).drop (headerLength pkt)
      = slice (pkt.drop (headerLength pkt)) start (stop - start) :=
  List.drop_left' (List.length_take_of_le (Nat.le_of_lt range.more))

/-- The header fields of a fragment, with its checksum cleared. -/
theorem fragmentCleared_spec (range : FragmentRange pkt start stop) :
    AgreeOff fragmentFields (fragmentBody pkt start stop) (fragmentCleared pkt start stop)
      ∧ slice (fragmentCleared pkt start stop) 10 2 = [0, 0]
      ∧ be16 (fragmentCleared pkt start stop) 2 = (headerLength pkt + (stop - start)) % 65536
      ∧ be16 (fragmentCleared pkt start stop) 6 = fragmentFlags pkt start stop := by
  have size := length_fragmentBody range
  have header := range.header
  let flagged := overwrite (fragmentBody pkt start stop) 6
    (encode 2 (fragmentFlags pkt start stop))
  let sized := overwrite flagged 2 (encode 2 flagged.length)
  have flag : AgreeOff (wordAt 6) (fragmentBody pkt start stop) flagged :=
    agreeOff_word (length_encode 2 _) (by omega)
  have sizes : AgreeOff (wordAt 2) flagged sized :=
    agreeOff_word (length_encode 2 _) (by rw [flag.1]; omega)
  have room : 10 + 2 ≤ sized.length := by
    rw [sizes.1, flag.1]
    omega
  have clear : AgreeOff (wordAt 10) sized (fragmentCleared pkt start stop) := agreeOff_word rfl room
  refine ⟨?_, @slice_overwrite_self sized [0, 0] 10 room, ?_, ?_⟩
  · refine (flag.mono ?_).trans ((sizes.mono ?_).trans (clear.mono ?_)) <;>
    · rintro index ⟨low, high⟩
      show 2 ≤ index ∧ index < 4 ∨ 6 ≤ index ∧ index < 8 ∨ 10 ≤ index ∧ index < 12
      omega
  · rw [clear.be16_eq (by simp [wordAt]) (by simp [wordAt]),
      be16_overwrite (by rw [flag.1]; omega), flag.1, size]
  · rw [clear.be16_eq (by simp [wordAt]) (by simp [wordAt]),
      sizes.be16_eq (by simp [wordAt]) (by simp [wordAt]), be16_overwrite (by omega),
      Nat.mod_eq_of_lt (fragmentFlags_lt pkt start stop)]

/-- Nothing but the checksum is set last. -/
theorem agreeOff_fragmentCleared (range : FragmentRange pkt start stop) :
    AgreeOff (wordAt 10) (fragmentCleared pkt start stop) (fragment pkt start stop) := by
  have size := length_fragmentBody range
  have header := range.header
  rw [fragment_eq]
  refine agreeOff_word (length_encode 2 _) ?_
  rw [(fragmentCleared_spec range).1.1]
  omega

/-- **A fragment**: its payload is a part of the packet's, and its header the packet's, but for the
length, the flags and the offset, and the checksum. -/
theorem fragment_spec (range : FragmentRange pkt start stop) :
    (fragment pkt start stop).length = headerLength pkt + (stop - start)
      ∧ (fragment pkt start stop).drop (headerLength pkt)
        = slice (pkt.drop (headerLength pkt)) start (stop - start)
      ∧ AgreeOff fragmentFields (pkt.take (headerLength pkt))
        ((fragment pkt start stop).take (headerLength pkt))
      ∧ be16 (fragment pkt start stop) 2 = (headerLength pkt + (stop - start)) % 65536
      ∧ flagsFrag (fragment pkt start stop) = fragmentFlags pkt start stop := by
  have header := range.header
  obtain ⟨fields, -, length, flags⟩ := fragmentCleared_spec range
  have csum := agreeOff_fragmentCleared range
  have agree := fields.trans (csum.mono fun index field =>
    show 2 ≤ index ∧ index < 4 ∨ 6 ≤ index ∧ index < 8 ∨ 10 ≤ index ∧ index < 12 from
      Or.inr (Or.inr field))
  have early : ∀ index ∈ fragmentFields, index < headerLength pkt := by
    rintro index (⟨-, high⟩ | ⟨-, high⟩ | ⟨-, high⟩) <;> omega
  refine ⟨agree.1.trans (length_fragmentBody range), ?_, ?_, ?_, ?_⟩
  · rw [agree.drop_eq early, drop_fragmentBody range]
  · have headers := agree.take (headerLength pkt)
    rwa [take_fragmentBody range] at headers
  · rw [csum.be16_eq (by simp [wordAt]) (by simp [wordAt]), length]
  · rw [flagsFrag, csum.be16_eq (by simp [wordAt]) (by simp [wordAt]), flags]

end Fragment

/-! ### Flags and offset -/

/-- The offset field of a packet, in units of eight bytes. -/
def fragmentOffset (pkt : Bytes) : Nat := flagsFrag pkt &&& 0x1fff

/-- The More Fragments flag of a packet. -/
def MoreFragments (pkt : Bytes) : Prop := flagsFrag pkt &&& 0x2000 ≠ 0

/-- Flags and an offset, read apart. -/
theorem and_split (flags offset mask : Nat) :
    (flags &&& 0xe000 ||| offset &&& 0x1fff) &&& mask
      = flags &&& (0xe000 &&& mask) ||| offset &&& (0x1fff &&& mask) := by
  rw [Nat.and_or_distrib_right, Nat.and_assoc, Nat.and_assoc]

theorem fragmentFlags_offset {pkt : Bytes} {start stop : Nat} (small : start < 65536)
    (fits : fragmentOffset pkt + start / 8 < 8192) :
    fragmentFlags pkt start stop &&& 0x1fff = fragmentOffset pkt + start / 8 := by
  unfold fragmentFlags
  dsimp only
  rw [and_split, show 0xe000 &&& 0x1fff = 0 from rfl, show 0x1fff &&& 0x1fff = 2 ^ 13 - 1 from rfl,
    Nat.and_zero, Nat.zero_or, Nat.and_two_pow_sub_one_eq_mod, Nat.mod_eq_of_lt small]
  exact Nat.mod_eq_of_lt fits

theorem fragmentFlags_more (pkt : Bytes) (start stop : Nat) :
    fragmentFlags pkt start stop &&& 0x2000 ≠ 0
      ↔ MoreFragments pkt ∨ stop < pkt.length - headerLength pkt := by
  unfold fragmentFlags MoreFragments
  dsimp only
  rw [and_split, show 0xe000 &&& 0x2000 = 0x2000 from rfl, show 0x1fff &&& 0x2000 = 0 from rfl,
    Nat.and_zero, Nat.or_zero]
  split
  · rename_i more
    rw [Nat.and_or_distrib_right, Nat.and_assoc]
    exact iff_of_true (by simp) more
  · rename_i last
    rw [Nat.and_assoc]
    exact iff_of_false (by simp) last

/-- The reserved bit and Don't Fragment are those of the packet. -/
theorem fragmentFlags_kept (pkt : Bytes) (start stop : Nat) :
    fragmentFlags pkt start stop &&& 0xc000 = flagsFrag pkt &&& 0xc000 := by
  unfold fragmentFlags
  dsimp only
  rw [and_split, show 0xe000 &&& 0xc000 = 0xc000 from rfl, show 0x1fff &&& 0xc000 = 0 from rfl,
    Nat.and_zero, Nat.or_zero]
  split
  · rw [Nat.and_or_distrib_right, Nat.and_assoc, show 0x2000 &&& 0xc000 = 0 from rfl, Nat.or_zero]
    rfl
  · rw [Nat.and_assoc]
    rfl

/-! ### All fragments -/

section Fragments

variable {pkt : Bytes} {mtu : Nat}

/-- The header is whole, and a fragment has room for eight bytes of payload. -/
def Fragmentable (pkt : Bytes) (mtu : Nat) : Prop :=
  20 ≤ headerLength pkt ∧ headerLength pkt < pkt.length ∧ 0 < maxFragPayload pkt mtu

instance (pkt : Bytes) (mtu : Nat) : Decidable (Fragmentable pkt mtu) :=
  inferInstanceAs (Decidable (_ ∧ _))

/-- **When a packet is fragmented**, and into what. -/
theorem fragmentIpv4Packet_eq (pkt : Bytes) (mtu : Nat) : fragmentIpv4Packet pkt mtu
    = if Fragmentable pkt mtu then
        some ((List.range (fragmentCount pkt mtu)).map (fragmentAt pkt mtu))
      else none := by
  unfold fragmentIpv4Packet
  by_cases fit : Fragmentable pkt mtu
  · obtain ⟨header, more, step⟩ := fit
    have few : fragmentCount pkt mtu ≤ 0 + pkt.length := by
      refine Nat.le_of_not_lt fun more => ?_
      have inside := (lt_fragmentCount_iff step).mp more
      have least := Nat.le_mul_of_pos_right (0 + pkt.length) step
      omega
    have looped := fragmentLoop_eq step few
    rw [Nat.zero_mul, Nat.zero_min, Nat.sub_zero, ← List.range_eq_range'] at looped
    rw [if_neg (by omega), if_neg (by omega), if_neg (by omega), looped,
      if_pos (show Fragmentable pkt mtu from ⟨header, more, step⟩)]
  · rw [if_neg fit]
    split
    · rfl
    · split
      · rfl
      · split
        · rfl
        · exact absurd ⟨by omega, by omega, by omega⟩ fit

theorem fragmentAt_range {index : Nat} (header : 20 ≤ headerLength pkt)
    (more : headerLength pkt < pkt.length) (positive : 0 < maxFragPayload pkt mtu)
    (inside : index < fragmentCount pkt mtu) :
    FragmentRange pkt (index * maxFragPayload pkt mtu)
      (min ((index + 1) * maxFragPayload pkt mtu) (pkt.length - headerLength pkt)) := by
  have start := (lt_fragmentCount_iff positive).mp inside
  rw [Nat.succ_mul]
  exact ⟨header, by omega, by omega, more⟩

/-- The payload of a fragment is a piece of the packet's. -/
theorem slice_eq_fragment (index : Nat) :
    slice (pkt.drop (headerLength pkt)) (index * maxFragPayload pkt mtu)
        (min ((index + 1) * maxFragPayload pkt mtu) (pkt.length - headerLength pkt)
          - index * maxFragPayload pkt mtu)
      = piece (maxFragPayload pkt mtu) (pkt.drop (headerLength pkt)) index := by
  unfold slice piece
  rw [List.take_eq_take_iff, List.length_drop, List.length_drop, Nat.succ_mul]
  omega

/-- The size of the largest fragment's payload is a multiple of eight. -/
theorem maxFragPayload_mod (pkt : Bytes) (mtu : Nat) : maxFragPayload pkt mtu % 8 = 0 :=
  Nat.mul_mod_left _ 8

/-- Fragment `index` of a packet, as it arrives. -/
structure FragmentSpec (pkt : Bytes) (mtu index : Nat) (frag : Bytes) : Prop where
  headerLength_eq : headerLength frag = headerLength pkt
  size : frag.length = headerLength pkt
    + (piece (maxFragPayload pkt mtu) (pkt.drop (headerLength pkt)) index).length
  payload : frag.drop (headerLength pkt)
    = piece (maxFragPayload pkt mtu) (pkt.drop (headerLength pkt)) index
  totalLength : be16 frag 2 = frag.length
  offset : fragmentOffset frag * 8 = fragmentOffset pkt * 8 + index * maxFragPayload pkt mtu
  more : MoreFragments frag ↔ MoreFragments pkt ∨ index + 1 < fragmentCount pkt mtu
  headers : AgreeOff fragmentFields (pkt.take (headerLength pkt)) (frag.take (headerLength pkt))
  kept : flagsFrag frag &&& 0xc000 = flagsFrag pkt &&& 0xc000

/-- **Fragment `index`** of a packet whose offset and length fit 16 bits. -/
theorem fragmentAt_spec {index : Nat} (header : 20 ≤ headerLength pkt)
    (more : headerLength pkt < pkt.length) (positive : 0 < maxFragPayload pkt mtu)
    (small : pkt.length ≤ 65535)
    (fits : fragmentOffset pkt * 8 + (pkt.length - headerLength pkt) ≤ 65535)
    (inside : index < fragmentCount pkt mtu) :
    FragmentSpec pkt mtu index (fragmentAt pkt mtu index) := by
  have range := fragmentAt_range header more positive inside
  have start := (lt_fragmentCount_iff positive).mp inside
  obtain ⟨length, payload, headers, stated, flags⟩ := fragment_spec range
  have aligned := maxFragPayload_mod pkt mtu
  have turns : index * maxFragPayload pkt mtu % 8 = 0 := by
    rw [Nat.mul_mod, aligned, Nat.mul_zero, Nat.zero_mod]
  have data : (fragmentAt pkt mtu index).drop (headerLength pkt)
      = piece (maxFragPayload pkt mtu) (pkt.drop (headerLength pkt)) index := by
    rw [← slice_eq_fragment]
    exact payload
  have size : (fragmentAt pkt mtu index).length = headerLength pkt
      + (piece (maxFragPayload pkt mtu) (pkt.drop (headerLength pkt)) index).length := by
    rw [← data, List.length_drop]
    show (fragment pkt _ _).length = _ + ((fragment pkt _ _).length - _)
    rw [length]
    omega
  refine ⟨?_, size, data, ?_, ?_, ?_, headers, ?_⟩
  · have first : byteAt (fragmentAt pkt mtu index) 0 = byteAt pkt 0 := by
      refine headers.byteAt_of_take (by omega) ?_
      rintro (⟨low, -⟩ | ⟨low, -⟩ | ⟨low, -⟩) <;> omega
    rw [headerLength, headerLength, first]
  · show be16 (fragment pkt _ _) 2 = (fragment pkt _ _).length
    have ordered := range.ordered
    rw [stated, length]
    exact Nat.mod_eq_of_lt (by omega)
  · have offset : fragmentOffset (fragmentAt pkt mtu index)
        = fragmentOffset pkt + index * maxFragPayload pkt mtu / 8 := by
      rw [fragmentOffset, fragmentAt, flags, fragmentFlags_offset (by omega) (by omega)]
    rw [offset]
    omega
  · have last := @lt_fragmentCount_iff pkt mtu (index + 1) positive
    rw [MoreFragments, fragmentAt, flags, fragmentFlags_more]
    refine or_congr_right ?_
    rw [last]
    omega
  · rw [fragmentAt, flags, fragmentFlags_kept]

/-- The order in which fragments arrive, by their indexes. -/
theorem exists_order {arrived : List Bytes} (among : ∀ frag ∈ arrived,
      frag ∈ (List.range (fragmentCount pkt mtu)).map (fragmentAt pkt mtu)) :
    ∃ order : List Nat, arrived = order.map (fragmentAt pkt mtu)
      ∧ ∀ index ∈ order, index < fragmentCount pkt mtu := by
  induction arrived with
  | nil => exact ⟨[], rfl, nofun⟩
  | cons frag rest ih =>
      obtain ⟨order, rfl, inside⟩ :=
        ih fun other later => among other (List.mem_cons_of_mem _ later)
      obtain ⟨index, bound, rfl⟩ := List.mem_map.mp (among frag List.mem_cons_self)
      refine ⟨index :: order, rfl, fun other later => ?_⟩
      rcases List.mem_cons.mp later with rfl | later
      · exact List.mem_range.mp bound
      · exact inside other later

end Fragments

/-! ### Reassembly -/

/-- A fragment's payload put in place, relative to the offset `base` that the packet starts at. -/
def putFragment (base : Nat) (buffer frag : Bytes) : Bytes :=
  overwrite buffer ((fragmentOffset frag - base) * 8) (frag.drop (headerLength frag))

/-- Fragments put in place as they arrive. -/
def reassemble (base : Nat) (buffer : Bytes) (arrived : List Bytes) : Bytes :=
  arrived.foldl (putFragment base) buffer

/-- **The fragments put in place**, in any order and any number of times, are the payload. -/
theorem reassemble_fragments {pkt : Bytes} {mtu : Nat} (positive : 0 < maxFragPayload pkt mtu)
    (spec : ∀ index < fragmentCount pkt mtu,
      FragmentSpec pkt mtu index (fragmentAt pkt mtu index))
    {arrived : List Bytes} {buffer : Bytes}
    (same : ∀ frag, frag ∈ arrived
      ↔ frag ∈ (List.range (fragmentCount pkt mtu)).map (fragmentAt pkt mtu))
    (sized : buffer.length = pkt.length - headerLength pkt) :
    reassemble (fragmentOffset pkt) buffer arrived = pkt.drop (headerLength pkt) := by
  obtain ⟨order, rfl, inside⟩ := exists_order fun frag among => (same frag).mp among
  -- putting a fragment in place is putting its piece in place
  have put : ∀ buffer : Bytes, ∀ index ∈ order,
      putFragment (fragmentOffset pkt) buffer (fragmentAt pkt mtu index)
        = overwrite buffer (index * maxFragPayload pkt mtu)
          (piece (maxFragPayload pkt mtu) (pkt.drop (headerLength pkt)) index) := by
    intro buffer index among
    have frag := spec index (inside index among)
    rw [putFragment, frag.headerLength_eq, frag.payload, Nat.sub_mul, frag.offset,
      Nat.add_sub_cancel_left]
  rw [reassemble, List.foldl_map, List.foldl_ext _ _ _ put]
  have length : (pkt.drop (headerLength pkt)).length = pkt.length - headerLength pkt :=
    List.length_drop
  refine foldl_overwrite_piece positive (sized.trans length.symm) fun place within => Or.inr ?_
  rw [length] at within
  -- the fragment that covers a place has arrived
  have covering : place / maxFragPayload pkt mtu < fragmentCount pkt mtu := by
    rw [lt_fragmentCount_iff positive]
    exact Nat.lt_of_le_of_lt (Nat.div_mul_le_self _ _) within
  obtain ⟨index, among, equal⟩ := List.mem_map.mp ((same _).mpr
    (List.mem_map.mpr ⟨_, List.mem_range.mpr covering, rfl⟩))
  have offset := (spec index (inside index among)).offset
  rw [equal, (spec _ covering).offset] at offset
  rwa [Nat.eq_of_mul_eq_mul_right positive (Nat.add_left_cancel offset)]

/-- What the fragments of a packet are. -/
structure FragmentsOf (pkt : Bytes) (mtu : Nat) (fragments : List Bytes) : Prop where
  nonempty : fragments ≠ []
  size : ∀ frag ∈ fragments, frag.length ≤ mtu ∧ be16 frag 2 = frag.length
  header : ∀ frag ∈ fragments, headerLength frag = headerLength pkt
    ∧ AgreeOff fragmentFields (pkt.take (headerLength pkt)) (frag.take (headerLength pkt))
    ∧ flagsFrag frag &&& 0xc000 = flagsFrag pkt &&& 0xc000
  aligned : ∀ index frag, fragments[index]? = some frag → index + 1 < fragments.length →
    (frag.length - headerLength pkt) % 8 = 0
  first : ∀ frag, fragments[0]? = some frag → fragmentOffset frag = fragmentOffset pkt
  contiguous : ∀ index frag next, fragments[index]? = some frag →
    fragments[index + 1]? = some next →
    fragmentOffset next * 8 = fragmentOffset frag * 8 + (frag.length - headerLength pkt)
  more : ∀ index frag, fragments[index]? = some frag →
    (MoreFragments frag ↔ MoreFragments pkt ∨ index + 1 < fragments.length)
  reassembled : ∀ (arrived : List Bytes) (buffer : Bytes),
    (∀ frag, frag ∈ arrived ↔ frag ∈ fragments) →
    buffer.length = pkt.length - headerLength pkt →
    reassemble (fragmentOffset pkt) buffer arrived = pkt.drop (headerLength pkt)

/-- **Fragmentation is undone by reassembly.** -/
theorem fragmentIpv4Packet_fragments {pkt : Bytes} {mtu : Nat} {fragments : List Bytes}
    (small : pkt.length ≤ 65535)
    (fits : fragmentOffset pkt * 8 + (pkt.length - headerLength pkt) ≤ 65535)
    (done : fragmentIpv4Packet pkt mtu = some fragments) : FragmentsOf pkt mtu fragments := by
  rw [fragmentIpv4Packet_eq] at done
  obtain ⟨⟨header, more, positive⟩, produced⟩ := Option.ite_none_right_eq_some.mp done
  rw [Option.some.injEq] at produced
  subst produced
  have spec : ∀ index < fragmentCount pkt mtu,
      FragmentSpec pkt mtu index (fragmentAt pkt mtu index) :=
    fun index inside => fragmentAt_spec header more positive small fits inside
  have pieceSize : ∀ {index : Nat}, index + 1 < fragmentCount pkt mtu →
      (fragmentAt pkt mtu index).length - headerLength pkt = maxFragPayload pkt mtu := by
    intro index later
    rw [(spec index (Nat.lt_of_succ_lt later)).size, Nat.add_sub_cancel_left]
    exact length_piece_of_succ_lt positive (by rwa [List.length_drop])
  have total : ((List.range (fragmentCount pkt mtu)).map (fragmentAt pkt mtu)).length
      = fragmentCount pkt mtu := by
    rw [List.length_map, List.length_range]
  have member : ∀ {frag : Bytes},
      frag ∈ (List.range (fragmentCount pkt mtu)).map (fragmentAt pkt mtu) →
      ∃ index, FragmentSpec pkt mtu index frag := by
    intro frag among
    obtain ⟨index, bound, rfl⟩ := List.mem_map.mp among
    exact ⟨index, spec index (List.mem_range.mp bound)⟩
  refine ⟨?_, ?_, ?_, ?_, ?_, ?_, ?_, ?_⟩
  · intro none
    have some : 0 < fragmentCount pkt mtu := by
      rw [lt_fragmentCount_iff positive]
      omega
    rw [none] at total
    exact absurd total (Nat.ne_of_lt some)
  · intro frag among
    obtain ⟨index, frag⟩ := member among
    refine ⟨?_, frag.totalLength⟩
    have most : maxFragPayload pkt mtu ≤ mtu - headerLength pkt := Nat.div_mul_le_self _ 8
    rw [frag.size, length_piece]
    omega
  · intro frag among
    obtain ⟨index, frag⟩ := member among
    exact ⟨frag.headerLength_eq, frag.headers, frag.kept⟩
  · intro index frag found later
    obtain ⟨inside, rfl⟩ := getElem?_map_range found
    rw [total] at later
    rw [pieceSize later]
    exact maxFragPayload_mod pkt mtu
  · intro frag found
    obtain ⟨inside, rfl⟩ := getElem?_map_range found
    have offset := (spec 0 inside).offset
    rw [Nat.zero_mul, Nat.add_zero] at offset
    exact Nat.eq_of_mul_eq_mul_right (by decide) offset
  · intro index frag next found foundNext
    obtain ⟨inside, rfl⟩ := getElem?_map_range found
    obtain ⟨insideNext, rfl⟩ := getElem?_map_range foundNext
    calc fragmentOffset (fragmentAt pkt mtu (index + 1)) * 8
        = fragmentOffset pkt * 8 + (index + 1) * maxFragPayload pkt mtu :=
          (spec (index + 1) insideNext).offset
      _ = fragmentOffset pkt * 8 + index * maxFragPayload pkt mtu + maxFragPayload pkt mtu := by
          rw [Nat.succ_mul, Nat.add_assoc]
      _ = fragmentOffset (fragmentAt pkt mtu index) * 8
          + ((fragmentAt pkt mtu index).length - headerLength pkt) := by
          rw [(spec index inside).offset, pieceSize insideNext]
  · intro index frag found
    obtain ⟨inside, rfl⟩ := getElem?_map_range found
    rw [(spec index inside).more, total]
  · intro arrived buffer same sized
    exact reassemble_fragments positive spec same sized

/-- A fragment with options and More Fragments, at offset three, with twenty bytes of payload. -/
def sampleFragmented : Bytes :=
  [0x46, 0, 0, 44, 0, 7, 0x20, 3, 64, 17, 0, 0, 10, 0, 0, 1, 10, 0, 0, 2, 1, 1, 1, 0]
    ++ List.range' 1 20 |>.map .ofNat

theorem fragmentIpv4Packet_fragments_sample : ∃ fragments,
    fragmentIpv4Packet sampleFragmented 36 = some fragments ∧ fragments.length = 3
      ∧ FragmentsOf sampleFragmented 36 fragments := by
  have done : fragmentIpv4Packet sampleFragmented 36
      = some (fragmentLoop sampleFragmented 8 44 0) := by decide +kernel
  exact ⟨_, done, by decide +kernel,
    fragmentIpv4Packet_fragments (by decide) (by decide +kernel) done⟩

end RsTun.Packet
