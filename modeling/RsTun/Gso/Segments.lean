/-
**The segments of a GSO packet.**

What each stage of the segment loop returns, for a packet that the kernel describes by its virtio
header (`KernelHeader`), and from it what the loop returns.

* `segmentIpHeader_v4`, `segmentIpHeader_v6`, `segmentTransportHeader_tcp`,
  `segmentTransportHeader_udp` — the headers of a segment.
* `gsoSegment_kernel` — one turn: the data are a piece of the payload, the transport header is that
  of the piece, and the transport sum verifies.
* `segmentLoop_splitInto` — the whole loop: as many segments as pieces, and their data together are
  the payload.
-/

import RsTun.Gso.Split
import RsTun.Library.Pieces
import RsTun.Packet.Checksum

namespace RsTun.Gso

open Library Library.Bytes Library.OnesComplement Packet

/-! ### Checksums -/

theorem checksum_eq_ok {data : Bytes} {initial : Nat} (small : data.length ≤ 131068)
    (fits : initial < 65536) :
    checksum data initial = .ok (foldCarries (initial + wordSum data)) := by
  have bound := wordSum_le data
  have sum : initial + wordSum data < 2 ^ 32 := by omega
  rw [checksum, Checked.inBits_eq_ok sum]
  rfl

/-- The pseudo header of addresses with whole words. -/
theorem pseudoHeaderChecksum_eq {src dst : Bytes} (protocol : UInt8) (length : Nat)
    (evenSrc : src.length % 2 = 0) (evenDst : dst.length % 2 = 0) :
    pseudoHeaderChecksum protocol src dst length
      = foldCarries (wordSum src + wordSum dst + protocol.toNat + length) := by
  have whole : ∀ {addr : Bytes}, addr.length % 2 = 0 → addr.take (addr.length / 2 * 2) = addr :=
    fun even => List.take_of_length_le (by omega)
  rw [pseudoHeaderChecksum, whole evenSrc, whole evenDst]

/-- **A checksum field within a transport header**, cleared, summed over from the start of the
header on and filled in. -/
theorem verifies_fill {data : Bytes} {csumStart csumOffset seed : Nat} (even : csumOffset % 2 = 0)
    (inside : csumStart + csumOffset + 2 ≤ data.length) :
    Verifies (seed + wordSum ((overwrite (overwrite data (csumStart + csumOffset) [0, 0])
      (csumStart + csumOffset) (encode 2 (complement (foldCarries (seed + wordSum
        ((overwrite data (csumStart + csumOffset) [0, 0]).drop csumStart)))))).drop
          csumStart)) := by
  have room : csumStart + csumOffset + ([0, 0] : Bytes).length ≤ data.length := inside
  have size : (overwrite data (csumStart + csumOffset) [0, 0]).length = data.length :=
    length_overwrite room
  rw [drop_overwrite_of_ge (by rw [length_encode]; omega) (Nat.le_add_right _ _),
    drop_overwrite_of_ge room (Nat.le_add_right _ _), Nat.add_sub_cancel_left]
  exact verifies_overwrite even (by rw [List.length_drop]; omega)

/-! ### The headers of a segment -/

/-- The fields of an IPv4 header that the split sets: length, identification and checksum. -/
def ipv4Fields : Set Nat := {index | 2 ≤ index ∧ index < 6 ∨ 10 ≤ index ∧ index < 12}

/-- The fields of a TCP header at `start` that the split sets, but for the checksum. -/
def tcpFields (start : Nat) : Set Nat :=
  {index | start + 4 ≤ index ∧ index < start + 8 ∨ index = start + tcpFlagsOffset}

/-- Writing a number into a field of two bytes. -/
theorem writeWord {data word : Bytes} {start : Nat} (two : word.length = 2)
    (inside : start + 2 ≤ data.length) :
    Checked.copyFromSlice data start (start + 2) word
        = (.ok (overwrite data start word) : Checked GsoError Bytes)
      ∧ AgreeOff (wordAt start) data (overwrite data start word) :=
  ⟨Checked.copyFromSlice_eq_ok (by rw [two]) inside, agreeOff_word two inside⟩

section Headers

variable {options : GsoOptions} {plan : SegmentPlan} {i totalLen segmentDataLen : Nat} {out : Bytes}

/-- The identification of segment `i`, before what follows it. -/
theorem nextId_spec (inside : 6 ≤ out.length) : ∃ out' : Bytes,
    (∀ next : Bytes → Checked GsoError Bytes, (if 0 < i then do
        let id ← Checked.readU16 out 4
        let out ← Checked.copyFromSlice out 4 6 (encode 2 (id + i % 65536))
        next out
      else do
        let out ← pure out
        next out) = next out')
    ∧ AgreeOff (wordAt 4) out out' ∧ be16 out' 4 = (be16 out 4 + i) % 65536 := by
  by_cases first : 0 < i
  · have written := writeWord (length_encode 2 (be16 out 4 + i % 65536)) inside
    refine ⟨_, fun next => ?_, written.2, ?_⟩
    · rw [if_pos first, Checked.readU16_eq_ok (by omega)]
      show Except.bind (Checked.copyFromSlice out 4 6 _) _ = _
      rw [written.1]
      rfl
    · rw [be16_overwrite inside]
      omega
  · have small := be16_lt out 4
    refine ⟨out, fun next => if_neg first, AgreeOff.refl _ _, ?_⟩
    rw [Nat.eq_zero_of_not_pos first, Nat.add_zero, Nat.mod_eq_of_lt small]

/-- **The IPv4 header of segment `i`.** -/
theorem segmentIpHeader_v4 (four : plan.ipVersion = 4) (header : 20 ≤ options.csumStart.toNat)
    (inside : options.csumStart.toNat ≤ out.length) : ∃ out',
    segmentIpHeader options plan i totalLen out = .ok out' ∧ AgreeOff ipv4Fields out out'
      ∧ be16 out' 2 = totalLen % 65536 ∧ be16 out' 4 = (be16 out 4 + i) % 65536
      ∧ Verifies (wordSum (out'.take options.csumStart.toNat)) := by
  have small := options.csumStart.toNat_lt
  obtain ⟨named, assigned, namedOnly, id⟩ := @nextId_spec i out (by omega)
  -- the checksum field is cleared, the length set, and the sum written
  let cleared := overwrite named 10 [0, 0]
  let sized := overwrite cleared 2 (encode 2 totalLen)
  let header := sized.take options.csumStart.toNat
  let sum := complement (foldCarries (0 + wordSum header))
  have clear := @writeWord named [0, 0] 10 rfl (by rw [namedOnly.1]; omega)
  have clearedSize : cleared.length = out.length := clear.2.1.trans namedOnly.1
  have size := @writeWord cleared _ 2 (length_encode 2 totalLen) (by omega)
  have sizedSize : sized.length = out.length := size.2.1.trans clearedSize
  have finish := @writeWord sized _ 10 (length_encode 2 sum) (by omega)
  have headerSize : header.length = options.csumStart.toNat :=
    List.length_take_of_le (by omega)
  have summed : checksum header 0 = .ok (foldCarries (0 + wordSum header)) :=
    checksum_eq_ok (by omega) (by norm_num)
  refine ⟨overwrite sized 10 (encode 2 sum), ?_, ?_, ?_, ?_, ?_⟩
  · rw [segmentIpHeader, if_pos four]
    refine (assigned _).trans ?_
    show Except.bind (Checked.copyFromSlice named 10 12 [0, 0]) _ = _
    rw [clear.1]
    show Except.bind (Checked.copyFromSlice cleared 2 4 (encode 2 totalLen)) _ = _
    rw [size.1]
    show Except.bind (Checked.range sized 0 options.csumStart.toNat) _ = _
    rw [Checked.range_eq_ok (Nat.zero_le _) (by omega), Nat.sub_zero, slice_zero]
    show Except.bind (checksum header 0) _ = _
    rw [summed]
    exact finish.1
  · refine ((namedOnly.mono ?_).trans (clear.2.mono ?_)).trans
      ((size.2.mono ?_).trans (finish.2.mono ?_)) <;>
    · rintro index ⟨low, high⟩
      show 2 ≤ index ∧ index < 6 ∨ 10 ≤ index ∧ index < 12
      omega
  · rw [finish.2.be16_eq (by simp [wordAt]) (by simp [wordAt])]
    exact be16_overwrite (by omega)
  · rw [finish.2.be16_eq (by simp [wordAt]) (by simp [wordAt]),
      size.2.be16_eq (by simp [wordAt]) (by simp [wordAt]),
      clear.2.be16_eq (by simp [wordAt]) (by simp [wordAt]), id]
  · have zeros : slice header 10 2 = [0, 0] := by
      rw [slice_take (by omega), size.2.slice_eq fun index low _ inside => ?_]
      · exact @slice_overwrite_self named [0, 0] 10 (by rw [namedOnly.1]; show 12 ≤ _; omega)
      · have early := inside.2
        omega
    have verified := @verifies_overwrite_of_cleared header 10 0 rfl (by omega) zeros
    rw [take_overwrite_of_ge (by rw [length_encode]; omega) (by omega)]
    rwa [Nat.zero_add] at verified

/-- **The IPv6 header of a segment**: what it states as its payload is what follows the header that
the virtio header tells, extension headers included. -/
theorem segmentIpHeader_v6 (other : plan.ipVersion ≠ 4) (inside : 6 ≤ out.length) : ∃ out',
    segmentIpHeader options plan i totalLen out = .ok out' ∧ AgreeOff (wordAt 4) out out'
      ∧ be16 out' 4 = (totalLen - options.csumStart.toNat) % 65536 := by
  have written := writeWord (length_encode 2 (totalLen - options.csumStart.toNat)) inside
  refine ⟨_, ?_, written.2, be16_overwrite inside⟩
  rw [segmentIpHeader, if_neg other]
  exact written.1

/-- **The TCP header of segment `i`.** -/
theorem segmentTransportHeader_tcp {last : Bool} (tcp : plan.protocol = 6)
    (inside : options.csumStart.toNat + 20 ≤ out.length)
    (small : i < 2 ^ 32) (fits : options.gsoSize.toNat * i < 2 ^ 32) : ∃ out',
    segmentTransportHeader options plan i segmentDataLen last out = .ok out'
      ∧ AgreeOff (tcpFields options.csumStart.toNat) out out'
      ∧ value (slice out' (options.csumStart.toNat + 4) 4)
        = (plan.firstTcpSeqNum + options.gsoSize.toNat * i) % 2 ^ 32
      ∧ byteAt out' (options.csumStart.toNat + tcpFlagsOffset)
        = if last then byteAt out (options.csumStart.toNat + tcpFlagsOffset)
          else byteAt out (options.csumStart.toNat + tcpFlagsOffset)
            &&& ~~~(tcpFlagFin ||| tcpFlagPsh) := by
  let seq := encode 4 (plan.firstTcpSeqNum + options.gsoSize.toNat * i)
  have sized : seq.length = 4 := length_encode 4 _
  have room : options.csumStart.toNat + 4 + seq.length ≤ out.length := by omega
  let numbered := overwrite out (options.csumStart.toNat + 4) seq
  have numberedOnly : AgreeOff (tcpFields options.csumStart.toNat) out numbered :=
    agreeOff_overwrite room fun index low high => Or.inl ⟨low, by omega⟩
  have flagsKept : byteAt numbered (options.csumStart.toNat + tcpFlagsOffset)
      = byteAt out (options.csumStart.toNat + tcpFlagsOffset) := by
    have apart : AgreeOff {index | index < options.csumStart.toNat + 8} out numbered :=
      agreeOff_overwrite room fun index low high => by
        show index < _
        omega
    refine apart.byteAt_eq fun inside => ?_
    have early : options.csumStart.toNat + 13 < options.csumStart.toNat + 8 := inside
    omega
  have steps : segmentTransportHeader options plan i segmentDataLen last out = (do
      if last then return numbered
      else
        let flags ← Checked.index numbered (options.csumStart.toNat + tcpFlagsOffset)
        Checked.copyFromSlice numbered (options.csumStart.toNat + tcpFlagsOffset)
          (options.csumStart.toNat + tcpFlagsOffset + 1)
          [flags &&& ~~~(tcpFlagFin ||| tcpFlagPsh)]) := by
    rw [segmentTransportHeader, if_pos tcp, Nat.mod_eq_of_lt small]
    show Except.bind _ _ = _
    rw [Checked.inBits_eq_ok fits]
    show Except.bind (Checked.copyFromSlice out _ _ seq) _ = _
    rw [Checked.copyFromSlice_eq_ok (by omega) (by omega)]
    rfl
  cases last with
  | true =>
      refine ⟨numbered, steps, numberedOnly, ?_, flagsKept⟩
      exact value_slice_overwrite (by omega)
  | false =>
      have inside' : options.csumStart.toNat + tcpFlagsOffset < numbered.length := by
        rw [numberedOnly.1]
        show options.csumStart.toNat + 13 < out.length
        omega
      let flags := byteAt numbered (options.csumStart.toNat + tcpFlagsOffset)
        &&& ~~~(tcpFlagFin ||| tcpFlagPsh)
      have cleared : AgreeOff {options.csumStart.toNat + tcpFlagsOffset} numbered
          (overwrite numbered (options.csumStart.toNat + tcpFlagsOffset) [flags]) :=
        agreeOff_overwrite inside' fun index low high => by
          have last : index < options.csumStart.toNat + tcpFlagsOffset + 1 := high
          show index = _
          omega
      refine ⟨_, ?_, numberedOnly.trans (cleared.mono fun index same => Or.inr same), ?_, ?_⟩
      · rw [steps]
        show Except.bind _ _ = _
        rw [Checked.index_eq_ok inside']
        exact Checked.copyFromSlice_eq_ok rfl inside'
      · rw [cleared.slice_eq fun index _ high same => ?_]
        · exact value_slice_overwrite (by omega)
        · have place : index = options.csumStart.toNat + 13 := same
          omega
      · rw [byteAt_overwrite_singleton inside']
        show byteAt numbered _ &&& _ = _
        rw [flagsKept]
        rfl

/-- **The UDP header of a segment.** -/
theorem segmentTransportHeader_udp {last : Bool} (udp : plan.protocol ≠ 6)
    (inside : options.csumStart.toNat + 8 ≤ out.length)
    (fits : segmentDataLen + (options.hdrLen.toNat - options.csumStart.toNat) < 65536) : ∃ out',
    segmentTransportHeader options plan i segmentDataLen last out = .ok out'
      ∧ AgreeOff (wordAt (options.csumStart.toNat + 4)) out out'
      ∧ be16 out' (options.csumStart.toNat + 4)
        = segmentDataLen + (options.hdrLen.toNat - options.csumStart.toNat) := by
  have written := @writeWord out _ (options.csumStart.toNat + 4)
    (length_encode 2 (segmentDataLen + (options.hdrLen.toNat - options.csumStart.toNat)))
    (by omega)
  refine ⟨_, ?_, written.2, ?_⟩
  · rw [segmentTransportHeader, if_neg udp, Nat.mod_eq_of_lt (by omega)]
    show Except.bind _ _ = _
    rw [Checked.inBits_eq_ok fits]
    exact written.1
  · rw [be16_overwrite (by omega), Nat.mod_eq_of_lt fits]

end Headers

/-! ### One segment -/

/-- The header of the input with room for `dataLen` bytes behind it. -/
def segmentStart (input : Bytes) (options : GsoOptions) (dataLen : Nat) : Bytes :=
  overwrite (List.replicate (options.hdrLen.toNat + dataLen) 0) 0
    (input.take options.hdrLen.toNat)

/-- The number of data bytes of the segment whose data start at `next`. -/
def segmentDataLen (input : Bytes) (options : GsoOptions) (next : Nat) : Nat :=
  min (next + options.gsoSize.toNat) input.length - next

/-- The virtio header describes a header within the input, and a checksum field within it. -/
structure HeadersInside (input : Bytes) (options : GsoOptions) : Prop where
  small : input.length ≤ 65535
  header : options.hdrLen.toNat ≤ input.length
  csumField : options.csumStart.toNat + options.csumOffset.toNat + 2 ≤ options.hdrLen.toNat
  csumEven : options.csumOffset.toNat % 2 = 0

section Segment

variable {input : Bytes} {options : GsoOptions} {plan : SegmentPlan} {i next : Nat}

theorem length_segmentStart (inside : HeadersInside input options) (dataLen : Nat) :
    (segmentStart input options dataLen).length = options.hdrLen.toNat + dataLen := by
  have header := inside.header
  rw [segmentStart, length_overwrite, List.length_replicate]
  rw [List.length_replicate, List.length_take]
  omega

theorem take_segmentStart (inside : HeadersInside input options) (dataLen : Nat) :
    (segmentStart input options dataLen).take options.hdrLen.toNat
      = input.take options.hdrLen.toNat := by
  have size : (input.take options.hdrLen.toNat).length = options.hdrLen.toNat :=
    List.length_take_of_le inside.header
  rw [segmentStart, overwrite, List.take_zero, List.nil_append]
  exact List.take_left' size

/-- **The body of the segment loop**, once both headers are set: the data follow the header, and the
transport checksum verifies. -/
theorem gsoSegment_spec {first second : Bytes} (inside : HeadersInside input options)
    (begun : options.hdrLen.toNat ≤ next) (more : next < input.length)
    (ip : segmentIpHeader options plan i (options.hdrLen.toNat + segmentDataLen input options next)
      (segmentStart input options (segmentDataLen input options next)) = .ok first)
    (transport : segmentTransportHeader options plan i (segmentDataLen input options next)
      (min (next + options.gsoSize.toNat) input.length == input.length) first = .ok second)
    (size : second.length = options.hdrLen.toNat + segmentDataLen input options next) :
    ∃ segment, gsoSegment input options plan i next = .ok segment
      ∧ segment.length = options.hdrLen.toNat + segmentDataLen input options next
      ∧ AgreeOff (wordAt (options.csumStart.toNat + options.csumOffset.toNat))
        (second.take options.hdrLen.toNat) (segment.take options.hdrLen.toNat)
      ∧ segment.drop options.hdrLen.toNat = slice input next (segmentDataLen input options next)
      ∧ Verifies (checksumCombine plan.pseudoSumBase (segment.length - options.csumStart.toNat)
        + wordSum (segment.drop options.csumStart.toNat)) := by
  obtain ⟨small, header, csumField, csumEven⟩ := inside
  let dataLen := segmentDataLen input options next
  let hdrLen := options.hdrLen.toNat
  let csumStart := options.csumStart.toNat
  let csumAt := csumStart + options.csumOffset.toNat
  have stop : next + dataLen = min (next + options.gsoSize.toNat) input.length := by
    show next + (min _ _ - next) = _
    omega
  have data : (slice input next dataLen).length = dataLen := length_slice (by omega)
  have total : hdrLen + dataLen ≤ 65535 := by omega
  -- the data, the cleared checksum field, the sum
  let filled := overwrite second hdrLen (slice input next dataLen)
  let cleared := overwrite filled csumAt [0, 0]
  let seed := checksumCombine plan.pseudoSumBase (hdrLen - csumStart + dataLen)
  let sum := complement (foldCarries (seed + wordSum (cleared.drop csumStart)))
  let segment := overwrite cleared csumAt (encode 2 sum)
  have roomData : hdrLen + (slice input next dataLen).length ≤ second.length := by omega
  have filledSize : filled.length = hdrLen + dataLen := (length_overwrite roomData).trans size
  have clear := @writeWord filled [0, 0] csumAt rfl (by omega)
  have clearedSize : cleared.length = hdrLen + dataLen := clear.2.1.trans filledSize
  have finish := @writeWord cleared _ csumAt (length_encode 2 sum) (by omega)
  have segmentSize : segment.length = hdrLen + dataLen := finish.2.1.trans clearedSize
  have refilled : AgreeOff (wordAt csumAt) filled segment := clear.2.trans finish.2
  have bodySize : (cleared.drop csumStart).length ≤ 131068 := by
    rw [List.length_drop]
    omega
  have body : Checked.range cleared csumStart (hdrLen + dataLen)
      = (.ok (cleared.drop csumStart) : Checked GsoError Bytes) := by
    rw [Checked.range_eq_ok (by omega) (by omega), slice,
      List.take_of_length_le (by rw [List.length_drop]; omega)]
  have summed : checksum (cleared.drop csumStart) seed
      = .ok (foldCarries (seed + wordSum (cleared.drop csumStart))) :=
    checksum_eq_ok bodySize (foldCarries_lt _)
  refine ⟨segment, ?_, segmentSize, ?_, ?_, ?_⟩
  · unfold gsoSegment
    show Except.bind (Checked.range input 0 hdrLen) _ = _
    rw [Checked.range_eq_ok (Nat.zero_le _) header, Nat.sub_zero, slice_zero]
    show Except.bind (Checked.copyFromSlice (List.replicate (hdrLen + dataLen) 0) 0 hdrLen
      (input.take hdrLen)) _ = _
    rw [Checked.copyFromSlice_eq_ok (by rw [Nat.zero_add, List.length_take_of_le header])
      (by rw [List.length_replicate]; omega)]
    show Except.bind (segmentIpHeader options plan i (hdrLen + dataLen)
      (segmentStart input options dataLen)) _ = _
    rw [ip]
    show Except.bind (segmentTransportHeader options plan i dataLen _ first) _ = _
    rw [transport]
    show Except.bind (Checked.range input next _) _ = _
    rw [← stop, Checked.range_eq_ok (by omega) (by omega), Nat.add_sub_cancel_left]
    show Except.bind (Checked.copyFromSlice second hdrLen (hdrLen + dataLen)
      (slice input next dataLen)) _ = _
    rw [Checked.copyFromSlice_eq_ok (by rw [data]) (by omega)]
    show Except.bind (Checked.copyFromSlice filled csumAt (csumAt + 2) [0, 0]) _ = _
    rw [clear.1]
    show Except.bind (Checked.inBits 16 _) _ = _
    rw [Nat.mod_eq_of_lt (by omega), Checked.inBits_eq_ok (by omega)]
    show Except.bind (Checked.range cleared csumStart (hdrLen + dataLen)) _ = _
    rw [body]
    show Except.bind (checksum (cleared.drop csumStart) seed) _ = _
    rw [summed]
    exact finish.1
  · have headers := refilled.take hdrLen
    rwa [take_overwrite_of_le roomData (Nat.le_refl _)] at headers
  · rw [refilled.drop_eq fun index field => lt_of_lt_of_le field.2 csumField]
    exact drop_overwrite_self (by omega)
  · have length : segment.length - csumStart = hdrLen - csumStart + dataLen := by omega
    rw [length]
    exact verifies_fill csumEven (by omega)

end Segment

/-! ### The headers as the kernel describes them -/

/-- The protocol number of the segments. -/
def protocolOf (options : GsoOptions) : UInt8 := if options.gsoType = .udpL4 then 17 else 6

/-- What the split sets in the transport header, but for the checksum. -/
def headerFields (options : GsoOptions) : Set Nat :=
  if options.gsoType = .udpL4 then wordAt (options.csumStart.toNat + 4)
  else tcpFields options.csumStart.toNat

/-- What the split sets in the transport header. -/
def transportFields (options : GsoOptions) : Set Nat :=
  headerFields options ∪ wordAt (options.csumStart.toNat + options.csumOffset.toNat)

/-- The virtio header of a packet to split, for TCP of type `tcp` or for UDP: the kernel tells
where the transport header starts, where its checksum field is and where the payload starts. -/
structure KernelHeader (tcp : GsoType) (input : Bytes) (options : GsoOptions) : Prop where
  small : input.length ≤ 65535
  transport : options.gsoType = tcp ∧ options.csumOffset = 16
      ∧ options.csumStart.toNat + 20 ≤ options.hdrLen.toNat
    ∨ options.gsoType = .udpL4 ∧ options.csumOffset = 6
      ∧ options.hdrLen.toNat = options.csumStart.toNat + 8
  size : 1 ≤ options.gsoSize.toNat
  payload : options.hdrLen.toNat + options.gsoSize.toNat ≤ input.length

/-- The transport header of segment `index`. -/
structure TransportHeader (input : Bytes) (options : GsoOptions) (segment : Bytes) (index : Nat)
    (last : Bool) : Prop where
  sequence : options.gsoType ≠ .udpL4 → value (slice segment (options.csumStart.toNat + 4) 4)
    = (value (slice input (options.csumStart.toNat + 4) 4) + options.gsoSize.toNat * index) % 2 ^ 32
  flags : options.gsoType ≠ .udpL4 →
    byteAt segment (options.csumStart.toNat + tcpFlagsOffset)
      = if last then byteAt input (options.csumStart.toNat + tcpFlagsOffset)
        else byteAt input (options.csumStart.toNat + tcpFlagsOffset)
          &&& ~~~(tcpFlagFin ||| tcpFlagPsh)
  udpLength : options.gsoType = .udpL4 →
    be16 segment (options.csumStart.toNat + 4) = 8 + (segment.length - options.hdrLen.toNat)

section Kernel

variable {tcp : GsoType} {input : Bytes} {options : GsoOptions}

theorem KernelHeader.inside (kernel : KernelHeader tcp input options) :
    HeadersInside input options := by
  obtain ⟨small, transport, size, payload⟩ := kernel
  refine ⟨small, by omega, ?_, ?_⟩
  · rcases transport with ⟨-, offset, header⟩ | ⟨-, offset, header⟩
    · rw [offset]
      show _ + 16 + 2 ≤ _
      omega
    · rw [offset]
      show _ + 6 + 2 ≤ _
      omega
  · rcases transport with ⟨-, offset, -⟩ | ⟨-, offset, -⟩ <;>
    · rw [offset]
      rfl

/-- The fields lie behind the IP header. -/
theorem transportFields_ge {index : Nat} (field : index ∈ transportFields options) :
    options.csumStart.toNat ≤ index := by
  rcases field with set | csum
  · unfold headerFields at set
    split at set
    · exact Nat.le_trans (Nat.le_add_right _ _) set.1
    · rcases set with ⟨low, -⟩ | same
      · exact Nat.le_trans (Nat.le_add_right _ _) low
      · rw [same]
        exact Nat.le_add_right _ _
  · exact Nat.le_trans (Nat.le_add_right _ _) csum.1

/-- Both stages of a segment's headers together. -/
theorem agreeOff_stages {touched : Set Nat} {dataLen : Nat} {first segment : Bytes}
    (inside : HeadersInside input options)
    (ipOnly : AgreeOff touched (segmentStart input options dataLen) first)
    (transportOnly : AgreeOff (transportFields options) (first.take options.hdrLen.toNat)
      (segment.take options.hdrLen.toNat)) :
    AgreeOff (touched ∪ transportFields options) (input.take options.hdrLen.toNat)
      (segment.take options.hdrLen.toNat) := by
  have headers := ipOnly.take options.hdrLen.toNat
  rw [take_segmentStart inside] at headers
  exact (headers.mono Set.subset_union_left).trans (transportOnly.mono Set.subset_union_right)

theorem KernelHeader.header_le (kernel : KernelHeader tcp input options) :
    options.csumStart.toNat + 8 ≤ options.hdrLen.toNat := by
  rcases kernel.transport with ⟨-, -, header⟩ | ⟨-, -, header⟩ <;> omega

/-- The turn of the loop that reaches the end of the input. -/
theorem lastTurn (input : Bytes) (options : GsoOptions) (i : Nat) :
    (min (options.hdrLen.toNat + i * options.gsoSize.toNat + options.gsoSize.toNat) input.length
        == input.length)
      = decide (input.length ≤ options.hdrLen.toNat + (i + 1) * options.gsoSize.toNat) := by
  rw [Nat.succ_mul, ← Nat.add_assoc, Bool.eq_iff_iff, beq_iff_eq, decide_eq_true_iff]
  omega

/-- The data of a segment are a piece of the payload. -/
theorem slice_eq_piece (input : Bytes) (options : GsoOptions) (i : Nat) :
    slice input (options.hdrLen.toNat + i * options.gsoSize.toNat)
        (segmentDataLen input options (options.hdrLen.toNat + i * options.gsoSize.toNat))
      = piece options.gsoSize.toNat (input.drop options.hdrLen.toNat) i := by
  unfold slice piece segmentDataLen
  rw [List.drop_drop, List.take_eq_take_iff, List.length_drop]
  omega

/-- **Segment `i` but for its IP header**, for a packet that the kernel describes. -/
theorem gsoSegment_kernel {plan : SegmentPlan} {first : Bytes} {i : Nat}
    {touched : Set Nat} (kernel : KernelHeader tcp input options) (isTcp : tcp ≠ .udpL4)
    (protocol : plan.protocol = protocolOf options)
    (seq : options.gsoType ≠ .udpL4 →
      plan.firstTcpSeqNum = value (slice input (options.csumStart.toNat + 4) 4))
    (more : options.hdrLen.toNat + i * options.gsoSize.toNat < input.length)
    (ip : segmentIpHeader options plan i (options.hdrLen.toNat
        + segmentDataLen input options (options.hdrLen.toNat + i * options.gsoSize.toNat))
      (segmentStart input options
        (segmentDataLen input options (options.hdrLen.toNat + i * options.gsoSize.toNat)))
        = .ok first)
    (ipOnly : AgreeOff touched (segmentStart input options
        (segmentDataLen input options (options.hdrLen.toNat + i * options.gsoSize.toNat))) first)
    (before : ∀ index ∈ touched, index < options.csumStart.toNat) :
    ∃ segment,
      gsoSegment input options plan i (options.hdrLen.toNat + i * options.gsoSize.toNat)
        = .ok segment
      ∧ segment.length = options.hdrLen.toNat
        + segmentDataLen input options (options.hdrLen.toNat + i * options.gsoSize.toNat)
      ∧ segment.drop options.hdrLen.toNat
        = piece options.gsoSize.toNat (input.drop options.hdrLen.toNat) i
      ∧ TransportHeader input options segment i
        (decide (input.length ≤ options.hdrLen.toNat + (i + 1) * options.gsoSize.toNat))
      ∧ AgreeOff (transportFields options) (first.take options.hdrLen.toNat)
        (segment.take options.hdrLen.toNat)
      ∧ Verifies (checksumCombine plan.pseudoSumBase (segment.length - options.csumStart.toNat)
        + wordSum (segment.drop options.csumStart.toNat)) := by
  let next := options.hdrLen.toNat + i * options.gsoSize.toNat
  let dataLen := segmentDataLen input options next
  have inside := kernel.inside
  have header := kernel.header_le
  have small := inside.small
  have startSize := length_segmentStart inside dataLen
  have firstSize : first.length = options.hdrLen.toNat + dataLen := ipOnly.1.trans startSize
  -- the transport header is that of the input before this stage
  have kept : AgreeOff touched (input.take options.hdrLen.toNat)
      (first.take options.hdrLen.toNat) := by
    have headers := ipOnly.take options.hdrLen.toNat
    rwa [take_segmentStart inside] at headers
  have dataFits : next + dataLen ≤ input.length := by
    show next + (min (next + options.gsoSize.toNat) input.length - next) ≤ input.length
    omega
  have turns : options.gsoSize.toNat * i < 2 ^ 32 := by
    rw [Nat.mul_comm]
    omega
  have few : i < 2 ^ 32 := by
    have := Nat.le_mul_of_pos_right i kernel.size
    omega
  rcases kernel.transport with ⟨isTcp', offset, long⟩ | ⟨isUdp, offset, long⟩
  · have notUdp : options.gsoType ≠ .udpL4 := by
      rwa [isTcp']
    have proto : plan.protocol = 6 := protocol.trans (if_neg notUdp)
    obtain ⟨second, transport, secondOnly, number, flags⟩ := @segmentTransportHeader_tcp options
      plan i dataLen first (min (next + options.gsoSize.toNat) input.length == input.length)
      proto (by omega) few turns
    obtain ⟨segment, produced, size, csumOnly, data, verified⟩ := gsoSegment_spec inside
      (Nat.le_add_right _ _) more ip transport (secondOnly.1.trans firstSize)
    have csumApart : ∀ index < options.csumStart.toNat + 16,
        index ∉ wordAt (options.csumStart.toNat + options.csumOffset.toNat) := by
      rw [offset]
      exact fun index early field => absurd field.1 (Nat.not_le.mpr early)
    refine ⟨segment, produced, size, data.trans (slice_eq_piece input options i), ?_, ?_, verified⟩
    · refine ⟨fun _ => ?_, fun _ => ?_, fun udp => absurd udp notUdp⟩
      · rw [csumOnly.slice_of_take (by omega) fun index _ high => csumApart index (by omega),
          number, seq notUdp]
      · have place : options.csumStart.toNat + tcpFlagsOffset < options.csumStart.toNat + 16 :=
          Nat.add_lt_add_left (by decide) _
        rw [csumOnly.byteAt_of_take (by omega) (csumApart _ place), flags, lastTurn,
          kept.byteAt_of_take (by omega) fun field => absurd (before _ field) (by omega)]
    · have headers : headerFields options = tcpFields options.csumStart.toNat := if_neg notUdp
      refine ((secondOnly.take _).mono ?_).trans (csumOnly.mono fun index => Or.inr)
      rw [← headers]
      exact fun index => Or.inl
  · have proto : plan.protocol ≠ 6 := by
      rw [protocol, protocolOf, if_pos isUdp]
      decide
    obtain ⟨second, transport, secondOnly, length⟩ := @segmentTransportHeader_udp options
      plan i dataLen first (min (next + options.gsoSize.toNat) input.length == input.length)
      proto (by omega) (by omega)
    obtain ⟨segment, produced, size, csumOnly, data, verified⟩ := gsoSegment_spec inside
      (Nat.le_add_right _ _) more ip transport (secondOnly.1.trans firstSize)
    refine ⟨segment, produced, size, data.trans (slice_eq_piece input options i), ?_, ?_, verified⟩
    · refine ⟨fun notUdp => absurd isUdp notUdp, fun notUdp => absurd isUdp notUdp, fun _ => ?_⟩
      rw [be16_congr (csumOnly.slice_of_take (by omega) fun index _ high field => ?_), length]
      · have total : segment.length = options.hdrLen.toNat + dataLen := size
        omega
      · have late := field.1
        rw [offset] at late
        change options.csumStart.toNat + 6 ≤ index at late
        omega
    · have headers : headerFields options = wordAt (options.csumStart.toNat + 4) := if_pos isUdp
      refine ((secondOnly.take _).mono ?_).trans (csumOnly.mono fun index => Or.inr)
      rw [← headers]
      exact fun index => Or.inl

end Kernel

/-! ### All segments -/

/-- The number of segments: as many as there are pieces of the payload. -/
def segmentCount (input : Bytes) (options : GsoOptions) : Nat :=
  pieceCount options.gsoSize.toNat (input.length - options.hdrLen.toNat)

section Split

variable {input : Bytes} {options : GsoOptions} {plan : SegmentPlan}

theorem lt_segmentCount_iff {i : Nat} (positive : 0 < options.gsoSize.toNat) :
    i < segmentCount input options
      ↔ i * options.gsoSize.toNat < input.length - options.hdrLen.toNat :=
  lt_pieceCount_iff positive

/-- The loop from segment `i` on, when every turn returns a segment. -/
theorem segmentLoop_eq_ok {produce : Nat → Bytes} (positive : 0 < options.gsoSize.toNat)
    (header : options.hdrLen.toNat ≤ input.length)
    (each : ∀ i < segmentCount input options,
      gsoSegment input options plan i (options.hdrLen.toNat + i * options.gsoSize.toNat)
        = .ok (produce i)) :
    ∀ {buffers i : Nat},
      i ≤ segmentCount input options →
      segmentCount input options ≤ i + buffers →
      segmentLoop input options plan buffers i (options.hdrLen.toNat + i * options.gsoSize.toNat)
        = .ok ((List.range' i (segmentCount input options - i)).map produce)
  | 0, i, most, enough => by
      have last : ¬ i * options.gsoSize.toNat < input.length - options.hdrLen.toNat := by
        rw [← lt_segmentCount_iff positive]
        omega
      unfold segmentLoop
      rw [if_neg (by omega), show segmentCount input options - i = 0 by omega]
      rfl
  | buffers + 1, i, most, enough => by
      have turn := @lt_segmentCount_iff input options i positive
      unfold segmentLoop
      by_cases more : i < segmentCount input options
      · have data := turn.mp more
        have rest := @segmentLoop_eq_ok produce positive header each buffers (i + 1) more
          (by omega)
        rw [Nat.succ_mul, ← Nat.add_assoc] at rest
        have longer : segmentCount input options - i
            = segmentCount input options - (i + 1) + 1 := by
          omega
        rw [if_pos (by omega), each i more, longer, List.range'_succ]
        show Except.bind (segmentLoop input options plan buffers (i + 1) _) _ = _
        rw [rest]
        rfl
      · have none := mt turn.mpr more
        rw [if_neg (by omega), show segmentCount input options - i = 0 by omega]
        rfl

/-- What the loop of a packet that the kernel describes does not change. -/
def kernelPlan (input : Bytes) (options : GsoOptions) (srcOff addrLen : Nat) : SegmentPlan where
  ipVersion := byteAt input 0 >>> 4
  protocol := protocolOf options
  firstTcpSeqNum := if options.gsoType = .udpL4 then 0
    else value (slice input (options.csumStart.toNat + 4) 4)
  pseudoSumBase := pseudoHeaderChecksum (protocolOf options) (slice input srcOff addrLen)
    (slice input (srcOff + addrLen) addrLen) 0

/-- **The split of a packet that the kernel describes** is the segment loop. -/
theorem gsoSplit_kernel {tcp : GsoType} {srcOff addrLen outBufs : Nat}
    (kernel : KernelHeader tcp input options) (isTcp : tcp = .tcpV4 ∨ tcp = .tcpV6)
    (family : (if byteAt input 0 >>> 4 = 4 then (12, 4) else (8, 16)) = (srcOff, addrLen))
    (addresses : srcOff + addrLen * 2 ≤ input.length) :
    gsoSplit input options outBufs
      = segmentLoop input options (kernelPlan input options srcOff addrLen) outBufs 0
        options.hdrLen.toNat := by
  obtain ⟨small, header, csumField, -⟩ := kernel.inside
  have typed : options.gsoType ≠ .none := by
    rcases kernel.transport with ⟨same, -⟩ | ⟨same, -⟩
    · rcases isTcp with rfl | rfl <;>
      · rw [same]
        decide
    · rw [same]
      decide
  have single : ¬ (options.gsoType = .none
      ∨ input.length - options.hdrLen.toNat < options.gsoSize.toNat) := by
    have payload := kernel.payload
    rintro (none | short)
    · exact typed none
    · omega
  have ordered : ¬ options.hdrLen < options.csumStart := by
    rw [UInt16.lt_iff_toNat_lt]
    omega
  have seq : firstTcpSeqNum input options (protocolOf options)
      = .ok (kernelPlan input options srcOff addrLen).firstTcpSeqNum := by
    unfold firstTcpSeqNum kernelPlan protocolOf
    by_cases udp : options.gsoType = .udpL4
    · simp only [if_pos udp]
      rfl
    · have long : options.csumStart.toNat + 20 ≤ options.hdrLen.toNat := by
        rcases kernel.transport with ⟨-, -, long⟩ | ⟨same, -⟩
        · exact long
        · exact absurd same udp
      simp only [if_neg udp]
      rw [if_pos trivial, if_neg (by omega)]
  unfold gsoSplit
  dsimp only
  rw [if_neg (by omega), if_neg (by omega), if_neg single, if_neg ordered, family]
  show Except.bind (firstTcpSeqNum input options (protocolOf options)) _ = _
  rw [seq]
  show Except.bind (Checked.range input srcOff (srcOff + addrLen)) _ = _
  rw [Checked.range_eq_ok (by omega) (by omega), Nat.add_sub_cancel_left]
  show Except.bind (Checked.range input (srcOff + addrLen) (srcOff + addrLen * 2)) _ = _
  rw [Checked.range_eq_ok (by omega) addresses,
    show srcOff + addrLen * 2 - (srcOff + addrLen) = addrLen by omega]
  rfl

/-- The segments of a packet: as many as there are pieces of its payload, in order, each of them
as `IsSegment` says of its index and of whether it is the last one. -/
structure SplitInto (input : Bytes) (options : GsoOptions)
    (IsSegment : Bytes → Nat → Bool → Prop) (segments : List Bytes) : Prop where
  count : segments.length = segmentCount input options
  payload : (segments.map (List.drop options.hdrLen.toNat)).flatten
    = input.drop options.hdrLen.toNat
  full : ∀ index segment, segments[index]? = some segment → index + 1 < segments.length →
    segment.length = options.hdrLen.toNat + options.gsoSize.toNat
  each : ∀ index segment, segments[index]? = some segment →
    IsSegment segment index (index + 1 == segments.length)

/-- **The whole loop**, from what one turn returns. -/
theorem segmentLoop_splitInto {IsSegment : Bytes → Nat → Bool → Prop} {outBufs : Nat}
    (positive : 0 < options.gsoSize.toNat) (header : options.hdrLen.toNat ≤ input.length)
    (enough : segmentCount input options ≤ outBufs)
    (turn : ∀ i < segmentCount input options,
      ∃ segment, gsoSegment input options plan i (options.hdrLen.toNat + i * options.gsoSize.toNat)
          = .ok segment
        ∧ options.hdrLen.toNat ≤ segment.length
        ∧ segment.drop options.hdrLen.toNat
          = piece options.gsoSize.toNat (input.drop options.hdrLen.toNat) i
        ∧ IsSegment segment i
          (decide (input.length ≤ options.hdrLen.toNat + (i + 1) * options.gsoSize.toNat))) :
    ∃ segments, segmentLoop input options plan outBufs 0 options.hdrLen.toNat = .ok segments
      ∧ SplitInto input options IsSegment segments := by
  choose! produce produced whole data spec using turn
  have looped := @segmentLoop_eq_ok input options plan produce positive header produced outBufs 0
    (Nat.zero_le _) (by omega)
  rw [Nat.zero_mul, Nat.add_zero, Nat.sub_zero, ← List.range_eq_range'] at looped
  refine ⟨_, looped, ?_⟩
  have count : ((List.range (segmentCount input options)).map produce).length
      = segmentCount input options := by
    rw [List.length_map, List.length_range]
  refine ⟨count, ?_, ?_, ?_⟩
  · have same : ((List.range (segmentCount input options)).map produce).map
          (List.drop options.hdrLen.toNat)
        = pieces options.gsoSize.toNat (input.drop options.hdrLen.toNat) := by
      rw [List.map_map, pieces, List.length_drop]
      exact List.map_congr_left fun index among => data index (List.mem_range.mp among)
    rw [same, flatten_pieces positive]
  · intro index segment found later
    obtain ⟨inside, rfl⟩ := getElem?_map_range found
    rw [count] at later
    have long := congrArg List.length (data index inside)
    rw [length_piece_of_succ_lt positive (by rwa [List.length_drop]), List.length_drop] at long
    have start := whole index inside
    omega
  · intro index segment found
    obtain ⟨inside, rfl⟩ := getElem?_map_range found
    have last : decide (input.length ≤ options.hdrLen.toNat + (index + 1) * options.gsoSize.toNat)
        = (index + 1 == segmentCount input options) := by
      have next := @lt_segmentCount_iff input options (index + 1) positive
      rw [Bool.eq_iff_iff, decide_eq_true_iff, beq_iff_eq]
      omega
    rw [count, ← last]
    exact spec index inside

end Split

end RsTun.Gso
