/-
**What `gso_split` makes of a packet that the kernel hands over.**

* `gsoSplit_v4` — the segments of an IPv4 packet, field by field.
* `segmentLoop_v6` — the segments of an IPv6 packet. The payload length that a segment states is
  counted from the transport header on, not from the end of the fixed header.
* `gsoSplit_v6_consistent_iff` — so the segments are consistent exactly when the transport header
  follows the fixed header.
-/

import RsTun.Gso.Segments

namespace RsTun.Gso

open Library Library.Bytes Library.OnesComplement Packet

/-- The pseudo header sum that the split builds up is that of the receiver. -/
theorem verifies_pseudo {src dst : Bytes} {proto : UInt8} {transportLen rest : Nat}
    (evenSrc : src.length % 2 = 0) (evenDst : dst.length % 2 = 0) :
    Verifies (checksumCombine (pseudoHeaderChecksum proto src dst 0) transportLen + rest)
      ↔ Verifies (wordSum src + wordSum dst + proto.toNat + transportLen + rest) := by
  rw [checksumCombine, verifies_foldCarries_add, pseudoHeaderChecksum_eq _ _ evenSrc evenDst,
    Nat.add_assoc, verifies_foldCarries_add]
  ring_nf

/-! ### IPv4 -/

/-- The header of a TCP or UDP packet over IPv4 that the kernel leaves to be split. -/
structure KernelHeaderV4 (input : Bytes) (options : GsoOptions) : Prop
    extends KernelHeader .tcpV4 input options where
  version : byteAt input 0 >>> 4 = 4
  start : options.csumStart.toNat = headerLength input
  header : 20 ≤ headerLength input

/-- Segment `index` of an IPv4 packet. A UDP checksum that comes out as zero is stored as zero. -/
structure SegmentV4 (input : Bytes) (options : GsoOptions) (segment : Bytes) (index : Nat)
    (last : Bool) : Prop extends TransportHeader input options segment index last where
  totalLength : be16 segment 2 = segment.length
  identification : be16 segment 4 = (be16 input 4 + index) % 65536
  headerChecksum : Ipv4ChecksumValid segment
  transportChecksum :
    TransportChecksumValidV4 (protocolOf options) segment options.csumStart.toNat
  unchanged : AgreeOff (ipv4Fields ∪ transportFields options)
    (input.take options.hdrLen.toNat) (segment.take options.hdrLen.toNat)

section V4

variable {input : Bytes} {options : GsoOptions}

/-- One turn of the loop over an IPv4 packet. -/
theorem gsoSegment_v4 (kernel : KernelHeaderV4 input options) {i : Nat}
    (more : options.hdrLen.toNat + i * options.gsoSize.toNat < input.length) :
    ∃ segment, gsoSegment input options (kernelPlan input options 12 4) i
        (options.hdrLen.toNat + i * options.gsoSize.toNat) = .ok segment
      ∧ options.hdrLen.toNat ≤ segment.length
      ∧ segment.drop options.hdrLen.toNat
        = piece options.gsoSize.toNat (input.drop options.hdrLen.toNat) i
      ∧ SegmentV4 input options segment i
        (decide (input.length ≤ options.hdrLen.toNat + (i + 1) * options.gsoSize.toNat)) := by
  have inside := kernel.inside
  have header := kernel.header_le
  have start := kernel.start
  have long := kernel.header
  let dataLen := segmentDataLen input options
    (options.hdrLen.toNat + i * options.gsoSize.toNat)
  have startSize := length_segmentStart inside dataLen
  obtain ⟨first, ip, ipOnly, stated, id, summed⟩ := @segmentIpHeader_v4 options
    (kernelPlan input options 12 4) i (options.hdrLen.toNat + dataLen)
    (segmentStart input options dataLen) kernel.version (by omega) (by omega)
  have early : ∀ index ∈ ipv4Fields, index < options.csumStart.toNat := by
    rintro index (⟨-, high⟩ | ⟨-, high⟩) <;> omega
  obtain ⟨segment, produced, size, data, transport, transportOnly, verified⟩ :=
    gsoSegment_kernel kernel.toKernelHeader (by decide) rfl (fun notUdp => if_neg notUdp) more ip
      ipOnly early
  have late : ∀ index ∈ transportFields options, options.csumStart.toNat ≤ index :=
    fun index => transportFields_ge
  have kept := agreeOff_stages inside ipOnly transportOnly
  -- what stands before the transport header stays as the first stage left it
  have transportKept : ∀ {start length : Nat}, start + length ≤ options.csumStart.toNat →
      slice segment start length = slice first start length := fun within =>
    transportOnly.slice_of_take (by omega) fun index _ high field =>
      absurd (late index field) (by omega)
  have addresses : ∀ {start length : Nat}, 12 ≤ start → start + length ≤ 20 →
      slice segment start length = slice input start length := fun low within =>
    kept.slice_of_take (by omega) fun index after high field => by
      rcases field with (⟨-, below⟩ | ⟨-, below⟩) | field
      · omega
      · omega
      · exact absurd (late index field) (by omega)
  have total : segment.length = options.hdrLen.toNat + dataLen := size
  have small := kernel.small
  have dataFits : dataLen ≤ input.length - options.hdrLen.toNat := by
    show min _ input.length - _ ≤ _
    omega
  have sameLength : headerLength segment = options.csumStart.toNat := by
    rw [start, headerLength, headerLength, kept.byteAt_of_take (by omega)]
    rintro ((⟨low, -⟩ | ⟨low, -⟩) | field)
    · omega
    · omega
    · exact absurd (late 0 field) (by omega)
  refine ⟨segment, produced, by omega, data, transport, ?_, ?_, ?_, ?_, kept⟩
  · rw [be16_congr (transportKept (by omega)), stated, total]
    omega
  · have startId : be16 (segmentStart input options dataLen) 4 = be16 input 4 := by
      refine be16_congr ?_
      rw [← slice_take (show 4 + 2 ≤ options.hdrLen.toNat by omega), take_segmentStart inside,
        slice_take (by omega)]
    rw [be16_congr (transportKept (by omega)), id, startId]
  · have same : segment.take options.csumStart.toNat = first.take options.csumStart.toNat := by
      have prefixes := transportOnly.take_eq late
      rwa [List.take_take, List.take_take, Nat.min_eq_left (by omega)] at prefixes
    rw [Ipv4ChecksumValid, sameLength, same]
    exact summed
  · have src : (slice input 12 4).length % 2 = 0 := by
      rw [length_slice (by omega)]
    have dst : (slice input 16 4).length % 2 = 0 := by
      rw [length_slice (by omega)]
    rw [TransportChecksumValidV4, addresses (by omega) (by omega), addresses (by omega) (by omega),
      wordSum_pseudoV4 _ _ src dst, Nat.mod_eq_of_lt (by omega)]
    exact (verifies_pseudo src dst).mp verified

/-- The split of an IPv4 packet is the loop. -/
theorem KernelHeaderV4.loops {outBufs : Nat} (kernel : KernelHeaderV4 input options) :
    gsoSplit input options outBufs
      = segmentLoop input options (kernelPlan input options 12 4) outBufs 0
        options.hdrLen.toNat := by
  have header := kernel.header_le
  have start := kernel.start
  have long := kernel.header
  have payload := kernel.payload
  exact gsoSplit_kernel kernel.toKernelHeader (Or.inl rfl) (if_pos kernel.version) (by omega)

/-- **The loop over an IPv4 packet.** -/
theorem segmentLoop_v4 {outBufs : Nat} (kernel : KernelHeaderV4 input options)
    (enough : segmentCount input options ≤ outBufs) :
    ∃ segments, segmentLoop input options (kernelPlan input options 12 4) outBufs 0
        options.hdrLen.toNat = .ok segments
      ∧ SplitInto input options (SegmentV4 input options) segments := by
  have payload := kernel.payload
  refine segmentLoop_splitInto kernel.size (by omega) enough fun i inside => ?_
  have data := (lt_segmentCount_iff kernel.size).mp inside
  exact gsoSegment_v4 kernel (by omega)

/-- **The split of an IPv4 packet.** -/
theorem gsoSplit_v4 {outBufs : Nat} (kernel : KernelHeaderV4 input options)
    (enough : segmentCount input options ≤ outBufs) :
    ∃ segments, gsoSplit input options outBufs = .ok segments
      ∧ SplitInto input options (SegmentV4 input options) segments := by
  rw [kernel.loops]
  exact segmentLoop_v4 kernel enough

/-- A TCP segment of five bytes of payload, to be split at two, with FIN and PSH set. -/
def samplePacketV4 : Bytes :=
  [0x45, 0, 0, 45, 255, 255, 0, 0, 64, 6, 0, 0, 10, 0, 0, 1, 10, 0, 0, 2]
    ++ [0, 80, 4, 210, 255, 255, 255, 254, 0, 0, 0, 0, 0x50, 0x19, 1, 0, 0, 0, 0, 0]
    ++ [1, 2, 3, 4, 5]

/-- The virtio header of the sample. -/
def sampleOptionsV4 : GsoOptions where
  gsoType := .tcpV4
  hdrLen := 40
  csumStart := 20
  csumOffset := 16
  gsoSize := 2
  needsCsum := true

theorem gsoSplit_v4_sample : ∃ segments,
    gsoSplit samplePacketV4 sampleOptionsV4 3 = .ok segments
      ∧ SplitInto samplePacketV4 sampleOptionsV4 (SegmentV4 samplePacketV4 sampleOptionsV4)
        segments :=
  gsoSplit_v4 ⟨⟨by decide, Or.inl ⟨rfl, rfl, by decide⟩, by decide, by decide⟩, by decide,
    by decide, by decide⟩ (by decide)

end V4

/-! ### IPv6 -/

/-- The header of a TCP or UDP packet over IPv6 that the kernel leaves to be split, with any
extension headers. -/
structure KernelHeaderV6 (input : Bytes) (options : GsoOptions) : Prop
    extends KernelHeader .tcpV6 input options where
  version : byteAt input 0 >>> 4 = 6
  start : 40 ≤ options.csumStart.toNat

/-- Segment `index` of an IPv6 packet, but for what it states as its payload length. -/
structure TransportV6 (input : Bytes) (options : GsoOptions) (segment : Bytes) (index : Nat)
    (last : Bool) : Prop extends TransportHeader input options segment index last where
  transportChecksum :
    TransportChecksumValidV6 (protocolOf options) segment options.csumStart.toNat
  unchanged : AgreeOff (wordAt 4 ∪ transportFields options)
    (input.take options.hdrLen.toNat) (segment.take options.hdrLen.toNat)

/-- A segment as it comes out: the payload length is counted from the transport header on. -/
structure CountedV6 (input : Bytes) (options : GsoOptions) (segment : Bytes) (index : Nat)
    (last : Bool) : Prop extends TransportV6 input options segment index last where
  counted : be16 segment 4 = segment.length - options.csumStart.toNat

/-- A segment that is consistent: the payload length counts what follows the fixed header. -/
structure SegmentV6 (input : Bytes) (options : GsoOptions) (segment : Bytes) (index : Nat)
    (last : Bool) : Prop extends TransportV6 input options segment index last where
  payloadLength : be16 segment 4 = segment.length - 40

section V6

variable {input : Bytes} {options : GsoOptions}

/-- One turn of the loop over an IPv6 packet. -/
theorem gsoSegment_v6 (kernel : KernelHeaderV6 input options) {i : Nat}
    (more : options.hdrLen.toNat + i * options.gsoSize.toNat < input.length) :
    ∃ segment, gsoSegment input options (kernelPlan input options 8 16) i
        (options.hdrLen.toNat + i * options.gsoSize.toNat) = .ok segment
      ∧ options.hdrLen.toNat ≤ segment.length
      ∧ segment.drop options.hdrLen.toNat
        = piece options.gsoSize.toNat (input.drop options.hdrLen.toNat) i
      ∧ CountedV6 input options segment i
        (decide (input.length ≤ options.hdrLen.toNat + (i + 1) * options.gsoSize.toNat)) := by
  have inside := kernel.inside
  have header := kernel.header_le
  have start := kernel.start
  have small := kernel.small
  let dataLen := segmentDataLen input options
    (options.hdrLen.toNat + i * options.gsoSize.toNat)
  have startSize := length_segmentStart inside dataLen
  have other : (kernelPlan input options 8 16).ipVersion ≠ 4 := by
    show byteAt input 0 >>> 4 ≠ 4
    rw [kernel.version]
    decide
  obtain ⟨first, ip, ipOnly, stated⟩ := @segmentIpHeader_v6 options
    (kernelPlan input options 8 16) i (options.hdrLen.toNat + dataLen)
    (segmentStart input options dataLen) other (by omega)
  have early : ∀ index ∈ wordAt 4, index < options.csumStart.toNat := by
    rintro index ⟨-, high⟩
    omega
  obtain ⟨segment, produced, size, data, transport, transportOnly, verified⟩ :=
    gsoSegment_kernel kernel.toKernelHeader (by decide) rfl (fun notUdp => if_neg notUdp) more ip
      ipOnly early
  have late : ∀ index ∈ transportFields options, options.csumStart.toNat ≤ index :=
    fun index => transportFields_ge
  have kept := agreeOff_stages inside ipOnly transportOnly
  have addresses : ∀ {start length : Nat}, 8 ≤ start → start + length ≤ 40 →
      slice segment start length = slice input start length := fun low within =>
    kept.slice_of_take (by omega) fun index after high field => by
      rcases field with ⟨-, below⟩ | field
      · omega
      · exact absurd (late index field) (by omega)
  have total : segment.length = options.hdrLen.toNat + dataLen := size
  have dataFits : dataLen ≤ input.length - options.hdrLen.toNat := by
    show min _ input.length - _ ≤ _
    omega
  refine ⟨segment, produced, by omega, data, ⟨⟨transport, ?_, kept⟩, ?_⟩⟩
  · have src : (slice input 8 16).length % 2 = 0 := by
      rw [length_slice (by omega)]
    have dst : (slice input 24 16).length % 2 = 0 := by
      rw [length_slice (by omega)]
    have length : segment.length - options.csumStart.toNat < 65536 := by omega
    rw [TransportChecksumValidV6, addresses (by omega) (by omega), addresses (by omega) (by omega),
      wordSum_pseudoV6 _ _ src dst, Nat.div_eq_of_lt length, Nat.mod_eq_of_lt length, Nat.zero_mod,
      Nat.add_zero, Nat.add_right_comm (wordSum _ + wordSum _)]
    exact (verifies_pseudo src dst).mp verified
  · have sameLength : be16 segment 4 = be16 first 4 :=
      be16_congr (transportOnly.slice_of_take (by omega) fun index _ high field =>
        absurd (late index field) (by omega))
    rw [sameLength, stated, total]
    omega

/-- The split of an IPv6 packet is the loop. -/
theorem KernelHeaderV6.loops {outBufs : Nat} (kernel : KernelHeaderV6 input options) :
    gsoSplit input options outBufs
      = segmentLoop input options (kernelPlan input options 8 16) outBufs 0
        options.hdrLen.toNat := by
  have header := kernel.header_le
  have start := kernel.start
  have payload := kernel.payload
  have family :
      (if byteAt input 0 >>> 4 = 4 then (12, 4) else (8, 16)) = ((8, 16) : Nat × Nat) := by
    rw [kernel.version]
    rfl
  exact gsoSplit_kernel kernel.toKernelHeader (Or.inr rfl) family (by omega)

/-- **The loop over an IPv6 packet.** -/
theorem segmentLoop_v6 {outBufs : Nat} (kernel : KernelHeaderV6 input options)
    (enough : segmentCount input options ≤ outBufs) :
    ∃ segments, segmentLoop input options (kernelPlan input options 8 16) outBufs 0
        options.hdrLen.toNat = .ok segments
      ∧ SplitInto input options (CountedV6 input options) segments := by
  have payload := kernel.payload
  refine segmentLoop_splitInto kernel.size (by omega) enough fun i inside => ?_
  have data := (lt_segmentCount_iff kernel.size).mp inside
  exact gsoSegment_v6 kernel (by omega)

/-- A packet has a first segment, and in it the two ways to count differ unless the transport
header follows the fixed header. -/
theorem csumStart_of_consistent {segments : List Bytes} (kernel : KernelHeaderV6 input options)
    (split : SplitInto input options (CountedV6 input options) segments)
    (consistent : SplitInto input options (SegmentV6 input options) segments) :
    options.csumStart.toNat = 40 := by
  have header := kernel.header_le
  have start := kernel.start
  have payload := kernel.payload
  have size := kernel.size
  have some : 0 < segments.length := by
    rw [split.count, lt_segmentCount_iff size]
    omega
  have first : segments[0]? = .some segments[0] := List.getElem?_eq_getElem some
  have counted := (split.each 0 _ first).counted
  have stated := (consistent.each 0 _ first).payloadLength
  have whole := (split.each 0 _ first).unchanged.1
  rw [List.length_take, List.length_take] at whole
  omega

/-- **The segments of an IPv6 packet are consistent** exactly when the transport header follows the
fixed header. -/
theorem gsoSplit_v6_consistent_iff {outBufs : Nat} (kernel : KernelHeaderV6 input options)
    (enough : segmentCount input options ≤ outBufs) :
    (∃ segments, gsoSplit input options outBufs = .ok segments
      ∧ SplitInto input options (SegmentV6 input options) segments)
      ↔ options.csumStart.toNat = 40 := by
  obtain ⟨segments, done, split⟩ := segmentLoop_v6 kernel enough
  rw [kernel.loops]
  constructor
  · rintro ⟨others, done', consistent⟩
    cases done.symm.trans done'
    exact csumStart_of_consistent kernel split consistent
  · intro start
    refine ⟨segments, done, split.count, split.payload, split.full, fun index segment found => ?_⟩
    have counted := split.each index segment found
    exact ⟨counted.toTransportV6, counted.counted.trans (by rw [start])⟩

/-- A TCP packet over IPv6 of three bytes of payload, with `extension` between the headers. -/
def samplePacketV6 (next : UInt8) (extension : Bytes) : Bytes :=
  [0x60, 0, 0, 0, 0, .ofNat (23 + extension.length), next, 64]
    ++ (List.replicate 15 0 ++ [1]) ++ (List.replicate 15 0 ++ [2]) ++ extension
    ++ [0, 80, 4, 210, 0, 0, 0, 7, 0, 0, 0, 0, 0x50, 0x18, 1, 0, 0, 0, 0, 0] ++ [1, 2, 3]

/-- The virtio header of the sample whose transport header starts at `csumStart`. -/
def sampleOptionsV6 (csumStart : UInt16) : GsoOptions where
  gsoType := .tcpV6
  hdrLen := csumStart + 20
  csumStart := csumStart
  csumOffset := 16
  gsoSize := 2
  needsCsum := true

theorem gsoSplit_v6_consistent_iff_sample : ∃ segments,
    gsoSplit (samplePacketV6 6 []) (sampleOptionsV6 40) 2 = .ok segments
      ∧ SplitInto (samplePacketV6 6 []) (sampleOptionsV6 40)
        (SegmentV6 (samplePacketV6 6 []) (sampleOptionsV6 40)) segments :=
  (gsoSplit_v6_consistent_iff ⟨⟨by decide, Or.inl ⟨rfl, rfl, by decide⟩, by decide, by decide⟩,
    by decide, by decide⟩ (by decide)).mpr rfl

/-- **A hop-by-hop header is left out of the payload length** of every segment. -/
theorem extension_header_not_counted :
    KernelHeaderV6 (samplePacketV6 0 [6, 0, 1, 4, 0, 0, 0, 0]) (sampleOptionsV6 48)
      ∧ ¬ ∃ segments, gsoSplit (samplePacketV6 0 [6, 0, 1, 4, 0, 0, 0, 0]) (sampleOptionsV6 48) 2
          = .ok segments
        ∧ SplitInto (samplePacketV6 0 [6, 0, 1, 4, 0, 0, 0, 0]) (sampleOptionsV6 48)
          (SegmentV6 (samplePacketV6 0 [6, 0, 1, 4, 0, 0, 0, 0]) (sampleOptionsV6 48))
          segments := by
  have kernel : KernelHeaderV6 (samplePacketV6 0 [6, 0, 1, 4, 0, 0, 0, 0]) (sampleOptionsV6 48) :=
    ⟨⟨by decide, Or.inl ⟨rfl, rfl, by decide⟩, by decide, by decide⟩, by decide, by decide⟩
  refine ⟨kernel, ?_⟩
  rintro ⟨segments, done, consistent⟩
  obtain ⟨others, done', split⟩ := @segmentLoop_v6 _ _ 2 kernel (by decide)
  rw [kernel.loops] at done
  cases done.symm.trans done'
  exact absurd (csumStart_of_consistent kernel split consistent) (by decide)

end V6

end RsTun.Gso
