/-
**The transport checksums of the packets that the batch reader delivers.**

With checksum offload the kernel leaves the folded sum of the pseudo header in the checksum field
and sets `NEEDS_CSUM`. The reader finishes such a checksum on two of its three paths.

* `gsoSingle_complete` — the packet that is not segmented.
* `KernelFrame.split_complete` — every packet of a frame with a GSO type.
* `doBatchRead_complete_iff` — a frame's packets have complete checksums exactly when the frame has
  a GSO type, or happens to be right as it is.
-/

import RsTun.Gso.SplitKernel
import RsTun.NativeTun.Reader

namespace RsTun.NativeTun

open Library Library.Bytes Library.OnesComplement Gso Packet

/-! ### Complete checksums -/

/-- The sum of the pseudo header of the segment at `off`, in the packet's own family. -/
def pseudoSum (proto : UInt8) (pkt : Bytes) (off : Nat) : Nat :=
  if byteAt pkt 0 >>> 4 = 4 then
    wordSum (pseudoV4 (slice pkt 12 4) (slice pkt 16 4) proto (pkt.length - off))
  else wordSum (pseudoV6 (slice pkt 8 16) (slice pkt 24 16) proto (pkt.length - off))

/-- The packet carries a complete, valid checksum in the segment at `off`. -/
def Complete (proto : UInt8) (off : Nat) (pkt : Bytes) : Prop :=
  Verifies (pseudoSum proto pkt off + wordSum (pkt.drop off))

instance (proto : UInt8) (off : Nat) (pkt : Bytes) : Decidable (Complete proto off pkt) :=
  inferInstanceAs (Decidable (Verifies _))

/-- The end of the addresses in the fixed header. -/
def addressEnd (pkt : Bytes) : Nat := if byteAt pkt 0 >>> 4 = 4 then 20 else 40

/-- The pseudo header reads the version and the addresses. -/
theorem pseudoSum_congr {touched : Set Nat} {before after : Bytes} (proto : UInt8) (off : Nat)
    (agree : AgreeOff touched before after) (late : ∀ index ∈ touched, addressEnd before ≤ index) :
    pseudoSum proto after off = pseudoSum proto before off := by
  have version : byteAt after 0 = byteAt before 0 := by
    refine agree.byteAt_eq fun field => ?_
    have low := late 0 field
    unfold addressEnd at low
    split at low <;> omega
  unfold pseudoSum
  rw [version, agree.1]
  split
  · rename_i four
    rw [addressEnd, if_pos four] at late
    rw [agree.slice_eq, agree.slice_eq] <;>
    · intro index _ high field
      have low := late index field
      omega
  · rename_i six
    rw [addressEnd, if_neg six] at late
    rw [agree.slice_eq, agree.slice_eq] <;>
    · intro index _ high field
      have low := late index field
      omega

/-- **The packet that is not segmented** is finished from the sum in its checksum field. -/
theorem gsoSingle_complete {input pkt : Bytes} {options : GsoOptions}
    (needs : options.needsCsum = true) (even : options.csumOffset.toNat % 2 = 0)
    (inside : options.csumStart.toNat + options.csumOffset.toNat + 2 ≤ input.length)
    (small : input.length ≤ 65535) (done : gsoSingle input options = .ok pkt) :
    AgreeOff (wordAt (options.csumStart.toNat + options.csumOffset.toNat)) input pkt
      ∧ Verifies (be16 input (options.csumStart.toNat + options.csumOffset.toNat)
        + wordSum (pkt.drop options.csumStart.toNat)) := by
  let csumStart := options.csumStart.toNat
  let csumAt := csumStart + options.csumOffset.toNat
  let cleared := overwrite input csumAt [0, 0]
  have clear := @writeWord input [0, 0] csumAt rfl inside
  have size : cleared.length = input.length := clear.2.1
  let sum := complement (foldCarries (be16 input csumAt + wordSum (cleared.drop csumStart)))
  have finish := @writeWord cleared _ csumAt (length_encode 2 sum) (by omega)
  have same : gsoSingle input options = .ok (overwrite cleared csumAt (encode 2 sum)) := by
    unfold gsoSingle
    dsimp only
    rw [if_pos needs, Checked.readU16_eq_ok (by omega)]
    show Except.bind (Checked.copyFromSlice input csumAt (csumAt + 2) [0, 0]) _ = _
    rw [clear.1]
    show Except.bind (Checked.range cleared csumStart cleared.length) _ = _
    rw [Checked.range_eq_ok (by omega) (Nat.le_refl _), slice,
      List.take_of_length_le (by rw [List.length_drop])]
    show Except.bind (checksum (cleared.drop csumStart) (be16 input csumAt)) _ = _
    rw [checksum_eq_ok (by rw [List.length_drop]; omega) (be16_lt _ _)]
    exact finish.1
  cases same.symm.trans done
  exact ⟨clear.2.trans finish.2, verifies_fill even inside⟩

/-- A segment of an IPv4 packet. -/
theorem complete_of_v4 {input segment : Bytes} {options : GsoOptions} {index : Nat} {last : Bool}
    (kernel : KernelHeaderV4 input options) (spec : SegmentV4 input options segment index last) :
    Complete (protocolOf options) options.csumStart.toNat segment := by
  have header := kernel.header_le
  have start := kernel.start
  have long := kernel.header
  have version : byteAt segment 0 = byteAt input 0 := by
    refine spec.unchanged.byteAt_of_take (by omega) ?_
    rintro ((⟨low, -⟩ | ⟨low, -⟩) | field)
    · omega
    · omega
    · have low := transportFields_ge field
      omega
  rw [Complete, pseudoSum, version, if_pos kernel.version]
  exact spec.transportChecksum

/-- A segment of an IPv6 packet. -/
theorem complete_of_v6 {input segment : Bytes} {options : GsoOptions} {index : Nat} {last : Bool}
    (kernel : KernelHeaderV6 input options) (spec : TransportV6 input options segment index last) :
    Complete (protocolOf options) options.csumStart.toNat segment := by
  have header := kernel.header_le
  have start := kernel.start
  have version : byteAt segment 0 = byteAt input 0 := by
    refine spec.unchanged.byteAt_of_take (by omega) ?_
    rintro (⟨low, -⟩ | field)
    · omega
    · have low := transportFields_ge field
      omega
  rw [Complete, pseudoSum, version, kernel.version, if_neg (by decide)]
  exact spec.transportChecksum

/-! ### Frames as the kernel hands them over -/

/-- A GSO type that matches the packet, with the length of the headers. -/
def Typed (hdr : VirtioNetHdr) (pkt : Bytes) (proto : UInt8) (gsoType : GsoType) : Prop :=
  gsoType = .tcpV4 ∧ byteAt pkt 0 >>> 4 = 4 ∧ proto = 6
      ∧ hdr.csumStart.toNat + 20 ≤ hdr.hdrLen.toNat
    ∨ gsoType = .tcpV6 ∧ byteAt pkt 0 >>> 4 = 6 ∧ proto = 6
      ∧ hdr.csumStart.toNat + 20 ≤ hdr.hdrLen.toNat
    ∨ gsoType = .udpL4 ∧ proto = 17 ∧ hdr.hdrLen.toNat = hdr.csumStart.toNat + 8

/-- The frame of a TCP or UDP packet that needs its checksum finished: `proto` is its protocol, and
its checksum field holds the folded sum of the pseudo header. -/
structure KernelFrame (hdr : VirtioNetHdr) (pkt : Bytes) (proto : UInt8) : Prop where
  small : pkt.length ≤ 65535
  needsCsum : hdr.needsCsum = true
  family : byteAt pkt 0 >>> 4 = 4 ∧ hdr.csumStart.toNat = headerLength pkt ∧ 20 ≤ headerLength pkt
    ∨ byteAt pkt 0 >>> 4 = 6 ∧ 40 ≤ hdr.csumStart.toNat
  transport : proto = 6 ∧ hdr.csumOffset = 16 ∧ hdr.csumStart.toNat + 20 ≤ pkt.length
    ∨ proto = 17 ∧ hdr.csumOffset = 6 ∧ hdr.csumStart.toNat + 8 ≤ pkt.length
  gso : hdr.gsoType = virtioNetHdrGsoNone
    ∨ ∃ gsoType, hdr.toGsoType = .ok gsoType ∧ Typed hdr pkt proto gsoType
  pseudo : be16 pkt (hdr.csumStart.toNat + hdr.csumOffset.toNat)
    = foldCarries (pseudoSum proto pkt hdr.csumStart.toNat)

/-- The options of a header of one of the GSO types. -/
def gsoOptions (hdr : VirtioNetHdr) (gsoType : GsoType) : GsoOptions where
  gsoType
  hdrLen := hdr.hdrLen
  csumStart := hdr.csumStart
  csumOffset := hdr.csumOffset
  gsoSize := hdr.gsoSize
  needsCsum := hdr.needsCsum

section Frame

variable {hdr : VirtioNetHdr} {pkt : Bytes} {proto : UInt8}

/-- The checksum field lies within the packet, behind the addresses, at an even offset. -/
theorem KernelFrame.field (kernel : KernelFrame hdr pkt proto) :
    hdr.csumOffset.toNat % 2 = 0
      ∧ hdr.csumStart.toNat + hdr.csumOffset.toNat + 2 ≤ pkt.length
      ∧ addressEnd pkt ≤ hdr.csumStart.toNat := by
  have offset : hdr.csumOffset.toNat = 16 ∧ hdr.csumStart.toNat + 20 ≤ pkt.length
      ∨ hdr.csumOffset.toNat = 6 ∧ hdr.csumStart.toNat + 8 ≤ pkt.length := by
    rcases kernel.transport with ⟨-, same, long⟩ | ⟨-, same, long⟩
    · exact Or.inl ⟨congrArg UInt16.toNat same, long⟩
    · exact Or.inr ⟨congrArg UInt16.toNat same, long⟩
  have late : addressEnd pkt ≤ hdr.csumStart.toNat := by
    unfold addressEnd
    rcases kernel.family with ⟨four, start, long⟩ | ⟨six, long⟩
    · rw [if_pos four]
      omega
    · rw [six, if_neg (by decide)]
      exact long
  omega

/-- **A frame with a GSO type whose payload is smaller than a segment.** -/
theorem KernelFrame.single_complete (kernel : KernelFrame hdr pkt proto) {gsoType : GsoType}
    {out : Bytes} (done : gsoSingle pkt (gsoOptions hdr gsoType) = .ok out) :
    Complete proto hdr.csumStart.toNat out := by
  obtain ⟨even, inside, late⟩ := kernel.field
  obtain ⟨agree, verified⟩ := @gsoSingle_complete pkt out (gsoOptions hdr gsoType)
    kernel.needsCsum even inside kernel.small done
  have addresses : pseudoSum proto out hdr.csumStart.toNat
      = pseudoSum proto pkt hdr.csumStart.toNat := by
    refine pseudoSum_congr proto _ agree fun index field => ?_
    have low : hdr.csumStart.toNat + hdr.csumOffset.toNat ≤ index := field.1
    omega
  change Verifies (be16 pkt (hdr.csumStart.toNat + hdr.csumOffset.toNat)
    + wordSum (out.drop hdr.csumStart.toNat)) at verified
  rw [kernel.pseudo, verifies_foldCarries_add] at verified
  rwa [Complete, addresses]

/-- The header of a segmented frame, in the packet's family. -/
theorem KernelFrame.segmented (kernel : KernelFrame hdr pkt proto) {gsoType : GsoType}
    (typed : Typed hdr pkt proto gsoType) (size : 0 < hdr.gsoSize.toNat)
    (several : hdr.gsoSize.toNat ≤ pkt.length - hdr.hdrLen.toNat)
    (header : hdr.hdrLen.toNat ≤ pkt.length) :
    protocolOf (gsoOptions hdr gsoType) = proto
      ∧ (KernelHeaderV4 pkt (gsoOptions hdr gsoType)
        ∨ KernelHeaderV6 pkt (gsoOptions hdr gsoType)) := by
  have payload : hdr.hdrLen.toNat + hdr.gsoSize.toNat ≤ pkt.length := by omega
  have offset : ∀ {proto' : UInt8} {place : UInt16}, proto = proto' →
      (proto' = 6 → place = 16) → (proto' = 17 → place = 6) → hdr.csumOffset = place := by
    intro proto' place same tcp udp
    rcases kernel.transport with ⟨six, at16, -⟩ | ⟨seventeen, at6, -⟩
    · rw [at16, tcp (same ▸ six)]
    · rw [at6, udp (same ▸ seventeen)]
  have sixOrFour : ∀ {version : UInt8}, byteAt pkt 0 >>> 4 = version →
      (version = 4 → hdr.csumStart.toNat = headerLength pkt ∧ 20 ≤ headerLength pkt)
        ∧ (version = 6 → 40 ≤ hdr.csumStart.toNat) := by
    rintro version rfl
    rcases kernel.family with ⟨four, start, long⟩ | ⟨six, long⟩
    · exact ⟨fun _ => ⟨start, long⟩, fun six => absurd (four.symm.trans six) (by decide)⟩
    · exact ⟨fun four => absurd (six.symm.trans four) (by decide), fun _ => long⟩
  rcases typed with ⟨rfl, four, tcp, long⟩ | ⟨rfl, six, tcp, long⟩ | ⟨rfl, udp, long⟩
  · have place := offset tcp (fun _ => rfl) (fun impossible => absurd impossible (by decide))
    obtain ⟨start, least⟩ := (sixOrFour four).1 rfl
    exact ⟨tcp.symm, Or.inl
      ⟨⟨kernel.small, Or.inl ⟨rfl, place, long⟩, size, payload⟩, four, start, least⟩⟩
  · have place := offset tcp (fun _ => rfl) (fun impossible => absurd impossible (by decide))
    exact ⟨tcp.symm, Or.inr
      ⟨⟨kernel.small, Or.inl ⟨rfl, place, long⟩, size, payload⟩, six, (sixOrFour six).2 rfl⟩⟩
  · have place := offset udp (fun impossible => absurd impossible (by decide)) (fun _ => rfl)
    refine ⟨udp.symm, ?_⟩
    rcases kernel.family with ⟨four, start, least⟩ | ⟨six, least⟩
    · exact Or.inl ⟨⟨kernel.small, Or.inr ⟨rfl, place, long⟩, size, payload⟩, four, start, least⟩
    · exact Or.inr ⟨⟨kernel.small, Or.inr ⟨rfl, place, long⟩, size, payload⟩, six, least⟩

/-- **A frame with a GSO type**: every packet that the split returns is complete. -/
theorem KernelFrame.split_complete (kernel : KernelFrame hdr pkt proto) {gsoType : GsoType}
    (typed : Typed hdr pkt proto gsoType) {outBufs : Nat} {segments : List Bytes}
    (done : gsoSplit pkt (gsoOptions hdr gsoType) outBufs = .ok segments) :
    ∀ segment ∈ segments, Complete proto hdr.csumStart.toNat segment := by
  obtain ⟨-, header, ⟨-, -, out, single, rfl⟩ | ⟨⟨-, several⟩, plan, looped⟩⟩ :=
    gsoSplit_cases done
  · intro segment among
    rw [List.mem_singleton.mp among]
    exact kernel.single_complete single
  · have reached : pkt.length ≤ hdr.hdrLen.toNat + outBufs * hdr.gsoSize.toNat :=
      segmentLoop_reaches looped
    by_cases size : 0 < hdr.gsoSize.toNat
    · have enough : segmentCount pkt (gsoOptions hdr gsoType) ≤ outBufs := by
        refine Nat.le_of_not_lt fun more => ?_
        have data : outBufs * hdr.gsoSize.toNat < pkt.length - hdr.hdrLen.toNat :=
          (@lt_segmentCount_iff pkt (gsoOptions hdr gsoType) outBufs size).mp more
        omega
      obtain ⟨same, family⟩ := kernel.segmented typed size several header
      subst same
      intro segment among
      rcases family with four | six
      · obtain ⟨others, done', split⟩ := segmentLoop_v4 four enough
        rw [four.loops] at done
        cases done.symm.trans done'
        obtain ⟨index, found⟩ := List.mem_iff_getElem?.mp among
        exact complete_of_v4 four (split.each index segment found)
      · obtain ⟨others, done', split⟩ := segmentLoop_v6 six enough
        rw [six.loops] at done
        cases done.symm.trans done'
        obtain ⟨index, found⟩ := List.mem_iff_getElem?.mp among
        exact complete_of_v6 six (split.each index segment found).toTransportV6
    · -- a segment size of zero never ends the loop, unless there is no payload
      have ended : pkt.length ≤ hdr.hdrLen.toNat := by
        rw [Nat.eq_zero_of_not_pos size] at reached
        omega
      cases (segmentLoop_done ended).symm.trans looped
      exact fun segment among => nomatch among

/-- The checksum field of the packet happens to be right as the kernel leaves it: the sum of the
pseudo header, counted twice, and that of the segment with the field cleared cancel out. -/
def RightAsItIs (hdr : VirtioNetHdr) (pkt : Bytes) (proto : UInt8) : Prop :=
  (2 * pseudoSum proto pkt hdr.csumStart.toNat
    + wordSum ((overwrite pkt (hdr.csumStart.toNat + hdr.csumOffset.toNat) [0, 0]).drop
      hdr.csumStart.toNat)) % 65535 = 0

theorem pseudoSum_pos (pkt : Bytes) (off : Nat) (proper : proto = 6 ∨ proto = 17)
    (long : addressEnd pkt ≤ pkt.length) : 0 < pseudoSum proto pkt off := by
  have positive : 0 < proto.toNat := by
    rcases proper with rfl | rfl <;> decide
  unfold addressEnd at long
  unfold pseudoSum
  split at long
  · rename_i four
    have src : (slice pkt 12 4).length % 2 = 0 := by
      rw [length_slice (by omega)]
    have dst : (slice pkt 16 4).length % 2 = 0 := by
      rw [length_slice (by omega)]
    rw [if_pos four, wordSum_pseudoV4 _ _ src dst]
    omega
  · rename_i six
    have src : (slice pkt 8 16).length % 2 = 0 := by
      rw [length_slice (by omega)]
    have dst : (slice pkt 24 16).length % 2 = 0 := by
      rw [length_slice (by omega)]
    rw [if_neg six, wordSum_pseudoV6 _ _ src dst]
    omega

/-- **A frame without a GSO type** is delivered with the checksum that it came with. -/
theorem KernelFrame.complete_iff (kernel : KernelFrame hdr pkt proto) :
    Complete proto hdr.csumStart.toNat pkt ↔ RightAsItIs hdr pkt proto := by
  obtain ⟨even, inside, late⟩ := kernel.field
  have proper : proto = 6 ∨ proto = 17 := by
    rcases kernel.transport with ⟨six, -⟩ | ⟨seventeen, -⟩
    · exact Or.inl six
    · exact Or.inr seventeen
  have positive := pseudoSum_pos pkt hdr.csumStart.toNat proper (by omega)
  have room : hdr.csumOffset.toNat + 2 ≤ (pkt.drop hdr.csumStart.toNat).length := by
    rw [List.length_drop]
    omega
  have fits : hdr.csumStart.toNat + hdr.csumOffset.toNat + ([0, 0] : Bytes).length ≤ pkt.length :=
    inside
  have field : be16 (pkt.drop hdr.csumStart.toNat) hdr.csumOffset.toNat
      = foldCarries (pseudoSum proto pkt hdr.csumStart.toNat) := by
    rw [← kernel.pseudo]
    refine be16_congr ?_
    rw [slice, slice, List.drop_drop]
  have cleared : (overwrite pkt (hdr.csumStart.toNat + hdr.csumOffset.toNat) [0, 0]).drop
        hdr.csumStart.toNat
      = overwrite (pkt.drop hdr.csumStart.toNat) hdr.csumOffset.toNat [0, 0] := by
    rw [drop_overwrite_of_ge fits (Nat.le_add_right _ _), Nat.add_sub_cancel_left]
  rw [Complete, RightAsItIs, wordSum_cleared even room, field, cleared, verifies_iff,
    foldCarries_eq]
  rw [if_neg (by omega)]
  omega

end Frame

/-! ### A call of the reader -/

/-- What a call makes of the frame that it reads: the packets in its buffers behind the segments
that were waiting before it, and the segments that wait after it. A call that fails delivers
nothing. -/
def LinuxTunReader.CallEnd.fromFrame (stop : LinuxTunReader.CallEnd) (waiting : List Bytes) :
    List Bytes :=
  if stop.outcome = .ok () then
    (stop.batch.packets ++ stop.reader.pending).drop waiting.length
  else []

theorem arrivedPackets_of_ok {vnetHdr : Bool} {frame : Bytes} {opened : Opened}
    (nonempty : frame ≠ []) (done : LinuxTunReader.openFrame vnetHdr frame = .ok opened) :
    arrivedPackets vnetHdr (.frame frame) = opened.packets := by
  rw [arrivedPackets, done]
  exact nonempty

/-- A frame without a GSO type is one packet. -/
theorem openFrame_plain {frame : Bytes} {hdr : VirtioNetHdr}
    (long : virtioNetHdrLen < frame.length)
    (decoded : VirtioNetHdr.decode (frame.take virtioNetHdrLen) = .ok hdr)
    (plain : hdr.gsoType = virtioNetHdrGsoNone) :
    LinuxTunReader.openFrame true frame = .ok (.whole (frame.drop virtioNetHdrLen)) := by
  have single : hdr.isGso = false := by
    rw [VirtioNetHdr.isGso, plain]
    rfl
  unfold LinuxTunReader.openFrame
  rw [if_pos ⟨rfl, long⟩, decoded]
  show (if hdr.isGso = true then _ else _) = _
  rw [single]
  rfl

/-- A frame with a GSO type is split. -/
theorem openFrame_gso {frame : Bytes} {hdr : VirtioNetHdr} {gsoType : GsoType}
    (long : virtioNetHdrLen < frame.length)
    (decoded : VirtioNetHdr.decode (frame.take virtioNetHdrLen) = .ok hdr)
    (other : hdr.gsoType ≠ virtioNetHdrGsoNone) (named : hdr.toGsoType = .ok gsoType) :
    LinuxTunReader.openFrame true frame
      = Except.map .split
        (gsoSplit (frame.drop virtioNetHdrLen) (gsoOptions hdr gsoType) idealBatchSize) := by
  have several : hdr.isGso = true := bne_iff_ne.mpr other
  have options : hdr.toGsoOptions = .ok (gsoOptions hdr gsoType) := by
    unfold VirtioNetHdr.toGsoOptions
    rw [named]
    rfl
  unfold LinuxTunReader.openFrame
  rw [if_pos ⟨rfl, long⟩, decoded]
  show (if hdr.isGso = true then _ else _) = _
  rw [if_pos several, options]
  rfl

/-- A call with room for a frame delivers the packets of the frame. -/
theorem fromFrame_eq {reader : LinuxTunReader} {bufs : List Bytes} (frame : Bytes)
    (room : reader.pending.length < bufs.length) :
    (reader.doBatchRead bufs (.frame frame)).fromFrame reader.pending
      = arrivedPackets reader.vnetHdr (.frame frame) := by
  obtain ⟨full, -⟩ | ⟨-, next, batch, outcome, done, -, how⟩ :=
    reader.doBatchRead_cases bufs (.frame frame)
  · exact absurd room (Nat.not_lt.mpr full)
  · rw [done, LinuxTunReader.CallEnd.fromFrame]
    obtain ⟨failed, -, why⟩ | ⟨rfl, empty, kept⟩ | ⟨rfl, _, opened, same, nonempty, ok, kept⟩ := how
    · rw [if_neg failed, ReaderRun.arrivedPackets_of_fails why]
    · cases empty
      rw [if_pos rfl, kept, List.drop_length]
      rfl
    · cases same
      have packets : arrivedPackets reader.vnetHdr (.frame frame) = opened.packets := by
        rw [arrivedPackets, ok]
        exact nonempty
      rw [if_pos rfl, kept, packets, List.drop_left]

/-- **A frame's packets have complete checksums exactly when** the frame has a GSO type, or its
checksum happens to be right as the kernel leaves it. -/
theorem doBatchRead_complete_iff {reader : LinuxTunReader} {bufs : List Bytes} {frame : Bytes}
    {hdr : VirtioNetHdr} {proto : UInt8} (vnetHdr : reader.vnetHdr = true)
    (room : reader.pending.length < bufs.length)
    (decoded : VirtioNetHdr.decode (frame.take virtioNetHdrLen) = .ok hdr)
    (kernel : KernelFrame hdr (frame.drop virtioNetHdrLen) proto) :
    (∀ pkt ∈ (reader.doBatchRead bufs (.frame frame)).fromFrame reader.pending,
        Complete proto hdr.csumStart.toNat pkt)
      ↔ hdr.gsoType ≠ virtioNetHdrGsoNone
        ∨ RightAsItIs hdr (frame.drop virtioNetHdrLen) proto := by
  have long : virtioNetHdrLen < frame.length := by
    have inside := kernel.field.2.1
    rw [List.length_drop] at inside
    omega
  have nonempty : frame ≠ [] := by
    rintro rfl
    exact Nat.not_lt_zero _ long
  rw [fromFrame_eq frame room, vnetHdr]
  rcases kernel.gso with plain | ⟨gsoType, named, typed⟩
  · have opened := openFrame_plain long decoded plain
    rw [arrivedPackets_of_ok nonempty opened, Opened.packets, List.forall_mem_singleton,
      kernel.complete_iff]
    exact ⟨Or.inr, fun either => either.resolve_left fun other => other plain⟩
  · have other : hdr.gsoType ≠ virtioNetHdrGsoNone := by
      intro plain
      rw [VirtioNetHdr.toGsoType, if_pos plain] at named
      cases named
      rcases typed with ⟨impossible, -⟩ | ⟨impossible, -⟩ | ⟨impossible, -⟩ <;> cases impossible
    refine iff_of_true ?_ (Or.inl other)
    have opened := openFrame_gso long decoded other named
    cases done : gsoSplit (frame.drop virtioNetHdrLen) (gsoOptions hdr gsoType) idealBatchSize with
    | error fault =>
        rw [done] at opened
        rw [ReaderRun.arrivedPackets_of_fails (.inr ⟨frame, fault, rfl, nonempty, opened⟩)]
        exact fun pkt among => nomatch among
    | ok segments =>
        rw [done] at opened
        rw [arrivedPackets_of_ok nonempty opened]
        exact kernel.split_complete typed done

/-- A datagram of four bytes whose checksum field holds the sum of its pseudo header, behind a
header of the given GSO type. -/
def samplePartialFrame (gsoType : UInt8) : Bytes :=
  [1, gsoType, 28, 0, 2, 0, 20, 0, 6, 0]
    ++ [0x45, 0, 0, 32, 0, 0, 0, 0, 64, 17, 0, 0, 10, 0, 0, 1, 10, 0, 0, 2]
    ++ [4, 210, 0, 53, 0, 12, 0x14, 0x20] ++ [1, 2, 3, 4]

/-- The header of the sample. -/
def samplePartialHeader (gsoType : UInt8) : VirtioNetHdr := ⟨1, gsoType, 28, 2, 20, 6⟩

/-- Without a GSO type the sample is delivered unfinished. -/
theorem plain_frame_unfinished :
    VirtioNetHdr.decode ((samplePartialFrame 0).take virtioNetHdrLen) = .ok (samplePartialHeader 0)
      ∧ KernelFrame (samplePartialHeader 0) ((samplePartialFrame 0).drop virtioNetHdrLen) 17
      ∧ ((LinuxTunReader.new true).doBatchRead [[]] (.frame (samplePartialFrame 0))).batch.packets
        = [(samplePartialFrame 0).drop virtioNetHdrLen]
      ∧ ¬ Complete 17 20 ((samplePartialFrame 0).drop virtioNetHdrLen) := by
  refine ⟨by decide, ⟨by decide, by decide, Or.inl ⟨by decide, by decide, by decide⟩,
    Or.inr ⟨rfl, rfl, by decide⟩, Or.inl rfl, by decide +kernel⟩, by decide +kernel, ?_⟩
  decide +kernel

theorem doBatchRead_complete_iff_sample :
    (samplePartialHeader 5).isGso = true
      ∧ ∀ pkt ∈ ((LinuxTunReader.new true).doBatchRead [[]]
        (.frame (samplePartialFrame 5))).fromFrame [], Complete 17 20 pkt :=
  ⟨by decide, (@doBatchRead_complete_iff (LinuxTunReader.new true) [[]] (samplePartialFrame 5)
    (samplePartialHeader 5) 17 rfl (by decide) (by decide)
    ⟨by decide, by decide, Or.inl ⟨by decide, by decide, by decide⟩,
      Or.inr ⟨rfl, rfl, by decide⟩,
      Or.inr ⟨.udpL4, by decide, Or.inr (Or.inr ⟨rfl, rfl, by decide⟩)⟩,
      by decide +kernel⟩).mpr (Or.inl (by decide))⟩

end RsTun.NativeTun
