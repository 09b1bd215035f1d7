/-
**What the accounting writes, and how the merged packets split again.**

* `decode_bytes` — a virtio header is read back as it was written.
* `gsoSplit_of_holds` — the split of a merged packet returns the packets that it stands for.
* `accountItem_spec` — the accounting of an item, whose buffer then splits into these packets.
* `account_spec` — the accounting of all items.
-/

import RsTun.Gso.Coalesce
import RsTun.Gso.SplitKernel

namespace RsTun.Gso

open Library Library.Bytes Library.OnesComplement Packet

/-! ### The virtio header -/

theorem nativeBytes_spec (number : UInt16) :
    UInt16.ofNat ((UInt8.ofNat (number.toNat % 256)).toNat
      + (UInt8.ofNat (number.toNat / 256)).toNat * 256) = number := by
  have small := number.toNat_lt
  have low : (UInt8.ofNat (number.toNat % 256)).toNat = number.toNat % 256 :=
    UInt8.toNat_ofNat_of_lt' (by show _ < 256; omega)
  have high : (UInt8.ofNat (number.toNat / 256)).toNat = number.toNat / 256 :=
    UInt8.toNat_ofNat_of_lt' (by show _ < 256; omega)
  rw [low, high, Nat.mod_add_div', UInt16.ofNat_toNat]

/-- **A header is read back as it was written.** -/
theorem VirtioNetHdr.decode_bytes (hdr : VirtioNetHdr) : decode hdr.bytes = .ok hdr := by
  have read : decode hdr.bytes = .ok {
      flags := hdr.flags
      gsoType := hdr.gsoType
      hdrLen := .ofNat ((UInt8.ofNat (hdr.hdrLen.toNat % 256)).toNat
        + (UInt8.ofNat (hdr.hdrLen.toNat / 256)).toNat * 256)
      gsoSize := .ofNat ((UInt8.ofNat (hdr.gsoSize.toNat % 256)).toNat
        + (UInt8.ofNat (hdr.gsoSize.toNat / 256)).toNat * 256)
      csumStart := .ofNat ((UInt8.ofNat (hdr.csumStart.toNat % 256)).toNat
        + (UInt8.ofNat (hdr.csumStart.toNat / 256)).toNat * 256)
      csumOffset := .ofNat ((UInt8.ofNat (hdr.csumOffset.toNat % 256)).toNat
        + (UInt8.ofNat (hdr.csumOffset.toNat / 256)).toNat * 256) } := rfl
  rw [read, nativeBytes_spec, nativeBytes_spec, nativeBytes_spec, nativeBytes_spec]

/-- The header that the accounting writes for a flow. -/
def Flow.hdr (flow : Flow) (gso : Nat) : VirtioNetHdr where
  flags := virtioNetHdrFNeedsCsum
  gsoType :=
    if flow.tcp.isSome then (if flow.isV6 then virtioNetHdrGsoTcpv6 else virtioNetHdrGsoTcpv4)
    else virtioNetHdrGsoUdpL4
  hdrLen := .ofNat flow.headersLen
  gsoSize := .ofNat gso
  csumStart := .ofNat flow.start
  csumOffset := if flow.tcp.isSome then 16 else 6

/-- What the split is told by that header. -/
def Flow.options (flow : Flow) (gso : Nat) : GsoOptions where
  gsoType := if flow.tcp.isSome then (if flow.isV6 then .tcpV6 else .tcpV4) else .udpL4
  hdrLen := .ofNat flow.headersLen
  csumStart := .ofNat flow.start
  csumOffset := if flow.tcp.isSome then 16 else 6
  gsoSize := .ofNat gso
  needsCsum := true

theorem Flow.isGso_hdr (flow : Flow) (gso : Nat) : (flow.hdr gso).isGso = true := by
  unfold VirtioNetHdr.isGso hdr
  dsimp only
  cases flow.tcp.isSome with
  | false => rfl
  | true =>
      cases flow.isV6 with
      | false => rfl
      | true => rfl

theorem Flow.toGsoOptions_hdr (flow : Flow) (gso : Nat) :
    (flow.hdr gso).toGsoOptions = .ok (flow.options gso) := by
  unfold VirtioNetHdr.toGsoOptions VirtioNetHdr.toGsoType VirtioNetHdr.needsCsum hdr options
  dsimp only
  cases flow.tcp.isSome with
  | false => rfl
  | true =>
      cases flow.isV6 with
      | false => rfl
      | true => rfl

/-! ### The split of a merged packet -/

section Split

variable {flow : Flow} {seq gso numMerged : Nat} {pkt : Bytes}

/-- The header of a merged packet tells what its buffer holds. -/
theorem Flow.Holds.fields (holds : flow.Holds seq gso numMerged pkt) :
    (flow.options gso).hdrLen.toNat = flow.headersLen
      ∧ (flow.options gso).csumStart.toNat = flow.start
      ∧ (flow.options gso).gsoSize.toNat = gso := by
  have small := holds.small
  have full := holds.full
  have enough := flow.start_add_eight_le
  exact ⟨UInt16.toNat_ofNat_of_lt' (by show _ < 65536; omega),
    UInt16.toNat_ofNat_of_lt' (by show _ < 65536; omega),
    UInt16.toNat_ofNat_of_lt' (by show _ < 65536; omega)⟩

theorem Flow.options_transport (flow : Flow) (gso : Nat) :
    (∃ tcp, flow.tcp = some tcp
        ∧ (flow.options gso).gsoType = (if flow.isV6 then .tcpV6 else .tcpV4)
        ∧ (flow.options gso).csumOffset = 16)
      ∨ flow.tcp = none ∧ (flow.options gso).gsoType = .udpL4
        ∧ (flow.options gso).csumOffset = 6 := by
  unfold options
  cases isTcp : flow.tcp with
  | none => exact .inr ⟨rfl, rfl, rfl⟩
  | some tcp => exact .inl ⟨tcp, rfl, rfl, rfl⟩

/-- The kernel's description of a merged packet. -/
theorem Flow.Holds.kernel (holds : flow.Holds seq gso numMerged pkt) :
    KernelHeader (if flow.isV6 then .tcpV6 else .tcpV4) pkt (flow.options gso) := by
  obtain ⟨hdrLen, csumStart, gsoSize⟩ := holds.fields
  refine ⟨holds.small, ?_, ?_, ?_⟩
  · obtain ⟨tcp, isTcp, typed, offset⟩ | ⟨isUdp, typed, offset⟩ := flow.options_transport gso
    · refine .inl ⟨typed, offset, ?_⟩
      rw [hdrLen, csumStart, flow.headersLen_tcp isTcp]
      omega
    · refine .inr ⟨typed, offset, ?_⟩
      rw [hdrLen, csumStart, flow.headersLen_udp isUdp]
  · rw [gsoSize]
    exact holds.positive
  · rw [hdrLen, gsoSize]
    exact holds.full

/-- What the split sets in a transport header is quiet. -/
theorem Flow.Holds.transportFields_quiet (holds : flow.Holds seq gso numMerged pkt) {index : Nat}
    (field : index ∈ transportFields (flow.options gso)) : index ∈ flow.quiet := by
  obtain ⟨-, csumStart, -⟩ := holds.fields
  refine .inr ?_
  unfold transportFields headerFields at field
  rw [csumStart] at field
  obtain ⟨tcp, isTcp, typed, offset⟩ | ⟨isUdp, typed, offset⟩ := flow.options_transport gso
  · have notUdp : (flow.options gso).gsoType ≠ .udpL4 := by
      rw [typed]
      cases flow.isV6 with
      | false => decide
      | true => decide
    rw [if_neg notUdp, offset] at field
    rw [isTcp]
    exact field
  · rw [if_pos typed, offset] at field
    rw [isUdp]
    exact field

/-- A segment is the packet of its index. -/
theorem Flow.Holds.describe_segment (holds : flow.Holds seq gso numMerged pkt) {segment : Bytes}
    {index : Nat} {last : Bool}
    (data : segment.drop flow.headersLen = piece gso (pkt.drop flow.headersLen) index)
    (transport : TransportHeader pkt (flow.options gso) segment index last)
    (agree : AgreeOff flow.quiet (pkt.take flow.headersLen) (segment.take flow.headersLen)) :
    describe segment = flow.view (seq + index * gso)
      (piece gso (pkt.drop flow.headersLen) index) := by
  obtain ⟨-, csumStart, gsoSize⟩ := holds.fields
  have number : flow.tcp.isSome = true →
      value (slice segment (flow.start + 4) 4) = (seq + index * gso) % 2 ^ 32 := fun isTcp => by
    have notUdp : (flow.options gso).gsoType ≠ .udpL4 := by
      unfold options
      dsimp only
      rw [if_pos isTcp]
      cases flow.isV6 with
      | false => decide
      | true => decide
    have stated := transport.sequence notUdp
    rw [csumStart, gsoSize, holds.carries.sequence isTcp, Nat.mul_comm] at stated
    rw [stated, Nat.mod_add_mod]
  rw [← data]
  exact describe_of_carries (holds.carries.congr agree number)

/-- **The loop returns the packets**, if every turn returns the packet of its index. -/
theorem Flow.Holds.segmentLoop_describes {plan : SegmentPlan} {outBufs : Nat}
    (holds : flow.Holds seq gso numMerged pkt) (enough : numMerged + 1 ≤ outBufs)
    (turn : ∀ i < pieceCount gso (pkt.length - flow.headersLen), ∃ segment,
      gsoSegment pkt (flow.options gso) plan i (flow.headersLen + i * gso) = .ok segment
        ∧ describe segment
          = flow.view (seq + i * gso) (piece gso (pkt.drop flow.headersLen) i)) :
    ∃ segments, segmentLoop pkt (flow.options gso) plan outBufs 0 flow.headersLen = .ok segments
      ∧ segments.map describe = flow.cut gso seq (pkt.drop flow.headersLen) := by
  obtain ⟨hdrLen, -, gsoSize⟩ := holds.fields
  have count : segmentCount pkt (flow.options gso)
      = pieceCount gso (pkt.length - flow.headersLen) := by
    rw [segmentCount, hdrLen, gsoSize]
  choose! produce produced described using turn
  have looped := @segmentLoop_eq_ok pkt (flow.options gso) plan produce
    (by rw [gsoSize]; exact holds.positive) (by rw [hdrLen]; exact holds.carries.whole)
    (by rw [count, hdrLen, gsoSize]; exact produced) outBufs 0 (Nat.zero_le _)
    (by rw [count, holds.count, Nat.zero_add]; exact enough)
  rw [Nat.zero_mul, Nat.add_zero, Nat.sub_zero, ← List.range_eq_range', hdrLen, count] at looped
  refine ⟨_, looped, ?_⟩
  rw [List.map_map, Flow.cut, List.length_drop]
  exact List.map_congr_left fun index among => described index (List.mem_range.mp among)

/-- **The split of a merged packet.** -/
theorem gsoSplit_of_holds {outBufs : Nat} (holds : flow.Holds seq gso numMerged pkt)
    (enough : numMerged + 1 ≤ outBufs) : ∃ segments,
      gsoSplit pkt (flow.options gso) outBufs = .ok segments
        ∧ segments.map describe = flow.cut gso seq (pkt.drop flow.headersLen) := by
  obtain ⟨hdrLen, csumStart, gsoSize⟩ := holds.fields
  have kernel := holds.kernel
  have version := holds.carries.version
  have more : ∀ {index : Nat}, index < pieceCount gso (pkt.length - flow.headersLen) →
      flow.headersLen + index * gso < pkt.length := fun inside => by
    have data := (lt_pieceCount_iff holds.positive).mp inside
    omega
  obtain ⟨family, start, -⟩ | ⟨family, start, -⟩ := flow.layout
  · rw [if_pos family] at kernel version
    have kernel6 : KernelHeaderV6 pkt (flow.options gso) :=
      ⟨kernel, version, by rw [csumStart, start]⟩
    have turn := fun i => @gsoSegment_v6 pkt (flow.options gso) kernel6 i
    rw [hdrLen, gsoSize] at turn
    rw [kernel6.loops, hdrLen]
    refine holds.segmentLoop_describes enough fun i inside => ?_
    obtain ⟨segment, done, -, data, counted⟩ := turn i (more inside)
    have unchanged := counted.unchanged
    rw [hdrLen] at unchanged
    refine ⟨segment, done, holds.describe_segment data counted.toTransportHeader
      (unchanged.mono fun index field => ?_)⟩
    obtain ip | transport := field
    · refine .inl ?_
      rwa [if_pos family]
    · exact holds.transportFields_quiet transport
  · rw [family, if_neg Bool.false_ne_true] at kernel version
    have plain := holds.carries.plain family
    have kernel4 : KernelHeaderV4 pkt (flow.options gso) :=
      ⟨kernel, version, by rw [csumStart, start, plain], by rw [plain]⟩
    have turn := fun i => @gsoSegment_v4 pkt (flow.options gso) kernel4 i
    rw [hdrLen, gsoSize] at turn
    rw [kernel4.loops, hdrLen]
    refine holds.segmentLoop_describes enough fun i inside => ?_
    obtain ⟨segment, done, -, data, spec⟩ := turn i (more inside)
    have unchanged := spec.unchanged
    rw [hdrLen] at unchanged
    refine ⟨segment, done, holds.describe_segment data spec.toTransportHeader
      (unchanged.mono fun index field => ?_)⟩
    obtain ip | transport := field
    · refine .inl ?_
      rwa [family, if_neg Bool.false_ne_true]
    · exact holds.transportFields_quiet transport

end Split

/-! ### What the accounting writes into a packet -/

/-- `writeWord`, with the error of the merging. -/
theorem groWriteWord {data word : Bytes} {start : Nat} (two : word.length = 2)
    (inside : start + 2 ≤ data.length) :
    Checked.copyFromSlice data start (start + 2) word
        = (.ok (overwrite data start word) : Checked GroError Bytes)
      ∧ AgreeOff (wordAt start) data (overwrite data start word) :=
  ⟨Checked.copyFromSlice_eq_ok (by rw [two]) inside, agreeOff_word two inside⟩

/-- The fields of an IP header that the accounting sets. -/
def ipFields (isV6 : Bool) : Set Nat := if isV6 then wordAt 4 else ipv4Fields

/-- The fields of a packet that the accounting sets. -/
def Flow.accountFields (flow : Flow) : Set Nat :=
  ipFields flow.isV6 ∪ if flow.tcp.isSome then wordAt (flow.start + 16)
    else wordAt (flow.start + 4) ∪ wordAt (flow.start + 6)

theorem Flow.mem_accountFields {flow : Flow} {index : Nat} (field : index ∈ flow.accountFields) :
    index < flow.start ∨ flow.tcp.isSome = true ∧ index ∈ wordAt (flow.start + 16)
      ∨ flow.tcp.isSome = false ∧ flow.start + 4 ≤ index ∧ index < flow.start + 8 := by
  obtain ip | transport := field
  · refine .inl ?_
    unfold ipFields at ip
    obtain ⟨family, start, -⟩ | ⟨family, start, -⟩ := flow.layout
    · rw [if_pos family] at ip
      have high := ip.2
      omega
    · rw [family, if_neg Bool.false_ne_true] at ip
      obtain ⟨-, high⟩ | ⟨-, high⟩ := ip <;> omega
  · refine .inr ?_
    cases isTcp : flow.tcp.isSome with
    | true =>
        rw [isTcp] at transport
        exact .inl ⟨rfl, transport⟩
    | false =>
        rw [isTcp] at transport
        obtain ⟨low, high⟩ | ⟨low, high⟩ := transport
        · exact .inr ⟨rfl, low, by omega⟩
        · exact .inr ⟨rfl, by omega, high⟩

/-- **The accounting changes none of the packets** that a buffer stands for. -/
theorem Flow.Holds.accounted {flow : Flow} {seq gso numMerged : Nat} {pkt pkt' : Bytes}
    (holds : flow.Holds seq gso numMerged pkt) (agree : AgreeOff flow.accountFields pkt pkt') :
    flow.Holds seq gso numMerged pkt'
      ∧ pkt'.drop flow.headersLen = pkt.drop flow.headersLen := by
  have size := agree.1
  have quiet : flow.accountFields ⊆ flow.quiet := by
    rintro index (ip | transport)
    · exact .inl ip
    · refine .inr ?_
      split
      · rename_i isTcp
        rw [if_pos isTcp] at transport
        exact .inr transport
      · rename_i isUdp
        rwa [if_neg isUdp] at transport
  have carries : flow.Carries seq pkt' := by
    refine holds.carries.congr ((agree.take _).mono quiet) fun isTcp => ?_
    rw [agree.slice_eq fun index low high field => ?_]
    · exact holds.carries.sequence isTcp
    · obtain ip | ⟨-, late, -⟩ | ⟨isUdp, -⟩ := Flow.mem_accountFields field
      · omega
      · omega
      · rw [isTcp] at isUdp
        cases isUdp
  refine ⟨⟨carries, ?_, holds.positive, ?_, ?_⟩, agree.drop_eq fun index field => ?_⟩
  · rw [size]
    exact holds.small
  · rw [size]
    exact holds.full
  · rw [size]
    exact holds.count
  · have enough := flow.start_add_eight_le
    obtain ip | ⟨isTcp, -, late⟩ | ⟨-, -, late⟩ := Flow.mem_accountFields field
    · omega
    · obtain ⟨tcp, same⟩ := Option.isSome_iff_exists.mp isTcp
      rw [flow.headersLen_tcp same]
      omega
    · omega

section Account

variable {flow : Flow} {pkt : Bytes}

/-- The length in the IP header is that of the packet. -/
structure IpLengthTrue (isV6 : Bool) (iphLen : Nat) (pkt : Bytes) : Prop where
  total : isV6 = false → be16 pkt 2 = pkt.length
  payload : isV6 = true → be16 pkt 4 = pkt.length - iphLen

/-- The checksum field holds the sum of the pseudo header with the length of the packet. -/
def PseudoSumTrue (proto : UInt8) (csumOffset : Nat) (isV6 : Bool) (iphLen : Nat) (pkt : Bytes) :
    Prop :=
  be16 pkt (iphLen + csumOffset)
    = pseudoHeaderChecksum proto (slice pkt (groAddresses isV6).1 (groAddresses isV6).2)
      (slice pkt ((groAddresses isV6).1 + (groAddresses isV6).2) (groAddresses isV6).2)
      (pkt.length - iphLen)

theorem Flow.groAddresses_eq (flow : Flow) :
    groAddresses flow.isV6 = (flow.addrOff, flow.addrLen) := by
  unfold groAddresses Flow.addrOff Flow.addrLen
  cases flow.isV6 with
  | false => rfl
  | true => rfl

/-- The length in the IP header, where the rest of it is written. -/
theorem IpLengthTrue.congr {touched : Set Nat} {out : Bytes}
    (stated : IpLengthTrue flow.isV6 flow.start pkt) (agree : AgreeOff touched pkt out)
    (late : ∀ index ∈ touched, flow.start ≤ index) : IpLengthTrue flow.isV6 flow.start out := by
  have early : ∀ index, index < 20 → index ∉ touched := fun index low field => by
    have high := late index field
    have layout := flow.layout
    omega
  refine ⟨fun family => ?_, fun family => ?_⟩
  · rw [agree.be16_eq (early 2 (by decide)) (early 3 (by decide)), agree.1]
    exact stated.total family
  · rw [agree.be16_eq (early 4 (by decide)) (early 5 (by decide)), agree.1]
    exact stated.payload family

theorem accountIpHeader_spec (whole : flow.headersLen ≤ pkt.length) (small : pkt.length ≤ 65535) :
    ∃ out, accountIpHeader flow.isV6 flow.start pkt = .ok out
      ∧ AgreeOff (ipFields flow.isV6) pkt out ∧ IpLengthTrue flow.isV6 flow.start out := by
  have enough := flow.start_add_eight_le
  unfold accountIpHeader ipFields
  obtain ⟨family, start, -⟩ | ⟨family, start, -⟩ := flow.layout
  · have written := @groWriteWord pkt _ 4 (length_encode 2 (pkt.length - flow.start)) (by omega)
    rw [if_pos family, if_pos family, Checked.minus_eq_ok (by omega)]
    refine ⟨_, written.1, written.2, fun other => ?_, fun _ => ?_⟩
    · rw [family] at other
      cases other
    · rw [be16_overwrite (by omega), written.2.1]
      exact Nat.mod_eq_of_lt (by omega)
  · -- the checksum field is cleared, the length set, and the sum written
    let cleared := overwrite pkt 10 [0, 0]
    let sized := overwrite cleared 2 (encode 2 cleared.length)
    let sum := complement (foldCarries (0 + wordSum (slice sized 0 (flow.start - 0))))
    have clear := @groWriteWord pkt [0, 0] 10 rfl (by omega)
    have clearedSize : cleared.length = pkt.length := clear.2.1
    have size := @groWriteWord cleared _ 2 (length_encode 2 cleared.length) (by omega)
    have sizedSize : sized.length = pkt.length := size.2.1.trans clearedSize
    have finish := @groWriteWord sized _ 10 (length_encode 2 sum) (by omega)
    have headerSize : (slice sized 0 (flow.start - 0)).length = flow.start - 0 :=
      length_slice (by omega)
    have stated : be16 (overwrite sized 10 (encode 2 sum)) 2 = pkt.length := by
      rw [finish.2.be16_eq (fun field => absurd field.1 (by decide)) fun field =>
        absurd field.1 (by decide)]
      show be16 (overwrite cleared 2 (encode 2 cleared.length)) 2 = _
      rw [be16_overwrite (by omega), clearedSize]
      exact Nat.mod_eq_of_lt (by omega)
    rw [family, if_neg Bool.false_ne_true, if_neg Bool.false_ne_true]
    refine ⟨_, ?_, ((clear.2.mono ?_).trans (size.2.mono ?_)).trans (finish.2.mono ?_),
      fun _ => stated.trans (finish.2.1.trans sizedSize).symm, nofun⟩
    · show Except.bind (Checked.copyFromSlice pkt 10 12 [0, 0]) _ = _
      rw [clear.1]
      show Except.bind (Checked.copyFromSlice cleared 2 4 (encode 2 cleared.length)) _ = _
      rw [size.1]
      show Except.bind (Checked.range sized 0 flow.start) _ = _
      rw [Checked.range_eq_ok (Nat.zero_le _) (by omega)]
      show Except.bind (groChecksum (slice sized 0 (flow.start - 0)) 0) _ = _
      rw [groChecksum_eq_ok (by omega) (by norm_num)]
      exact finish.1
    all_goals
      rintro index ⟨low, high⟩
      show 2 ≤ index ∧ index < 6 ∨ 10 ≤ index ∧ index < 12
      omega

theorem accountPseudoSum_spec (whole : flow.headersLen ≤ pkt.length) (small : pkt.length ≤ 65535)
    (proto : UInt8) {csumOffset : Nat} (inside : flow.start + csumOffset + 2 ≤ pkt.length) :
    ∃ out, accountPseudoSum proto csumOffset flow.isV6 flow.start pkt = .ok out
      ∧ AgreeOff (wordAt (flow.start + csumOffset)) pkt out
      ∧ PseudoSumTrue proto csumOffset flow.isV6 flow.start out := by
  have enough := flow.start_add_eight_le
  have layout := flow.layout
  let sum := pseudoHeaderChecksum proto (slice pkt flow.addrOff flow.addrLen)
    (slice pkt (flow.addrOff + flow.addrLen) flow.addrLen) (pkt.length - flow.start)
  have sumSmall : sum < 65536 := pseudoHeaderChecksum_lt _ _ _ _
  have written := @groWriteWord pkt _ (flow.start + csumOffset) (length_encode 2 sum) inside
  have folded : foldCarries (sum + wordSum []) = sum := foldCarries_of_lt sumSmall
  refine ⟨overwrite pkt (flow.start + csumOffset) (encode 2 sum), ?_, written.2, ?_⟩
  · unfold accountPseudoSum
    simp only [flow.groAddresses_eq, bind, Except.bind]
    rw [Checked.minus_eq_ok (by omega)]
    dsimp only
    rw [Checked.range_eq_ok (by omega) (by omega)]
    dsimp only
    rw [Checked.range_eq_ok (by omega) (by omega), Nat.add_sub_cancel_left,
      Nat.mod_eq_of_lt (show pkt.length - flow.start < 65536 by omega),
      show flow.addrOff + flow.addrLen * 2 - (flow.addrOff + flow.addrLen) = flow.addrLen by omega]
    dsimp only
    rw [if_pos inside, groChecksum_eq_ok (by decide) sumSmall, folded]
    exact written.1
  · have kept : ∀ start, start + flow.addrLen ≤ flow.start →
        slice (overwrite pkt (flow.start + csumOffset) (encode 2 sum)) start flow.addrLen
          = slice pkt start flow.addrLen := fun start within =>
      written.2.slice_eq fun index _ high field => by
        have low := field.1
        omega
    unfold PseudoSumTrue
    rw [flow.groAddresses_eq]
    dsimp only
    rw [kept _ (by omega), kept _ (by omega), be16_overwrite inside, written.2.1]
    exact Nat.mod_eq_of_lt sumSmall

end Account

/-! ### The packets of a buffer -/

/-- The packets that the kernel sees when the buffer is written: those of the split if the virtio
header asks for one. -/
def writtenPackets (offset outBufs : Nat) (buf : Buffer) : Checked GsoError (List Bytes) := do
  let hdr ← VirtioNetHdr.decode
    (slice buf.bytes (offset - virtioNetHdrLen) virtioNetHdrLen)
  if hdr.isGso then
    let options ← hdr.toGsoOptions
    gsoSplit (buf.packet offset) options outBufs
  else return [buf.packet offset]

/-- The buffer is written as these packets. -/
def Emits (offset outBufs : Nat) (buf : Buffer) (views : List PacketView) : Prop :=
  ∃ packets, writtenPackets offset outBufs buf = .ok packets ∧ packets.map describe = views

/-- A buffer that was not merged into is one packet. -/
theorem Buffer.Ready.writtenPackets_eq {offset : Nat} {buf : Buffer} (ready : buf.Ready offset)
    (outBufs : Nat) : writtenPackets offset outBufs buf = .ok [buf.packet offset] := by
  have zero : VirtioNetHdr.decode (List.replicate virtioNetHdrLen 0) = .ok .default := rfl
  unfold writtenPackets
  rw [ready.zeroed, zero]
  rfl

theorem Buffer.Ready.emits {offset : Nat} {buf : Buffer} (ready : buf.Ready offset)
    (outBufs : Nat) : Emits offset outBufs buf [describe (buf.packet offset)] :=
  ⟨_, ready.writtenPackets_eq outBufs, rfl⟩

/-- A merged buffer with its header is the packets that it stands for. -/
theorem Flow.Holds.emits {flow : Flow} {seq gso numMerged offset outBufs : Nat} {buf : Buffer}
    (holds : flow.Holds seq gso numMerged (buf.packet offset))
    (written : slice buf.bytes (offset - virtioNetHdrLen) virtioNetHdrLen = (flow.hdr gso).bytes)
    (enough : numMerged + 1 ≤ outBufs) :
    Emits offset outBufs buf (flow.cut gso seq ((buf.packet offset).drop flow.headersLen)) := by
  obtain ⟨segments, split, described⟩ := gsoSplit_of_holds holds enough
  refine ⟨segments, ?_, described⟩
  unfold writtenPackets
  rw [written, VirtioNetHdr.decode_bytes]
  simp only [bind, Except.bind]
  rw [if_pos (flow.isGso_hdr gso), flow.toGsoOptions_hdr]
  exact split

/-! ### The accounting of an item -/

/-- The turn of the accounting for an item of either table. -/
def accountItem (offset : Nat) (bufs : List Buffer) : GroItem → Checked GroError (List Buffer)
  | .tcp item => accountTcpItem offset bufs item
  | .udp item => accountUdpItem offset bufs item

section Item

variable {offset : Nat} {bufs : List Buffer} {buf : Buffer} {flow : Flow}

/-- The header and the packet of a buffer, written one after the other. -/
theorem written_spec {bytes pktData : Bytes} (placed : buf.Placed offset)
    (size : bytes.length = buf.bytes.length)
    (sized : pktData.length = (buf.packet offset).length) :
    ∃ whole, Checked.copyFromSlice bytes offset bytes.length pktData
        = (.ok whole : Checked GroError Bytes)
      ∧ whole.drop offset = pktData
      ∧ slice whole (offset - virtioNetHdrLen) virtioNetHdrLen
        = slice bytes (offset - virtioNetHdrLen) virtioNetHdrLen := by
  have room := placed.room
  have long := placed.long
  have length := buf.length_packet offset
  have fits : offset + pktData.length = bytes.length := by omega
  refine ⟨_, Checked.copyFromSlice_eq_ok fits (Nat.le_refl _), drop_overwrite_self fits, ?_⟩
  exact slice_overwrite_of_disjoint (by omega) (by omega)

/-- The packet behind a header that was written. -/
theorem range_written {bytes : Bytes} (placed : buf.Placed offset)
    (size : bytes.length = buf.bytes.length) (data : bytes.drop offset = buf.packet offset) :
    Checked.range bytes offset bytes.length
      = (.ok (buf.packet offset) : Checked GroError Bytes) := by
  rw [Checked.range_eq_ok (by rw [size]; exact placed.long) (Nat.le_refl _), ← data]
  exact congrArg _ (List.take_of_length_le (by rw [List.length_drop]))

/-- **The lengths in the packet of an item are true**: in the IP header, in the UDP header and in
the sum of the pseudo header. -/
def GroItem.LengthsTrue (pkt : Bytes) : GroItem → Prop
  | .tcp item => IpLengthTrue item.key.isV6 item.iphLen pkt
      ∧ PseudoSumTrue 6 16 item.key.isV6 item.iphLen pkt
  | .udp item => IpLengthTrue item.key.isV6 item.iphLen pkt
      ∧ be16 pkt (item.iphLen + 4) = pkt.length - item.iphLen
      ∧ PseudoSumTrue 17 6 item.key.isV6 item.iphLen pkt

/-- What the accounting makes of the buffer of an item that was merged into. -/
structure Accounted (offset : Nat) (flow : Flow) (item : GroItem) (buf buf' : Buffer) : Prop where
  header : slice buf'.bytes (offset - virtioNetHdrLen) virtioNetHdrLen
    = (flow.hdr item.gsoSize).bytes
  agree : AgreeOff flow.accountFields (buf.packet offset) (buf'.packet offset)
  lengths : item.LengthsTrue (buf'.packet offset)

theorem accountTcpItem_spec {item : TcpGroItem} (present : bufs[item.bufsIndex]? = some buf)
    (placed : buf.Placed offset) (stands : item.Stands flow (buf.packet offset))
    (merged : 0 < item.numMerged) : ∃ buf',
      accountTcpItem offset bufs item = .ok (bufs.set item.bufsIndex buf')
        ∧ Accounted offset flow (.tcp item) buf buf' := by
  have whole := stands.holds.carries.whole
  have small := stands.holds.small
  obtain ⟨tcp, isTcp, -, -⟩ := stands.tcp
  have header := flow.headersLen_tcp isTcp
  obtain ⟨bytes, encoded, size, data, written⟩ := placed.writeHdr_spec (flow.hdr item.gsoSize)
  obtain ⟨first, ip, ipOnly, ipTrue⟩ := accountIpHeader_spec whole small
  have firstSize := ipOnly.1
  obtain ⟨second, pseudo, pseudoOnly, pseudoTrue⟩ := @accountPseudoSum_spec flow first
    (by omega) (by omega) 6 16 (by omega)
  obtain ⟨result, copied, rest, kept⟩ := written_spec placed size (pseudoOnly.1.trans ipOnly.1)
  have header : ({
      flags := virtioNetHdrFNeedsCsum
      gsoType := if item.key.isV6 then virtioNetHdrGsoTcpv6 else virtioNetHdrGsoTcpv4
      hdrLen := .ofNat (item.iphLen + item.tcphLen)
      gsoSize := .ofNat item.gsoSize
      csumStart := .ofNat item.iphLen
      csumOffset := 16 } : VirtioNetHdr) = flow.hdr item.gsoSize := by
    unfold Flow.hdr
    rw [stands.headers, stands.isV6, stands.iphLen, isTcp]
    rfl
  have packet : (⟨result, buf.capacity⟩ : Buffer).packet offset = second := rest
  refine ⟨⟨result, buf.capacity⟩, ?_, kept.trans written, ?_, ?_⟩
  · unfold accountTcpItem
    rw [Checked.entry_eq_ok present]
    simp only [bind, Except.bind]
    rw [if_pos merged, header, encoded]
    dsimp only
    rw [range_written placed size data, stands.isV6, stands.iphLen]
    dsimp only
    rw [ip]
    dsimp only
    rw [pseudo]
    dsimp only
    rw [copied]
    rfl
  · rw [packet]
    refine (ipOnly.mono fun index => .inl).trans (pseudoOnly.mono fun index field => .inr ?_)
    rw [isTcp]
    exact field
  · have late : ∀ index ∈ wordAt (flow.start + 16), flow.start ≤ index := fun index field =>
      Nat.le_trans (Nat.le_add_right _ _) field.1
    rw [packet]
    show IpLengthTrue item.key.isV6 item.iphLen second ∧ _
    rw [stands.isV6, stands.iphLen]
    exact ⟨ipTrue.congr pseudoOnly late, pseudoTrue⟩

theorem accountUdpItem_spec {item : UdpGroItem} (present : bufs[item.bufsIndex]? = some buf)
    (placed : buf.Placed offset) (stands : item.Stands flow (buf.packet offset))
    (merged : 0 < item.numMerged) : ∃ buf',
      accountUdpItem offset bufs item = .ok (bufs.set item.bufsIndex buf')
        ∧ Accounted offset flow (.udp item) buf buf' := by
  have whole := stands.holds.carries.whole
  have small := stands.holds.small
  have headers := flow.headersLen_udp stands.udp
  have isV6 : item.key.isV6 = flow.isV6 := by
    rw [stands.key]
    rfl
  obtain ⟨bytes, encoded, size, data, written⟩ := placed.writeHdr_spec (flow.hdr item.gsoSize)
  obtain ⟨first, ip, ipOnly, ipTrue⟩ := accountIpHeader_spec whole small
  have firstSize := ipOnly.1
  have lengthWritten := @groWriteWord first _ (flow.start + 4)
    (length_encode 2 (first.length - flow.start)) (by omega)
  have lengthSize := lengthWritten.2.1
  obtain ⟨second, pseudo, pseudoOnly, pseudoTrue⟩ := @accountPseudoSum_spec flow
    (overwrite first (flow.start + 4) (encode 2 (first.length - flow.start))) (by omega) (by omega)
    17 6 (by omega)
  obtain ⟨result, copied, rest, kept⟩ := written_spec placed size
    (pseudoOnly.1.trans (lengthWritten.2.1.trans ipOnly.1))
  have header : ({
      flags := virtioNetHdrFNeedsCsum
      gsoType := virtioNetHdrGsoUdpL4
      hdrLen := .ofNat (item.iphLen + udpHdrLen)
      gsoSize := .ofNat item.gsoSize
      csumStart := .ofNat item.iphLen
      csumOffset := 6 } : VirtioNetHdr) = flow.hdr item.gsoSize := by
    unfold Flow.hdr
    rw [stands.headers, stands.iphLen, stands.udp]
    rfl
  have packet : (⟨result, buf.capacity⟩ : Buffer).packet offset = second := rest
  refine ⟨⟨result, buf.capacity⟩, ?_, kept.trans written, ?_, ?_⟩
  · unfold accountUdpItem
    rw [Checked.entry_eq_ok present]
    simp only [bind, Except.bind]
    rw [if_pos merged, header, encoded]
    dsimp only
    rw [range_written placed size data, isV6, stands.iphLen]
    dsimp only
    rw [ip]
    dsimp only
    rw [Checked.minus_eq_ok (by rw [ipOnly.1]; omega)]
    dsimp only
    rw [lengthWritten.1]
    dsimp only
    rw [pseudo]
    dsimp only
    rw [copied]
    rfl
  · rw [packet]
    refine (ipOnly.mono fun index => .inl).trans
      ((lengthWritten.2.mono fun index field => .inr ?_).trans
        (pseudoOnly.mono fun index field => .inr ?_))
    · rw [stands.udp]
      exact .inr field
    · rw [stands.udp]
      exact .inl field
  · have late : ∀ {place : Nat}, ∀ index ∈ wordAt (flow.start + place), flow.start ≤ index :=
      fun index field => Nat.le_trans (Nat.le_add_right _ _) field.1
    have stated : be16 second (flow.start + 4) = second.length - flow.start := by
      rw [pseudoOnly.be16_eq (fun field => absurd field.1 (by omega)) fun field =>
        absurd field.1 (by omega), be16_overwrite (by omega), pseudoOnly.1, lengthSize]
      exact Nat.mod_eq_of_lt (by omega)
    rw [packet]
    show IpLengthTrue item.key.isV6 item.iphLen second ∧ _
    rw [isV6, stands.iphLen]
    exact ⟨(ipTrue.congr lengthWritten.2 late).congr pseudoOnly late, stated, pseudoTrue⟩

/-- The accounting of an item that was merged into. -/
theorem accountItem_merged {item : GroItem} (present : bufs[item.bufsIndex]? = some buf)
    (placed : buf.Placed offset) (stands : item.Stands flow (buf.packet offset))
    (merged : 0 < item.numMerged) : ∃ buf',
      accountItem offset bufs item = .ok (bufs.set item.bufsIndex buf')
        ∧ Accounted offset flow item buf buf' := by
  cases item with
  | tcp item => exact accountTcpItem_spec present placed stands merged
  | udp item => exact accountUdpItem_spec present placed stands merged

/-- An item of one packet only gets the empty header. -/
theorem accountItem_single {item : GroItem} {bytes : Bytes}
    (present : bufs[item.bufsIndex]? = some buf)
    (written : writeHdr .default buf.bytes offset = .ok bytes) (alone : item.numMerged = 0) :
    accountItem offset bufs item = .ok (bufs.set item.bufsIndex { buf with bytes }) := by
  cases item with
  | tcp item =>
      change bufs[item.bufsIndex]? = some buf at present
      have none : ¬ 0 < item.numMerged := Nat.not_lt.mpr (Nat.le_of_eq alone)
      show accountTcpItem offset bufs item = _
      unfold accountTcpItem
      rw [Checked.entry_eq_ok present]
      simp only [bind, Except.bind]
      rw [if_neg none, written]
      rfl
  | udp item =>
      change bufs[item.bufsIndex]? = some buf at present
      have none : ¬ 0 < item.numMerged := Nat.not_lt.mpr (Nat.le_of_eq alone)
      show accountUdpItem offset bufs item = _
      unfold accountUdpItem
      rw [Checked.entry_eq_ok present]
      simp only [bind, Except.bind]
      rw [if_neg none, written]
      rfl

/-- **The accounting of an item**: its buffer is written as the packets that it stands for. -/
theorem accountItem_spec {item : GroItem} {outBufs : Nat}
    (present : bufs[item.bufsIndex]? = some buf) (ready : buf.Ready offset)
    (stands : item.Stands flow (buf.packet offset))
    (enough : (item.views flow (buf.packet offset)).length ≤ outBufs) : ∃ buf',
      accountItem offset bufs item = .ok (bufs.set item.bufsIndex buf')
        ∧ Emits offset outBufs buf' (item.views flow (buf.packet offset)) := by
  by_cases alone : item.numMerged = 0
  · refine ⟨buf, accountItem_single present ready.writeHdr_default alone, ?_⟩
    rw [stands.views_single alone]
    exact ready.emits outBufs
  obtain ⟨buf', done, accounted⟩ :=
    accountItem_merged present ready.placed stands (Nat.pos_of_ne_zero alone)
  obtain ⟨holds, payload⟩ := stands.holds.accounted accounted.agree
  refine ⟨buf', done, ?_⟩
  have count : item.numMerged + 1 ≤ outBufs := by
    rwa [GroItem.views, Flow.length_cut, List.length_drop, stands.holds.count] at enough
  have emitted := holds.emits accounted.header count
  rwa [payload] at emitted

end Item

/-! ### The accounting of all items -/

theorem applyCoalesceAccounting_eq (offset : Nat) (tcpItems : List TcpGroItem)
    (udpItems : List UdpGroItem) (bufs : List Buffer) : (do
      let bufs ← applyTcpCoalesceAccounting offset tcpItems bufs
      applyUdpCoalesceAccounting offset udpItems bufs)
        = (tcpItems.map GroItem.tcp ++ udpItems.map GroItem.udp).foldlM
          (accountItem offset) bufs := by
  rw [List.foldlM_append]
  simp only [List.foldlM_map]
  rfl

/-- **The accounting of items with buffers of their own**, where the accounting of each of them
makes of its buffer what it should. -/
theorem account_spec {offset : Nat} {good : GroItem → Buffer → Prop} :
    ∀ {items : List GroItem} {bufs : List Buffer},
      (items.map GroItem.bufsIndex).Nodup →
      (∀ item ∈ items, ∃ buf, bufs[item.bufsIndex]? = some buf
        ∧ ∀ bufs : List Buffer, bufs[item.bufsIndex]? = some buf → ∃ buf',
          accountItem offset bufs item = .ok (bufs.set item.bufsIndex buf') ∧ good item buf') →
      ∃ bufs', items.foldlM (accountItem offset) bufs = .ok bufs'
        ∧ (∀ index, (∀ item ∈ items, item.bufsIndex ≠ index) → bufs'[index]? = bufs[index]?)
        ∧ ∀ item ∈ items, ∃ buf', bufs'[item.bufsIndex]? = some buf' ∧ good item buf'
  | [], bufs, _, _ => ⟨bufs, rfl, fun _ _ => rfl, nofun⟩
  | item :: items, bufs, distinct, each => by
      obtain ⟨fresh, distinct'⟩ := List.nodup_cons.mp distinct
      obtain ⟨buf, present, turn⟩ := each item List.mem_cons_self
      obtain ⟨buf', done, made⟩ := turn bufs present
      have apart : ∀ other ∈ items, item.bufsIndex ≠ other.bufsIndex := fun other among same =>
        fresh (List.mem_map.mpr ⟨other, among, same.symm⟩)
      have inside : item.bufsIndex < bufs.length := (List.getElem?_eq_some_iff.mp present).1
      obtain ⟨bufs', rest, kept, others⟩ := @account_spec offset good items
        (bufs.set item.bufsIndex buf') distinct' fun other among => by
          obtain ⟨buf, present, turn⟩ := each other (List.mem_cons_of_mem _ among)
          refine ⟨buf, ?_, turn⟩
          rw [List.getElem?_set_ne (apart other among), present]
      refine ⟨bufs', ?_, fun index free => ?_, fun other among => ?_⟩
      · rw [List.foldlM_cons, done]
        exact rest
      · rw [kept index fun other among => free other (List.mem_cons_of_mem _ among),
          List.getElem?_set_ne (free item List.mem_cons_self)]
      · obtain rfl | later := List.mem_cons.mp among
        · refine ⟨buf', ?_, made⟩
          rw [kept _ fun another inside => (apart another inside).symm,
            List.getElem?_set_self inside]
        · exact others other later

end RsTun.Gso
