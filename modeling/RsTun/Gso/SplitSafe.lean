/-
**When the split of a GSO packet panics.**

`gso_split` compares `csum_start + csum_offset` and `hdr_len` with the packet, and `csum_start` with
`hdr_len`; for TCP it also asks for 20 bytes behind `csum_start`. Everything else is written where
the fields of the virtio header point to. Each stage of a turn either panics or returns bytes that
are given here without any check, so that the checks of a turn add up to one condition.

* `guarded_gsoSegment` — one turn: `segmentBytes` if the turn fits, or else a panic.
* `segmentLoop_safe_iff` — the loop panics exactly when one of its turns does.
* **`gsoSplit_safe_iff`** — the split returns or fails without a panic **exactly** when `SplitSafe`.
* `udp_split_panics` — a UDP header that has no room for its length.
-/

import RsTun.Gso.Segments

namespace RsTun.Gso

open Library Library.Bytes Library.OnesComplement

/-! ### The bytes of a segment -/

/-- What `segmentIpHeader` writes. -/
def ipHeaderBytes (options : GsoOptions) (ipVersion : UInt8) (i totalLen : Nat) (out : Bytes) :
    Bytes :=
  let iphLen := options.csumStart.toNat
  if ipVersion = 4 then
    let out := if 0 < i then overwrite out 4 (encode 2 (be16 out 4 + i % 65536)) else out
    let out := overwrite out 10 [0, 0]
    let out := overwrite out 2 (encode 2 totalLen)
    overwrite out 10 (encode 2 (complement (foldCarries (0 + wordSum (out.take iphLen)))))
  else overwrite out 4 (encode 2 (totalLen - iphLen))

/-- What `segmentTransportHeader` writes. -/
def transportHeaderBytes (options : GsoOptions) (plan : SegmentPlan) (i dataLen : Nat)
    (last : Bool) (out : Bytes) : Bytes :=
  let csumStart := options.csumStart.toNat
  if plan.protocol = 6 then
    let out := overwrite out (csumStart + 4)
      (encode 4 (plan.firstTcpSeqNum + options.gsoSize.toNat * (i % 2 ^ 32)))
    if last then out
    else
      overwrite out (csumStart + tcpFlagsOffset)
        [byteAt out (csumStart + tcpFlagsOffset) &&& ~~~(tcpFlagFin ||| tcpFlagPsh)]
  else
    overwrite out (csumStart + 4)
      (encode 2 (dataLen % 65536 + (options.hdrLen.toNat - csumStart)))

/-! ### The stages -/

section Stages

variable {options : GsoOptions} {plan : SegmentPlan} {i totalLen dataLen : Nat} {out : Bytes}

theorem guarded_checksum (data : Bytes) (initial : Nat) :
    Checked.Guarded (checksum data initial) (initial + wordSum data < 2 ^ 32)
      (foldCarries (initial + wordSum data)) := by
  refine Checked.Guarded.congr ?_ (and_iff_left trivial)
  exact (Checked.guarded_inBits 32 _).bind fun _ => .of_ok rfl

theorem length_overwrite_word {data word : Bytes} {start : Nat} (two : word.length = 2)
    (inside : start + 2 ≤ data.length) : (overwrite data start word).length = data.length :=
  length_overwrite (by rwa [two])

/-- The IP header fits in this many bytes. -/
def ipHeaderRoom (ipVersion : UInt8) : Nat := if ipVersion = 4 then 12 else 6

/-- The length and the checksum of an IPv4 header. -/
theorem guarded_ipv4Sum {named : Bytes} (inside : options.csumStart.toNat ≤ named.length) :
    Checked.Guarded (do
      let out ← Checked.copyFromSlice named 10 12 [0, 0]
      let out ← Checked.copyFromSlice out 2 4 (encode 2 totalLen)
      let ipCsum ← checksum (← Checked.range out 0 options.csumStart.toNat) 0
      Checked.copyFromSlice out 10 12 (encode 2 (complement ipCsum)) : Checked GsoError Bytes)
      (12 ≤ named.length)
      (overwrite (overwrite (overwrite named 10 [0, 0]) 2 (encode 2 totalLen)) 10
        (encode 2 (complement (foldCarries (0 + wordSum ((overwrite (overwrite named 10 [0, 0]) 2
          (encode 2 totalLen)).take options.csumStart.toNat)))))) := by
  have small := options.csumStart.toNat_lt
  have clear : Checked.Guarded (Checked.copyFromSlice named 10 12 [0, 0] : Checked GsoError Bytes)
      (12 ≤ named.length) (overwrite named 10 [0, 0]) :=
    Checked.guarded_copyFromSlice rfl
  refine (clear.bind fun room => ?_).congr (and_iff_left trivial)
  have cleared : (overwrite named 10 [0, 0]).length = named.length :=
    length_overwrite_word rfl room
  have sized : (overwrite (overwrite named 10 [0, 0]) 2 (encode 2 totalLen)).length
      = named.length := by
    rw [length_overwrite_word (length_encode 2 totalLen) (by omega), cleared]
  refine .bind_ok (Checked.copyFromSlice_eq_ok (by rw [length_encode]) (by omega)) ?_
  refine .bind_ok (Checked.range_eq_ok (Nat.zero_le _) (by omega)) ?_
  rw [Nat.sub_zero, slice_zero]
  refine .bind_ok (checksum_eq_ok (by rw [List.length_take]; omega) (by norm_num)) ?_
  exact .of_ok (Checked.copyFromSlice_eq_ok (by rw [length_encode]) (by omega))

/-- **The IP header of a segment** needs room for its fixed fields, and nothing else. -/
theorem guarded_segmentIpHeader (inside : options.csumStart.toNat ≤ out.length) :
    Checked.Guarded (segmentIpHeader options plan i totalLen out)
      (ipHeaderRoom plan.ipVersion ≤ out.length)
      (ipHeaderBytes options plan.ipVersion i totalLen out) := by
  unfold segmentIpHeader ipHeaderBytes ipHeaderRoom
  by_cases four : plan.ipVersion = 4
  · rw [if_pos four, if_pos four, if_pos four]
    dsimp only
    by_cases first : 0 < i
    · rw [if_pos first, if_pos first]
      refine .congr ((Checked.guarded_readU16 4).bind fun _ =>
        (Checked.guarded_copyFromSlice (by rw [length_encode])).bind fun six =>
          guarded_ipv4Sum ?_) ?_
      · rwa [length_overwrite_word (length_encode 2 _) six]
      · constructor
        · rintro ⟨-, six, room⟩
          rwa [length_overwrite_word (length_encode 2 _) six] at room
        · intro room
          refine ⟨by omega, by omega, ?_⟩
          rwa [length_overwrite_word (length_encode 2 _) (by omega)]
    · rw [if_neg first, if_neg first]
      exact guarded_ipv4Sum inside
  · rw [if_neg four, if_neg four, if_neg four]
    exact Checked.guarded_copyFromSlice (by rw [length_encode])

theorem length_ipHeaderBytes {ipVersion : UInt8} (room : ipHeaderRoom ipVersion ≤ out.length) :
    (ipHeaderBytes options ipVersion i totalLen out).length = out.length := by
  unfold ipHeaderRoom at room
  unfold ipHeaderBytes
  dsimp only
  by_cases four : ipVersion = 4
  · rw [if_pos four] at room
    rw [if_pos four]
    have named : (if 0 < i then overwrite out 4 (encode 2 (be16 out 4 + i % 65536)) else out).length
        = out.length := by
      split
      · exact length_overwrite_word (length_encode 2 _) (by omega)
      · rfl
    have cleared := @length_overwrite_word _ [0, 0] 10 rfl (named.symm ▸ room)
    have sized := @length_overwrite_word _ _ 2 (length_encode 2 totalLen)
      (cleared.trans named |>.symm ▸ Nat.le_trans (by omega) room)
    have whole := (sized.trans cleared).trans named
    rw [length_overwrite_word (length_encode 2 _) (whole.symm ▸ room), whole]
  · rw [if_neg four] at room
    rw [if_neg four]
    exact length_overwrite_word (length_encode 2 _) room

/-- What the transport header of segment `i` needs, within `length` bytes. -/
def TransportFits (options : GsoOptions) (protocol : UInt8) (i dataLen : Nat) (last : Bool)
    (length : Nat) : Prop :=
  if protocol = 6 then
    options.gsoSize.toNat * (i % 2 ^ 32) < 2 ^ 32 ∧ options.csumStart.toNat + 8 ≤ length
      ∧ (last = false → options.csumStart.toNat + tcpFlagsOffset + 1 ≤ length)
  else
    dataLen % 65536 + (options.hdrLen.toNat - options.csumStart.toNat) < 65536
      ∧ options.csumStart.toNat + 6 ≤ length

/-- **The transport header of a segment.** -/
theorem guarded_segmentTransportHeader (last : Bool) :
    Checked.Guarded (segmentTransportHeader options plan i dataLen last out)
      (TransportFits options plan.protocol i dataLen last out.length)
      (transportHeaderBytes options plan i dataLen last out) := by
  unfold segmentTransportHeader transportHeaderBytes TransportFits
  by_cases tcp : plan.protocol = 6
  · rw [if_pos tcp, if_pos tcp, if_pos tcp]
    dsimp only
    refine (Checked.guarded_inBits 32 _).bind fun _ => ?_
    refine (Checked.guarded_copyFromSlice (by rw [length_encode])).bind fun inside => ?_
    have numbered := @length_overwrite out (encode 4 (plan.firstTcpSeqNum
      + options.gsoSize.toNat * (i % 2 ^ 32))) (options.csumStart.toNat + 4)
      (by rw [length_encode]; exact inside)
    cases last with
    | true => exact (Checked.Guarded.of_ok rfl).congr (iff_of_true trivial nofun)
    | false =>
        simp only [Bool.false_eq_true, if_false]
        refine ((Checked.guarded_index _).bind fun _ =>
          Checked.guarded_copyFromSlice (by rfl)).congr ?_
        rw [numbered]
        exact ⟨fun held _ => held.2, fun held => ⟨held trivial, held trivial⟩⟩
  · rw [if_neg tcp, if_neg tcp, if_neg tcp]
    exact (Checked.guarded_inBits 16 _).bind fun _ =>
      Checked.guarded_copyFromSlice (by rw [length_encode])

theorem length_transportHeaderBytes {last : Bool}
    (fits : TransportFits options plan.protocol i dataLen last out.length) :
    (transportHeaderBytes options plan i dataLen last out).length = out.length := by
  unfold TransportFits at fits
  unfold transportHeaderBytes
  dsimp only
  by_cases tcp : plan.protocol = 6
  · rw [if_pos tcp] at fits
    rw [if_pos tcp]
    have numbered := @length_overwrite out (encode 4 (plan.firstTcpSeqNum
      + options.gsoSize.toNat * (i % 2 ^ 32))) (options.csumStart.toNat + 4)
      (by rw [length_encode]; exact fits.2.1)
    cases last with
    | true => exact numbered
    | false => exact (length_overwrite (by rw [numbered]; exact fits.2.2 rfl)).trans numbered
  · rw [if_neg tcp] at fits
    rw [if_neg tcp]
    exact length_overwrite_word (length_encode 2 _) fits.2

end Stages

/-! ### One turn of the loop -/

section Turn

variable (input : Bytes) (options : GsoOptions) (plan : SegmentPlan) (i next : Nat)

/-- The length of the segment whose data start at `next`. -/
def segmentTotal : Nat := options.hdrLen.toNat + segmentDataLen input options next

/-- The segment whose data start at `next`, with its checksum field cleared. -/
def clearedSegment : Bytes :=
  let dataLen := segmentDataLen input options next
  let last := min (next + options.gsoSize.toNat) input.length == input.length
  let out := segmentStart input options dataLen
  let out := ipHeaderBytes options plan.ipVersion i (segmentTotal input options next) out
  let out := transportHeaderBytes options plan i dataLen last out
  let out := overwrite out options.hdrLen.toNat (slice input next dataLen)
  overwrite out (options.csumStart.toNat + options.csumOffset.toNat) [0, 0]

/-- The sum that the transport checksum is taken of. -/
def segmentSum : Nat :=
  checksumCombine plan.pseudoSumBase
      (options.hdrLen.toNat - options.csumStart.toNat + segmentDataLen input options next)
    + wordSum ((clearedSegment input options plan i next).drop options.csumStart.toNat)

/-- What a turn of the segment loop returns. -/
def segmentBytes : Bytes :=
  overwrite (clearedSegment input options plan i next)
    (options.csumStart.toNat + options.csumOffset.toNat)
    (encode 2 (complement (foldCarries (segmentSum input options plan i next))))

/-- **What a turn needs**: room for the fields that it writes, and sums that fit. -/
structure SegmentFits (ipVersion protocol : UInt8) (i next : Nat) : Prop where
  ipHeader : ipHeaderRoom ipVersion ≤ segmentTotal input options next
  transport : TransportFits options protocol i (segmentDataLen input options next)
    (min (next + options.gsoSize.toNat) input.length == input.length)
    (segmentTotal input options next)
  csumField : options.csumStart.toNat + options.csumOffset.toNat + 2
    ≤ segmentTotal input options next
  length : options.hdrLen.toNat - options.csumStart.toNat + segmentDataLen input options next
    < 65536

variable {input options plan i next}

theorem segmentDataLen_le (begun : next ≤ input.length) :
    next + segmentDataLen input options next ≤ input.length := by
  unfold segmentDataLen
  omega

theorem segmentDataLen_lt : segmentDataLen input options next < 65536 := by
  have small := options.gsoSize.toNat_lt
  unfold segmentDataLen
  omega

theorem length_start (header : options.hdrLen.toNat ≤ input.length) :
    (segmentStart input options (segmentDataLen input options next)).length
      = segmentTotal input options next := by
  unfold segmentStart
  rw [length_overwrite, List.length_replicate]
  · rfl
  · rw [List.length_replicate, List.length_take_of_le header]
    omega

/-- The data and the checksum of a segment, whose headers are `out`. -/
theorem guarded_segmentTail {out : Bytes} (sized : out.length = segmentTotal input options next)
    (ordered : options.csumStart.toNat ≤ options.hdrLen.toNat) (begun : next ≤ input.length) :
    Checked.Guarded (do
      let out ← Checked.copyFromSlice out options.hdrLen.toNat
        (options.hdrLen.toNat + segmentDataLen input options next)
        (← Checked.range input next (min (next + options.gsoSize.toNat) input.length))
      let out ← Checked.copyFromSlice out (options.csumStart.toNat + options.csumOffset.toNat)
        (options.csumStart.toNat + options.csumOffset.toNat + 2) [0, 0]
      let lenForPseudo ← Checked.inBits 16
        (options.hdrLen.toNat - options.csumStart.toNat + segmentDataLen input options next)
      let transportCsum ← checksum (← Checked.range out options.csumStart.toNat
        (options.hdrLen.toNat + segmentDataLen input options next))
        (checksumCombine plan.pseudoSumBase lenForPseudo)
      Checked.copyFromSlice out (options.csumStart.toNat + options.csumOffset.toNat)
        (options.csumStart.toNat + options.csumOffset.toNat + 2)
        (encode 2 (complement transportCsum)) : Checked GsoError Bytes)
      (options.csumStart.toNat + options.csumOffset.toNat + 2 ≤ segmentTotal input options next
        ∧ options.hdrLen.toNat - options.csumStart.toNat + segmentDataLen input options next
          < 65536)
      (let cleared := overwrite (overwrite out options.hdrLen.toNat
          (slice input next (segmentDataLen input options next)))
        (options.csumStart.toNat + options.csumOffset.toNat) [0, 0]
      overwrite cleared (options.csumStart.toNat + options.csumOffset.toNat)
        (encode 2 (complement (foldCarries (checksumCombine plan.pseudoSumBase
          (options.hdrLen.toNat - options.csumStart.toNat + segmentDataLen input options next)
          + wordSum (cleared.drop options.csumStart.toNat)))))) := by
  have total : segmentTotal input options next
      = options.hdrLen.toNat + segmentDataLen input options next := rfl
  have stop := @segmentDataLen_le input options next begun
  have data : (slice input next (segmentDataLen input options next)).length
      = segmentDataLen input options next := length_slice stop
  have ended : min (next + options.gsoSize.toNat) input.length
      = next + segmentDataLen input options next := by
    unfold segmentDataLen
    omega
  rw [ended]
  refine .bind_ok (Checked.range_eq_ok (Nat.le_add_right _ _) stop) ?_
  rw [Nat.add_sub_cancel_left]
  refine .bind_ok (Checked.copyFromSlice_eq_ok (by rw [data]) (by omega)) ?_
  have filled : (overwrite out options.hdrLen.toNat
      (slice input next (segmentDataLen input options next))).length
      = segmentTotal input options next := by
    rw [length_overwrite, sized]
    omega
  generalize overwrite out options.hdrLen.toNat
    (slice input next (segmentDataLen input options next)) = out at filled ⊢
  have clear : Checked.Guarded (Checked.copyFromSlice out
      (options.csumStart.toNat + options.csumOffset.toNat)
      (options.csumStart.toNat + options.csumOffset.toNat + 2) [0, 0] : Checked GsoError Bytes)
      (options.csumStart.toNat + options.csumOffset.toNat + 2 ≤ out.length)
      (overwrite out (options.csumStart.toNat + options.csumOffset.toNat) [0, 0]) :=
    Checked.guarded_copyFromSlice rfl
  rw [← filled]
  refine clear.bind fun field => ?_
  have cleared := @length_overwrite_word out [0, 0] _ rfl field
  refine ((Checked.guarded_inBits 16 _).bind fun fits => ?_).congr (and_iff_left trivial)
  refine .bind_ok (Checked.range_eq_ok (by omega) (by omega)) ?_
  have whole : slice (overwrite out (options.csumStart.toNat + options.csumOffset.toNat) [0, 0])
      options.csumStart.toNat (options.hdrLen.toNat + segmentDataLen input options next
        - options.csumStart.toNat)
      = (overwrite out (options.csumStart.toNat + options.csumOffset.toNat) [0, 0]).drop
        options.csumStart.toNat :=
    List.take_of_length_le (by rw [List.length_drop]; omega)
  rw [whole]
  refine .bind_ok (checksum_eq_ok (by rw [List.length_drop]; omega) (foldCarries_lt _)) ?_
  exact .of_ok (Checked.copyFromSlice_eq_ok (by rw [length_encode]) (by omega))

/-- **The exact outcome of a turn.** -/
theorem guarded_gsoSegment (header : options.hdrLen.toNat ≤ input.length)
    (ordered : options.csumStart.toNat ≤ options.hdrLen.toNat) (begun : next ≤ input.length) :
    Checked.Guarded (gsoSegment input options plan i next)
      (SegmentFits input options plan.ipVersion plan.protocol i next)
      (segmentBytes input options plan i next) := by
  have started := @length_start input options next header
  have folded : min (next + options.gsoSize.toNat) input.length - next
      = segmentDataLen input options next := rfl
  have copied : (input.take options.hdrLen.toNat).length = options.hdrLen.toNat :=
    List.length_take_of_le header
  unfold gsoSegment
  dsimp only
  rw [folded, Nat.mod_eq_of_lt segmentDataLen_lt]
  refine .bind_ok (Checked.range_eq_ok (Nat.zero_le _) header) ?_
  refine .bind_ok (@Checked.copyFromSlice_eq_ok _ _ (input.take options.hdrLen.toNat) _ _
    (by omega) (by rw [List.length_replicate]; omega)) ?_
  have ip := @guarded_segmentIpHeader options plan i (segmentTotal input options next)
    (segmentStart input options (segmentDataLen input options next))
    (by rw [started]; exact Nat.le_trans ordered (Nat.le_add_right _ _))
  rw [started] at ip
  refine (ip.bind fun ipRoom => (guarded_segmentTransportHeader _).bind fun transportRoom =>
    guarded_segmentTail ?_ ordered begun).congr ?_
  · rw [length_transportHeaderBytes transportRoom, length_ipHeaderBytes (started ▸ ipRoom), started]
  · constructor
    · rintro ⟨ipRoom, transport, field, length⟩
      rw [length_ipHeaderBytes (started ▸ ipRoom), started] at transport
      exact ⟨ipRoom, transport, field, length⟩
    · rintro ⟨ipRoom, transport, field, length⟩
      refine ⟨ipRoom, ?_, field, length⟩
      rwa [length_ipHeaderBytes (started ▸ ipRoom), started]

end Turn

/-! ### The loop -/

section Loop

variable {input : Bytes} {options : GsoOptions} {plan : SegmentPlan}

/-- **The loop panics** exactly when one of the turns that it comes to does. -/
theorem segmentLoop_safe_iff (header : options.hdrLen.toNat ≤ input.length)
    (ordered : options.csumStart.toNat ≤ options.hdrLen.toNat) :
    ∀ {buffers i next : Nat},
      segmentLoop input options plan buffers i next ≠ .error .panicked
        ↔ ∀ turn < buffers, next + turn * options.gsoSize.toNat < input.length →
          SegmentFits input options plan.ipVersion plan.protocol (i + turn)
            (next + turn * options.gsoSize.toNat)
  | 0, i, next => by
      refine iff_of_true (fun panics => ?_) fun turn none => absurd none (Nat.not_lt_zero turn)
      unfold segmentLoop at panics
      split at panics <;> cases panics
  | buffers + 1, i, next => by
      have later := @segmentLoop_safe_iff header ordered buffers (i + 1)
        (next + options.gsoSize.toNat)
      unfold segmentLoop
      by_cases more : next < input.length
      · have turn := @guarded_gsoSegment input options plan i next header ordered
          (Nat.le_of_lt more)
        have shifted : ∀ turn, next + options.gsoSize.toNat + turn * options.gsoSize.toNat
            = next + (turn + 1) * options.gsoSize.toNat := by
          intro turn
          rw [Nat.succ_mul]
          omega
        have counted : ∀ turn, i + 1 + turn = i + (turn + 1) := fun turn => by omega
        simp only [shifted, counted] at later
        rw [if_pos more, Nat.forall_lt_succ_left, Nat.zero_mul, Nat.add_zero, Nat.add_zero]
        by_cases fits : SegmentFits input options plan.ipVersion plan.protocol i next
        · show Except.bind (gsoSegment input options plan i next) _ ≠ _ ↔ _
          rw [turn.returns fits]
          refine (not_congr Checked.bind_pure_panics_iff).trans (later.trans ?_)
          exact (and_iff_right fun _ => fits).symm
        · show Except.bind (gsoSegment input options plan i next) _ ≠ _ ↔ _
          rw [turn.panics fits]
          exact iff_of_false (fun safe => safe rfl) fun all => fits (all.1 more)
      · rw [if_neg more]
        refine iff_of_true (fun panics => ?_) fun turn _ inside => absurd inside (by omega)
        cases panics

end Loop

/-! ### The split -/

section Split

variable (input : Bytes) (options : GsoOptions) (outBufs : Nat)

/-- The split comes to the segment loop, but for the addresses. -/
structure Segmented : Prop where
  csumField : options.csumStart.toNat + options.csumOffset.toNat + 1 < input.length
  header : options.hdrLen.toNat ≤ input.length
  typed : options.gsoType ≠ .none
  payload : options.gsoSize.toNat ≤ input.length - options.hdrLen.toNat
  ordered : options.csumStart.toNat ≤ options.hdrLen.toNat
  tcpHeader : options.gsoType ≠ .udpL4 → options.csumStart.toNat + 20 ≤ input.length

/-- The split completes the checksum of the whole packet. -/
structure Completed : Prop where
  csumField : options.csumStart.toNat + options.csumOffset.toNat + 1 < input.length
  header : options.hdrLen.toNat ≤ input.length
  whole : options.gsoType = .none ∨ input.length - options.hdrLen.toNat < options.gsoSize.toNat
  needed : options.needsCsum = true
  buffer : 0 < outBufs

/-- The sum that the checksum of the whole packet is taken of: what the field held, and the packet
from `csum_start` on with the field cleared. -/
def completedSum : Nat :=
  be16 input (options.csumStart.toNat + options.csumOffset.toNat)
    + wordSum ((overwrite input (options.csumStart.toNat + options.csumOffset.toNat) [0, 0]).drop
      options.csumStart.toNat)

/-- The packet that is not segmented, with its checksum completed if that is needed. -/
def completedPacket : Bytes :=
  let csumAt := options.csumStart.toNat + options.csumOffset.toNat
  if options.needsCsum then
    overwrite (overwrite input csumAt [0, 0]) csumAt
      (encode 2 (complement (foldCarries (completedSum input options))))
  else input

/-- **When the split is safe**: the sum over a whole packet fits 32 bits; and before a packet is
segmented, the addresses are in it, and every segment that there is a buffer for fits. -/
structure SplitSafe : Prop where
  completed : Completed input options outBufs → completedSum input options < 2 ^ 32
  segmented : Segmented input options →
    (if byteAt input 0 >>> 4 = 4 then 20 else 40) ≤ input.length
      ∧ ∀ i < outBufs, options.hdrLen.toNat + i * options.gsoSize.toNat < input.length →
        SegmentFits input options (byteAt input 0 >>> 4) (protocolOf options) i
          (options.hdrLen.toNat + i * options.gsoSize.toNat)

variable {input options outBufs}

/-- The packet that is not segmented. -/
theorem guarded_gsoSingle
    (csumField : options.csumStart.toNat + options.csumOffset.toNat + 1 < input.length) :
    Checked.Guarded (gsoSingle input options)
      (options.needsCsum = true → completedSum input options < 2 ^ 32)
      (completedPacket input options) := by
  unfold gsoSingle completedPacket
  dsimp only
  cases options.needsCsum with
  | false => exact (Checked.Guarded.of_ok rfl).congr (iff_of_true trivial nofun)
  | true =>
      simp only [if_true, forall_true_left]
      have cleared := @length_overwrite_word input [0, 0]
        (options.csumStart.toNat + options.csumOffset.toNat) rfl csumField
      refine .bind_ok (Checked.readU16_eq_ok csumField) ?_
      refine .bind_ok (Checked.copyFromSlice_eq_ok (by rfl) csumField) ?_
      refine .bind_ok (Checked.range_eq_ok (by omega) (Nat.le_refl _)) ?_
      have whole : slice (overwrite input (options.csumStart.toNat + options.csumOffset.toNat)
          [0, 0]) options.csumStart.toNat ((overwrite input (options.csumStart.toNat
            + options.csumOffset.toNat) [0, 0]).length - options.csumStart.toNat)
          = (overwrite input (options.csumStart.toNat + options.csumOffset.toNat) [0, 0]).drop
            options.csumStart.toNat :=
        List.take_of_length_le (by rw [List.length_drop])
      rw [whole]
      exact ((guarded_checksum _ _).bind fun _ => .of_ok (Checked.copyFromSlice_eq_ok
        (by rw [length_encode]) (by omega))).congr (and_iff_left trivial)

/-- The sequence number of a TCP packet that is long enough, or none. -/
theorem firstTcpSeqNum_eq_ok
    (tcpHeader : options.gsoType ≠ .udpL4 → options.csumStart.toNat + 20 ≤ input.length) :
    ∃ seq, firstTcpSeqNum input options (protocolOf options) = .ok seq := by
  unfold firstTcpSeqNum protocolOf
  dsimp only
  by_cases udp : options.gsoType = .udpL4
  · rw [if_pos udp]
    exact ⟨0, rfl⟩
  · rw [if_neg udp, if_pos rfl, if_neg (Nat.not_lt.mpr (tcpHeader udp))]
    exact ⟨_, rfl⟩

/-- A TCP packet that is too short is an error. -/
theorem firstTcpSeqNum_fails (tcp : options.gsoType ≠ .udpL4)
    (short : input.length < options.csumStart.toNat + 20) :
    firstTcpSeqNum input options (protocolOf options) = Checked.fail .tooShortForTcpHeader := by
  unfold firstTcpSeqNum protocolOf
  dsimp only
  rw [if_neg tcp, if_pos rfl, if_pos short]

/-- The split that comes to the segment loop reads both addresses first. -/
theorem addressedLoop_safe_iff {srcOff addrLen seq : Nat} (segmented : Segmented input options)
    (numbered : firstTcpSeqNum input options (protocolOf options) = .ok seq) :
    (do
      let firstTcpSeqNum ← firstTcpSeqNum input options (protocolOf options)
      let pseudoSumBase := pseudoHeaderChecksum (protocolOf options)
        (← Checked.range input srcOff (srcOff + addrLen))
        (← Checked.range input (srcOff + addrLen) (srcOff + addrLen * 2)) 0
      segmentLoop input options
        ⟨byteAt input 0 >>> 4, protocolOf options, firstTcpSeqNum, pseudoSumBase⟩ outBufs 0
        options.hdrLen.toNat : Checked GsoError (List Bytes)) ≠ .error .panicked
      ↔ srcOff + addrLen * 2 ≤ input.length
        ∧ ∀ i < outBufs, options.hdrLen.toNat + i * options.gsoSize.toNat < input.length →
          SegmentFits input options (byteAt input 0 >>> 4) (protocolOf options) i
            (options.hdrLen.toNat + i * options.gsoSize.toNat) := by
  rw [numbered]
  by_cases inside : srcOff + addrLen * 2 ≤ input.length
  · rw [Checked.range_eq_ok (Nat.le_add_right _ _) (by omega),
      Checked.range_eq_ok (by omega) inside]
    refine (segmentLoop_safe_iff segmented.header segmented.ordered).trans ?_
    rw [and_iff_right inside]
    simp only [Nat.zero_add]
  · refine iff_of_false (fun safe => safe ?_) fun both => inside both.1
    show Except.bind (Checked.range input srcOff (srcOff + addrLen)) _ = _
    by_cases near : srcOff + addrLen ≤ input.length
    · rw [Checked.range_eq_ok (Nat.le_add_right _ _) near]
      show Except.bind (Checked.range input (srcOff + addrLen) _) _ = _
      rw [(Checked.guarded_range (by omega)).panics inside]
      rfl
    · rw [(Checked.guarded_range (Nat.le_add_right _ _)).panics near]
      rfl

/-- **The split is safe** exactly when `SplitSafe`: when the sum over a packet that is not segmented
fits 32 bits, and when a packet that is segmented holds both addresses and each of its segments has
room for the fields that are written into it. -/
theorem gsoSplit_safe_iff (input : Bytes) (options : GsoOptions) (outBufs : Nat) :
    gsoSplit input options outBufs ≠ .error .panicked ↔ SplitSafe input options outBufs := by
  unfold gsoSplit
  dsimp only
  by_cases csumField : input.length ≤ options.csumStart.toNat + options.csumOffset.toNat + 1
  · rw [if_pos csumField]
    exact iff_of_true nofun ⟨fun completed => absurd completed.csumField (by omega),
      fun segmented => absurd segmented.csumField (by omega)⟩
  rw [if_neg csumField]
  by_cases header : input.length < options.hdrLen.toNat
  · rw [if_pos header]
    exact iff_of_true nofun ⟨fun completed => absurd completed.header (by omega),
      fun segmented => absurd segmented.header (by omega)⟩
  rw [if_neg header]
  by_cases whole : options.gsoType = .none
      ∨ input.length - options.hdrLen.toNat < options.gsoSize.toNat
  · rw [if_pos whole]
    have unsegmented : ¬ Segmented input options := fun segmented =>
      whole.elim segmented.typed fun short => absurd segmented.payload (by omega)
    by_cases none : outBufs = 0
    · rw [if_pos none]
      exact iff_of_true nofun ⟨fun completed => absurd completed.buffer (by omega),
        fun segmented => absurd segmented unsegmented⟩
    · rw [if_neg none]
      have single := @guarded_gsoSingle input options (by omega)
      refine (not_congr (Checked.bind_pure_panics_iff.trans single.panics_iff)).trans ?_
      rw [not_not]
      exact ⟨fun sum => ⟨fun completed => sum completed.needed,
          fun segmented => absurd segmented unsegmented⟩,
        fun safe needed => safe.completed
          ⟨by omega, by omega, whole, needed, Nat.pos_of_ne_zero none⟩⟩
  rw [if_neg whole]
  obtain ⟨typed, -⟩ := not_or.mp whole
  have uncompleted : ¬ Completed input options outBufs := fun completed => whole completed.whole
  by_cases ordered : options.hdrLen < options.csumStart
  · rw [if_pos ordered]
    rw [UInt16.lt_iff_toNat_lt] at ordered
    exact iff_of_true nofun ⟨fun completed => absurd completed uncompleted,
      fun segmented => absurd segmented.ordered (by omega)⟩
  rw [if_neg ordered]
  rw [UInt16.lt_iff_toNat_lt] at ordered
  by_cases tcpHeader : options.gsoType ≠ .udpL4 → options.csumStart.toNat + 20 ≤ input.length
  · have segmented : Segmented input options :=
      ⟨by omega, by omega, typed, by omega, by omega, tcpHeader⟩
    obtain ⟨seq, numbered⟩ := firstTcpSeqNum_eq_ok tcpHeader
    have only : SplitSafe input options outBufs ↔ _ :=
      ⟨fun safe => safe.segmented segmented,
        fun addressed => ⟨fun completed => absurd completed uncompleted, fun _ => addressed⟩⟩
    rw [only]
    by_cases four : byteAt input 0 >>> 4 = 4
    · rw [if_pos four, if_pos four]
      exact addressedLoop_safe_iff segmented numbered
    · rw [if_neg four, if_neg four]
      exact addressedLoop_safe_iff segmented numbered
  · obtain ⟨tcp, short⟩ := Classical.not_imp.mp tcpHeader
    have failed := firstTcpSeqNum_fails tcp (Nat.not_le.mp short)
    have unsegmented : ¬ Segmented input options := fun segmented => tcpHeader segmented.tcpHeader
    refine iff_of_true ?_ ⟨fun completed => absurd completed uncompleted,
      fun segmented => absurd segmented unsegmented⟩
    by_cases four : byteAt input 0 >>> 4 = 4
    · rw [if_pos four]
      show Except.bind (firstTcpSeqNum input options (protocolOf options)) _ ≠ _
      rw [failed]
      exact nofun
    · rw [if_neg four]
      show Except.bind (firstTcpSeqNum input options (protocolOf options)) _ ≠ _
      rw [failed]
      exact nofun

end Split

/-- A virtio header of the given type: 20 bytes of headers, a checksum 6 bytes behind them, and
segments of two bytes. -/
def sampleVirtio (gsoType : UInt8) : Bytes := [1, gsoType, 20, 0, 2, 0, 20, 0, 6, 0]

/-- The split of a packet, from the ten bytes of its virtio header on. -/
def splitDecoded (virtio input : Bytes) (outBufs : Nat) : Checked GsoError (List Bytes) := do
  let hdr ← VirtioNetHdr.decode virtio
  let options ← hdr.toGsoOptions
  gsoSplit input options outBufs

/-- **A UDP segment without room for its length** makes the split panic; a TCP packet as short is an
error. -/
theorem udp_split_panics :
    splitDecoded (sampleVirtio virtioNetHdrGsoUdpL4) (0x45 :: List.replicate 29 0) 128
        = .error .panicked
      ∧ splitDecoded (sampleVirtio virtioNetHdrGsoTcpv4) (0x45 :: List.replicate 29 0) 128
        = Checked.fail .tooShortForTcpHeader := by
  constructor <;> decide +kernel

end RsTun.Gso
