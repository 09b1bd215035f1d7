/-
**The virtio header, and the split of a GSO packet into segments.**

`gsoSplit` returns the segments that `gso_split` leaves in the first of its output buffers; the
sizes that it stores are their lengths. Every slice, index and fixed-width sum of the source is
checked, so that a panic shows as `panicked`. A turn of the segment loop uses up one buffer, which
also ends the loop for a segment size of zero.

* `gsoSplit_cases` — how the split succeeds.
-/

import RsTun.Library.Checked
import RsTun.Library.OnesComplement

namespace RsTun.Gso

open Library Library.Bytes Library.OnesComplement

/-- `VIRTIO_NET_HDR_LEN`. -/
def virtioNetHdrLen : Nat := 10

/-- `IDEAL_BATCH_SIZE`. -/
def idealBatchSize : Nat := 128

/-- `VIRTIO_NET_HDR_F_NEEDS_CSUM`. -/
def virtioNetHdrFNeedsCsum : UInt8 := 1

/-- `VIRTIO_NET_HDR_GSO_NONE`. -/
def virtioNetHdrGsoNone : UInt8 := 0

/-- `VIRTIO_NET_HDR_GSO_TCPV4`. -/
def virtioNetHdrGsoTcpv4 : UInt8 := 1

/-- `VIRTIO_NET_HDR_GSO_TCPV6`. -/
def virtioNetHdrGsoTcpv6 : UInt8 := 3

/-- `VIRTIO_NET_HDR_GSO_UDP_L4`. -/
def virtioNetHdrGsoUdpL4 : UInt8 := 5

/-- `TCP_FLAGS_OFFSET`. -/
def tcpFlagsOffset : Nat := 13

/-- `TCP_FLAG_FIN`. -/
def tcpFlagFin : UInt8 := 0x01

/-- `TCP_FLAG_PSH`. -/
def tcpFlagPsh : UInt8 := 0x08

/-- The errors of the header and of the split. -/
inductive GsoError where
  | virtioNetHdrTooShort
  | unsupportedGsoType (other : UInt8)
  | checksumOffset
  | packetBelowHdrLen
  | noOutputBuffers
  | hdrLenBelowCsumStart
  | tooShortForTcpHeader
  | tooManySegments
  deriving DecidableEq

/-! ### The virtio header -/

/-- `VirtioNetHdr`. -/
structure VirtioNetHdr where
  flags : UInt8
  gsoType : UInt8
  hdrLen : UInt16
  gsoSize : UInt16
  csumStart : UInt16
  csumOffset : UInt16
  deriving DecidableEq

/-- `GsoType`. -/
inductive GsoType where
  | none
  | tcpV4
  | tcpV6
  | udpL4
  deriving DecidableEq

/-- `GsoOptions`. -/
structure GsoOptions where
  gsoType : GsoType
  hdrLen : UInt16
  csumStart : UInt16
  csumOffset : UInt16
  gsoSize : UInt16
  needsCsum : Bool
  deriving DecidableEq

namespace VirtioNetHdr

/-- `u16::from_le_bytes([b[start], b[start + 1]])`, the native order of a little-endian target. -/
def nativeU16 (b : Bytes) (start : Nat) : UInt16 :=
  .ofNat ((byteAt b start).toNat + (byteAt b (start + 1)).toNat * 256)

/-- `VirtioNetHdr::decode`. -/
def decode (b : Bytes) : Checked GsoError VirtioNetHdr :=
  if b.length < virtioNetHdrLen then Checked.fail .virtioNetHdrTooShort
  else .ok {
    flags := byteAt b 0
    gsoType := byteAt b 1
    hdrLen := nativeU16 b 2
    gsoSize := nativeU16 b 4
    csumStart := nativeU16 b 6
    csumOffset := nativeU16 b 8 }

/-- `is_gso`. -/
def isGso (hdr : VirtioNetHdr) : Bool := hdr.gsoType != virtioNetHdrGsoNone

/-- `needs_csum`. -/
def needsCsum (hdr : VirtioNetHdr) : Bool := hdr.flags &&& virtioNetHdrFNeedsCsum != 0

/-- The `gso_type` of `to_gso_options`. -/
def toGsoType (hdr : VirtioNetHdr) : Checked GsoError GsoType :=
  if hdr.gsoType = virtioNetHdrGsoNone then .ok .none
  else if hdr.gsoType = virtioNetHdrGsoTcpv4 then .ok .tcpV4
  else if hdr.gsoType = virtioNetHdrGsoTcpv6 then .ok .tcpV6
  else if hdr.gsoType = virtioNetHdrGsoUdpL4 then .ok .udpL4
  else Checked.fail (.unsupportedGsoType hdr.gsoType)

/-- `to_gso_options`. -/
def toGsoOptions (hdr : VirtioNetHdr) : Checked GsoError GsoOptions := do
  let gsoType ← hdr.toGsoType
  return {
    gsoType
    hdrLen := hdr.hdrLen
    csumStart := hdr.csumStart
    csumOffset := hdr.csumOffset
    gsoSize := hdr.gsoSize
    needsCsum := hdr.needsCsum }

end VirtioNetHdr

/-! ### Checksums -/

/-- `checksum`; its accumulator has 32 bits. -/
def checksum (data : Bytes) (initial : Nat) : Checked GsoError Nat := do
  let sum ← Checked.inBits 32 (initial + wordSum data)
  return foldCarries sum

/-- `checksum_combine`. -/
def checksumCombine (a b : Nat) : Nat := foldCarries (a + b)

/-- `pseudo_header_checksum`, which passes over an odd last byte of an address. -/
def pseudoHeaderChecksum (protocol : UInt8) (src dst : Bytes) (length : Nat) : Nat :=
  foldCarries (wordSum (src.take (src.length / 2 * 2)) + wordSum (dst.take (dst.length / 2 * 2))
    + protocol.toNat + length)

/-! ### The split -/

/-- The packet that is not segmented, with its checksum completed if the header asks for it. -/
def gsoSingle (input : Bytes) (options : GsoOptions) : Checked GsoError Bytes := do
  let csumStart := options.csumStart.toNat
  let csumAt := csumStart + options.csumOffset.toNat
  if options.needsCsum then
    let initial ← Checked.readU16 input csumAt
    let pkt ← Checked.copyFromSlice input csumAt (csumAt + 2) [0, 0]
    let cs ← checksum (← Checked.range pkt csumStart pkt.length) initial
    Checked.copyFromSlice pkt csumAt (csumAt + 2) (encode 2 (complement cs))
  else
    return input

/-- What the segment loop of `gso_split` does not change. -/
structure SegmentPlan where
  ipVersion : UInt8
  protocol : UInt8
  firstTcpSeqNum : Nat
  pseudoSumBase : Nat

/-- The IP header of segment `i`: identification, lengths and header checksum. -/
def segmentIpHeader (options : GsoOptions) (plan : SegmentPlan) (i totalLen : Nat) (out : Bytes) :
    Checked GsoError Bytes := do
  let iphLen := options.csumStart.toNat
  if plan.ipVersion = 4 then
    let out ← if 0 < i then do
        let id ← Checked.readU16 out 4
        Checked.copyFromSlice out 4 6 (encode 2 (id + i % 65536))
      else pure out
    let out ← Checked.copyFromSlice out 10 12 [0, 0]
    let out ← Checked.copyFromSlice out 2 4 (encode 2 totalLen)
    let ipCsum ← checksum (← Checked.range out 0 iphLen) 0
    Checked.copyFromSlice out 10 12 (encode 2 (complement ipCsum))
  else
    Checked.copyFromSlice out 4 6 (encode 2 (totalLen - iphLen))

/-- The transport header of segment `i`: the sequence number and flags of TCP, the length of UDP. -/
def segmentTransportHeader (options : GsoOptions) (plan : SegmentPlan) (i segmentDataLen : Nat)
    (last : Bool) (out : Bytes) : Checked GsoError Bytes := do
  let csumStart := options.csumStart.toNat
  if plan.protocol = 6 then
    let offset ← Checked.inBits 32 (options.gsoSize.toNat * (i % 2 ^ 32))
    let out ← Checked.copyFromSlice out (csumStart + 4) (csumStart + 8)
      (encode 4 (plan.firstTcpSeqNum + offset))
    if last then
      return out
    else
      let flags ← Checked.index out (csumStart + tcpFlagsOffset)
      Checked.copyFromSlice out (csumStart + tcpFlagsOffset) (csumStart + tcpFlagsOffset + 1)
        [flags &&& ~~~(tcpFlagFin ||| tcpFlagPsh)]
  else
    let udpLen ← Checked.inBits 16 (segmentDataLen % 65536 + (options.hdrLen.toNat - csumStart))
    Checked.copyFromSlice out (csumStart + 4) (csumStart + 6) (encode 2 udpLen)

/-- The body of the segment loop of `gso_split`. -/
def gsoSegment (input : Bytes) (options : GsoOptions) (plan : SegmentPlan)
    (i nextSegmentDataAt : Nat) : Checked GsoError Bytes := do
  let hdrLen := options.hdrLen.toNat
  let csumStart := options.csumStart.toNat
  let transportCsumAt := csumStart + options.csumOffset.toNat
  let nextSegmentEnd := min (nextSegmentDataAt + options.gsoSize.toNat) input.length
  let segmentDataLen := nextSegmentEnd - nextSegmentDataAt
  let totalLen := hdrLen + segmentDataLen
  let out ← Checked.copyFromSlice (List.replicate totalLen 0) 0 hdrLen
    (← Checked.range input 0 hdrLen)
  let out ← segmentIpHeader options plan i totalLen out
  let out ← segmentTransportHeader options plan i segmentDataLen
    (nextSegmentEnd == input.length) out
  let out ← Checked.copyFromSlice out hdrLen totalLen
    (← Checked.range input nextSegmentDataAt nextSegmentEnd)
  let out ← Checked.copyFromSlice out transportCsumAt (transportCsumAt + 2) [0, 0]
  let lenForPseudo ← Checked.inBits 16 (hdrLen - csumStart + segmentDataLen % 65536)
  let transportCsum := checksumCombine plan.pseudoSumBase lenForPseudo
  let transportCsum ← checksum (← Checked.range out csumStart totalLen) transportCsum
  Checked.copyFromSlice out transportCsumAt (transportCsumAt + 2)
    (encode 2 (complement transportCsum))

/-- The segment loop of `gso_split` with `buffers` output buffers left. -/
def segmentLoop (input : Bytes) (options : GsoOptions) (plan : SegmentPlan) :
    (buffers i nextSegmentDataAt : Nat) → Checked GsoError (List Bytes)
  | 0, _, nextSegmentDataAt =>
      if nextSegmentDataAt < input.length then Checked.fail .tooManySegments else .ok []
  | buffers + 1, i, nextSegmentDataAt =>
      if nextSegmentDataAt < input.length then do
        let segment ← gsoSegment input options plan i nextSegmentDataAt
        let rest ← segmentLoop input options plan buffers (i + 1)
          (nextSegmentDataAt + options.gsoSize.toNat)
        return segment :: rest
      else .ok []

/-- The sequence number of the first segment, for TCP. -/
def firstTcpSeqNum (input : Bytes) (options : GsoOptions) (protocol : UInt8) :
    Checked GsoError Nat :=
  let csumStart := options.csumStart.toNat
  if protocol = 6 then
    if input.length < csumStart + 20 then Checked.fail .tooShortForTcpHeader
    else .ok (value (slice input (csumStart + 4) 4))
  else .ok 0

/-- `gso_split`, with `outBufs` output buffers. -/
def gsoSplit (input : Bytes) (options : GsoOptions) (outBufs : Nat) :
    Checked GsoError (List Bytes) := do
  let csumAt := options.csumStart.toNat + options.csumOffset.toNat
  if input.length ≤ csumAt + 1 then Checked.fail .checksumOffset
  else if input.length < options.hdrLen.toNat then Checked.fail .packetBelowHdrLen
  else
    let payloadLen := input.length - options.hdrLen.toNat
    if options.gsoType = .none ∨ payloadLen < options.gsoSize.toNat then
      if outBufs = 0 then Checked.fail .noOutputBuffers
      else
        let pkt ← gsoSingle input options
        return [pkt]
    else if options.hdrLen < options.csumStart then Checked.fail .hdrLenBelowCsumStart
    else
      let ipVersion := byteAt input 0 >>> 4
      let (srcOff, addrLen) := if ipVersion = 4 then (12, 4) else (8, 16)
      let protocol : UInt8 := if options.gsoType = .udpL4 then 17 else 6
      let firstTcpSeqNum ← firstTcpSeqNum input options protocol
      let pseudoSumBase := pseudoHeaderChecksum protocol
        (← Checked.range input srcOff (srcOff + addrLen))
        (← Checked.range input (srcOff + addrLen) (srcOff + addrLen * 2)) 0
      segmentLoop input options ⟨ipVersion, protocol, firstTcpSeqNum, pseudoSumBase⟩ outBufs 0
        options.hdrLen.toNat

section SegmentLoop

variable {input : Bytes} {options : GsoOptions} {plan : SegmentPlan}

/-- A loop without buffers returns at the end of the input only. -/
theorem segmentLoop_zero {i nextSegmentDataAt : Nat} {segments : List Bytes}
    (done : segmentLoop input options plan 0 i nextSegmentDataAt = .ok segments) :
    input.length ≤ nextSegmentDataAt ∧ segments = [] := by
  unfold segmentLoop at done
  split at done
  · cases done
  · cases done
    exact ⟨by omega, rfl⟩

/-- **One turn of the loop**, unless it is at the end of the input. -/
theorem segmentLoop_succ {buffers i nextSegmentDataAt : Nat} {segments : List Bytes}
    (done : segmentLoop input options plan (buffers + 1) i nextSegmentDataAt = .ok segments) :
    input.length ≤ nextSegmentDataAt ∧ segments = []
      ∨ ∃ segment rest, nextSegmentDataAt < input.length
        ∧ gsoSegment input options plan i nextSegmentDataAt = .ok segment
        ∧ segmentLoop input options plan buffers (i + 1)
          (nextSegmentDataAt + options.gsoSize.toNat) = .ok rest
        ∧ segments = segment :: rest := by
  unfold segmentLoop at done
  split at done
  · obtain ⟨segment, turn, later⟩ := Checked.bind_eq_ok.mp done
    obtain ⟨rest, looped, same⟩ := Checked.bind_eq_ok.mp later
    cases same
    exact .inr ⟨segment, rest, ‹_›, turn, looped, rfl⟩
  · cases done
    exact .inl ⟨by omega, rfl⟩

/-- A loop that starts at the end of the input. -/
theorem segmentLoop_done {buffers i nextSegmentDataAt : Nat}
    (ended : input.length ≤ nextSegmentDataAt) :
    segmentLoop input options plan buffers i nextSegmentDataAt = .ok [] := by
  cases buffers with
  | zero => exact if_neg (Nat.not_lt.mpr ended)
  | succ buffers => exact if_neg (Nat.not_lt.mpr ended)

/-- A loop that does not run out of buffers reaches the end of the input. -/
theorem segmentLoop_reaches : ∀ {buffers i nextSegmentDataAt : Nat} {segments : List Bytes},
    segmentLoop input options plan buffers i nextSegmentDataAt = .ok segments →
    input.length ≤ nextSegmentDataAt + buffers * options.gsoSize.toNat
  | 0, _, nextSegmentDataAt, segments, done => by
      obtain ⟨ended, -⟩ := segmentLoop_zero done
      omega
  | buffers + 1, i, nextSegmentDataAt, segments, done => by
      obtain ⟨ended, -⟩ | ⟨segment, rest, -, -, looped, -⟩ := segmentLoop_succ done
      · omega
      · have reached := segmentLoop_reaches looped
        rw [Nat.succ_mul]
        omega

end SegmentLoop

/-- **How the split succeeds**: with the packet as it is, or with what the loop returns. -/
theorem gsoSplit_cases {input : Bytes} {options : GsoOptions} {outBufs : Nat}
    {segments : List Bytes} (done : gsoSplit input options outBufs = .ok segments) :
    options.csumStart.toNat + options.csumOffset.toNat + 1 < input.length
      ∧ options.hdrLen.toNat ≤ input.length
      ∧ ((options.gsoType = .none
            ∨ input.length - options.hdrLen.toNat < options.gsoSize.toNat)
          ∧ 0 < outBufs ∧ (∃ pkt, gsoSingle input options = .ok pkt ∧ segments = [pkt])
        ∨ (options.gsoType ≠ .none
            ∧ options.gsoSize.toNat ≤ input.length - options.hdrLen.toNat)
          ∧ ∃ plan, segmentLoop input options plan outBufs 0 options.hdrLen.toNat
            = .ok segments) := by
  unfold gsoSplit at done
  dsimp only at done
  split at done
  · cases done
  · split at done
    · cases done
    · refine ⟨by omega, by omega, ?_⟩
      split at done
      · rename_i single
        split at done
        · cases done
        · obtain ⟨pkt, alone, same⟩ := Checked.bind_eq_ok.mp done
          cases same
          exact Or.inl ⟨single, Nat.pos_of_ne_zero ‹_›, pkt, alone, rfl⟩
      · rename_i several
        rw [not_or, Nat.not_lt] at several
        split at done
        · cases done
        · obtain ⟨_, -, later⟩ := Checked.bind_eq_ok.mp done
          obtain ⟨_, -, later'⟩ := Checked.bind_eq_ok.mp later
          obtain ⟨_, -, looped⟩ := Checked.bind_eq_ok.mp later'
          exact Or.inr ⟨several, _, looped⟩

end RsTun.Gso
