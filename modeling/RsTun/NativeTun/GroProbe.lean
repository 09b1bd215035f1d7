/-
**The probe for GRO, and packets that go together.**

`probe_tcp_gro` writes two segments that `tcp_packets_can_coalesce` takes together. Batch writes
merge neither them nor any other packets.

* `probe_continues` — the second segment of the probe continues the first, whatever the address is.
* **`batch_write_never_merges`** — no two packets of a batch that go together are written as one,
  and the segments of the probe are not.
* `probe_written_apart` — the probe without an address.
-/

import RsTun.NativeTun.BatchWrite
import RsTun.Net.Addr

namespace RsTun.NativeTun

open Library Library.Bytes Library.OnesComplement Gso

/-! ### The probe -/

/-- `disable_tcp`. -/
def disableTcp (gro : GroDisablementFlags) : GroDisablementFlags := ⟨gro.flags ||| 1⟩

/-- `disable_udp`. -/
def disableUdp (gro : GroDisablementFlags) : GroDisablementFlags := ⟨gro.flags ||| 2⟩

/-- The bytes of `reflex-probe-tun-gro`. -/
def fingerprint : Bytes :=
  [0x72, 0x65, 0x66, 0x6c, 0x65, 0x78, 0x2d, 0x70, 0x72, 0x6f, 0x62, 0x65, 0x2d, 0x74, 0x75, 0x6e,
    0x2d, 0x67, 0x72, 0x6f]

/-- Segment `i` of the probe without its checksums. -/
def probeDraft (octets : Bytes) (i : Nat) : Bytes :=
  let pkt := List.replicate (20 + 20 + fingerprint.length) 0
  let pkt := overwrite pkt 0 [0x45]
  let pkt := overwrite pkt 2 (encode 2 (20 + 20 + fingerprint.length))
  let pkt := overwrite pkt 4 (encode 2 (0x5154 + i))
  let pkt := overwrite pkt 6 [0x40]
  let pkt := overwrite pkt 8 [0]
  let pkt := overwrite pkt 9 [6]
  let pkt := overwrite pkt 12 octets
  let pkt := overwrite pkt 16 octets
  let pkt := overwrite pkt 20 (encode 2 0)
  let pkt := overwrite pkt 22 (encode 2 0)
  let pkt := overwrite pkt 24 (encode 4 (1 + i * fingerprint.length))
  let pkt := overwrite pkt 28 (encode 4 1)
  let pkt := overwrite pkt 32 [0x50]
  let pkt := overwrite pkt 33 [0x10]
  let pkt := overwrite pkt 34 (encode 2 3000)
  overwrite pkt 40 fingerprint

/-- Segment `i` of the probe. -/
def probeSegment (octets : Bytes) (i : Nat) : Checked GroError Bytes := do
  let pkt := probeDraft octets i
  let psum := pseudoHeaderChecksum 6 octets octets (20 + fingerprint.length)
  let sum ← groChecksum (pkt.drop 20) psum
  let pkt := overwrite pkt (20 + 16) (encode 2 (complement sum))
  let ipSum ← groChecksum (pkt.take 20) 0
  return overwrite pkt 10 (encode 2 (complement ipSum))

/-- `probe_addr.unwrap_or(127.0.0.1)`. -/
def probeAddress (probeAddr : Option Ipv4Addr) : Ipv4Addr :=
  probeAddr.getD (.new 127 0 0 1)

/-- `build_gro_probe_segments`. -/
def buildGroProbeSegments (probeAddr : Option Ipv4Addr) : Checked GroError (List Bytes) := do
  let octets := (probeAddress probeAddr).bytes
  let first ← probeSegment octets 0
  let second ← probeSegment octets 1
  return [first, second]

/-- `probe_tcp_gro`, with the flags that it leaves. -/
def probeTcpGro (vnetHdr : Bool) (gro : GroDisablementFlags)
    (tcpOrder : MapOrder (List TcpGroItem)) (udpOrder : MapOrder (List UdpGroItem))
    (device : Device) (probeAddr : Option Ipv4Addr) :
    Checked GroError (BatchWriteEnd × GroDisablementFlags) := do
  let segments ← buildGroProbeSegments probeAddr
  let stop ← doBatchWrite vnetHdr gro tcpOrder udpOrder device segments
  match stop.result with
  | .ok _ => return (stop, gro)
  | .error _ => return (stop, disableUdp (disableTcp gro))

/-! ### Packets that go together -/

/-- **The packet `q` continues the flow of `p`**: both are candidates, `tcp_packets_can_coalesce`
takes `q` behind or in front of the item of `p`, both checksums are right, and together they are no
longer than a packet can be. -/
structure Continues (gro : GroDisablementFlags) (isV6 : Bool) (p q : Bytes) (item new : TcpGroItem)
    (can : CanCoalesce) : Prop where
  candidate : packetIsGroCandidate p gro = .ok (if isV6 then .tcp6 else .tcp4)
  candidate' : packetIsGroCandidate q gro = .ok (if isV6 then .tcp6 else .tcp4)
  itemRead : tcpGroItem p 0 isV6 = .ok (some item)
  newRead : tcpGroItem q 1 isV6 = .ok (some new)
  key : item.key = new.key
  answer : tcpPacketsCanCoalesce q new.iphLen new.tcphLen new.sentSeq new.pshSet new.gsoSize item
    [packetBuffer p, packetBuffer q] virtioNetHdrLen = .ok can
  available : can ≠ .unavailable
  itemValid : checksumValid p item.iphLen 6 isV6 = .ok true
  pktValid : checksumValid q item.iphLen 6 isV6 = .ok true
  small : p.length + (q.length - (item.iphLen + item.tcphLen)) ≤ 65535

/-- A write with a virtio header that asks for segmentation. -/
def IsGsoWrite (write : Bytes) : Prop :=
  ∃ hdr, VirtioNetHdr.decode (write.take virtioNetHdrLen) = .ok hdr ∧ hdr.isGso = true

/-- **Two payloads are written as one**: a GSO packet holds them, one behind the other. -/
def WrittenAsOne (writes : List Bytes) (payload payload' : Bytes) : Prop :=
  ∃ write ∈ writes, IsGsoWrite write
    ∧ (payload ++ payload' <:+: write ∨ payload' ++ payload <:+: write)

/-- A frame does not ask for segmentation. -/
theorem not_isGsoWrite_frame (p : Bytes) : ¬ IsGsoWrite (LinuxTunWriter.frame p) := by
  rintro ⟨hdr, decoded, isGso⟩
  have header : (LinuxTunWriter.frame p).take virtioNetHdrLen
      = List.replicate virtioNetHdrLen 0 := List.take_left' List.length_replicate
  have zero : VirtioNetHdr.decode (List.replicate virtioNetHdrLen 0) = .ok .default := rfl
  rw [header, zero] at decoded
  cases decoded
  cases isGso

/-- Frames are not GSO packets. -/
theorem not_writtenAsOne {writes packets : List Bytes}
    (frames : writes <+: packets.map LinuxTunWriter.frame) (payload payload' : Bytes) :
    ¬ WrittenAsOne writes payload payload' := by
  rintro ⟨write, among, isGso, -⟩
  obtain ⟨p, -, rfl⟩ := List.mem_map.mp (frames.subset among)
  exact not_isGsoWrite_frame p isGso


/-! ### The segments of the probe -/

theorem exists_octets : ∀ {octets : Bytes}, octets.length = 4 → ∃ a b c d, octets = [a, b, c, d]
  | [a, b, c, d], _ => ⟨a, b, c, d, rfl⟩

/-- A segment of the probe, byte by byte. -/
def probeBytes (octets : Bytes) (id seq : UInt8) (ipSum sum : Bytes) : Bytes :=
  [0x45, 0, 0, 60, 0x51, id, 0x40, 0, 0, 6] ++ ipSum ++ octets ++ octets
    ++ [0, 0, 0, 0, 0, 0, 0, seq, 0, 0, 0, 1, 0x50, 0x10, 0x0b, 0xb8] ++ sum ++ [0, 0]
    ++ fingerprint

/-- What the tests read of a segment. -/
structure IsProbe (octets : Bytes) (seq : Nat) (pkt : Bytes) : Prop where
  length : pkt.length = 60
  version : byteAt pkt 0 = 0x45
  service : byteAt pkt 1 = 0
  totalLength : be16 pkt 2 = 60
  flags : byteAt pkt 6 = 0x40
  fragment : byteAt pkt 7 = 0
  ttl : byteAt pkt 8 = 0
  protocol : byteAt pkt 9 = 6
  source : slice pkt 12 4 = octets
  destination : slice pkt 16 4 = octets
  ports : be16 pkt 20 = 0 ∧ be16 pkt 22 = 0
  seq : value (slice pkt 24 4) = seq
  ack : value (slice pkt 28 4) = 1
  dataOffset : byteAt pkt 32 = 0x50
  tcpFlags : byteAt pkt 33 = 0x10
  verifies : Verifies (pseudoHeaderChecksum 6 octets octets 40 + wordSum (pkt.drop 20))

/-- The draft of a segment, and its checksums. -/
theorem probeSegment_of_draft {a b c d id seq : UInt8} {i number : Nat}
    (draft : probeDraft [a, b, c, d] i = probeBytes [a, b, c, d] id seq [0, 0] [0, 0])
    (counted : seq.toNat = number) :
    ∃ pkt, probeSegment [a, b, c, d] i = .ok pkt ∧ IsProbe [a, b, c, d] number pkt := by
  have pseudo := pseudoHeaderChecksum_lt 6 [a, b, c, d] [a, b, c, d] 40
  have forty : 20 + fingerprint.length = 40 := rfl
  have size : ((probeBytes [a, b, c, d] id seq [0, 0] [0, 0]).drop 20).length = 40 := rfl
  -- the words that are stored in the two fields
  have stored : ∀ sum, ∃ x y, encode 2 (complement sum) = [x, y] := fun sum => ⟨_, _, rfl⟩
  have verified := @verifies_overwrite_of_cleared
    ((probeBytes [a, b, c, d] id seq [0, 0] [0, 0]).drop 20) 16
    (pseudoHeaderChecksum 6 [a, b, c, d] [a, b, c, d] 40) rfl (by rw [size]; decide) rfl
  unfold probeSegment
  dsimp only
  rw [draft, forty, groChecksum_eq_ok (by rw [size]; decide) pseudo]
  dsimp only [bind, Except.bind]
  generalize foldCarries (pseudoHeaderChecksum _ _ _ _ + wordSum _) = sum at verified ⊢
  obtain ⟨x, y, word⟩ := stored sum
  rw [word] at verified ⊢
  have summed : overwrite (probeBytes [a, b, c, d] id seq [0, 0] [0, 0]) (20 + 16) [x, y]
      = probeBytes [a, b, c, d] id seq [0, 0] [x, y] := rfl
  have header : ((probeBytes [a, b, c, d] id seq [0, 0] [x, y]).take 20).length = 20 := rfl
  rw [summed, groChecksum_eq_ok (by rw [header]; decide) (by decide)]
  dsimp only
  generalize foldCarries _ = ipSum
  obtain ⟨s, t, word'⟩ := stored ipSum
  have done : overwrite (probeBytes [a, b, c, d] id seq [0, 0] [x, y]) 10 [s, t]
      = probeBytes [a, b, c, d] id seq [s, t] [x, y] := rfl
  rw [word', done]
  exact ⟨_, rfl, {
    length := rfl
    version := rfl
    service := rfl
    totalLength := (by decide : value [0, 60] = 60)
    flags := rfl
    fragment := rfl
    ttl := rfl
    protocol := rfl
    source := rfl
    destination := rfl
    ports := ⟨(by decide : value [0, 0] = 0), (by decide : value [0, 0] = 0)⟩
    seq := by
      show value [0, 0, 0, seq] = _
      simp [value, counted]
    ack := (by decide : value [0, 0, 0, 1] = 1)
    dataOffset := rfl
    tcpFlags := rfl
    verifies := verified }⟩

/-- The item of a segment of the probe. -/
def probeItem (octets : Bytes) (seq k : Nat) : TcpGroItem where
  key := ⟨padAddr octets, padAddr octets, 0, 0, 1, false⟩
  sentSeq := seq
  bufsIndex := k
  numMerged := 0
  gsoSize := 20
  iphLen := 20
  tcphLen := 20
  pshSet := false

namespace IsProbe

variable {octets p q pkt : Bytes} {seq : Nat} {gro : GroDisablementFlags}

theorem groCandidate (probe : IsProbe octets seq pkt) : GroCandidate false 6 pkt where
  version := by
    rw [probe.version]
    decide
  plain := fun _ => by
    rw [probe.version]
    decide
  protocol := probe.protocol
  long := by
    rw [probe.length]
    decide

/-- A segment is a candidate as long as TCP is merged. -/
theorem isCandidate (probe : IsProbe octets seq pkt) (canTcp : gro.canTcp = true) :
    packetIsGroCandidate pkt gro = .ok .tcp4 := by
  have length := probe.length
  unfold packetIsGroCandidate
  rw [if_neg (by omega), Checked.index_eq_ok (by omega)]
  simp only [bind, Except.bind]
  rw [probe.version, if_pos (by decide), if_neg (by decide), Checked.index_eq_ok (by omega)]
  dsimp only
  rw [if_pos ⟨probe.protocol, by omega, canTcp⟩]
  rfl

/-- The item of a segment. -/
theorem item (probe : IsProbe octets seq pkt) (k : Nat) :
    tcpGroItem pkt k false = .ok (some (probeItem octets seq k)) := by
  have length := probe.length
  have header : tcpHeaderLen pkt 20 = 20 := by
    rw [tcpHeaderLen, probe.dataOffset]
    decide
  have key : (flowOf false (some (tcpFlowOf pkt 20)) pkt).tcpKey (value (slice pkt 28 4))
      = ⟨padAddr octets, padAddr octets, 0, 0, 1, false⟩ := by
    unfold Flow.tcpKey flowOf
    dsimp only
    rw [probe.ack]
    exact TcpFlowKey.mk.injEq .. ▸ ⟨congrArg padAddr probe.source,
      congrArg padAddr probe.destination, probe.ports.1, probe.ports.2, rfl, rfl⟩
  rw [tcpGroItem_segment probe.groCandidate k (probe.totalLength.trans length.symm) header
    (by omega) ⟨by rw [probe.flags]; decide, by rw [probe.flags]; decide, probe.fragment⟩
    probe.tcpFlags, key, probe.seq, length]
  rfl

/-- The checksum of a segment is right. -/
theorem valid (probe : IsProbe octets seq pkt) : checksumValid pkt 20 6 false = .ok true := by
  have length := probe.length
  have source : slice pkt 12 (12 + 4 - 12) = octets := probe.source
  have destination : slice pkt (12 + 4) (12 + 4 * 2 - (12 + 4)) = octets := probe.destination
  have rest : slice pkt 20 (pkt.length - 20) = pkt.drop 20 :=
    List.take_of_length_le (Nat.le_of_eq List.length_drop)
  have small : (pkt.drop 20).length ≤ 131068 := by
    rw [List.length_drop]
    omega
  unfold checksumValid
  dsimp only
  rw [if_neg Bool.false_ne_true, if_neg Bool.false_ne_true, if_neg (by omega),
    Checked.minus_eq_ok (by omega)]
  simp only [bind, Except.bind]
  rw [Checked.range_eq_ok (by omega) (by omega), source]
  dsimp only
  rw [Checked.range_eq_ok (by omega) (by omega), destination]
  dsimp only
  rw [Checked.range_eq_ok (by omega) (Nat.le_refl _), rest]
  dsimp only
  rw [groChecksum_eq_ok small (pseudoHeaderChecksum_lt _ _ _ _), length]
  dsimp only
  rw [complement_foldCarries_eq_zero_iff.mpr probe.verifies]
  rfl

/-- The IP headers of two segments can be merged. -/
theorem sameHeaders {seq' : Nat} (first : IsProbe octets seq p) (second : IsProbe octets seq' q) :
    ipHeadersCanCoalesce q p = .ok true := by
  have length := first.length
  have length' := second.length
  unfold ipHeadersCanCoalesce
  rw [if_neg (by omega), Checked.index_eq_ok (by omega)]
  simp only [bind, Except.bind]
  rw [second.version, if_neg (by decide), Checked.index_eq_ok (by omega)]
  dsimp only
  rw [Checked.index_eq_ok (by omega)]
  dsimp only
  rw [Checked.index_eq_ok (by omega)]
  dsimp only
  rw [Checked.index_eq_ok (by omega)]
  dsimp only
  rw [Checked.index_eq_ok (by omega)]
  dsimp only
  rw [Checked.index_eq_ok (by omega)]
  dsimp only
  rw [first.service, first.flags, first.ttl, second.service, second.flags, second.ttl]
  rfl

/-- **The second segment goes behind the first.** -/
theorem answers_append (first : IsProbe octets 1 p) (second : IsProbe octets 21 q) :
    tcpPacketsCanCoalesce q 20 20 21 false 20 (probeItem octets 1 0)
      [packetBuffer p, packetBuffer q] virtioNetHdrLen = .ok .append := by
  have length := first.length
  have target : (packetBuffer p).packet virtioNetHdrLen = p := by
    rw [packetBuffer_eq]
    exact LinuxTunWriter.frame_drop p
  have present : [packetBuffer p, packetBuffer q][(probeItem octets 1 0).bufsIndex]?
      = some (packetBuffer p) := rfl
  have sized : ¬ 20 ≠ (probeItem octets 1 0).tcphLen := not_not.mpr rfl
  have options : optionsDiffer q p 20 20 (probeItem octets 1 0).iphLen = .ok false := rfl
  have merged : Checked.inBits 32
      ((probeItem octets 1 0).numMerged * (probeItem octets 1 0).gsoSize)
      = (.ok 0 : Checked GroError Nat) := Checked.inBits_eq_ok (show 0 * 20 < 2 ^ 32 by decide)
  have lhsLen : Checked.inBits 32 ((probeItem octets 1 0).gsoSize + 0)
      = (.ok 20 : Checked GroError Nat) := Checked.inBits_eq_ok (show 20 + 0 < 2 ^ 32 by decide)
  have behind : 21 = ((probeItem octets 1 0).sentSeq + 20) % 2 ^ 32 := by
    show 21 = (1 + 20) % 2 ^ 32
    decide
  have quiet : ¬ (probeItem octets 1 0).pshSet = true := Bool.false_ne_true
  have multiple : ¬ (60 - 20 - 20) % (probeItem octets 1 0).gsoSize ≠ 0 := by
    show ¬ (60 - 20 - 20) % 20 ≠ 0
    decide
  have notLonger : ¬ (probeItem octets 1 0).gsoSize < 20 := Nat.lt_irrefl 20
  unfold tcpPacketsCanCoalesce
  rw [Checked.entry_eq_ok present]
  simp only [bind, Except.bind]
  rw [Buffer.range_packet (packetBuffer_full p).long, target]
  dsimp only
  rw [if_neg sized, options]
  dsimp only
  rw [if_neg Bool.false_ne_true, first.sameHeaders second]
  dsimp only
  rw [if_neg Bool.false_ne_true.symm, merged]
  dsimp only
  rw [lhsLen]
  dsimp only
  rw [if_pos behind, if_neg quiet, length, Checked.minus_eq_ok (by decide)]
  dsimp only
  rw [Checked.minus_eq_ok (by decide)]
  dsimp only
  rw [if_neg multiple, if_neg notLonger]
  rfl

/-- **Two segments of the probe go together.** -/
theorem continues (first : IsProbe octets 1 p) (second : IsProbe octets 21 q)
    (canTcp : gro.canTcp = true) :
    Continues gro false p q (probeItem octets 1 0) (probeItem octets 21 1) .append where
  candidate := first.isCandidate canTcp
  candidate' := second.isCandidate canTcp
  itemRead := first.item 0
  newRead := second.item 1
  key := rfl
  answer := first.answers_append second
  available := nofun
  itemValid := first.valid
  pktValid := second.valid
  small := by
    rw [first.length, second.length]
    show 60 + (60 - (20 + 20)) ≤ 65535
    decide

end IsProbe

/-- **The segments of the probe go together**, whatever the address is, as long as TCP is merged. -/
theorem probe_continues (probeAddr : Option Ipv4Addr) : ∃ first second,
    buildGroProbeSegments probeAddr = .ok [first, second]
      ∧ ∀ gro : GroDisablementFlags, gro.canTcp = true → ∃ item new,
        Continues gro false first second item new .append := by
  obtain ⟨a, b, c, d, octets⟩ := exists_octets (probeAddress probeAddr).length_eq
  have draft : probeDraft [a, b, c, d] 0 = probeBytes [a, b, c, d] 0x54 1 [0, 0] [0, 0] := by
    simp [probeDraft, overwrite, encode, fingerprint, List.replicate, probeBytes]
  have draft' : probeDraft [a, b, c, d] 1 = probeBytes [a, b, c, d] 0x55 21 [0, 0] [0, 0] := by
    simp [probeDraft, overwrite, encode, fingerprint, List.replicate, probeBytes]
  obtain ⟨first, built, probe⟩ := probeSegment_of_draft draft (by decide : _ = 1)
  obtain ⟨second, built', probe'⟩ := probeSegment_of_draft draft' (by decide : _ = 21)
  refine ⟨first, second, ?_, fun gro canTcp => ⟨_, _, probe.continues probe' canTcp⟩⟩
  unfold buildGroProbeSegments
  dsimp only
  rw [octets, built, built']
  rfl

/-! ### Nothing is merged -/

/-- **Batch writes never merge.** For every batch, device and order of the tables: two packets of
the batch, the second of which continues the first, are not written as one; and the segments of the
probe are not, whatever its address is, although the second continues the first. -/
theorem batch_write_never_merges (gro : GroDisablementFlags) (tcpOrder : MapOrder (List TcpGroItem))
    (udpOrder : MapOrder (List UdpGroItem)) (device : Device) :
    (∀ packets, ∃ stop, doBatchWrite true gro tcpOrder udpOrder device packets = .ok stop
      ∧ ∀ isV6 p q item new can, [p, q] <:+: packets → Continues gro isV6 p q item new can →
        ¬ WrittenAsOne stop.writes (p.drop (item.iphLen + item.tcphLen))
          (q.drop (item.iphLen + item.tcphLen)))
      ∧ ∀ probeAddr, ∃ stop gro' first second,
        probeTcpGro true gro tcpOrder udpOrder device probeAddr = .ok (stop, gro')
          ∧ buildGroProbeSegments probeAddr = .ok [first, second]
          ∧ (gro.canTcp = true → ∃ item new, Continues gro false first second item new .append)
          ∧ ¬ WrittenAsOne stop.writes (first.drop 40) (second.drop 40) := by
  constructor
  · intro packets
    obtain ⟨stop, done, frames, -⟩ := doBatchWrite_frames gro tcpOrder udpOrder device packets
    exact ⟨stop, done, fun _ _ _ _ _ _ _ _ => not_writtenAsOne frames _ _⟩
  · intro probeAddr
    obtain ⟨first, second, built, continues⟩ := probe_continues probeAddr
    obtain ⟨stop, done, frames, -⟩ :=
      doBatchWrite_frames gro tcpOrder udpOrder device [first, second]
    have probed : ∃ gro', probeTcpGro true gro tcpOrder udpOrder device probeAddr
        = .ok (stop, gro') := by
      unfold probeTcpGro
      rw [built]
      simp only [bind, Except.bind]
      rw [done]
      dsimp only
      split
      · exact ⟨_, rfl⟩
      · exact ⟨_, rfl⟩
    obtain ⟨gro', probed⟩ := probed
    exact ⟨stop, gro', first, second, probed, built, continues gro, not_writtenAsOne frames _ _⟩

/-- **The probe is written in two frames** to a device that takes everything. -/
theorem probe_written_apart : ∃ first second item new,
    buildGroProbeSegments none = .ok [first, second]
      ∧ Continues ⟨0⟩ false first second item new .append
      ∧ ∃ stop, doBatchWrite true ⟨0⟩ (.identity _) (.identity _) ⟨fun _ => true, true⟩
          [first, second] = .ok stop
        ∧ stop.writes = [LinuxTunWriter.frame first, LinuxTunWriter.frame second]
        ∧ ¬ WrittenAsOne stop.writes (first.drop 40) (second.drop 40) := by
  obtain ⟨first, second, built, continues⟩ := probe_continues none
  obtain ⟨item, new, together⟩ := continues ⟨0⟩ rfl
  obtain ⟨stop, done, frames, all⟩ := doBatchWrite_frames ⟨0⟩ (.identity _) (.identity _)
    ⟨fun _ => true, true⟩ [first, second]
  exact ⟨first, second, item, new, built, together, stop, done, all fun _ _ => rfl,
    not_writtenAsOne frames _ _⟩

end RsTun.NativeTun
