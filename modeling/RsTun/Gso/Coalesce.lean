/-
**The merging of one packet into the buffer of an item.**

An item stands for a buffer that holds packets of one flow. Whatever the tests find, no index or
slice is out of range; a packet that is merged is of the flow of the item, and the buffer then
stands for it as well.

* `tcpPacketsCanCoalesce_spec`, `udpPacketsCanCoalesce_spec` — where a packet can be merged.
* `coalesceTcpPackets_spec`, `coalesceUdpPackets_spec` — what the merging leaves behind.
-/

import RsTun.Gso.Candidates

namespace RsTun.Gso

open Library Library.Bytes Library.OnesComplement Packet

/-! ### Buffers -/

/-- The bytes of a header. -/
def VirtioNetHdr.bytes (hdr : VirtioNetHdr) : Bytes :=
  [hdr.flags, hdr.gsoType] ++ nativeBytes hdr.hdrLen ++ nativeBytes hdr.gsoSize
    ++ nativeBytes hdr.csumStart ++ nativeBytes hdr.csumOffset

theorem VirtioNetHdr.encode_eq_ok (hdr : VirtioNetHdr) {area : Bytes}
    (sized : area.length = virtioNetHdrLen) : hdr.encode area = .ok hdr.bytes := by
  have whole : overwrite area 0 hdr.bytes = hdr.bytes := overwrite_whole sized.symm
  unfold encode
  rw [if_neg (by omega)]
  exact congrArg _ whole

namespace Buffer

/-- The packet in a buffer. -/
def packet (offset : Nat) (buffer : Buffer) : Bytes := buffer.bytes.drop offset

/-- A buffer as it is handed over: room for a virtio header, which is zero, in front of the packet,
and no room for more than a packet of 65535 bytes. -/
structure Ready (offset : Nat) (buffer : Buffer) : Prop where
  room : virtioNetHdrLen ≤ offset
  long : offset ≤ buffer.bytes.length
  fits : buffer.bytes.length ≤ buffer.capacity
  bounded : buffer.capacity ≤ offset + 65535
  zeroed : slice buffer.bytes (offset - virtioNetHdrLen) virtioNetHdrLen
    = List.replicate virtioNetHdrLen 0

variable {offset : Nat} {buffer : Buffer}

theorem length_packet (offset : Nat) (buffer : Buffer) :
    (buffer.packet offset).length = buffer.bytes.length - offset := List.length_drop

theorem Ready.small (ready : buffer.Ready offset) : (buffer.packet offset).length ≤ 65535 := by
  have fits := ready.fits
  have bounded := ready.bounded
  rw [length_packet]
  omega

theorem range_packet (long : offset ≤ buffer.bytes.length) :
    Checked.range buffer.bytes offset buffer.bytes.length
      = (.ok (buffer.packet offset) : Checked GroError Bytes) := by
  rw [Checked.range_eq_ok long (Nat.le_refl _)]
  exact congrArg _ (List.take_of_length_le (by rw [List.length_drop]))

theorem Ready.range_eq_ok (ready : buffer.Ready offset) :
    Checked.range buffer.bytes offset buffer.bytes.length
      = (.ok (buffer.packet offset) : Checked GroError Bytes) := range_packet ready.long

/-- A buffer with room for a virtio header in front of its packet, whatever its capacity. -/
structure Placed (offset : Nat) (buffer : Buffer) : Prop where
  room : virtioNetHdrLen ≤ offset
  long : offset ≤ buffer.bytes.length
  fits : buffer.bytes.length ≤ buffer.capacity

theorem Ready.placed (ready : buffer.Ready offset) : buffer.Placed offset :=
  ⟨ready.room, ready.long, ready.fits⟩

theorem Placed.range_eq_ok (placed : buffer.Placed offset) :
    Checked.range buffer.bytes offset buffer.bytes.length
      = (.ok (buffer.packet offset) : Checked GroError Bytes) := range_packet placed.long

/-- **A virtio header** changes nothing but the bytes in front of the packet. -/
theorem Placed.writeHdr_spec (placed : buffer.Placed offset) (hdr : VirtioNetHdr) : ∃ bytes,
    writeHdr hdr buffer.bytes offset = .ok bytes ∧ bytes.length = buffer.bytes.length
      ∧ bytes.drop offset = buffer.packet offset
      ∧ slice bytes (offset - virtioNetHdrLen) virtioNetHdrLen = hdr.bytes := by
  have room := placed.room
  have long := placed.long
  have size : offset - (offset - virtioNetHdrLen) = virtioNetHdrLen := by omega
  have sized : hdr.bytes.length = virtioNetHdrLen := rfl
  have encoded := @VirtioNetHdr.encode_eq_ok hdr
    (slice buffer.bytes (offset - virtioNetHdrLen) virtioNetHdrLen) (length_slice (by omega))
  have fits : offset - virtioNetHdrLen + hdr.bytes.length ≤ buffer.bytes.length := by omega
  have written := @slice_overwrite_self buffer.bytes hdr.bytes (offset - virtioNetHdrLen) fits
  rw [sized] at written
  refine ⟨overwrite buffer.bytes (offset - virtioNetHdrLen) hdr.bytes, ?_, length_overwrite fits,
    drop_overwrite_of_le fits (by omega), written⟩
  unfold writeHdr
  rw [if_pos room, Checked.range_eq_ok (Nat.sub_le _ _) long, size]
  simp only [bind, Except.bind]
  rw [encoded]
  dsimp only
  rw [Checked.copyFromSlice_eq_ok (by omega) long]

/-- Zeros at the end, then bytes over them. -/
theorem copyFromSlice_resize (buffer : Buffer) (more : Bytes) :
    Checked.copyFromSlice (buffer.resize (buffer.bytes.length + more.length)).bytes
        buffer.bytes.length (buffer.bytes.length + more.length) more
      = (.ok (buffer.bytes ++ more) : Checked GroError Bytes) := by
  have grown : (buffer.resize (buffer.bytes.length + more.length)).bytes
      = buffer.bytes ++ List.replicate more.length 0 := by
    rw [resize, List.take_of_length_le (by omega), Nat.add_sub_cancel_left]
  rw [grown, Checked.copyFromSlice_eq_ok rfl (by rw [List.length_append, List.length_replicate])]
  refine congrArg _ ?_
  rw [overwrite, List.take_left' rfl, List.drop_of_length_le, List.append_nil]
  rw [List.length_append, List.length_replicate]

theorem capacity_resize {size : Nat} (fits : size ≤ buffer.capacity) :
    (buffer.resize size).capacity = buffer.capacity := Nat.max_eq_left fits

theorem extendBuffer_eq_ok {headLen : Nat} {more : Bytes}
    (sized : offset + headLen = buffer.bytes.length)
    (fits : buffer.bytes.length + more.length ≤ buffer.capacity) :
    extendBuffer buffer offset headLen more
      = .ok ⟨buffer.bytes ++ more, buffer.capacity⟩ := by
  unfold extendBuffer
  simp only [bind, Except.bind]
  rw [sized, copyFromSlice_resize]
  show Except.ok _ = _
  rw [capacity_resize fits]

/-- The buffer with a packet of another length, within its capacity. -/
structure Grown (offset : Nat) (buffer grown : Buffer) : Prop where
  capacity : grown.capacity = buffer.capacity
  fits : grown.bytes.length ≤ buffer.capacity
  front : grown.bytes.take offset = buffer.bytes.take offset

theorem Grown.trans {between grown : Buffer} (first : buffer.Grown offset between)
    (second : between.Grown offset grown) : buffer.Grown offset grown where
  capacity := second.capacity.trans first.capacity
  fits := by
    rw [← first.capacity]
    exact second.fits
  front := second.front.trans first.front

/-- Bytes behind the packet. -/
theorem grown_append (long : offset ≤ buffer.bytes.length) {more : Bytes}
    (fits : buffer.bytes.length + more.length ≤ buffer.capacity) :
    buffer.Grown offset ⟨buffer.bytes ++ more, buffer.capacity⟩ where
  capacity := rfl
  fits := by rwa [List.length_append]
  front := List.take_append_of_le_length long

/-- A change within the packet. -/
theorem Placed.touched (placed : buffer.Placed offset) {touched : Set Nat} {bytes : Bytes}
    (agree : AgreeOff touched buffer.bytes bytes) (late : ∀ index ∈ touched, offset ≤ index) :
    buffer.Grown offset ⟨bytes, buffer.capacity⟩ where
  capacity := rfl
  fits := by
    rw [agree.1]
    exact placed.fits
  front := agree.take_eq late

theorem Placed.grown (placed : buffer.Placed offset) {grown : Buffer}
    (grows : buffer.Grown offset grown) : grown.Placed offset where
  room := placed.room
  long := by
    have long := placed.long
    have front := congrArg List.length grows.front
    rw [List.length_take, List.length_take] at front
    omega
  fits := by
    rw [grows.capacity]
    exact grows.fits

theorem Ready.grown (ready : buffer.Ready offset) {grown : Buffer}
    (grows : buffer.Grown offset grown) : grown.Ready offset where
  room := ready.room
  long := (ready.placed.grown grows).long
  fits := (ready.placed.grown grows).fits
  bounded := by
    rw [grows.capacity]
    exact ready.bounded
  zeroed := by
    have room := ready.room
    rw [← @slice_take grown.bytes _ _ offset (by omega), grows.front, slice_take (by omega)]
    exact ready.zeroed

theorem packet_append (long : offset ≤ buffer.bytes.length) (more : Bytes) (capacity : Nat) :
    (⟨buffer.bytes ++ more, capacity⟩ : Buffer).packet offset = buffer.packet offset ++ more :=
  List.drop_append_of_le_length long

/-- The empty header, written where there are zeros already. -/
theorem writeHdr_zeros (room : virtioNetHdrLen ≤ offset) (long : offset ≤ buffer.bytes.length)
    (zeroed : slice buffer.bytes (offset - virtioNetHdrLen) virtioNetHdrLen
      = List.replicate virtioNetHdrLen 0) :
    writeHdr .default buffer.bytes offset = .ok buffer.bytes := by
  have encoded : VirtioNetHdr.default.encode (List.replicate virtioNetHdrLen 0)
      = .ok (List.replicate virtioNetHdrLen 0) := rfl
  have size : offset - (offset - virtioNetHdrLen) = virtioNetHdrLen := by omega
  unfold writeHdr
  rw [if_pos room, Checked.range_eq_ok (Nat.sub_le _ _) long, size, zeroed]
  simp only [bind, Except.bind]
  rw [encoded]
  dsimp only
  rw [Checked.copyFromSlice_eq_ok (by rw [List.length_replicate]; omega) long, ← zeroed,
    overwrite_slice_self (by omega)]

theorem Ready.writeHdr_default (ready : buffer.Ready offset) :
    writeHdr .default buffer.bytes offset = .ok buffer.bytes :=
  writeHdr_zeros ready.room ready.long ready.zeroed

end Buffer

/-! ### One flow -/

/-- The addresses, ports and family of flows whose keys agree. -/
theorem Flow.eq_of_ends {flow flow' : Flow} (family : flow.isV6 = flow'.isV6)
    (sized : flow.source.length = flow.addrLen ∧ flow.destination.length = flow.addrLen)
    (sized' : flow'.source.length = flow'.addrLen ∧ flow'.destination.length = flow'.addrLen)
    (source : padAddr flow.source = padAddr flow'.source)
    (destination : padAddr flow.destination = padAddr flow'.destination)
    (sourcePort : flow.sourcePort = flow'.sourcePort)
    (destinationPort : flow.destinationPort = flow'.destinationPort) (tcp : flow.tcp = flow'.tcp) :
    flow = flow' := by
  have long : flow.addrLen = flow'.addrLen := by
    rw [Flow.addrLen, Flow.addrLen, family]
  have one := padAddr_injective (by omega) source
  have other := padAddr_injective (by omega) destination
  cases flow
  cases flow'
  dsimp only at family one other sourcePort destinationPort tcp
  rw [family, one, other, sourcePort, destinationPort, tcp]

/-- The item stands for this buffer: it holds packets of the flow that the item describes. -/
structure TcpGroItem.Stands (item : TcpGroItem) (flow : Flow) (pkt : Bytes) : Prop
    extends item.Describes flow where
  holds : flow.Holds item.sentSeq item.gsoSize item.numMerged pkt

/-- The item stands for this buffer. -/
structure UdpGroItem.Stands (item : UdpGroItem) (flow : Flow) (pkt : Bytes) : Prop
    extends item.Describes flow where
  holds : flow.Holds 0 item.gsoSize item.numMerged pkt

/-- Two TCP items of one key whose packets have the same options. -/
theorem TcpGroItem.Stands.flow_eq {item item' : TcpGroItem} {flow flow' : Flow}
    {pkt pkt' : Bytes} (stands : item.Stands flow pkt) (stands' : item'.Stands flow' pkt')
    (keyed : item.key = item'.key)
    (options : ∀ tcp tcp', flow.tcp = some tcp → flow'.tcp = some tcp' →
      tcp.options = tcp'.options) : flow = flow' := by
  obtain ⟨tcp, isTcp, key, -⟩ := stands.tcp
  obtain ⟨tcp', isTcp', key', -⟩ := stands'.tcp
  have same := key.symm.trans (keyed.trans key')
  unfold Flow.tcpKey at same
  injection same with source destination sourcePort destinationPort ack family
  have carries := stands.holds.carries
  have carries' := stands'.holds.carries
  refine Flow.eq_of_ends family ⟨carries.length_source, carries.length_destination⟩
    ⟨carries'.length_source, carries'.length_destination⟩ source destination sourcePort
    destinationPort ?_
  have parts : tcp = tcp' := by
    have listed := options tcp tcp' isTcp isTcp'
    cases tcp
    cases tcp'
    dsimp only at ack listed
    rw [ack, listed]
  rw [isTcp, isTcp', parts]

/-- Two UDP items of one key. -/
theorem UdpGroItem.Stands.flow_eq {item item' : UdpGroItem} {flow flow' : Flow}
    {pkt pkt' : Bytes} (stands : item.Stands flow pkt) (stands' : item'.Stands flow' pkt')
    (keyed : item.key = item'.key) : flow = flow' := by
  have same := stands.key.symm.trans (keyed.trans stands'.key)
  unfold Flow.udpKey at same
  injection same with source destination sourcePort destinationPort family
  have carries := stands.holds.carries
  have carries' := stands'.holds.carries
  exact Flow.eq_of_ends family ⟨carries.length_source, carries.length_destination⟩
    ⟨carries'.length_source, carries'.length_destination⟩ source destination sourcePort
    destinationPort (stands.udp.trans stands'.udp.symm)

/-! ### What can be merged -/

theorem TcpGroItem.Stands.headers {item : TcpGroItem} {flow : Flow} {pkt : Bytes}
    (stands : item.Stands flow pkt) : item.iphLen + item.tcphLen = flow.headersLen := by
  obtain ⟨tcp, isTcp, -, sized⟩ := stands.tcp
  rw [stands.iphLen, sized, flow.headersLen_tcp isTcp]

theorem UdpGroItem.Stands.headers {item : UdpGroItem} {flow : Flow} {pkt : Bytes}
    (stands : item.Stands flow pkt) : item.iphLen + udpHdrLen = flow.headersLen := by
  rw [stands.iphLen, flow.headersLen_udp stands.udp]
  rfl

/-- The options of a TCP item, where its packet has them. -/
theorem TcpGroItem.Stands.slice_options {item : TcpGroItem} {flow : Flow} {pkt : Bytes}
    (stands : item.Stands flow pkt) {tcp : TcpFlow} (isTcp : flow.tcp = some tcp) :
    slice pkt (item.iphLen + 20) (item.tcphLen - 20) = tcp.options := by
  obtain ⟨tcp', isTcp', -, sized⟩ := stands.tcp
  cases isTcp.symm.trans isTcp'
  rw [stands.iphLen, sized, Nat.add_sub_cancel_left]
  exact stands.holds.carries.options tcp isTcp

section Tcp

variable {offset : Nat} {bufs : List Buffer} {buf : Buffer} {item new : TcpGroItem}
  {flow flow' : Flow} {pkt target : Bytes}

theorem optionsDiffer_spec (stands : item.Stands flow target) (fresh : new.Stands flow' pkt)
    (sized : new.tcphLen = item.tcphLen) : ∃ differ,
      optionsDiffer pkt target new.iphLen new.tcphLen item.iphLen = .ok differ
        ∧ (differ = false → ∀ tcp tcp', flow.tcp = some tcp → flow'.tcp = some tcp' →
          tcp.options = tcp'.options) := by
  have headers := stands.headers
  have headers' := fresh.headers
  have whole := stands.holds.carries.whole
  have whole' := fresh.holds.carries.whole
  unfold optionsDiffer
  by_cases some : 20 < new.tcphLen
  · rw [if_pos some, Checked.range_eq_ok (by omega) (by omega)]
    simp only [bind, Except.bind]
    rw [Checked.range_eq_ok (by omega) (by omega), Nat.add_sub_add_left, Nat.add_sub_add_left]
    refine ⟨_, rfl, fun equal tcp tcp' isTcp isTcp' => ?_⟩
    have same := bne_eq_false_iff_eq.mp equal
    rw [fresh.slice_options isTcp', sized, stands.slice_options isTcp] at same
    exact same.symm
  · rw [if_neg some]
    refine ⟨_, rfl, fun _ tcp tcp' isTcp isTcp' => ?_⟩
    have none : item.tcphLen - 20 = 0 := by omega
    rw [← stands.slice_options isTcp, ← fresh.slice_options isTcp', sized, none, slice, slice,
      List.take_zero, List.take_zero]

/-- A packet that can be merged is of the flow of the item, and what it carries comes right behind
or right in front of what the buffer holds. -/
structure TcpJoins (can : CanCoalesce) (new item : TcpGroItem) (flow flow' : Flow)
    (target : Bytes) : Prop where
  flow_eq : can ≠ .unavailable → flow = flow'
  behind : can = .append → (target.length - flow.headersLen) % item.gsoSize = 0
    ∧ new.gsoSize ≤ item.gsoSize
    ∧ new.sentSeq = (item.sentSeq + (item.numMerged + 1) * item.gsoSize) % 2 ^ 32
  inFront : can = .prepend → item.gsoSize ≤ new.gsoSize
    ∧ (item.gsoSize < new.gsoSize → item.numMerged = 0)
    ∧ (new.sentSeq + new.gsoSize) % 2 ^ 32 = item.sentSeq

theorem TcpJoins.unavailable {new item : TcpGroItem} {flow flow' : Flow} {target : Bytes} :
    TcpJoins .unavailable new item flow flow' target :=
  ⟨fun available => absurd rfl available, nofun, nofun⟩

/-- **Where a TCP packet can be merged.** -/
theorem tcpPacketsCanCoalesce_spec (present : bufs[item.bufsIndex]? = some buf)
    (placed : buf.Placed offset) (stands : item.Stands flow (buf.packet offset))
    (fresh : new.Stands flow' pkt) (keyed : item.key = new.key) : ∃ can,
      tcpPacketsCanCoalesce pkt new.iphLen new.tcphLen new.sentSeq new.pshSet new.gsoSize item bufs
          offset = .ok can
        ∧ TcpJoins can new item flow flow' (buf.packet offset) := by
  have headers := stands.headers
  have headers' := fresh.headers
  have whole := stands.holds.carries.whole
  have small := stands.holds.small
  have turns := stands.holds.numMerged_mul_lt
  have full := stands.holds.full
  unfold tcpPacketsCanCoalesce
  rw [Checked.entry_eq_ok present]
  simp only [bind, Except.bind]
  rw [placed.range_eq_ok]
  dsimp only
  by_cases sized : new.tcphLen ≠ item.tcphLen
  · rw [if_pos sized]
    exact ⟨_, rfl, .unavailable⟩
  obtain ⟨differ, compared, options⟩ := optionsDiffer_spec stands fresh (not_not.mp sized)
  rw [if_neg sized, compared]
  dsimp only
  by_cases different : differ = true
  · rw [if_pos different]
    exact ⟨_, rfl, .unavailable⟩
  have flows := stands.flow_eq fresh keyed (options (Bool.eq_false_of_not_eq_true different))
  obtain ⟨same, tested⟩ := ipHeadersCanCoalesce_eq_ok pkt (buf.packet offset)
  rw [if_neg different, tested]
  dsimp only
  by_cases apart : same = false
  · rw [if_pos apart]
    exact ⟨_, rfl, .unavailable⟩
  rw [if_neg apart, Checked.inBits_eq_ok (by omega)]
  dsimp only
  rw [Checked.inBits_eq_ok (by omega)]
  dsimp only
  have total : item.sentSeq + (item.gsoSize + item.numMerged * item.gsoSize)
      = item.sentSeq + (item.numMerged + 1) * item.gsoSize := by
    rw [Nat.succ_mul, Nat.add_comm item.gsoSize]
  have start : new.iphLen + item.tcphLen = flow.headersLen := by
    rw [fresh.iphLen, ← flows, ← stands.iphLen, headers]
  rw [total]
  by_cases behind : new.sentSeq
      = (item.sentSeq + (item.numMerged + 1) * item.gsoSize) % 2 ^ 32
  · rw [if_pos behind]
    split
    · exact ⟨_, rfl, .unavailable⟩
    rw [not_not.mp sized, Checked.minus_eq_ok (by omega)]
    dsimp only
    rw [Checked.minus_eq_ok (by omega), Nat.sub_sub, start]
    dsimp only
    split
    · exact ⟨_, rfl, .unavailable⟩
    rename_i multiple
    split
    · exact ⟨_, rfl, .unavailable⟩
    rename_i longer
    exact ⟨_, rfl, fun _ => flows, fun _ => ⟨not_not.mp multiple, Nat.le_of_not_lt longer, behind⟩,
      nofun⟩
  rw [if_neg behind]
  by_cases front : (new.sentSeq + new.gsoSize) % 2 ^ 32 = item.sentSeq
  · rw [if_pos front]
    split
    · exact ⟨_, rfl, .unavailable⟩
    split
    · exact ⟨_, rfl, .unavailable⟩
    rename_i shorter
    split
    · exact ⟨_, rfl, .unavailable⟩
    rename_i several
    refine ⟨_, rfl, fun _ => flows, nofun, fun _ => ⟨Nat.le_of_not_lt shorter, fun longer => ?_,
      front⟩⟩
    exact Nat.eq_zero_of_not_pos fun some => several ⟨longer, some⟩
  · rw [if_neg front]
    exact ⟨_, rfl, .unavailable⟩

end Tcp

/-- **Where a UDP packet can be merged.** -/
theorem udpPacketsCanCoalesce_spec {offset : Nat} {bufs : List Buffer} {buf : Buffer}
    {item new : UdpGroItem} {flow flow' : Flow} {pkt : Bytes}
    (present : bufs[item.bufsIndex]? = some buf) (placed : buf.Placed offset)
    (stands : item.Stands flow (buf.packet offset)) (fresh : new.Stands flow' pkt)
    (keyed : item.key = new.key) : ∃ can,
      udpPacketsCanCoalesce pkt new.iphLen new.gsoSize item bufs offset = .ok can
        ∧ (can = .append → ((buf.packet offset).length - flow.headersLen) % item.gsoSize = 0
          ∧ new.gsoSize ≤ item.gsoSize) := by
  have headers := stands.headers
  have whole := stands.holds.carries.whole
  have flows := stands.flow_eq fresh keyed
  unfold udpPacketsCanCoalesce
  rw [Checked.entry_eq_ok present]
  simp only [bind, Except.bind]
  rw [placed.range_eq_ok]
  dsimp only
  obtain ⟨same, tested⟩ := ipHeadersCanCoalesce_eq_ok pkt (buf.packet offset)
  rw [tested]
  dsimp only
  by_cases apart : same = false
  · rw [if_pos apart]
    exact ⟨_, rfl, nofun⟩
  have start : new.iphLen = item.iphLen := by
    rw [fresh.iphLen, ← flows, ← stands.iphLen]
  rw [if_neg apart, start, Checked.minus_eq_ok (by omega)]
  dsimp only
  rw [Checked.minus_eq_ok (by omega), Nat.sub_sub, headers]
  dsimp only
  split
  · exact ⟨_, rfl, nofun⟩
  rename_i multiple
  split
  · exact ⟨_, rfl, nofun⟩
  rename_i longer
  exact ⟨_, rfl, fun _ => ⟨not_not.mp multiple, Nat.le_of_not_lt longer⟩⟩

/-! ### Merging -/

/-- A merging that does not take place changes nothing; it finds a wrong checksum in the buffer of
the item only where that buffer holds one packet. -/
structure Refused (result : CoalesceResult) (numMerged : Nat) (bufs bufs' : List Buffer) :
    Prop where
  failed : result ≠ .success
  single : result = .itemInvalidCsum → numMerged = 0
  unchanged : bufs' = bufs

/-- The buffers after a merging: a new one at `place`, and any one at `spare`. -/
structure Regrouped (offset place spare : Nat) (merged : Buffer) (bufs bufs' : List Buffer) :
    Prop where
  count : bufs'.length = bufs.length
  found : bufs'[place]? = some merged
  mergedReady : merged.Ready offset
  others : ∀ index, index ≠ place → index ≠ spare → bufs'[index]? = bufs[index]?
  ready : (∀ buf ∈ bufs, buf.Ready offset) → ∀ buf ∈ bufs', buf.Ready offset

/-- The merged buffer is at `place`, and any one of the others at `spare`. -/
structure Moved (place spare : Nat) (merged : Buffer) (bufs bufs' : List Buffer) : Prop where
  count : bufs'.length = bufs.length
  found : bufs'[place]? = some merged
  others : ∀ index, index ≠ place → index ≠ spare → bufs'[index]? = bufs[index]?
  among : ∀ buf ∈ bufs', buf = merged ∨ buf ∈ bufs

theorem Moved.set {place : Nat} (spare : Nat) (merged : Buffer) {bufs : List Buffer}
    (inside : place < bufs.length) : Moved place spare merged bufs (bufs.set place merged) where
  count := List.length_set
  found := List.getElem?_set_self inside
  others := fun _ apart _ => List.getElem?_set_ne (Ne.symm apart)
  among := fun _ among => (List.mem_or_eq_of_mem_set among).symm

/-- The merged buffer goes where the item is, and the old one where the packet was. -/
theorem Moved.swap {place spare : Nat} (merged : Buffer) {old : Buffer} {bufs : List Buffer}
    (present : bufs[place]? = some old) (inside : spare < bufs.length) (apart : place ≠ spare) :
    ∃ bufs', Checked.swap (bufs.set spare merged) place spare
        = (.ok bufs' : Checked GroError _) ∧ Moved place spare merged bufs bufs' := by
  have inside' : place < bufs.length := (List.getElem?_eq_some_iff.mp present).1
  have first : (bufs.set spare merged)[place]? = some old := by
    rw [List.getElem?_set_ne (Ne.symm apart), present]
  have second : (bufs.set spare merged)[spare]? = some merged := List.getElem?_set_self inside
  refine ⟨_, Checked.swap_eq_ok first second, ?_, ?_, ?_, ?_⟩
  · rw [List.length_set, List.length_set, List.length_set]
  · rw [List.getElem?_set_ne (Ne.symm apart), List.getElem?_set_self]
    rwa [List.length_set]
  · intro index notPlace notSpare
    rw [List.getElem?_set_ne (Ne.symm notSpare), List.getElem?_set_ne (Ne.symm notPlace),
      List.getElem?_set_ne (Ne.symm notSpare)]
  · intro buf among
    obtain among | rfl := List.mem_or_eq_of_mem_set among
    · obtain among | rfl := List.mem_or_eq_of_mem_set among
      · exact (List.mem_or_eq_of_mem_set among).symm
      · exact .inl rfl
    · exact .inr (List.mem_of_getElem? present)

theorem Moved.regrouped {offset place spare : Nat} {merged : Buffer} {bufs bufs' : List Buffer}
    (moved : Moved place spare merged bufs bufs') (ready : merged.Ready offset) :
    Regrouped offset place spare merged bufs bufs' where
  count := moved.count
  found := moved.found
  mergedReady := ready
  others := moved.others
  ready := fun all buf inside => by
    obtain rfl | old := moved.among buf inside
    · exact ready
    · exact all buf old

/-- `headers_len` of an item. -/
def TcpGroItem.headersLen (item : TcpGroItem) : Nat := item.iphLen + item.tcphLen

/-- `headers_len` of an item. -/
def UdpGroItem.headersLen (item : UdpGroItem) : Nat := item.iphLen + udpHdrLen

/-- `coalesced_len`: how long the packet in `itemBuf` becomes with that of `pkt` merged into it. -/
def coalescedLen (itemBuf : Buffer) (offset headersLen : Nat) (pkt : Bytes) : Nat :=
  (itemBuf.packet offset).length + pkt.length - headersLen

/-- The tests of a merging: the buffer `taker`, which takes both packets, has room for them, and
both checksums are right. -/
def accepts (taker : Buffer) (offset coalescedLen : Nat) (pkt target : Bytes)
    (iphLen numMerged : Nat) (proto : UInt8) (isV6 : Bool) : Bool :=
  decide (coalescedLen ≤ taker.capacity - offset)
    && decide (invalidCsum pkt target iphLen numMerged proto isV6 = .ok none)

theorem accepts_iff {taker : Buffer} {offset coalescedLen : Nat} {pkt target : Bytes}
    {iphLen numMerged : Nat} {proto : UInt8} {isV6 : Bool} :
    accepts taker offset coalescedLen pkt target iphLen numMerged proto isV6 = true
      ↔ coalescedLen ≤ taker.capacity - offset
        ∧ invalidCsum pkt target iphLen numMerged proto isV6 = .ok none := by
  rw [accepts, Bool.and_eq_true, decide_eq_true_iff, decide_eq_true_iff]

/-- What the result of a merging says about its tests, and about the checksum of the packet. -/
structure Judged (accepted : Bool) (pktValid : Checked GroError Bool) (result : CoalesceResult) :
    Prop where
  success_iff : result = .success ↔ accepted = true
  invalid : result = .pktInvalidCsum → pktValid = .ok false

theorem Judged.refused {pktValid : Checked GroError Bool} {accepted : Bool}
    {result : CoalesceResult} (failed : result ≠ .success) (tests : ¬ accepted = true)
    (invalid : result = .pktInvalidCsum → pktValid = .ok false) :
    Judged accepted pktValid result :=
  ⟨⟨fun same => absurd same failed, fun passed => absurd passed tests⟩, invalid⟩

theorem Judged.passed {pktValid : Checked GroError Bool} {accepted : Bool}
    (tests : accepted = true) : Judged accepted pktValid .success :=
  ⟨⟨fun _ => tests, fun _ => rfl⟩, nofun⟩

theorem raisePsh_spec {bytes : Bytes} {flagsAt : Nat} (pshSet : Bool)
    (inside : flagsAt < bytes.length) : ∃ flagged,
      raisePsh bytes flagsAt pshSet = .ok flagged ∧ AgreeOff {flagsAt} bytes flagged := by
  unfold raisePsh
  by_cases set : pshSet = true
  · rw [if_pos set, Checked.index_eq_ok inside]
    refine ⟨_, Checked.copyFromSlice_eq_ok rfl inside, agreeOff_overwrite inside ?_⟩
    intro index low high
    have last : index < flagsAt + 1 := high
    show index = flagsAt
    omega
  · rw [if_neg set]
    exact ⟨bytes, rfl, .refl _ _⟩

/-- Bytes behind the packet do not count. -/
theorem Flow.Carries.append {flow : Flow} {seq : Nat} {pkt : Bytes}
    (carries : flow.Carries seq pkt) (more : Bytes) : flow.Carries seq (pkt ++ more) := by
  have whole := carries.whole
  have enough := flow.start_add_eight_le
  refine carries.congr ?_ fun isTcp => ?_
  · rw [List.take_append_of_le_length whole]
    exact .refl _ _
  · rw [slice_append_of_le _ (by omega)]
    exact carries.sequence isTcp

/-- Neither do the flags. -/
theorem Flow.Carries.flags {flow : Flow} {seq : Nat} {pkt pkt' : Bytes}
    (carries : flow.Carries seq pkt) (isTcp : flow.tcp.isSome = true)
    (agree : AgreeOff {flow.start + tcpFlagsOffset} pkt pkt') : flow.Carries seq pkt' := by
  refine carries.congr ((agree.take _).mono fun index same => ?_) fun _ => ?_
  · refine Or.inr ?_
    rw [if_pos isTcp]
    exact Or.inl (Or.inr same)
  · rw [agree.slice_eq fun index _ high same => ?_]
    · exact carries.sequence isTcp
    · have place : index = flow.start + 13 := same
      omega

section TcpMerge

variable {offset : Nat} {bufs : List Buffer} {buf : Buffer} {item : TcpGroItem} {flow : Flow}
  {pkt : Bytes} {seq : Nat}

/-- The buffer of an item with its PSH flag raised and data behind its packet. -/
theorem TcpGroItem.Stands.extend {flagged more : Bytes} (placed : buf.Placed offset)
    (stands : item.Stands flow (buf.packet offset))
    (agree : AgreeOff {offset + item.iphLen + tcpFlagsOffset} buf.bytes flagged)
    (room : flagged.length + more.length ≤ buf.capacity) :
    buf.Grown offset ⟨flagged ++ more, buf.capacity⟩
      ∧ flow.Carries item.sentSeq ((⟨flagged ++ more, buf.capacity⟩ : Buffer).packet offset)
      ∧ ((⟨flagged ++ more, buf.capacity⟩ : Buffer).packet offset).drop flow.headersLen
        = (buf.packet offset).drop flow.headersLen ++ more := by
  have whole := stands.holds.carries.whole
  have size := buf.length_packet offset
  have flaggedSize := agree.1
  obtain ⟨tcp, isTcp, -, sized⟩ := stands.tcp
  have isTcp' : flow.tcp.isSome = true := by rw [isTcp]; rfl
  have late : ∀ index ∈ ({offset + item.iphLen + tcpFlagsOffset} : Set Nat), offset ≤ index := by
    rintro index rfl
    exact Nat.le_trans (Nat.le_add_right _ _) (Nat.le_add_right _ _)
  have flaggedGrown := placed.touched agree late
  have flaggedLong := (placed.grown flaggedGrown).long
  refine ⟨flaggedGrown.trans (Buffer.grown_append flaggedLong room), ?_, ?_⟩
  · rw [@Buffer.packet_append offset ⟨flagged, buf.capacity⟩ flaggedLong]
    refine Flow.Carries.append (stands.holds.carries.flags isTcp' ?_) _
    refine (agree.drop offset).mono fun index same => ?_
    have place : offset + index = offset + item.iphLen + tcpFlagsOffset := same
    show index = _
    rw [← stands.iphLen]
    omega
  · have kept : flagged.drop (offset + flow.headersLen)
        = buf.bytes.drop (offset + flow.headersLen) := by
      refine agree.drop_eq ?_
      rintro index rfl
      have headers := stands.headers
      show offset + item.iphLen + 13 < _
      omega
    have header : flow.headersLen
        ≤ ((⟨flagged, buf.capacity⟩ : Buffer).packet offset).length := by
      rw [Buffer.length_packet]
      show _ ≤ flagged.length - offset
      omega
    rw [@Buffer.packet_append offset ⟨flagged, buf.capacity⟩ flaggedLong,
      List.drop_append_of_le_length header]
    unfold Buffer.packet
    rw [List.drop_drop, List.drop_drop, kept]

/-- **A TCP packet behind those of the item.** -/
theorem appendTcpPacket_spec (present : bufs[item.bufsIndex]? = some buf)
    (placed : buf.Placed offset) (stands : item.Stands flow (buf.packet offset))
    (carries : flow.Carries seq pkt) (small : pkt.length ≤ 65535) (spare : Nat)
    (pshSet isV6 : Bool) : ∃ result item' bufs',
      appendTcpPacket pkt (coalescedLen buf offset item.headersLen pkt) pshSet item buf bufs offset
          isV6 = .ok (result, item', bufs')
        ∧ Judged (accepts buf offset (coalescedLen buf offset item.headersLen pkt) pkt
          (buf.packet offset) item.iphLen item.numMerged 6 isV6)
          (checksumValid pkt item.iphLen 6 isV6) result
        ∧ (Refused result item.numMerged bufs bufs'
          ∨ result = .success ∧ item' = { item with pshSet := item.pshSet || pshSet }
            ∧ ∃ merged, Moved item.bufsIndex spare merged bufs bufs' ∧ buf.Grown offset merged
              ∧ flow.Carries item.sentSeq (merged.packet offset)
              ∧ (merged.packet offset).drop flow.headersLen
                = (buf.packet offset).drop flow.headersLen ++ pkt.drop flow.headersLen) := by
  have headers := stands.headers
  have whole := stands.holds.carries.whole
  have whole' := carries.whole
  have long := placed.long
  have fits := placed.fits
  have size := buf.length_packet offset
  have sum : coalescedLen buf offset item.headersLen pkt
      = (buf.packet offset).length + pkt.length - (item.iphLen + item.tcphLen) := rfl
  obtain ⟨tcp, -, -, sized⟩ := stands.tcp
  have inside : item.bufsIndex < bufs.length := (List.getElem?_eq_some_iff.mp present).1
  unfold appendTcpPacket
  dsimp only
  rw [Checked.minus_eq_ok long]
  simp only [bind, Except.bind]
  rw [Checked.minus_eq_ok (Nat.le_trans long fits)]
  dsimp only
  by_cases full : buf.capacity - offset < coalescedLen buf offset item.headersLen pkt
  · rw [if_pos full]
    exact ⟨_, _, _, rfl, .refused nofun (fun accepted => by
      exact Nat.not_le.mpr full (accepts_iff.mp accepted).1) nofun, .inl ⟨nofun, nofun, rfl⟩⟩
  obtain ⟨tested, valid, outcome⟩ := @invalidCsum_eq_ok pkt (buf.packet offset) item.iphLen
    item.numMerged 6 isV6 (by omega) small (by omega) stands.holds.small
  rw [if_neg full, placed.range_eq_ok]
  dsimp only
  rw [valid]
  obtain rfl | ⟨rfl, invalid⟩ | ⟨rfl, single⟩ := outcome
  · -- both checksums are right
    have flagsInside : offset + item.iphLen + tcpFlagsOffset < buf.bytes.length := by
      show offset + item.iphLen + 13 < _
      omega
    obtain ⟨flagged, raised, agree⟩ := raisePsh_spec pshSet flagsInside
    have flaggedSize := agree.1
    have moreSize : (pkt.drop flow.headersLen).length = pkt.length - flow.headersLen :=
      List.length_drop
    have room : flagged.length + (pkt.drop flow.headersLen).length ≤ buf.capacity := by
      omega
    obtain ⟨grown, carried, data⟩ := stands.extend placed agree room
    have rest : slice pkt (item.iphLen + item.tcphLen)
        (pkt.length - (item.iphLen + item.tcphLen)) = pkt.drop flow.headersLen := by
      rw [headers]
      exact List.take_of_length_le (by omega)
    dsimp only
    rw [raised]
    dsimp only
    rw [Checked.range_eq_ok (by omega) (Nat.le_refl _), rest]
    dsimp only
    rw [@Buffer.extendBuffer_eq_ok offset ⟨flagged, buf.capacity⟩ _ _
      (show offset + (buf.bytes.length - offset) = flagged.length by omega) room]
    exact ⟨_, _, _, rfl, .passed (accepts_iff.mpr ⟨Nat.le_of_not_lt full, valid⟩), .inr ⟨rfl, rfl,
      _, .set spare _ inside, grown, carried, data⟩⟩
  · exact ⟨_, _, _, rfl, .refused nofun (fun accepted => by
      cases valid.symm.trans (accepts_iff.mp accepted).2) fun _ => invalid,
      .inl ⟨nofun, nofun, rfl⟩⟩
  · exact ⟨_, _, _, rfl, .refused nofun (fun accepted => by
      cases valid.symm.trans (accepts_iff.mp accepted).2) nofun,
      .inl ⟨nofun, fun _ => single, rfl⟩⟩

/-- **A TCP packet in front of those of the item**; the buffers change places. -/
theorem prependTcpPacket_spec {pktBuf : Buffer} {spare : Nat}
    (present : bufs[item.bufsIndex]? = some buf) (placed : buf.Placed offset)
    (stands : item.Stands flow (buf.packet offset)) (pktPresent : bufs[spare]? = some pktBuf)
    (pktPlaced : pktBuf.Placed offset) (carries : flow.Carries seq (pktBuf.packet offset))
    (small : (pktBuf.packet offset).length ≤ 65535) (apart : item.bufsIndex ≠ spare)
    (pshSet isV6 : Bool) : ∃ result item' bufs',
      prependTcpPacket (pktBuf.packet offset) spare seq
          (coalescedLen buf offset item.headersLen (pktBuf.packet offset)) pshSet item buf bufs
          offset isV6 = .ok (result, item', bufs')
        ∧ Judged (!pshSet && accepts pktBuf offset
          (coalescedLen buf offset item.headersLen (pktBuf.packet offset)) (pktBuf.packet offset)
          (buf.packet offset) item.iphLen item.numMerged 6 isV6)
          (checksumValid (pktBuf.packet offset) item.iphLen 6 isV6) result
        ∧ (Refused result item.numMerged bufs bufs'
          ∨ result = .success ∧ item' = { item with sentSeq := seq }
            ∧ ∃ merged, Moved item.bufsIndex spare merged bufs bufs' ∧ pktBuf.Grown offset merged
              ∧ flow.Carries seq (merged.packet offset)
              ∧ (merged.packet offset).drop flow.headersLen
                = (pktBuf.packet offset).drop flow.headersLen
                  ++ (buf.packet offset).drop flow.headersLen) := by
  have headers := stands.headers
  have whole := stands.holds.carries.whole
  have whole' := carries.whole
  have long := placed.long
  have pktLong := pktPlaced.long
  have pktFits := pktPlaced.fits
  have size := buf.length_packet offset
  have pktSize := pktBuf.length_packet offset
  have sum : coalescedLen buf offset item.headersLen (pktBuf.packet offset)
      = (buf.packet offset).length + (pktBuf.packet offset).length
        - (item.iphLen + item.tcphLen) := rfl
  have inside : spare < bufs.length := (List.getElem?_eq_some_iff.mp pktPresent).1
  unfold prependTcpPacket
  dsimp only
  rw [Checked.entry_eq_ok pktPresent]
  simp only [bind, Except.bind]
  rw [Checked.minus_eq_ok (Nat.le_trans pktLong pktFits)]
  dsimp only
  by_cases full : pktBuf.capacity - offset
      < coalescedLen buf offset item.headersLen (pktBuf.packet offset)
  · rw [if_pos full]
    exact ⟨_, _, _, rfl, .refused nofun (fun accepted => Nat.not_le.mpr full
      (accepts_iff.mp (Bool.and_eq_true_iff.mp accepted).2).1) nofun, .inl ⟨nofun, nofun, rfl⟩⟩
  rw [if_neg full]
  by_cases ending : pshSet = true
  · rw [if_pos ending]
    refine ⟨_, _, _, rfl, .refused nofun (fun accepted => ?_) nofun, .inl ⟨nofun, nofun, rfl⟩⟩
    rw [ending] at accepted
    cases accepted
  obtain ⟨tested, valid, outcome⟩ := @invalidCsum_eq_ok (pktBuf.packet offset) (buf.packet offset)
    item.iphLen item.numMerged 6 isV6 (by omega) small (by omega) stands.holds.small
  rw [if_neg ending, placed.range_eq_ok]
  dsimp only
  rw [valid]
  obtain rfl | ⟨rfl, invalid⟩ | ⟨rfl, single⟩ := outcome
  · -- both checksums are right
    have payload : slice buf.bytes (offset + (item.iphLen + item.tcphLen))
        (buf.bytes.length - (offset + (item.iphLen + item.tcphLen)))
          = (buf.packet offset).drop flow.headersLen := by
      rw [headers, Buffer.packet, List.drop_drop]
      exact List.take_of_length_le (by rw [List.length_drop])
    have moreSize : ((buf.packet offset).drop flow.headersLen).length
        = (buf.packet offset).length - flow.headersLen := List.length_drop
    have grownFits : pktBuf.bytes.length + ((buf.packet offset).drop flow.headersLen).length
        ≤ pktBuf.capacity := by omega
    have extendBy : coalescedLen buf offset item.headersLen (pktBuf.packet offset)
          - (pktBuf.bytes.length - offset)
        = ((buf.packet offset).drop flow.headersLen).length := by omega
    have behind : offset + (pktBuf.bytes.length - offset) = pktBuf.bytes.length := by omega
    obtain ⟨bufs', swapped, moved⟩ := Moved.swap
      ⟨pktBuf.bytes ++ (buf.packet offset).drop flow.headersLen, pktBuf.capacity⟩ present inside
      apart
    have quiet : pshSet = false := Bool.eq_false_of_not_eq_true ending
    dsimp only
    rw [Checked.range_eq_ok (by omega) (Nat.le_refl _), payload]
    dsimp only
    rw [Checked.minus_eq_ok pktLong]
    dsimp only
    rw [Checked.minus_eq_ok (by omega), extendBy, behind]
    dsimp only
    rw [Buffer.copyFromSlice_resize]
    dsimp only
    rw [Buffer.capacity_resize grownFits, swapped]
    refine ⟨_, _, _, rfl, .passed ?_, .inr ⟨rfl, rfl, _, moved,
      Buffer.grown_append pktLong grownFits, ?_, ?_⟩⟩
    · rw [quiet]
      exact accepts_iff.mpr ⟨Nat.le_of_not_lt full, valid⟩
    · rw [Buffer.packet_append pktLong]
      exact carries.append _
    · rw [Buffer.packet_append pktLong, List.drop_append_of_le_length whole']
  · exact ⟨_, _, _, rfl, .refused nofun (fun accepted => by
      cases valid.symm.trans (accepts_iff.mp (Bool.and_eq_true_iff.mp accepted).2).2)
      fun _ => invalid, .inl ⟨nofun, nofun, rfl⟩⟩
  · exact ⟨_, _, _, rfl, .refused nofun (fun accepted => by
      cases valid.symm.trans (accepts_iff.mp (Bool.and_eq_true_iff.mp accepted).2).2) nofun,
      .inl ⟨nofun, fun _ => single, rfl⟩⟩

end TcpMerge

/-! ### Items of either protocol -/

/-- An item of one of the tables. -/
inductive GroItem where
  | tcp (item : TcpGroItem)
  | udp (item : UdpGroItem)

namespace GroItem

def bufsIndex : GroItem → Nat
  | .tcp item => item.bufsIndex
  | .udp item => item.bufsIndex

def numMerged : GroItem → Nat
  | .tcp item => item.numMerged
  | .udp item => item.numMerged

def gsoSize : GroItem → Nat
  | .tcp item => item.gsoSize
  | .udp item => item.gsoSize

/-- The sequence number of the first packet, for TCP. -/
def seq : GroItem → Nat
  | .tcp item => item.sentSeq
  | .udp _ => 0

/-- The item stands for a buffer with this packet. -/
def Stands (flow : Flow) (pkt : Bytes) : GroItem → Prop
  | .tcp item => item.Stands flow pkt
  | .udp item => item.Stands flow pkt

/-- `headers_len`. -/
def headersLen : GroItem → Nat
  | .tcp item => item.headersLen
  | .udp item => item.headersLen

/-- The packets that the item stands for. -/
def views (flow : Flow) (pkt : Bytes) (item : GroItem) : List PacketView :=
  flow.cut item.gsoSize item.seq (pkt.drop flow.headersLen)

theorem Stands.holds {item : GroItem} {flow : Flow} {pkt : Bytes} (stands : item.Stands flow pkt) :
    flow.Holds item.seq item.gsoSize item.numMerged pkt := by
  cases item with
  | tcp item => exact TcpGroItem.Stands.holds stands
  | udp item => exact UdpGroItem.Stands.holds stands

theorem Stands.headers {item : GroItem} {flow : Flow} {pkt : Bytes}
    (stands : item.Stands flow pkt) : item.headersLen = flow.headersLen := by
  cases item with
  | tcp item => exact TcpGroItem.Stands.headers stands
  | udp item => exact UdpGroItem.Stands.headers stands

/-- An item stands for packets of one flow. -/
theorem Stands.flow_eq {item : GroItem} {flow flow' : Flow} {pkt : Bytes}
    (stands : item.Stands flow pkt) (stands' : item.Stands flow' pkt) : flow = flow' := by
  cases item with
  | tcp item =>
      exact TcpGroItem.Stands.flow_eq stands stands' rfl fun tcp tcp' isTcp isTcp' =>
        (TcpGroItem.Stands.slice_options stands isTcp).symm.trans
          (TcpGroItem.Stands.slice_options stands' isTcp')
  | udp item => exact UdpGroItem.Stands.flow_eq stands stands' rfl

/-- An item of one packet. -/
theorem Stands.views_single {item : GroItem} {flow : Flow} {pkt : Bytes}
    (stands : item.Stands flow pkt) (single : item.numMerged = 0) :
    item.views flow pkt = [describe pkt] := by
  have holds := stands.holds
  rw [single] at holds
  exact holds.cut_eq_describe

/-- The packet at `spare` went into the buffer of the item, which now stands for it as well. -/
structure Joined (offset spare : Nat) (flow : Flow) (target pkt : Bytes) (merged : Buffer)
    (bufs bufs' : List Buffer) (item item' : GroItem) : Prop where
  place : item'.bufsIndex = item.bufsIndex
  regrouped : Regrouped offset item.bufsIndex spare merged bufs bufs'
  stands : item'.Stands flow (merged.packet offset)
  views : (item'.views flow (merged.packet offset)).Perm (describe pkt :: item.views flow target)

/-- The packet in `pktBuf` went into the buffer of the item; the item stands for what the buffer
then holds, if that is no longer than a packet can be. -/
structure Merged (offset spare : Nat) (flow : Flow) (buf pktBuf merged : Buffer)
    (bufs bufs' : List Buffer) (item item' : GroItem) : Prop where
  place : item'.bufsIndex = item.bufsIndex
  moved : Moved item.bufsIndex spare merged bufs bufs'
  grown : buf.Grown offset merged ∨ pktBuf.Grown offset merged
  length : (merged.packet offset).length
    = coalescedLen buf offset item.headersLen (pktBuf.packet offset)
  joined : (merged.packet offset).length ≤ 65535 → item'.Stands flow (merged.packet offset)
    ∧ (item'.views flow (merged.packet offset)).Perm
      (describe (pktBuf.packet offset) :: item.views flow (buf.packet offset))

section Merged

variable {offset spare : Nat} {flow : Flow} {buf pktBuf merged : Buffer} {bufs bufs' : List Buffer}
  {item item' : GroItem}

theorem Merged.placed (into : Merged offset spare flow buf pktBuf merged bufs bufs' item item')
    (placed : buf.Placed offset) (pktPlaced : pktBuf.Placed offset) : merged.Placed offset := by
  obtain grown | grown := into.grown
  · exact placed.grown grown
  · exact pktPlaced.grown grown

/-- The capacity of ready buffers bounds what a merging makes of them. -/
theorem Merged.of_ready (into : Merged offset spare flow buf pktBuf merged bufs bufs' item item')
    (ready : buf.Ready offset) (pktReady : pktBuf.Ready offset) :
    Joined offset spare flow (buf.packet offset) (pktBuf.packet offset) merged bufs bufs' item
      item' := by
  have mergedReady : merged.Ready offset := by
    obtain grown | grown := into.grown
    · exact ready.grown grown
    · exact pktReady.grown grown
  obtain ⟨stands, views⟩ := into.joined mergedReady.small
  exact ⟨into.place, into.moved.regrouped mergedReady, stands, views⟩

end Merged

end GroItem

theorem Flow.Holds.numMerged_lt {flow : Flow} {seq gso numMerged : Nat} {pkt : Bytes}
    (holds : flow.Holds seq gso numMerged pkt) : numMerged < 65535 := by
  have turns := holds.numMerged_mul_lt
  have small := holds.small
  have most := Nat.le_mul_of_pos_right numMerged holds.positive
  omega

theorem countMerged_eq_ok {item : TcpGroItem} (gsoSize : Nat) (few : item.numMerged < 65535) :
    countMerged gsoSize item = .ok { item with
      gsoSize := if item.gsoSize < gsoSize then gsoSize else item.gsoSize
      numMerged := item.numMerged + 1 } := by
  rw [countMerged, Checked.inBits_eq_ok (by omega)]
  rfl

/-- The tests of `coalesce_tcp_packets`. -/
def TcpGroItem.passes (item : TcpGroItem) (can : CanCoalesce) (pkt : Bytes) (new : TcpGroItem)
    (itemBuf pktBuf : Buffer) (offset : Nat) (isV6 : Bool) : Bool :=
  match can with
  | .unavailable => false
  | .append =>
      accepts itemBuf offset (coalescedLen itemBuf offset item.headersLen pkt) pkt
        (itemBuf.packet offset) item.iphLen item.numMerged 6 isV6
  | .prepend =>
      !new.pshSet && accepts pktBuf offset (coalescedLen itemBuf offset item.headersLen pkt) pkt
        (itemBuf.packet offset) item.iphLen item.numMerged 6 isV6

/-- The tests of `coalesce_udp_packets`. -/
def UdpGroItem.passes (item : UdpGroItem) (pkt : Bytes) (itemBuf : Buffer) (offset : Nat)
    (isV6 : Bool) : Bool :=
  accepts itemBuf offset (coalescedLen itemBuf offset item.headersLen pkt) pkt
    (itemBuf.packet offset) item.iphLen item.numMerged 17 isV6

/-- What a merging leaves in front of the payload is the headers of the flow. -/
theorem length_of_drop {header : Nat} {merged front back : Bytes} (whole : header ≤ merged.length)
    (front' : header ≤ front.length) (back' : header ≤ back.length)
    (data : merged.drop header = front.drop header ++ back.drop header) :
    merged.length = front.length + back.length - header := by
  have total := congrArg List.length data
  rw [List.length_append, List.length_drop, List.length_drop, List.length_drop] at total
  omega

section CoalesceTcp

variable {offset : Nat} {bufs : List Buffer} {buf pktBuf : Buffer} {item new : TcpGroItem}
  {flow flow' : Flow} {can : CanCoalesce}

/-- A packet merged in front of those of an item, or behind them. -/
theorem mergeTcpPacket_spec (present : bufs[item.bufsIndex]? = some buf)
    (placed : buf.Placed offset) (stands : item.Stands flow (buf.packet offset))
    (pktPresent : bufs[new.bufsIndex]? = some pktBuf) (pktPlaced : pktBuf.Placed offset)
    (fresh : new.Stands flow (pktBuf.packet offset)) (single : new.numMerged = 0)
    (apart : item.bufsIndex ≠ new.bufsIndex) (isV6 : Bool) (available : can ≠ .unavailable)
    (joins : TcpJoins can new item flow flow (buf.packet offset)) : ∃ result item' bufs',
      mergeTcpPacket can (pktBuf.packet offset) new.bufsIndex new.sentSeq
          (coalescedLen buf offset item.headersLen (pktBuf.packet offset)) new.pshSet item buf bufs
          offset isV6 = .ok (result, item', bufs')
        ∧ Judged (item.passes can (pktBuf.packet offset) new buf pktBuf offset isV6)
          (checksumValid (pktBuf.packet offset) item.iphLen 6 isV6) result
        ∧ (Refused result item.numMerged bufs bufs'
          ∨ result = .success ∧ item'.key = item.key ∧ item'.numMerged = item.numMerged
            ∧ ∃ merged, GroItem.Merged offset new.bufsIndex flow buf pktBuf merged bufs bufs'
              (.tcp item) (.tcp { item' with
                gsoSize := if item'.gsoSize < new.gsoSize then new.gsoSize else item'.gsoSize
                numMerged := item'.numMerged + 1 })) := by
  have holds := stands.holds
  have fresh' := fresh.holds
  rw [single] at fresh'
  have whole := holds.carries.whole
  have whole' := fresh'.carries.whole
  have alone := fresh'.length_of_single
  have positive := fresh'.positive
  have total : coalescedLen buf offset item.headersLen (pktBuf.packet offset)
      = (buf.packet offset).length + (pktBuf.packet offset).length - flow.headersLen :=
    congrArg _ stands.headers
  unfold mergeTcpPacket
  cases can with
  | unavailable => exact absurd rfl available
  | prepend =>
      obtain ⟨long, only, leads⟩ := joins.inFront rfl
      obtain ⟨result, item', bufs', done, judged, outcome⟩ := prependTcpPacket_spec present placed
        stands pktPresent pktPlaced fresh'.carries fresh'.small apart new.pshSet isV6
      rw [if_pos rfl]
      refine ⟨result, item', bufs', done, judged, outcome.imp_right ?_⟩
      rintro ⟨success, rfl, merged, moved, grown, carries, data⟩
      have size' : (if item.gsoSize < new.gsoSize then new.gsoSize else item.gsoSize)
          = new.gsoSize := by
        split
        · rfl
        · omega
      refine ⟨success, rfl, rfl, merged, rfl, moved, .inr grown, ?_, fun short => ?_⟩
      · rw [length_of_drop carries.whole whole' whole data, Nat.add_comm]
        exact total.symm
      · obtain ⟨held, cuts⟩ := holds.prepend fresh'.carries (by rwa [alone]) (by rwa [alone])
          (by rw [alone, leads, ← leads, Nat.mod_mod]) carries short data
        rw [alone] at held cuts
        refine ⟨⟨⟨stands.iphLen, stands.isV6, stands.tcp⟩, ?_⟩, ?_⟩
        · show flow.Holds new.sentSeq _ _ _
          rw [size']
          exact held
        · show (flow.cut (if item.gsoSize < new.gsoSize then new.gsoSize else item.gsoSize)
            new.sentSeq _).Perm _
          rw [size', cuts]
          exact .refl _
  | append =>
      obtain ⟨multiple, short, follows⟩ := joins.behind rfl
      obtain ⟨result, item', bufs', done, judged, outcome⟩ := appendTcpPacket_spec present placed
        stands fresh'.carries fresh'.small new.bufsIndex new.pshSet isV6
      rw [if_neg (by decide)]
      refine ⟨result, item', bufs', done, judged, outcome.imp_right ?_⟩
      rintro ⟨success, rfl, merged, moved, grown, carries, data⟩
      have size' : (if item.gsoSize < new.gsoSize then new.gsoSize else item.gsoSize)
          = item.gsoSize := if_neg (Nat.not_lt.mpr short)
      refine ⟨success, rfl, rfl, merged, rfl, moved, .inl grown, ?_, fun short => ?_⟩
      · rw [length_of_drop carries.whole whole whole' data]
        exact total.symm
      · obtain ⟨held, cuts⟩ := holds.append fresh'.carries (by omega) (by rwa [alone]) multiple
          (by rw [follows, Nat.mod_mod]) carries short data
        refine ⟨⟨⟨stands.iphLen, stands.isV6, stands.tcp⟩, ?_⟩, ?_⟩
        · show flow.Holds item.sentSeq _ _ _
          rw [size']
          exact held
        · show (flow.cut (if item.gsoSize < new.gsoSize then new.gsoSize else item.gsoSize)
            item.sentSeq _).Perm _
          rw [size', cuts]
          exact List.perm_append_singleton _ _

/-- **The merging of a TCP packet.** -/
theorem coalesceTcpPackets_spec (present : bufs[item.bufsIndex]? = some buf)
    (placed : buf.Placed offset) (stands : item.Stands flow (buf.packet offset))
    (pktPresent : bufs[new.bufsIndex]? = some pktBuf) (pktPlaced : pktBuf.Placed offset)
    (fresh : new.Stands flow' (pktBuf.packet offset)) (single : new.numMerged = 0)
    (apart : item.bufsIndex ≠ new.bufsIndex) (isV6 : Bool) (available : can ≠ .unavailable)
    (joins : TcpJoins can new item flow flow' (buf.packet offset)) : ∃ result item' bufs',
      coalesceTcpPackets can (pktBuf.packet offset) new.bufsIndex new.gsoSize new.sentSeq new.pshSet
          item bufs offset isV6 = .ok (result, item', bufs')
        ∧ Judged (item.passes can (pktBuf.packet offset) new buf pktBuf offset isV6)
          (checksumValid (pktBuf.packet offset) item.iphLen 6 isV6) result
        ∧ (Refused result item.numMerged bufs bufs'
          ∨ result = .success ∧ item'.key = item.key
            ∧ ∃ merged, GroItem.Merged offset new.bufsIndex flow buf pktBuf merged bufs bufs'
              (.tcp item) (.tcp item')) := by
  obtain rfl := joins.flow_eq available
  obtain ⟨result, item', bufs', done, judged, outcome⟩ := mergeTcpPacket_spec present placed stands
    pktPresent pktPlaced fresh single apart isV6 available joins
  have headers := stands.headers
  have whole := stands.holds.carries.whole
  have size := buf.length_packet offset
  have few := stands.holds.numMerged_lt
  have total : coalescedLen buf offset item.headersLen (pktBuf.packet offset)
      = (buf.packet offset).length + (pktBuf.packet offset).length - flow.headersLen :=
    congrArg _ headers
  unfold coalesceTcpPackets
  rw [Checked.entry_eq_ok present]
  simp only [bind, Except.bind]
  rw [Checked.minus_eq_ok placed.long, ← size]
  dsimp only
  rw [Checked.minus_eq_ok (by omega), headers, ← total]
  dsimp only
  rw [done]
  dsimp only
  obtain refused | ⟨rfl, key, count, merged, into⟩ := outcome
  · rw [if_neg refused.failed]
    exact ⟨_, _, _, rfl, judged, .inl refused⟩
  · rw [if_pos rfl, countMerged_eq_ok _ (by omega)]
    exact ⟨_, _, _, rfl, judged, .inr ⟨rfl, key, merged, into⟩⟩

end CoalesceTcp

/-- **The merging of a UDP packet.** -/
theorem coalesceUdpPackets_spec {offset : Nat} {bufs : List Buffer} {buf pktBuf : Buffer}
    {item new : UdpGroItem} {flow : Flow}
    (present : bufs[item.bufsIndex]? = some buf) (placed : buf.Placed offset)
    (stands : item.Stands flow (buf.packet offset))
    (fresh : new.Stands flow (pktBuf.packet offset)) (single : new.numMerged = 0) (isV6 : Bool)
    (multiple : ((buf.packet offset).length - flow.headersLen) % item.gsoSize = 0)
    (short : new.gsoSize ≤ item.gsoSize) : ∃ result item' bufs',
      coalesceUdpPackets (pktBuf.packet offset) item bufs offset isV6 = .ok (result, item', bufs')
        ∧ (result = .success ↔ item.passes (pktBuf.packet offset) buf offset isV6 = true)
        ∧ (result ≠ .success ∧ bufs' = bufs
          ∨ result = .success ∧ item'.key = item.key
            ∧ ∃ merged, GroItem.Merged offset new.bufsIndex flow buf pktBuf merged bufs bufs'
              (.udp item) (.udp item')) := by
  have headers := stands.headers
  have holds := stands.holds
  have fresh' := fresh.holds
  rw [single] at fresh'
  have whole := holds.carries.whole
  have whole' := fresh'.carries.whole
  have alone := fresh'.length_of_single
  have positive := fresh'.positive
  have small := fresh'.small
  have long := placed.long
  have fits := placed.fits
  have size := buf.length_packet offset
  have inside : item.bufsIndex < bufs.length := (List.getElem?_eq_some_iff.mp present).1
  have few := holds.numMerged_lt
  have total : coalescedLen buf offset item.headersLen (pktBuf.packet offset)
      = (buf.packet offset).length + (pktBuf.packet offset).length - flow.headersLen :=
    congrArg _ headers
  unfold coalesceUdpPackets
  dsimp only
  rw [Checked.entry_eq_ok present]
  simp only [bind, Except.bind]
  rw [Checked.minus_eq_ok long, ← size]
  dsimp only
  rw [Checked.minus_eq_ok (by omega), headers, ← total]
  dsimp only
  rw [Checked.minus_eq_ok (Nat.le_trans long fits)]
  dsimp only
  by_cases full : buf.capacity - offset
      < coalescedLen buf offset item.headersLen (pktBuf.packet offset)
  · rw [if_pos full]
    exact ⟨_, _, _, rfl, ⟨nofun, fun accepted => by
      exact absurd (accepts_iff.mp accepted).1 (Nat.not_le.mpr full)⟩, .inl ⟨nofun, rfl⟩⟩
  obtain ⟨tested, valid, outcome⟩ := @invalidCsum_eq_ok (pktBuf.packet offset) (buf.packet offset)
    item.iphLen item.numMerged 17 isV6 (by omega) small (by omega) holds.small
  rw [if_neg full, placed.range_eq_ok]
  dsimp only
  rw [valid]
  obtain rfl | ⟨rfl, -⟩ | ⟨rfl, -⟩ := outcome
  · have rest : slice (pktBuf.packet offset) flow.headersLen
        ((pktBuf.packet offset).length - flow.headersLen)
          = (pktBuf.packet offset).drop flow.headersLen :=
      List.take_of_length_le (by rw [List.length_drop])
    have moreSize : ((pktBuf.packet offset).drop flow.headersLen).length
        = (pktBuf.packet offset).length - flow.headersLen := List.length_drop
    have grownFits : buf.bytes.length + ((pktBuf.packet offset).drop flow.headersLen).length
        ≤ buf.capacity := by omega
    have grown := Buffer.grown_append long grownFits
    have anySeq : ∀ seq, flow.Carries seq (pktBuf.packet offset) := fun seq =>
      fresh'.carries.congr (.refl _ _) fun isTcp => by rw [stands.udp] at isTcp; cases isTcp
    have carries : flow.Carries 0 ((⟨buf.bytes ++ (pktBuf.packet offset).drop flow.headersLen,
        buf.capacity⟩ : Buffer).packet offset) := by
      rw [Buffer.packet_append long]
      exact holds.carries.append _
    have data : ((⟨buf.bytes ++ (pktBuf.packet offset).drop flow.headersLen,
        buf.capacity⟩ : Buffer).packet offset).drop flow.headersLen
          = (buf.packet offset).drop flow.headersLen
            ++ (pktBuf.packet offset).drop flow.headersLen := by
      rw [Buffer.packet_append long, List.drop_append_of_le_length whole]
    dsimp only
    rw [Checked.range_eq_ok (by omega) (Nat.le_refl _), rest]
    dsimp only
    rw [Buffer.extendBuffer_eq_ok (by omega) grownFits]
    dsimp only
    rw [Checked.inBits_eq_ok (show _ < 65536 by omega)]
    refine ⟨_, _, _, rfl, ⟨fun _ => accepts_iff.mpr ⟨Nat.le_of_not_lt full, valid⟩, fun _ => rfl⟩,
      .inr ⟨rfl, rfl, _, rfl, .set _ _ inside, .inl grown, ?_, fun short' => ?_⟩⟩
    · rw [length_of_drop carries.whole whole whole' data]
      exact total.symm
    · obtain ⟨held, cuts⟩ := holds.append (anySeq _) (by omega) (by rwa [alone]) multiple rfl
        carries short' data
      refine ⟨⟨⟨stands.iphLen, stands.udp, stands.key⟩, held⟩, ?_⟩
      show (flow.cut item.gsoSize 0 _).Perm _
      rw [cuts]
      exact List.perm_append_singleton _ _
  · exact ⟨_, _, _, rfl, ⟨nofun, fun accepted => by
      cases valid.symm.trans (accepts_iff.mp accepted).2⟩, .inl ⟨nofun, rfl⟩⟩
  · exact ⟨_, _, _, rfl, ⟨nofun, fun accepted => by
      cases valid.symm.trans (accepts_iff.mp accepted).2⟩, .inl ⟨nofun, rfl⟩⟩

end RsTun.Gso
