/-
**Batch writes: frames of their own.**

`do_batch_write` copies every packet into a buffer that is allocated for just the packet and its
virtio header, so that `handle_gro` finds no room in any of them.

* `doBatchWrite_frames` — the device is given the frames of the packets, in order, up to the first
  one that it rejects.
-/

import RsTun.Gso.FullBuffers
import RsTun.NativeTun.Writer

namespace RsTun.NativeTun

open Library Library.Bytes Gso

/-! ### Batch writes -/

/-- `Vec::with_capacity`, with just the capacity that is asked for. -/
def withCapacity (capacity : Nat) : Buffer := ⟨[], capacity⟩

/-- `extend_from_slice`. -/
def extendFromSlice (buffer : Buffer) (more : Bytes) : Buffer where
  bytes := buffer.bytes ++ more
  capacity := max buffer.capacity (buffer.bytes.length + more.length)

/-- The buffer of a packet in `do_batch_write`. -/
def packetBuffer (p : Bytes) : Buffer :=
  let b := withCapacity (virtioNetHdrLen + p.length)
  let b := b.resize virtioNetHdrLen
  extendFromSlice b p

/-- What the device answers to `write_all` and `flush`. -/
structure Device where
  accepts : Bytes → Bool
  flushes : Bool

/-- The errors of `do_batch_write`. -/
inductive BatchWriteError where
  | gro (error : GroError)
  | device
  deriving DecidableEq

/-- How `do_batch_write` ends: the writes that the device was given, in order, and the result. -/
structure BatchWriteEnd where
  writes : List Bytes
  result : Except BatchWriteError Nat

/-- `write_all` of each packet, up to the first that the device rejects; whether it took them all.
-/
def writeEach (device : Device) : List Bytes → List Bytes × Bool
  | [] => ([], true)
  | p :: rest =>
      if device.accepts p = true then
        let (later, taken) := writeEach device rest
        (p :: later, taken)
      else ([p], false)

/-- `write_all` of the buffers that are to be written. -/
def writeBufs (device : Device) (bufs : List Buffer) :
    List Nat → Checked GroError (List Bytes × Bool)
  | [] => .ok ([], true)
  | idx :: rest => do
      let buf ← Checked.entry bufs idx
      if device.accepts buf.bytes = true then
        let (later, taken) ← writeBufs device bufs rest
        return (buf.bytes :: later, taken)
      else return ([buf.bytes], false)

/-- The `flush` behind the writes, and the result. -/
def finish (device : Device) (count : Nat) (writes : List Bytes × Bool) : BatchWriteEnd where
  writes := writes.1
  result := if writes.2 = true ∧ device.flushes = true then .ok count else .error .device

/-- `do_batch_write`; the tables are reset before they are used. -/
def doBatchWrite (vnetHdr : Bool) (gro : GroDisablementFlags)
    (tcpOrder : MapOrder (List TcpGroItem)) (udpOrder : MapOrder (List UdpGroItem))
    (device : Device) (packets : List Bytes) : Checked GroError BatchWriteEnd :=
  if packets = [] then .ok ⟨[], .ok 0⟩
  else if vnetHdr = true then
    match handleGro virtioNetHdrLen gro tcpOrder udpOrder
      ⟨packets.map packetBuffer, ∅, ∅, []⟩ with
    | .ok state => do
        let writes ← writeBufs device state.bufs state.toWrite
        return finish device state.toWrite.length writes
    | .error (.failed error) => .ok ⟨[], .error (.gro error)⟩
    | .error .panicked => .error .panicked
  else .ok (finish device packets.length (writeEach device packets))

/-! ### What is written -/

/-- The buffer of a packet holds its frame, and has no room. -/
theorem packetBuffer_eq (p : Bytes) :
    packetBuffer p = ⟨LinuxTunWriter.frame p, (LinuxTunWriter.frame p).length⟩ := by
  have length : (LinuxTunWriter.frame p).length = virtioNetHdrLen + p.length := by
    rw [LinuxTunWriter.frame, List.length_append, List.length_replicate]
  rw [length]
  unfold packetBuffer extendFromSlice withCapacity Buffer.resize
  dsimp only
  rw [List.take_nil, List.nil_append, List.length_replicate, Buffer.mk.injEq]
  exact ⟨rfl, by simp [virtioNetHdrLen]⟩

theorem packetBuffer_full (p : Bytes) : (packetBuffer p).Full virtioNetHdrLen := by
  rw [packetBuffer_eq]
  refine ⟨Nat.le_refl _, ?_, rfl, ?_⟩
  · rw [LinuxTunWriter.frame, List.length_append, List.length_replicate]
    exact Nat.le_add_right _ _
  · exact List.take_left' List.length_replicate

/-- The device is given the frames up to the first that it rejects. -/
theorem writeEach_spec (device : Device) : ∀ frames : List Bytes,
    (writeEach device frames).1 <+: frames
      ∧ ((∀ write ∈ frames, device.accepts write = true) →
        writeEach device frames = (frames, true))
  | [] => ⟨List.prefix_rfl, fun _ => rfl⟩
  | p :: rest => by
      obtain ⟨within, all⟩ := writeEach_spec device rest
      rw [writeEach]
      by_cases taken : device.accepts p = true
      · rw [if_pos taken]
        refine ⟨List.cons_prefix_cons.mpr ⟨rfl, within⟩, fun each => ?_⟩
        rw [all fun write among => each write (List.mem_cons_of_mem _ among)]
      · rw [if_neg taken]
        exact ⟨List.cons_prefix_cons.mpr ⟨rfl, List.nil_prefix⟩,
          fun each => absurd (each p List.mem_cons_self) taken⟩

/-- The buffers from one on are written like their bytes. -/
theorem writeBufs_eq (device : Device) {bufs : List Buffer} : ∀ (count start : Nat),
    start + count = bufs.length →
    writeBufs device bufs (List.range' start count)
      = .ok (writeEach device ((bufs.drop start).map Buffer.bytes))
  | 0, start, all => by
      rw [List.drop_of_length_le (by omega)]
      rfl
  | count + 1, start, all => by
      have inside : start < bufs.length := by omega
      have rest := @writeBufs_eq device bufs count (start + 1) (by omega)
      rw [List.range'_succ, writeBufs, List.drop_eq_getElem_cons inside, List.map_cons, writeEach,
        Checked.entry_eq_ok (List.getElem?_eq_getElem inside)]
      simp only [bind, Except.bind]
      rw [rest]
      split <;> rfl

/-- **The frames of a batch.** The device is given each packet in a frame of its own, in order, up
to the first one that it rejects. -/
theorem doBatchWrite_frames (gro : GroDisablementFlags) (tcpOrder : MapOrder (List TcpGroItem))
    (udpOrder : MapOrder (List UdpGroItem)) (device : Device) (packets : List Bytes) :
    ∃ stop, doBatchWrite true gro tcpOrder udpOrder device packets = .ok stop
      ∧ stop.writes <+: packets.map LinuxTunWriter.frame
      ∧ ((∀ p ∈ packets, device.accepts (LinuxTunWriter.frame p) = true) →
        stop.writes = packets.map LinuxTunWriter.frame) := by
  unfold doBatchWrite
  by_cases nothing : packets = []
  · rw [if_pos nothing, nothing]
    exact ⟨_, rfl, List.prefix_rfl, fun _ => rfl⟩
  obtain ⟨state, merged, bufs, toWrite⟩ := @handleGro_full virtioNetHdrLen
    (packets.map packetBuffer) gro tcpOrder udpOrder fun buf among => by
      obtain ⟨p, -, rfl⟩ := List.mem_map.mp among
      exact packetBuffer_full p
  have frames : (packets.map packetBuffer).map Buffer.bytes
      = packets.map LinuxTunWriter.frame := by
    rw [List.map_map]
    refine List.map_congr_left fun p _ => ?_
    show (packetBuffer p).bytes = _
    rw [packetBuffer_eq]
  have written : writeBufs device state.bufs state.toWrite
      = .ok (writeEach device (packets.map LinuxTunWriter.frame)) := by
    rw [bufs, toWrite, List.range_eq_range', writeBufs_eq device _ 0 (Nat.zero_add _),
      List.drop_zero, frames]
  obtain ⟨within, all⟩ := writeEach_spec device (packets.map LinuxTunWriter.frame)
  rw [if_neg nothing, if_pos rfl, merged]
  dsimp only
  rw [written]
  refine ⟨_, rfl, within, fun each => congrArg Prod.fst (all fun write among => ?_)⟩
  obtain ⟨p, inside, rfl⟩ := List.mem_map.mp among
  exact each p inside

end RsTun.NativeTun
