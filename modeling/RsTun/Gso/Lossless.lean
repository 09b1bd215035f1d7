/-
**GRO loses and invents nothing.**

* `handleGro_lossless` — the buffers that are written, each split as its virtio header asks, are the
  packets that were handed over, but for the order.
-/

import RsTun.Gso.GroLoop
import RsTun.Gso.Accounting

namespace RsTun.Gso

open Library Library.Bytes

variable {offset : Nat} {gro : GroDisablementFlags} {input : List Buffer} {state : GroState}

/-- The items of a table in the order in which its lists come. -/
theorem MapOrder.flatten_perm {Key Item : Type} (order : MapOrder (List Item))
    (table : AList fun _ : Key => List Item) :
    (order.arrange (table.entries.map Sigma.snd)).flatten.Perm (Grouped.items table) :=
  (order.perm _).flatten

/-- The items in the order in which the accounting meets them. -/
def GroState.arranged (state : GroState) (tcpOrder : MapOrder (List TcpGroItem))
    (udpOrder : MapOrder (List UdpGroItem)) : List GroItem :=
  (tcpOrder.arrange (state.tcpTable.entries.map Sigma.snd)).flatten.map .tcp
    ++ (udpOrder.arrange (state.udpTable.entries.map Sigma.snd)).flatten.map .udp

theorem GroState.arranged_perm (state : GroState) (tcpOrder : MapOrder (List TcpGroItem))
    (udpOrder : MapOrder (List UdpGroItem)) :
    (state.arranged tcpOrder udpOrder).Perm state.items :=
  ((tcpOrder.flatten_perm _).map _).append ((udpOrder.flatten_perm _).map _)

/-- `handle_gro` is its loop and the accounting of the items. -/
theorem handleGro_eq {tcpOrder : MapOrder (List TcpGroItem)}
    {udpOrder : MapOrder (List UdpGroItem)} {start : GroState} {bufs : List Buffer}
    (looped : groLoop offset gro start.bufs.length 0 start = .ok state)
    (accounted : (state.arranged tcpOrder udpOrder).foldlM (accountItem offset) state.bufs
      = .ok bufs) :
    handleGro offset gro tcpOrder udpOrder start = .ok { state with bufs } := by
  rw [GroState.arranged, ← applyCoalesceAccounting_eq] at accounted
  obtain ⟨between, first, second⟩ := Checked.bind_eq_ok.mp accounted
  unfold handleGro
  rw [looped]
  simp only [bind, Except.bind]
  rw [first]
  dsimp only
  rw [second]
  rfl

/-- What the accounting makes of a batch. -/
theorem Batch.accounted {views : Nat → List PacketView} {bufs : List Buffer}
    {items arranged : List GroItem} {toWrite : List Nat} {outBufs : Nat}
    (batch : Batch offset gro input input.length bufs items toWrite views)
    (enough : input.length ≤ outBufs) (same : arranged.Perm items) : ∃ bufs',
      arranged.foldlM (accountItem offset) bufs = .ok bufs'
        ∧ (∀ index, (∀ item ∈ items, item.bufsIndex ≠ index) → bufs'[index]? = bufs[index]?)
        ∧ ∀ index ∈ toWrite, ∃ buf, bufs'[index]? = some buf
          ∧ Emits offset outBufs buf (views index) := by
  obtain ⟨bufs', done, kept, emitted⟩ := @account_spec offset
    (fun item buf => Emits offset outBufs buf (views item.bufsIndex)) arranged bufs
    ((same.map _).nodup_iff.mpr batch.distinct) fun item among => by
      obtain ⟨listed, buf, flow, found, stands, viewed⟩ := batch.held item (same.mem_iff.mp among)
      have ready := batch.ready buf (List.mem_of_getElem? found)
      have most := batch.ledger.length_le listed
      rw [List.length_map, viewed] at most
      refine ⟨buf, found, fun bufs present => ?_⟩
      rw [viewed]
      exact accountItem_spec present ready stands (Nat.le_trans most enough)
  have kept' : ∀ index, (∀ item ∈ items, item.bufsIndex ≠ index) → bufs'[index]? = bufs[index]? :=
    fun index free => kept index fun item among => free item (same.mem_iff.mp among)
  refine ⟨bufs', done, kept', fun index among => ?_⟩
  by_cases held : ∃ item ∈ items, item.bufsIndex = index
  · obtain ⟨item, inside, rfl⟩ := held
    exact emitted item (same.mem_iff.mpr inside)
  · have free : ∀ item ∈ items, item.bufsIndex ≠ index := fun item inside place =>
      held ⟨item, inside, place⟩
    obtain ⟨buf, present, viewed⟩ := batch.single index among free
    refine ⟨buf, ?_, ?_⟩
    · rw [kept' index free, present]
    · rw [viewed]
      exact (batch.ready buf (List.mem_of_getElem? present)).emits outBufs

/-- **GRO loses and invents nothing**, whatever the packets are, and whatever the order is in which
the tables are gone through. -/
theorem handleGro_lossless (tcpOrder : MapOrder (List TcpGroItem))
    (udpOrder : MapOrder (List UdpGroItem)) {outBufs : Nat}
    (ready : ∀ buf ∈ input, buf.Ready offset) (enough : input.length ≤ outBufs) : ∃ state,
      handleGro offset gro tcpOrder udpOrder ⟨input, ∅, ∅, []⟩ = .ok state
        ∧ state.toWrite.Nodup ∧ (∀ index ∈ state.toWrite, index < input.length)
        ∧ (∀ index buf, input[index]? = some buf → IsPlain offset gro buf →
          index ∈ state.toWrite ∧ ∃ buf', state.bufs[index]? = some buf'
            ∧ writtenPackets offset outBufs buf' = .ok [buf.packet offset])
        ∧ ∃ written : Nat → List Bytes,
          (∀ index ∈ state.toWrite, ∃ buf, state.bufs[index]? = some buf
            ∧ writtenPackets offset outBufs buf = .ok (written index))
          ∧ ((state.toWrite.flatMap written).map describe).Perm
            (input.map fun buf => describe (buf.packet offset)) := by
  have start : Turned offset gro input 0 ⟨input, ∅, ∅, []⟩ := .start ready
  obtain ⟨looped, done, turned⟩ := groLoop_keeps groTurn_spec input.length start (Nat.zero_add _)
  obtain ⟨views, batch⟩ := turned.batch
  obtain ⟨bufs', accounted, kept, emits⟩ :=
    batch.accounted enough (looped.arranged_perm tcpOrder udpOrder)
  refine ⟨_, handleGro_eq done accounted, batch.ledger.nodup, batch.ledger.early,
    fun index buf found isPlain => ?_, ?_⟩
  · have inside : index < input.length := (List.getElem?_eq_some_iff.mp found).1
    obtain ⟨among, same, free⟩ := batch.plain index buf inside found isPlain
    have present : bufs'[index]? = some buf := (kept index free).trans same
    exact ⟨among, buf, present, (ready buf (List.mem_of_getElem? found)).writtenPackets_eq outBufs⟩
  · choose! buf present written emitted described using emits
    refine ⟨written, fun index among => ⟨_, present index among, emitted index among⟩, ?_⟩
    have total := batch.ledger.total
    rw [List.take_of_length_le (by rw [List.length_map])] at total
    rw [List.map_flatMap]
    have same : looped.toWrite.flatMap (fun index => (written index).map describe)
        = looped.toWrite.flatMap views :=
      List.flatMap_congr fun index among => described index among
    rw [same]
    exact total

/-- A TCP packet over IPv4 of two bytes of payload. -/
def samplePacket (seq : UInt8) (tcpCsum payload : Bytes) : Buffer where
  bytes := List.replicate 10 0
    ++ [0x45, 0, 0, 42, 0, 1, 0, 0, 64, 6, 0x66, 0xcb, 10, 0, 0, 1, 10, 0, 0, 2]
    ++ [0, 80, 4, 210, 0, 0, 0, seq, 0, 0, 0, 9, 0x50, 0x10, 1, 0] ++ tcpCsum ++ [0, 0] ++ payload
  capacity := 1024

/-- Two packets that are merged, in the wrong order. -/
def sampleBatch : List Buffer :=
  [samplePacket 9 [0x92, 0x98] [3, 4], samplePacket 7 [0x94, 0x9c] [1, 2]]

/-- The order in which a table keeps its lists. -/
def MapOrder.identity (Value : Type) : MapOrder Value := ⟨id, .refl⟩

theorem handleGro_lossless_sample : ∃ state,
    handleGro 10 ⟨0⟩ (.identity _) (.identity _) ⟨sampleBatch, ∅, ∅, []⟩ = .ok state
      ∧ state.toWrite.Nodup ∧ (∀ index ∈ state.toWrite, index < 2)
      ∧ (∀ index buf, sampleBatch[index]? = some buf → IsPlain 10 ⟨0⟩ buf →
        index ∈ state.toWrite ∧ ∃ buf', state.bufs[index]? = some buf'
          ∧ writtenPackets 10 128 buf' = .ok [buf.packet 10])
      ∧ ∃ written : Nat → List Bytes,
        (∀ index ∈ state.toWrite, ∃ buf, state.bufs[index]? = some buf
          ∧ writtenPackets 10 128 buf = .ok (written index))
        ∧ ((state.toWrite.flatMap written).map describe).Perm
          (sampleBatch.map fun buf => describe (buf.packet 10)) := by
  refine handleGro_lossless _ _ ?_ (by decide)
  refine List.forall_mem_cons.mpr ⟨?_, List.forall_mem_singleton.mpr ?_⟩
  · exact ⟨by decide, by decide, by decide, by decide, rfl⟩
  · exact ⟨by decide, by decide, by decide, by decide, rfl⟩

end RsTun.Gso
