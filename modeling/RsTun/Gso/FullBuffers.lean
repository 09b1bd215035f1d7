/-
**Buffers without room are never merged.**

A merging asks for the length of the merged packet within the capacity of the buffer that takes it.
Where every buffer is as long as its capacity there is none, whichever of the two packets comes in
front.

* `not_accepts_full` — the test of the capacity fails.
* `Unmerged.partner` — no packet has a partner.
* `groTurn_full` — one turn, which `groLoop_keeps` takes to all of them.
* `handleGro_full` — every buffer is written as it was handed over.
-/

import RsTun.Gso.Lossless

namespace RsTun.Gso

open Library Library.Bytes

/-- **A buffer without room**: zeros for a virtio header in front of the packet, and no capacity
behind it. -/
structure Buffer.Full (offset : Nat) (buffer : Buffer) : Prop where
  room : virtioNetHdrLen ≤ offset
  long : offset ≤ buffer.bytes.length
  capacity : buffer.capacity = buffer.bytes.length
  zeroed : slice buffer.bytes (offset - virtioNetHdrLen) virtioNetHdrLen
    = List.replicate virtioNetHdrLen 0

theorem Buffer.Full.placed {offset : Nat} {buffer : Buffer} (full : buffer.Full offset) :
    buffer.Placed offset := ⟨full.room, full.long, Nat.le_of_eq full.capacity.symm⟩

/-- An item of one packet, which its buffer holds. -/
structure Alone (offset : Nat) (bufs : List Buffer) (item : GroItem) : Prop where
  single : item.numMerged = 0
  stands : ∃ buf flow, bufs[item.bufsIndex]? = some buf ∧ buf.Full offset
    ∧ item.Stands flow (buf.packet offset)

/-! ### The capacity -/

section Capacity

variable {offset : Nat} {bufs : List Buffer} {buf pktBuf taker : Buffer} {flow flow' : Flow}
  {isV6 : Bool}

/-- **Neither buffer has room for both packets.** -/
theorem not_accepts_full {header gso gso' seq seq' numMerged numMerged' : Nat} {proto : UInt8}
    (holds : flow.Holds seq gso numMerged (buf.packet offset))
    (holds' : flow.Holds seq' gso' numMerged' (pktBuf.packet offset))
    (headers : header = flow.headersLen) (full : taker.Full offset)
    (either : taker = buf ∨ taker = pktBuf) {iphLen : Nat} :
    accepts taker offset (coalescedLen buf offset header (pktBuf.packet offset))
      (pktBuf.packet offset) (buf.packet offset) iphLen numMerged proto isV6 = false := by
  have least := holds.full
  have positive := holds.positive
  have least' := holds'.full
  have positive' := holds'.positive
  have capacity := full.capacity
  have size := taker.length_packet offset
  refine Bool.eq_false_of_not_eq_true fun accepted => ?_
  have room := (accepts_iff.mp accepted).1
  unfold coalescedLen at room
  obtain rfl | rfl := either
  · omega
  · omega

/-- **A TCP packet does not fit**, neither behind that of the item nor in front of it. -/
theorem TcpGroItem.takes_full {item new : TcpGroItem}
    (present : bufs[item.bufsIndex]? = some buf) (full : buf.Full offset)
    (stands : item.Stands flow (buf.packet offset))
    (pktPresent : bufs[new.bufsIndex]? = some pktBuf) (pktFull : pktBuf.Full offset)
    (fresh : new.Stands flow' (pktBuf.packet offset)) (keyed : item.key = new.key) :
    item.takes (pktBuf.packet offset) new offset isV6 bufs = false := by
  obtain ⟨can, tested, joins⟩ :=
    tcpPacketsCanCoalesce_spec present full.placed stands fresh keyed
  have headers := stands.headers
  rw [TcpGroItem.takes_eq present pktPresent tested]
  cases can with
  | unavailable => rfl
  | append =>
      obtain rfl := joins.flow_eq nofun
      exact not_accepts_full stands.holds fresh.holds headers full (.inl rfl)
  | prepend =>
      obtain rfl := joins.flow_eq nofun
      have refused := @not_accepts_full _ _ _ _ _ isV6 _ _ _ _ _ _ _ 6 stands.holds fresh.holds
        headers pktFull (.inr rfl) item.iphLen
      exact Bool.and_eq_false_imp.mpr fun _ => refused

/-- **A UDP packet does not fit** behind that of the item. -/
theorem UdpGroItem.takes_full {item new : UdpGroItem}
    (present : bufs[item.bufsIndex]? = some buf) (full : buf.Full offset)
    (stands : item.Stands flow (buf.packet offset))
    (fresh : new.Stands flow' (pktBuf.packet offset)) (keyed : item.key = new.key) :
    item.takes (pktBuf.packet offset) new offset isV6 bufs = false := by
  obtain ⟨can, tested, -⟩ := udpPacketsCanCoalesce_spec present full.placed stands fresh keyed
  obtain rfl := stands.flow_eq fresh keyed
  refine Bool.eq_false_of_not_eq_true fun takes => ?_
  have accepted := ((UdpGroItem.takes_iff present tested).mp takes).2
  have refused := @not_accepts_full _ _ _ _ _ isV6 _ _ _ _ _ _ _ 17 stands.holds fresh.holds
    stands.headers full (.inl rfl) item.iphLen
  cases refused.symm.trans accepted

end Capacity

/-! ### The batch -/

/-- **Nothing was merged** before turn `k`. -/
structure Unmerged (offset : Nat) (input : List Buffer) (k : Nat) (state : GroState) : Prop where
  bufs : state.bufs = input
  toWrite : state.toWrite = List.range k
  tables : state.Tables
  alone : ∀ item ∈ state.items, item.bufsIndex < k ∧ Alone offset input item

section Turn

variable {offset k : Nat} {gro : GroDisablementFlags} {input : List Buffer} {state : GroState}

/-- **No packet has a partner.** -/
theorem Unmerged.partner (unmerged : Unmerged offset input k state) {buf : Buffer}
    (present : input[k]? = some buf) (full : buf.Full offset) :
    state.partner offset gro k = none := by
  obtain ⟨candidate, read, fits⟩ := packetIsGroCandidate_spec (buf.packet offset) gro
  have tcp : ∀ {isV6}, GroCandidate isV6 6 (buf.packet offset) →
      tcpPartner (buf.packet offset) state.bufs offset k state.tcpTable isV6 = none := by
    intro isV6 candidate
    obtain ⟨item, read, spec⟩ := tcpGroItem_spec candidate k
    unfold tcpPartner
    rw [read]
    cases item with
    | none => rfl
    | some new =>
        obtain ⟨rfl, single, -, flow, describes, -, holds⟩ := spec new rfl
        have fresh : new.Stands flow (buf.packet offset) := ⟨describes, by rwa [single]⟩
        have none : ((state.tcpTable.lookup new.key).getD []).reverse.find? (fun item =>
            item.takes (buf.packet offset) new offset isV6 state.bufs) = none := by
          refine List.find?_eq_none.mpr fun item inside => Bool.eq_false_iff.mp ?_
          cases listed : state.tcpTable.lookup new.key with
          | none =>
              rw [listed] at inside
              cases inside
          | some group =>
              rw [listed] at inside
              have among := List.mem_reverse.mp inside
              obtain ⟨-, -, itemBuf, flow', itemPresent, itemFull, stands⟩ :=
                unmerged.alone (.tcp item) (List.mem_append_left _
                  (List.mem_map_of_mem (Grouped.mem_items listed among)))
              rw [unmerged.bufs]
              exact TcpGroItem.takes_full itemPresent itemFull stands present full fresh
                (unmerged.tables.tcpKeyed _ _ listed item among)
        dsimp only
        rw [none]
        rfl
  have udp : ∀ {isV6}, GroCandidate isV6 17 (buf.packet offset) →
      udpPartner (buf.packet offset) state.bufs offset k state.udpTable isV6 = none := by
    intro isV6 candidate
    obtain ⟨item, read, spec⟩ := udpGroItem_spec candidate k
    unfold udpPartner
    rw [read]
    cases item with
    | none => rfl
    | some new =>
        obtain ⟨rfl, single, flow, describes, -, holds⟩ := spec new rfl
        have fresh : new.Stands flow (buf.packet offset) := ⟨describes, by rwa [single]⟩
        have none : ((state.udpTable.lookup new.key).getD []).getLast?.filter (fun item =>
            item.takes (buf.packet offset) new offset isV6 state.bufs) = none := by
          refine Option.filter_eq_none_iff.mpr fun item last => Bool.eq_false_iff.mp ?_
          cases listed : state.udpTable.lookup new.key with
          | none =>
              rw [listed] at last
              cases last
          | some group =>
              rw [listed] at last
              have among : item ∈ group := List.mem_of_getLast? last
              obtain ⟨-, -, itemBuf, flow', itemPresent, itemFull, stands⟩ :=
                unmerged.alone (.udp item) (List.mem_append_right _
                  (List.mem_map_of_mem (Grouped.mem_items listed among)))
              rw [unmerged.bufs]
              exact UdpGroItem.takes_full itemPresent itemFull stands fresh
                (unmerged.tables.udpKeyed _ _ listed item among)
        dsimp only
        rw [none]
        rfl
  unfold GroState.partner
  rw [unmerged.bufs, present]
  dsimp only
  rw [read]
  cases candidate with
  | notCandidate => rfl
  | tcp4 => exact tcp fits
  | tcp6 => exact tcp fits
  | udp4 => exact udp fits
  | udp6 => exact udp fits

/-- **One turn**: the packet is to be written as it is. -/
theorem groTurn_full (allFull : ∀ buf ∈ input, buf.Full offset)
    (unmerged : Unmerged offset input k state) (inside : k < input.length) :
    ∃ state', groTurn offset gro k state = .ok state'
      ∧ Unmerged offset input (k + 1) state' := by
  obtain ⟨buf, found⟩ : ∃ buf, input[k]? = some buf := ⟨_, List.getElem?_eq_getElem inside⟩
  have full := allFull buf (List.mem_of_getElem? found)
  have present : state.bufs[k]? = some buf := by rw [unmerged.bufs, found]
  have partner := @Unmerged.partner _ _ gro _ _ unmerged _ found full
  obtain ⟨result, bufs, state', done, tables, handled, -, toWrite, bytes, written, -, -, after⟩ :=
    @groTurn_stepped _ _ gro _ _ unmerged.tables (fun item among => by
      obtain ⟨early, -, buf, flow, present, full, stands⟩ := unmerged.alone item among
      rw [unmerged.bufs]
      exact ⟨Nat.ne_of_lt early, buf, flow, present, full.placed, stands⟩) present full.placed
  cases (Buffer.writeHdr_zeros full.room full.long full.zeroed).symm.trans written
  have longer : state.toWrite ++ [k] = List.range (k + 1) := by
    rw [unmerged.toWrite, List.range_succ]
  have later : ∀ {left}, Dropped state.items left →
      ∀ item ∈ left, item.bufsIndex < k + 1 ∧ Alone offset input item :=
    fun dropped item among => by
      obtain ⟨early, alone⟩ := unmerged.alone item (dropped.subset among)
      exact ⟨Nat.lt_succ_of_lt early, alone⟩
  refine ⟨state', done, ?_, ?_, tables, ?_⟩
  · cases handled with
    | noop alone dropped => exact (after.trans (set_of_getElem? present)).trans unmerged.bufs
    | tableInsert => exact after.trans unmerged.bufs
    | coalesced taken => cases partner.symm.trans taken
  · cases handled with
    | noop => exact toWrite.trans longer
    | tableInsert => exact toWrite.trans longer
    | coalesced taken => cases partner.symm.trans taken
  · cases handled with
    | noop alone dropped => exact later dropped
    | tableInsert alone dropped place single stands inserted =>
        intro item among
        obtain rfl | old := List.mem_cons.mp (inserted.mem_iff.mp among)
        · refine ⟨by rw [place]; exact Nat.lt_succ_self k, single, buf, _, ?_, full, stands⟩
          rw [place, found]
        · exact later dropped item old
    | coalesced taken => cases partner.symm.trans taken

/-- The accounting of items of one packet changes nothing. -/
theorem account_alone : ∀ {items : List GroItem}, (∀ item ∈ items, Alone offset input item) →
    items.foldlM (accountItem offset) input = .ok input
  | [], _ => rfl
  | item :: items, alone => by
      obtain ⟨single, buf, flow, present, full, -⟩ := alone item List.mem_cons_self
      have same := set_of_getElem? present
      rw [List.foldlM_cons, accountItem_single present
        (Buffer.writeHdr_zeros full.room full.long full.zeroed) single, same]
      exact account_alone fun other among => alone other (List.mem_cons_of_mem _ among)

/-- **`handle_gro` merges nothing** where no buffer has room: every buffer is to be written, in
order, as it was handed over. -/
theorem handleGro_full (gro : GroDisablementFlags) (tcpOrder : MapOrder (List TcpGroItem))
    (udpOrder : MapOrder (List UdpGroItem)) (allFull : ∀ buf ∈ input, buf.Full offset) :
    ∃ state, handleGro offset gro tcpOrder udpOrder ⟨input, ∅, ∅, []⟩ = .ok state
      ∧ state.bufs = input ∧ state.toWrite = List.range input.length := by
  have start : Unmerged offset input 0 ⟨input, ∅, ∅, []⟩ :=
    ⟨rfl, rfl, .empty _ _, fun _ among => by cases among⟩
  obtain ⟨state, looped, bufs, toWrite, -, each⟩ :=
    groLoop_keeps (fun unmerged inside => groTurn_full allFull unmerged inside) input.length start
      (Nat.zero_add _)
  have alone : ∀ item ∈ state.arranged tcpOrder udpOrder, Alone offset input item :=
    fun item among => (each item ((state.arranged_perm tcpOrder udpOrder).mem_iff.mp among)).2
  have accounted := account_alone alone
  rw [← bufs] at accounted
  exact ⟨_, handleGro_eq looped accounted, bufs, toWrite⟩

end Turn

end RsTun.Gso
