/-
**What `handle_gro` does with one packet.**

Whatever the tests find, no access is out of range. The packet is left as it is, or gets an item, or
goes into the buffer of one item: its *partner*, which the tests single out before anything changes.

* `Handled` — what becomes of the buffers and of the items.
* `tcpGroLoop_spec` — the items of a flow are tried from the last one down.
* `tcpGro_spec`, `udpGro_spec` — one packet.
* `groTurn_stepped` — one turn of the loop.
-/

import Mathlib.Data.List.InsertIdx
import Mathlib.Data.List.Perm.Basic
import RsTun.Gso.Coalesce
import RsTun.Library.Grouped

namespace RsTun.Gso

open Library Library.Bytes

/-! ### Partners -/

/-- The packet passes all tests that `tcp_gro` makes against this item. -/
def TcpGroItem.takes (item : TcpGroItem) (pkt : Bytes) (new : TcpGroItem) (offset : Nat)
    (isV6 : Bool) (bufs : List Buffer) : Bool :=
  match bufs[item.bufsIndex]?, bufs[new.bufsIndex]?,
    tcpPacketsCanCoalesce pkt new.iphLen new.tcphLen new.sentSeq new.pshSet new.gsoSize item bufs
      offset with
  | some itemBuf, some pktBuf, .ok can => item.passes can pkt new itemBuf pktBuf offset isV6
  | _, _, _ => false

/-- The packet passes all tests that `udp_gro` makes against this item. -/
def UdpGroItem.takes (item : UdpGroItem) (pkt : Bytes) (new : UdpGroItem) (offset : Nat)
    (isV6 : Bool) (bufs : List Buffer) : Bool :=
  match bufs[item.bufsIndex]?,
    udpPacketsCanCoalesce pkt new.iphLen new.gsoSize item bufs offset with
  | some itemBuf, .ok .append => item.passes pkt itemBuf offset isV6
  | _, _ => false

/-- **The partner of a TCP packet**: the last item of its flow whose tests it passes. -/
def tcpPartner (pkt : Bytes) (bufs : List Buffer) (offset pktI : Nat) (table : TcpGroTable)
    (isV6 : Bool) : Option GroItem :=
  match tcpGroItem pkt pktI isV6 with
  | .ok (some new) =>
      (((table.lookup new.key).getD []).reverse.find? fun item =>
        item.takes pkt new offset isV6 bufs).map .tcp
  | _ => none

/-- **The partner of a UDP packet**: the last item of its flow, if the packet passes its tests. -/
def udpPartner (pkt : Bytes) (bufs : List Buffer) (offset pktI : Nat) (table : UdpGroTable)
    (isV6 : Bool) : Option GroItem :=
  match udpGroItem pkt pktI isV6 with
  | .ok (some new) =>
      (((table.lookup new.key).getD []).getLast?.filter fun item =>
        item.takes pkt new offset isV6 bufs).map .udp
  | _ => none

/-- The partner of a candidate. -/
def GroState.candidatePartner (state : GroState) (pkt : Bytes) (offset i : Nat) :
    GroCandidateType → Option GroItem
  | .tcp4 => tcpPartner pkt state.bufs offset i state.tcpTable false
  | .tcp6 => tcpPartner pkt state.bufs offset i state.tcpTable true
  | .udp4 => udpPartner pkt state.bufs offset i state.udpTable false
  | .udp6 => udpPartner pkt state.bufs offset i state.udpTable true
  | .notCandidate => none

/-- **The partner of packet `i`**, before turn `i` of `handle_gro`. -/
def GroState.partner (state : GroState) (offset : Nat) (gro : GroDisablementFlags) (i : Nat) :
    Option GroItem :=
  match state.bufs[i]? with
  | none => none
  | some buf =>
      match packetIsGroCandidate (buf.packet offset) gro with
      | .ok candidate => state.candidatePartner (buf.packet offset) offset i candidate
      | .error _ => none

/-- Against an item that the packet can be merged behind. -/
theorem UdpGroItem.takes_iff {item new : UdpGroItem} {pkt : Bytes} {offset : Nat} {isV6 : Bool}
    {bufs : List Buffer} {itemBuf : Buffer} {can : CanCoalesce}
    (present : bufs[item.bufsIndex]? = some itemBuf)
    (tested : udpPacketsCanCoalesce pkt new.iphLen new.gsoSize item bufs offset = .ok can) :
    item.takes pkt new offset isV6 bufs = true
      ↔ can = .append ∧ item.passes pkt itemBuf offset isV6 = true := by
  unfold takes
  rw [present, tested]
  cases can with
  | append => exact ⟨fun passes => ⟨rfl, passes⟩, And.right⟩
  | prepend => exact ⟨nofun, nofun⟩
  | unavailable => exact ⟨nofun, nofun⟩

theorem TcpGroItem.takes_eq {item new : TcpGroItem} {pkt : Bytes} {offset : Nat} {isV6 : Bool}
    {bufs : List Buffer} {itemBuf pktBuf : Buffer} {can : CanCoalesce}
    (present : bufs[item.bufsIndex]? = some itemBuf)
    (pktPresent : bufs[new.bufsIndex]? = some pktBuf)
    (tested : tcpPacketsCanCoalesce pkt new.iphLen new.tcphLen new.sentSeq new.pshSet new.gsoSize
      item bufs offset = .ok can) :
    item.takes pkt new offset isV6 bufs = item.passes can pkt new itemBuf pktBuf offset isV6 := by
  unfold takes
  rw [present, pktPresent, tested]

/-- A packet that some item takes has a right checksum. -/
theorem TcpGroItem.checksumValid_of_takes {item new : TcpGroItem} {pkt : Bytes} {offset : Nat}
    {isV6 : Bool} {bufs : List Buffer} (takes : item.takes pkt new offset isV6 bufs = true) :
    checksumValid pkt item.iphLen 6 isV6 = .ok true := by
  unfold TcpGroItem.takes at takes
  split at takes
  · unfold passes at takes
    split at takes
    · cases takes
    · exact checksumValid_of_invalidCsum (accepts_iff.mp takes).2
    · exact checksumValid_of_invalidCsum (accepts_iff.mp (Bool.and_eq_true_iff.mp takes).2).2
  · cases takes

/-! ### Items -/

/-- A buffer that is put back changes nothing. -/
theorem set_of_getElem? {Entry : Type} {entries : List Entry} {index : Nat} {entry : Entry}
    (present : entries[index]? = some entry) : entries.set index entry = entries := by
  obtain ⟨inside, rfl⟩ := List.getElem?_eq_some_iff.mp present
  exact List.set_getElem_self inside

/-- An item of a flow, in front of the others. -/
theorem perm_of_entry {Item : Type} {wrap : Item → GroItem} {items : List Item} {i : Nat}
    {item : Item} (present : items[i]? = some item) :
    (items.map wrap).Perm (wrap item :: (items.eraseIdx i).map wrap)
      ∧ ∀ item', ((items.set i item').map wrap).Perm
        (wrap item' :: (items.eraseIdx i).map wrap) := by
  obtain ⟨inside, rfl⟩ := List.getElem?_eq_some_iff.mp present
  exact ⟨(List.getElem_cons_eraseIdx_perm inside).symm.map wrap, fun item' =>
    (List.set_perm_cons_eraseIdx inside item').map wrap⟩

/-- An item behind those of its flow. -/
theorem perm_of_append {Item : Type} {wrap : Item → GroItem} (items : List Item) (item : Item) :
    ((items ++ [item]).map wrap).Perm (wrap item :: items.map wrap) := by
  rw [List.map_append]
  exact List.perm_append_singleton _ _

/-- The items of one flow, in front of all others. -/
theorem perm_of_lookup {Key Item : Type} [DecidableEq Key] {wrap : Item → GroItem}
    {table : AList fun _ : Key => List Item} {key : Key} {group : List Item}
    (listed : table.lookup key = some group) : ∃ others,
      ((Grouped.items table).map wrap).Perm (group.map wrap ++ others)
        ∧ ∀ group', ((Grouped.items (table.insert key group')).map wrap).Perm
          (group'.map wrap ++ others) := by
  obtain ⟨others, before, after⟩ := Grouped.items_insert listed
  refine ⟨others.map wrap, ?_, fun group' => ?_⟩
  · rw [← List.map_append]
    exact before.map wrap
  · rw [← List.map_append]
    exact (after group').map wrap

/-- Items of one packet are forgotten. -/
def Dropped (items left : List GroItem) : Prop :=
  ∃ gone, items.Perm (gone ++ left) ∧ ∀ item ∈ gone, item.numMerged = 0

section Dropped

variable {items items' left others : List GroItem}

theorem Dropped.refl (items : List GroItem) : Dropped items items := ⟨[], .refl _, nofun⟩

theorem Dropped.cons {item : GroItem} (before : items.Perm (item :: items'))
    (single : item.numMerged = 0) (dropped : Dropped items' left) : Dropped items left := by
  obtain ⟨gone, rest, alone⟩ := dropped
  exact ⟨item :: gone, before.trans (rest.cons item), List.forall_mem_cons.mpr ⟨single, alone⟩⟩

theorem Dropped.perm_right (dropped : Dropped items left) (same : left.Perm items') :
    Dropped items items' := by
  obtain ⟨gone, rest, alone⟩ := dropped
  exact ⟨gone, rest.trans (same.append_left gone), alone⟩

theorem Dropped.among (before : items'.Perm (items ++ others)) (dropped : Dropped items left) :
    Dropped items' (left ++ others) := by
  obtain ⟨gone, rest, alone⟩ := dropped
  refine ⟨gone, before.trans ?_, alone⟩
  rw [← List.append_assoc]
  exact rest.append_right others

/-- The items that are left were there. -/
theorem Dropped.subset (dropped : Dropped items left) {item : GroItem} (inside : item ∈ left) :
    item ∈ items := by
  obtain ⟨gone, rest, -⟩ := dropped
  exact rest.mem_iff.mpr (List.mem_append_right gone inside)

end Dropped

/-- The item stands for the packet in its buffer, which is not that of packet `k`. -/
structure GroItem.Seated (offset k : Nat) (bufs : List Buffer) (item : GroItem) : Prop where
  apart : item.bufsIndex ≠ k
  stands : ∃ buf flow, bufs[item.bufsIndex]? = some buf ∧ buf.Placed offset
    ∧ item.Stands flow (buf.packet offset)

/-- **What becomes of packet `k`**, of the buffers and of the items. -/
inductive Handled (offset k : Nat) (pktBuf : Buffer) (bufs : List Buffer) (items : List GroItem)
    (partner : Option GroItem) : GroResult → List Buffer → List GroItem → Prop
  /-- It is left as it is. -/
  | noop {left : List GroItem} (alone : partner = none) (dropped : Dropped items left) :
      Handled offset k pktBuf bufs items partner .noop bufs left
  /-- It gets an item. -/
  | tableInsert {left items' : List GroItem} {new : GroItem} {flow : Flow}
      (alone : partner = none) (dropped : Dropped items left) (place : new.bufsIndex = k)
      (single : new.numMerged = 0) (stands : new.Stands flow (pktBuf.packet offset))
      (inserted : items'.Perm (new :: left)) :
      Handled offset k pktBuf bufs items partner .tableInsert bufs items'
  /-- It goes into the buffer of its partner. -/
  | coalesced {left items' : List GroItem} {item item' : GroItem} {flow : Flow}
      {buf merged : Buffer} {bufs' : List Buffer} (taken : partner = some item)
      (dropped : Dropped items (item :: left)) (present : bufs[item.bufsIndex]? = some buf)
      (stands : item.Stands flow (buf.packet offset))
      (into : item.Merged offset k flow buf pktBuf merged bufs bufs' item')
      (replaced : items'.Perm (item' :: left)) :
      Handled offset k pktBuf bufs items partner .coalesced bufs' items'

section Handled

variable {offset k : Nat} {pktBuf : Buffer} {bufs bufs' : List Buffer}
  {items items' items₁ items₁' others : List GroItem} {partner : Option GroItem}
  {result : GroResult}

theorem Handled.bufs_of_noop
    (handled : Handled offset k pktBuf bufs items partner .noop bufs' items') : bufs' = bufs := by
  cases handled
  rfl

/-- Among other items. -/
theorem Handled.among (handled : Handled offset k pktBuf bufs items partner result bufs' items')
    (before : items₁.Perm (items ++ others)) (after : items₁'.Perm (items' ++ others)) :
    Handled offset k pktBuf bufs items₁ partner result bufs' items₁' := by
  cases handled with
  | noop alone dropped => exact .noop alone ((dropped.among before).perm_right after.symm)
  | tableInsert alone dropped place single stands inserted =>
      exact .tableInsert alone (dropped.among before) place single stands
        (after.trans (inserted.append_right others))
  | coalesced taken dropped present stands into replaced =>
      exact .coalesced taken (dropped.among before) present stands into
        (after.trans (replaced.append_right others))

/-- After an item of one packet was forgotten. -/
theorem Handled.dropping {item : GroItem} (before : items₁.Perm (item :: items))
    (single : item.numMerged = 0)
    (handled : Handled offset k pktBuf bufs items partner result bufs' items') :
    Handled offset k pktBuf bufs items₁ partner result bufs' items' := by
  cases handled with
  | noop alone dropped => exact .noop alone (dropped.cons before single)
  | tableInsert alone dropped place fresh stands inserted =>
      exact .tableInsert alone (dropped.cons before single) place fresh stands inserted
  | coalesced taken dropped present stands into replaced =>
      exact .coalesced taken (dropped.cons before single) present stands into replaced

end Handled

/-! ### One packet -/

section Packet

variable {offset : Nat} {bufs : List Buffer} {pktBuf : Buffer} {isV6 : Bool}

/-- Items of one flow have headers of one length. -/
theorem TcpGroItem.Stands.iphLen_eq {item item' : TcpGroItem} {flow flow' : Flow}
    {pkt pkt' : Bytes} (stands : item.Stands flow pkt) (stands' : item'.Stands flow' pkt')
    (keyed : item.key = item'.key) : item.iphLen = item'.iphLen := by
  have family : flow.isV6 = flow'.isV6 := by rw [← stands.isV6, ← stands'.isV6, keyed]
  rw [stands.iphLen, stands'.iphLen, Flow.start, Flow.start, family]

/-- **The loop of `tcp_gro`.** -/
theorem tcpGroLoop_spec {new : TcpGroItem} {flow : Flow}
    (pktPresent : bufs[new.bufsIndex]? = some pktBuf) (pktPlaced : pktBuf.Placed offset)
    (fresh : new.Stands flow (pktBuf.packet offset)) (single : new.numMerged = 0) :
    ∀ (i : Nat) {items : List TcpGroItem}, i ≤ items.length →
      (∀ item ∈ items, item.key = new.key
        ∧ (GroItem.tcp item).Seated offset new.bufsIndex bufs) →
      ∃ result items' bufs',
        tcpGroLoop (pktBuf.packet offset) new offset isV6 i items bufs = .ok (result, items', bufs')
          ∧ (∀ item ∈ items', item.key = new.key)
          ∧ Handled offset new.bufsIndex pktBuf bufs (items.map .tcp)
            (((items.take i).reverse.find? fun item =>
              item.takes (pktBuf.packet offset) new offset isV6 bufs).map .tcp)
            (if result = .coalesced then .coalesced else .noop) bufs' (items'.map .tcp)
  | 0, items, _, each => ⟨_, _, _, rfl, fun item among => (each item among).1,
      .noop rfl (.refl _)⟩
  | i + 1, items, few, each => by
      obtain ⟨item, present⟩ : ∃ item, items[i]? = some item :=
        ⟨_, List.getElem?_eq_getElem few⟩
      have among : item ∈ items := List.mem_of_getElem? present
      obtain ⟨apart, replaced⟩ := @perm_of_entry _ GroItem.tcp _ _ _ present
      obtain ⟨keyed, other, buf, flow', bufPresent, placed, stands⟩ := each item among
      have again := fun items few each =>
        @tcpGroLoop_spec new flow pktPresent pktPlaced fresh single i items few each
      have last : (items.take (i + 1)).reverse = item :: (items.take i).reverse := by
        rw [List.take_add_one, present, List.reverse_append]
        rfl
      obtain ⟨can, tested, joins⟩ :=
        tcpPacketsCanCoalesce_spec bufPresent placed stands fresh keyed
      have takes := @TcpGroItem.takes_eq item new _ offset isV6 _ _ _ _ bufPresent pktPresent tested
      rw [tcpGroLoop, Checked.entry_eq_ok present, last, List.find?_cons, takes]
      simp only [bind, Except.bind]
      rw [tested]
      dsimp only
      by_cases unavailable : can = .unavailable
      · rw [if_pos unavailable, unavailable]
        exact again items (Nat.le_of_succ_le few) each
      obtain ⟨result, merged, bufs', done, judged, outcome⟩ := coalesceTcpPackets_spec bufPresent
        placed stands pktPresent pktPlaced fresh single other isV6 unavailable joins
      rw [if_neg unavailable, done]
      dsimp only
      obtain ⟨failed, alone, same⟩ | ⟨rfl, key, grown, into⟩ := outcome
      · rw [same]
        have refused := Bool.eq_false_of_not_eq_true fun passed =>
          failed (judged.success_iff.mpr passed)
        rw [refused]
        cases result with
        | success => exact absurd rfl failed
        | insufficientCap => exact again items (Nat.le_of_succ_le few) each
        | pshEnding => exact again items (Nat.le_of_succ_le few) each
        | pktInvalidCsum =>
            -- no other item of the flow takes a packet with a wrong checksum
            have none : (items.take i).reverse.find? (fun item =>
                item.takes (pktBuf.packet offset) new offset isV6 bufs) = none := by
              refine List.find?_eq_none.mpr fun another inside takes => ?_
              obtain ⟨keyed', -, buf', flow'', -, -, stands'⟩ :=
                each another (List.mem_of_mem_take (List.mem_reverse.mp inside))
              have valid := TcpGroItem.checksumValid_of_takes takes
              have same := TcpGroItem.Stands.iphLen_eq stands' stands (keyed'.trans keyed.symm)
              rw [same, judged.invalid rfl] at valid
              cases valid
            dsimp only
            rw [none]
            exact ⟨_, _, _, rfl, fun item among => (each item among).1, .noop rfl (.refl _)⟩
        | itemInvalidCsum =>
            obtain ⟨result, items', bufs', rest, keyed', handled⟩ := again (items.eraseIdx i) (by
              rw [List.length_eraseIdx_of_lt few]
              exact Nat.le_sub_one_of_lt few) fun item inside =>
                each item (List.mem_of_mem_eraseIdx inside)
            rw [List.take_eraseIdx_eq_take_of_le _ _ _ (Nat.le_refl i)] at handled
            exact ⟨result, items', bufs', rest, keyed', handled.dropping apart (alone rfl)⟩
      · rw [judged.success_iff.mp rfl]
        refine ⟨_, _, _, rfl, fun other inside => ?_, ?_⟩
        · obtain old | rfl := List.mem_or_eq_of_mem_set inside
          · exact (each other old).1
          · rw [key, keyed]
        · exact .coalesced rfl ((Dropped.refl _).perm_right apart) bufPresent stands into
            (replaced merged)

/-- **`tcp_gro`.** -/
theorem tcpGro_spec {k : Nat} {table : TcpGroTable} (present : bufs[k]? = some pktBuf)
    (placed : pktBuf.Placed offset) (candidate : GroCandidate isV6 6 (pktBuf.packet offset))
    (seated : ∀ item ∈ Grouped.items table, (GroItem.tcp item).Seated offset k bufs)
    (keyed : Grouped.Keyed TcpGroItem.key table) : ∃ result bufs' table',
      tcpGro bufs offset k table isV6 = .ok (result, bufs', table')
        ∧ Grouped.Keyed TcpGroItem.key table'
        ∧ Handled offset k pktBuf bufs ((Grouped.items table).map .tcp)
          (tcpPartner (pktBuf.packet offset) bufs offset k table isV6) result bufs'
          ((Grouped.items table').map .tcp) := by
  obtain ⟨item, read, spec⟩ := tcpGroItem_spec candidate k
  unfold tcpGro tcpPartner
  rw [Checked.entry_eq_ok present]
  simp only [bind, Except.bind]
  rw [placed.range_eq_ok]
  dsimp only
  rw [read]
  cases item with
  | none => exact ⟨_, _, _, rfl, keyed, .noop rfl (.refl _)⟩
  | some new =>
      obtain ⟨rfl, single, -, flow, describes, -, holds⟩ := spec new rfl
      have fresh : new.Stands flow (pktBuf.packet offset) := ⟨describes, by rwa [single]⟩
      dsimp only
      cases listed : table.lookup new.key with
      | none =>
          refine ⟨_, _, _, rfl, keyed.insert fun item among => ?_, @Handled.tableInsert _ _ _ _ _ _
            _ _ (.tcp new) flow rfl (.refl _) rfl single fresh ?_⟩
          · rw [List.mem_singleton.mp among]
          · rw [Grouped.items_insert_new listed]
            exact .refl _
      | some group =>
          obtain ⟨others, before, regroup⟩ := @perm_of_lookup _ _ _ GroItem.tcp _ _ _ listed
          obtain ⟨result, group', bufs', done, keyed', handled⟩ :=
            @tcpGroLoop_spec offset bufs pktBuf isV6 new flow present placed fresh single
              group.length group (Nat.le_refl _) fun item among =>
              ⟨keyed _ _ listed item among, seated item (Grouped.mem_items listed among)⟩
          rw [List.take_length] at handled
          dsimp only
          rw [done]
          cases result with
          | noop =>
              exact ⟨_, _, _, rfl, keyed.insert keyed', handled.among before (regroup group')⟩
          | coalesced =>
              exact ⟨_, _, _, rfl, keyed.insert keyed', handled.among before (regroup group')⟩
          | tableInsert =>
              obtain ⟨alone, dropped⟩ := handled
              refine ⟨_, _, _, rfl, keyed.insert fun item among => ?_, @Handled.tableInsert _ _ _ _
                _ _ _ _ (.tcp new) flow alone (dropped.among before) rfl single fresh
                ((regroup _).trans ((perm_of_append group' new).append_right others))⟩
              obtain old | same := List.mem_append.mp among
              · exact keyed' item old
              · rw [List.mem_singleton.mp same]

/-- **`udp_gro`.** -/
theorem udpGro_spec {k : Nat} {table : UdpGroTable} (present : bufs[k]? = some pktBuf)
    (placed : pktBuf.Placed offset) (candidate : GroCandidate isV6 17 (pktBuf.packet offset))
    (seated : ∀ item ∈ Grouped.items table, (GroItem.udp item).Seated offset k bufs)
    (keyed : Grouped.Keyed UdpGroItem.key table) (inhabited : Grouped.Inhabited table) :
    ∃ result bufs' table',
      udpGro bufs offset k table isV6 = .ok (result, bufs', table')
        ∧ Grouped.Keyed UdpGroItem.key table' ∧ Grouped.Inhabited table'
        ∧ Handled offset k pktBuf bufs ((Grouped.items table).map .udp)
          (udpPartner (pktBuf.packet offset) bufs offset k table isV6) result bufs'
          ((Grouped.items table').map .udp) := by
  obtain ⟨item, read, spec⟩ := udpGroItem_spec candidate k
  unfold udpGro udpPartner
  rw [Checked.entry_eq_ok present]
  simp only [bind, Except.bind]
  rw [placed.range_eq_ok]
  dsimp only
  rw [read]
  cases item with
  | none => exact ⟨_, _, _, rfl, keyed, inhabited, .noop rfl (.refl _)⟩
  | some new =>
      obtain ⟨rfl, single, flow, describes, -, holds⟩ := spec new rfl
      have fresh : new.Stands flow (pktBuf.packet offset) := ⟨describes, by rwa [single]⟩
      dsimp only
      cases listed : table.lookup new.key with
      | none =>
          refine ⟨_, _, _, rfl, keyed.insert fun item among => ?_, inhabited.insert nofun,
            @Handled.tableInsert _ _ _ _ _ _ _ _ (.udp new) flow rfl (.refl _) rfl single fresh ?_⟩
          · rw [List.mem_singleton.mp among]
          · rw [Grouped.items_insert_new listed]
            exact .refl _
      | some group =>
          obtain ⟨others, before, regroup⟩ := @perm_of_lookup _ _ _ GroItem.udp _ _ _ listed
          have keyed' := keyed _ _ listed
          have nonempty : 0 < group.length := List.length_pos_of_ne_nil (inhabited _ _ listed)
          obtain ⟨item, entry⟩ : ∃ item, group[group.length - 1]? = some item :=
            ⟨_, List.getElem?_eq_getElem (Nat.sub_lt nonempty Nat.one_pos)⟩
          have last : group.getLast? = some item := List.getLast?_eq_getElem?.trans entry
          have among : item ∈ group := List.mem_of_getElem? entry
          obtain ⟨apart, replaced⟩ := @perm_of_entry _ GroItem.udp _ _ _ entry
          obtain ⟨other, buf, flow', bufPresent, bufPlaced, stands⟩ :=
            seated item (Grouped.mem_items listed among)
          obtain ⟨can, tested, joins⟩ := udpPacketsCanCoalesce_spec bufPresent bufPlaced stands
            fresh (keyed' item among)
          obtain rfl := UdpGroItem.Stands.flow_eq stands fresh (keyed' item among)
          have takes := @UdpGroItem.takes_iff _ _ _ _ isV6 _ _ _ bufPresent tested
          -- where the packet is not merged, its item comes last
          have inserted : ¬ item.takes (pktBuf.packet offset) new offset isV6 bufs = true →
              ∃ result bufs' table',
                (.ok (.tableInsert, bufs, table.insert new.key (group ++ [new]))
                    : Checked GroError _) = .ok (result, bufs', table')
                  ∧ Grouped.Keyed UdpGroItem.key table' ∧ Grouped.Inhabited table'
                  ∧ Handled offset new.bufsIndex pktBuf bufs ((Grouped.items table).map .udp)
                    ((group.getLast?.filter fun item =>
                      item.takes (pktBuf.packet offset) new offset isV6 bufs).map .udp)
                    result bufs' ((Grouped.items table').map .udp) := fun refused => by
            refine ⟨_, _, _, rfl, keyed.insert fun other inside => ?_,
              inhabited.insert (List.append_ne_nil_of_right_ne_nil _ (List.cons_ne_nil _ _)),
              @Handled.tableInsert _ _ _ _ _ _ _ _ (.udp new) _ ?_ ((Dropped.refl _).among before)
                rfl single fresh
                ((regroup _).trans ((perm_of_append group new).append_right others))⟩
            · obtain old | same := List.mem_append.mp inside
              · exact keyed' other old
              · rw [List.mem_singleton.mp same]
            · rw [last, Option.filter_some, if_neg refused]
              rfl
          dsimp only
          rw [Checked.minus_eq_ok nonempty]
          dsimp only
          rw [Checked.entry_eq_ok entry]
          dsimp only
          rw [tested]
          dsimp only
          by_cases available : can = .append
          · obtain ⟨multiple, short⟩ := joins available
            obtain ⟨result, merged, bufs', done, judged, outcome⟩ := coalesceUdpPackets_spec
              bufPresent bufPlaced stands fresh single isV6 multiple short
            rw [if_pos available, done]
            dsimp only
            obtain ⟨failed, same⟩ | ⟨rfl, key, grown, into⟩ := outcome
            · rw [if_neg failed, same]
              exact inserted fun accepted => failed (judged.mpr (takes.mp accepted).2)
            · rw [if_pos rfl]
              refine ⟨_, _, _, rfl, keyed.insert fun other inside => ?_, inhabited.insert ?_,
                .coalesced ?_ (((Dropped.refl _).among before).perm_right
                  (apart.append_right others)) bufPresent stands into
                  ((regroup _).trans ((replaced merged).append_right others))⟩
              · obtain old | rfl := List.mem_or_eq_of_mem_set inside
                · exact keyed' other old
                · rw [key, keyed' item among]
              · rw [← List.length_pos_iff_ne_nil, List.length_set]
                exact nonempty
              · have accepted := takes.mpr ⟨available, judged.mp rfl⟩
                show ((group.getLast?.filter _).map _) = _
                rw [last, Option.filter_some, if_pos accepted]
                rfl
          · rw [if_neg available]
            exact inserted fun accepted => available (takes.mp accepted).1

end Packet

/-! ### One turn -/

/-- The items of both tables. -/
def GroState.items (state : GroState) : List GroItem :=
  (Grouped.items state.tcpTable).map .tcp ++ (Grouped.items state.udpTable).map .udp

/-- Every list of a table is of its own key, and no list of UDP items is empty. -/
structure GroState.Tables (state : GroState) : Prop where
  tcpKeyed : Grouped.Keyed TcpGroItem.key state.tcpTable
  udpKeyed : Grouped.Keyed UdpGroItem.key state.udpTable
  udpInhabited : Grouped.Inhabited state.udpTable

theorem GroState.Tables.empty (bufs : List Buffer) (toWrite : List Nat) :
    GroState.Tables ⟨bufs, ∅, ∅, toWrite⟩ := ⟨.empty _, .empty _, .empty⟩

section Turn

variable {offset k : Nat} {gro : GroDisablementFlags} {state : GroState} {buf : Buffer}

theorem GroState.evaluate_spec (tables : state.Tables)
    (seated : ∀ item ∈ state.items, item.Seated offset k state.bufs)
    (present : state.bufs[k]? = some buf) (placed : buf.Placed offset)
    {candidate : GroCandidateType} (fits : candidate.Fits (buf.packet offset)) :
    ∃ result state', state.evaluate offset k candidate = .ok (result, state')
      ∧ state'.toWrite = state.toWrite ∧ state'.Tables
      ∧ Handled offset k buf state.bufs state.items
        (state.candidatePartner (buf.packet offset) offset k candidate) result state'.bufs
        state'.items := by
  have tcp : ∀ isV6, GroCandidate isV6 6 (buf.packet offset) → ∃ result state',
      state.tcp offset k isV6 = .ok (result, state') ∧ state'.toWrite = state.toWrite
        ∧ state'.Tables ∧ Handled offset k buf state.bufs state.items
          (tcpPartner (buf.packet offset) state.bufs offset k state.tcpTable isV6) result
          state'.bufs state'.items := by
    intro isV6 candidate
    obtain ⟨result, bufs', table', done, keyed, handled⟩ := tcpGro_spec present placed candidate
      (fun item inside => seated _ (List.mem_append_left _ (List.mem_map_of_mem inside)))
      tables.tcpKeyed
    unfold GroState.tcp
    simp only [bind, Except.bind]
    rw [done]
    exact ⟨_, _, rfl, rfl, ⟨keyed, tables.udpKeyed, tables.udpInhabited⟩,
      handled.among (.refl _) (.refl _)⟩
  have udp : ∀ isV6, GroCandidate isV6 17 (buf.packet offset) → ∃ result state',
      state.udp offset k isV6 = .ok (result, state') ∧ state'.toWrite = state.toWrite
        ∧ state'.Tables ∧ Handled offset k buf state.bufs state.items
          (udpPartner (buf.packet offset) state.bufs offset k state.udpTable isV6) result
          state'.bufs state'.items := by
    intro isV6 candidate
    obtain ⟨result, bufs', table', done, keyed, inhabited, handled⟩ := udpGro_spec present placed
      candidate (fun item inside => seated _ (List.mem_append_right _ (List.mem_map_of_mem inside)))
      tables.udpKeyed tables.udpInhabited
    unfold GroState.udp
    simp only [bind, Except.bind]
    rw [done]
    exact ⟨_, _, rfl, rfl, ⟨tables.tcpKeyed, keyed, inhabited⟩,
      handled.among List.perm_append_comm List.perm_append_comm⟩
  cases candidate with
  | notCandidate => exact ⟨_, _, rfl, rfl, tables, .noop rfl (.refl _)⟩
  | tcp4 => exact tcp false fits
  | tcp6 => exact tcp true fits
  | udp4 => exact udp false fits
  | udp6 => exact udp true fits

/-- **What a turn does** with packet `k`, which is in `buf`. -/
structure Stepped (offset : Nat) (gro : GroDisablementFlags) (k : Nat) (buf : Buffer)
    (state : GroState) (result : GroResult) (bufs : List Buffer) (state' : GroState) : Prop where
  tables : state'.Tables
  handled : Handled offset k buf state.bufs state.items (state.partner offset gro k) result bufs
    state'.items
  candidate : result ≠ .noop → packetIsGroCandidate (buf.packet offset) gro ≠ .ok .notCandidate
  toWrite : state'.toWrite
    = if result = .coalesced then state.toWrite else state.toWrite ++ [k]
  /-- A packet that is left as it is gets an empty virtio header. -/
  bufs : ∃ bytes, writeHdr .default buf.bytes offset = .ok bytes ∧ bytes.length = buf.bytes.length
    ∧ bytes.drop offset = buf.packet offset
    ∧ state'.bufs = if result = .noop then bufs.set k { buf with bytes } else bufs

/-- **One turn.** -/
theorem groTurn_stepped (tables : state.Tables)
    (seated : ∀ item ∈ state.items, item.Seated offset k state.bufs)
    (present : state.bufs[k]? = some buf) (placed : buf.Placed offset) :
    ∃ result bufs state', groTurn offset gro k state = .ok state'
      ∧ Stepped offset gro k buf state result bufs state' := by
  obtain ⟨candidate, read, fits⟩ := packetIsGroCandidate_spec (buf.packet offset) gro
  obtain ⟨result, state', done, toWrite, tables', handled⟩ :=
    GroState.evaluate_spec tables seated present placed fits
  obtain ⟨bytes, written, sized, data, -⟩ := placed.writeHdr_spec .default
  have partner : state.partner offset gro k
      = state.candidatePartner (buf.packet offset) offset k candidate := by
    unfold GroState.partner
    rw [present]
    dsimp only
    rw [read]
  have other : result ≠ .noop →
      packetIsGroCandidate (buf.packet offset) gro ≠ .ok .notCandidate := fun other plain => by
    cases read.symm.trans plain
    cases done
    exact other rfl
  have room : ¬ (offset < virtioNetHdrLen ∨ buf.bytes.length < offset) :=
    not_or.mpr ⟨Nat.not_lt.mpr placed.room, Nat.not_lt.mpr placed.long⟩
  have same : ∀ bufs toWrite,
      GroState.Tables ⟨bufs, state'.tcpTable, state'.udpTable, toWrite⟩ := fun bufs toWrite =>
    ⟨tables'.tcpKeyed, tables'.udpKeyed, tables'.udpInhabited⟩
  rw [← partner] at handled
  unfold groTurn
  rw [Checked.entry_eq_ok present]
  simp only [bind, Except.bind]
  rw [if_neg room, placed.range_eq_ok]
  dsimp only
  rw [read]
  dsimp only
  rw [done]
  cases result with
  | noop =>
      have present' : state'.bufs[k]? = some buf := by rw [handled.bufs_of_noop, present]
      dsimp only
      rw [Checked.entry_eq_ok present']
      dsimp only
      rw [written]
      exact ⟨.noop, state'.bufs, _, rfl, same _ _, handled, other, congrArg (· ++ [k]) toWrite,
        bytes, written, sized, data, rfl⟩
  | tableInsert =>
      exact ⟨.tableInsert, state'.bufs, _, rfl, same _ _, handled, other,
        congrArg (· ++ [k]) toWrite, bytes, written, sized, data, rfl⟩
  | coalesced =>
      exact ⟨.coalesced, state'.bufs, _, rfl, tables', handled, other, toWrite, bytes, written,
        sized, data, rfl⟩

end Turn

end RsTun.Gso
