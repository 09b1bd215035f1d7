/-
**A batch that is being merged.**

`Batch` says what the first `k` packets of a batch have become: the buffers to be written stand for
them, each packet once (`Ledger`), and every item of the tables stands for a buffer of its own. One
lemma for each thing that the loop does.

* `Batch.drop` — an item of one packet is forgotten.
* `Batch.push` — a packet is to be written as it is.
* `Batch.insert` — a packet is to be written, and has an item.
* `Batch.join` — a packet went into the buffer of an item.
-/

import RsTun.Gso.Coalesce
import RsTun.Library.Ledger

namespace RsTun.Gso

open Library Library.Bytes

/-- The buffer holds no packet that the merging looks into. -/
def IsPlain (offset : Nat) (gro : GroDisablementFlags) (buffer : Buffer) : Prop :=
  packetIsGroCandidate (buffer.packet offset) gro = .ok .notCandidate

/-- The item stands for its buffer, which is to be written. -/
structure Held (offset : Nat) (bufs : List Buffer) (toWrite : List Nat)
    (views : Nat → List PacketView) (item : GroItem) : Prop where
  listed : item.bufsIndex ∈ toWrite
  stands : ∃ buf flow, bufs[item.bufsIndex]? = some buf ∧ item.Stands flow (buf.packet offset)
    ∧ views item.bufsIndex = item.views flow (buf.packet offset)

/-- What the first `k` packets of the batch `input` have become. -/
structure Batch (offset : Nat) (gro : GroDisablementFlags) (input : List Buffer) (k : Nat)
    (bufs : List Buffer) (items : List GroItem) (toWrite : List Nat)
    (views : Nat → List PacketView) : Prop where
  count : bufs.length = input.length
  ready : ∀ buf ∈ bufs, buf.Ready offset
  ahead : ∀ index, k ≤ index → bufs[index]? = input[index]?
  ledger : Ledger (input.map fun buf => describe (buf.packet offset)) k toWrite views
  held : ∀ item ∈ items, Held offset bufs toWrite views item
  distinct : (items.map GroItem.bufsIndex).Nodup
  single : ∀ index ∈ toWrite, (∀ item ∈ items, item.bufsIndex ≠ index) →
    ∃ buf, bufs[index]? = some buf ∧ views index = [describe (buf.packet offset)]
  plain : ∀ index buf, index < k → input[index]? = some buf → IsPlain offset gro buf →
    index ∈ toWrite ∧ bufs[index]? = some buf ∧ ∀ item ∈ items, item.bufsIndex ≠ index

namespace Batch

variable {offset k : Nat} {gro : GroDisablementFlags} {input bufs bufs' : List Buffer}
  {items items' : List GroItem} {item item' : GroItem} {toWrite : List Nat}
  {views : Nat → List PacketView} {buf : Buffer}

theorem start (room : ∀ buf ∈ input, buf.Ready offset) (views : Nat → List PacketView) :
    Batch offset gro input 0 input [] [] views where
  count := rfl
  ready := room
  ahead := fun _ _ => rfl
  ledger := .empty _ _
  held := nofun
  distinct := List.nodup_nil
  single := nofun
  plain := nofun

/-- The order of the items does not count. -/
theorem perm (batch : Batch offset gro input k bufs items toWrite views)
    (same : items.Perm items') : Batch offset gro input k bufs items' toWrite views where
  count := batch.count
  ready := batch.ready
  ahead := batch.ahead
  ledger := batch.ledger
  held := fun item among => batch.held item (same.mem_iff.mpr among)
  distinct := (same.map _).nodup_iff.mp batch.distinct
  single := fun index among free =>
    batch.single index among fun item inside => free item (same.mem_iff.mp inside)
  plain := fun index buf early found isPlain => by
    obtain ⟨among, kept, free⟩ := batch.plain index buf early found isPlain
    exact ⟨among, kept, fun item inside => free item (same.mem_iff.mpr inside)⟩

/-- **An item of one packet is forgotten.** -/
theorem drop (batch : Batch offset gro input k bufs (item :: items) toWrite views)
    (alone : item.numMerged = 0) : Batch offset gro input k bufs items toWrite views where
  count := batch.count
  ready := batch.ready
  ahead := batch.ahead
  ledger := batch.ledger
  held := fun other among => batch.held other (List.mem_cons_of_mem _ among)
  distinct := (List.nodup_cons.mp batch.distinct).2
  single := fun index among free => by
    by_cases same : item.bufsIndex = index
    · subst same
      obtain ⟨buf, flow, found, stands, viewed⟩ := (batch.held item List.mem_cons_self).stands
      exact ⟨buf, found, viewed.trans (stands.views_single alone)⟩
    · refine batch.single index among fun other inside => ?_
      obtain rfl | later := List.mem_cons.mp inside
      · exact same
      · exact free other later
  plain := fun index buf early found isPlain => by
    obtain ⟨among, kept, free⟩ := batch.plain index buf early found isPlain
    exact ⟨among, kept, fun other inside => free other (List.mem_cons_of_mem _ inside)⟩

/-- The packet that comes next. -/
theorem next (batch : Batch offset gro input k bufs items toWrite views)
    (found : input[k]? = some buf) : bufs[k]? = some buf ∧ buf.Ready offset
      ∧ (input.map fun buf => describe (buf.packet offset))[k]?
        = some (describe (buf.packet offset)) := by
  have present := (batch.ahead k (Nat.le_refl k)).trans found
  refine ⟨present, batch.ready buf (List.mem_of_getElem? present), ?_⟩
  rw [List.getElem?_map, found]
  rfl

/-- An item stands for a buffer before the next packet. -/
theorem bufsIndex_lt (batch : Batch offset gro input k bufs items toWrite views)
    (among : item ∈ items) : item.bufsIndex < k :=
  batch.ledger.early _ (batch.held item among).listed

/-- **A packet to be written as it is.** -/
theorem push (batch : Batch offset gro input k bufs items toWrite views)
    (found : input[k]? = some buf) :
    Batch offset gro input (k + 1) bufs items (toWrite ++ [k])
      (Function.update views k [describe (buf.packet offset)]) := by
  obtain ⟨present, -, input⟩ := batch.next found
  refine ⟨batch.count, batch.ready, fun index late => batch.ahead index (by omega),
    batch.ledger.push input, fun item among => ?_, batch.distinct, fun index among free => ?_,
    fun index other early found' isPlain => ?_⟩
  · obtain ⟨listed, other, flow, found', stands, viewed⟩ := batch.held item among
    have early := batch.bufsIndex_lt among
    refine ⟨List.mem_append_left _ listed, other, flow, found', stands, ?_⟩
    rw [Function.update_of_ne (by omega), viewed]
  · obtain old | new := List.mem_append.mp among
    · obtain ⟨other, found', viewed⟩ := batch.single index old free
      have early := batch.ledger.early index old
      exact ⟨other, found', by rw [Function.update_of_ne (by omega), viewed]⟩
    · cases List.mem_singleton.mp new
      exact ⟨buf, present, Function.update_self _ _ _⟩
  · by_cases last : index = k
    · subst last
      cases found.symm.trans found'
      exact ⟨List.mem_append_right _ (List.mem_singleton_self _), present, fun item among =>
        Nat.ne_of_lt (batch.bufsIndex_lt among)⟩
    · obtain ⟨among, kept, free⟩ := batch.plain index other (by omega) found' isPlain
      exact ⟨List.mem_append_left _ among, kept, free⟩

/-- **A packet to be written, with an item.** -/
theorem insert (batch : Batch offset gro input k bufs items toWrite views)
    (found : input[k]? = some buf) (candidate : ¬ IsPlain offset gro buf)
    (place : item.bufsIndex = k) (alone : item.numMerged = 0) {flow : Flow}
    (stands : item.Stands flow (buf.packet offset)) :
    Batch offset gro input (k + 1) bufs (item :: items) (toWrite ++ [k])
      (Function.update views k [describe (buf.packet offset)]) := by
  have pushed := batch.push found
  obtain ⟨present, -, -⟩ := batch.next found
  refine ⟨pushed.count, pushed.ready, pushed.ahead, pushed.ledger, fun other among => ?_, ?_,
    fun index among free => pushed.single index among fun other inside =>
      free other (List.mem_cons_of_mem _ inside),
    fun index other early found' isPlain => ?_⟩
  · obtain rfl | old := List.mem_cons.mp among
    · refine ⟨?_, buf, flow, ?_, stands, ?_⟩
      · rw [place]
        exact List.mem_append_right _ (List.mem_singleton_self _)
      · rw [place, present]
      · rw [place, Function.update_self, stands.views_single alone]
    · exact pushed.held other old
  · refine List.nodup_cons.mpr ⟨fun inside => ?_, batch.distinct⟩
    obtain ⟨other, among, same⟩ := List.mem_map.mp inside
    have early := batch.bufsIndex_lt among
    omega
  · obtain ⟨among, kept, free⟩ := pushed.plain index other early found' isPlain
    refine ⟨among, kept, fun another inside => ?_⟩
    obtain rfl | old := List.mem_cons.mp inside
    · rw [place]
      rintro rfl
      cases found.symm.trans found'
      exact candidate isPlain
    · exact free another old

/-- **A packet that went into the buffer of an item.** -/
theorem join {pktBuf merged : Buffer} {flow : Flow}
    (batch : Batch offset gro input k bufs (item :: items) toWrite views)
    (found : input[k]? = some pktBuf) (candidate : ¬ IsPlain offset gro pktBuf)
    (viewed : views item.bufsIndex = item.views flow (buf.packet offset))
    (joined : GroItem.Joined offset k flow (buf.packet offset) (pktBuf.packet offset) merged bufs
      bufs' item item') :
    Batch offset gro input (k + 1) bufs' (item' :: items) toWrite
      (Function.update views item.bufsIndex (item'.views flow (merged.packet offset))) := by
  obtain ⟨present, -, input⟩ := batch.next found
  obtain ⟨place, regrouped, stands, grown⟩ := joined
  have listed := (batch.held item List.mem_cons_self).listed
  have early := batch.ledger.early _ listed
  obtain ⟨fresh, distinct⟩ := List.nodup_cons.mp batch.distinct
  rw [← viewed] at grown
  have kept : ∀ index, index ≠ item.bufsIndex → index < k → bufs'[index]? = bufs[index]? :=
    fun index apart before => regrouped.others index apart (Nat.ne_of_lt before)
  refine ⟨regrouped.count.trans batch.count, regrouped.ready batch.ready, fun index late => ?_,
    batch.ledger.join input listed grown, fun other among => ?_, ?_, fun index among free => ?_,
    fun index other before found' isPlain => ?_⟩
  · rw [regrouped.others index (by omega) (by omega)]
    exact batch.ahead index (by omega)
  · obtain rfl | old := List.mem_cons.mp among
    · refine ⟨by rwa [place], merged, flow, ?_, stands, ?_⟩
      · rw [place, regrouped.found]
      · rw [place, Function.update_self]
    · have apart : other.bufsIndex ≠ item.bufsIndex := fun same =>
        fresh (List.mem_map.mpr ⟨other, old, same⟩)
      have inside := List.mem_cons_of_mem item old
      obtain ⟨listed', buf', flow', found', stands', viewed'⟩ := batch.held other inside
      refine ⟨listed', buf', flow', ?_, stands', ?_⟩
      · rw [kept _ apart (batch.bufsIndex_lt inside), found']
      · rw [Function.update_of_ne apart, viewed']
  · refine List.nodup_cons.mpr ⟨?_, distinct⟩
    rwa [place]
  · have apart : index ≠ item.bufsIndex := by
      rw [← place]
      exact (free item' List.mem_cons_self).symm
    obtain ⟨other, found', viewed'⟩ := batch.single index among fun another inside => by
      obtain rfl | old := List.mem_cons.mp inside
      · exact apart.symm
      · exact free another (List.mem_cons_of_mem _ old)
    refine ⟨other, ?_, ?_⟩
    · rw [kept index apart (batch.ledger.early index among), found']
    · rw [Function.update_of_ne apart, viewed']
  · have before' : index < k := by
      refine Nat.lt_of_le_of_ne (Nat.le_of_lt_succ before) ?_
      rintro rfl
      cases found.symm.trans found'
      exact candidate isPlain
    obtain ⟨among, same, free⟩ := batch.plain index other before' found' isPlain
    have apart := free item List.mem_cons_self
    refine ⟨among, by rw [kept index apart.symm before', same], fun another inside => ?_⟩
    obtain rfl | old := List.mem_cons.mp inside
    · rwa [place]
    · exact free another (List.mem_cons_of_mem _ old)

end Batch

end RsTun.Gso
