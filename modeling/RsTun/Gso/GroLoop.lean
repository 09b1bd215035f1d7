/-
**The loop of `handle_gro`.**

A turn puts one packet more into the batch, whatever the tests of `tcp_gro` and `udp_gro` find, and
no access of it is out of range.

* `Batch.handled` — one packet.
* `groTurn_spec`, `groLoop_keeps` — one turn, and all of them.
-/

import RsTun.Gso.Batch
import RsTun.Gso.Handled

namespace RsTun.Gso

open Library Library.Bytes

/-! ### One packet -/

section Packet

variable {offset k : Nat} {gro : GroDisablementFlags} {input bufs bufs' : List Buffer}
  {toWrite : List Nat} {views : Nat → List PacketView} {items items' left : List GroItem}
  {pktBuf : Buffer} {partner : Option GroItem} {result : GroResult}

/-- **Items of one packet are forgotten.** -/
theorem Batch.dropped (batch : Batch offset gro input k bufs items toWrite views)
    (dropped : Dropped items left) : Batch offset gro input k bufs left toWrite views := by
  obtain ⟨gone, same, alone⟩ := dropped
  have all := batch.perm same
  clear same batch
  induction gone with
  | nil => exact all
  | cons item gone ih =>
      obtain ⟨single, others⟩ := List.forall_mem_cons.mp alone
      exact ih others (all.drop single)

/-- The items of a batch stand for buffers before the next packet. -/
theorem Batch.seated (batch : Batch offset gro input k bufs items toWrite views) {item : GroItem}
    (inside : item ∈ items) : item.Seated offset k bufs := by
  obtain ⟨-, buf, flow, present, stands, -⟩ := batch.held item inside
  exact ⟨Nat.ne_of_lt (batch.bufsIndex_lt inside), buf, flow, present,
    (batch.ready buf (List.mem_of_getElem? present)).placed, stands⟩

/-- What a packet that is handled leaves behind: a batch with it. -/
theorem Batch.handled (batch : Batch offset gro input k bufs items toWrite views)
    (found : input[k]? = some pktBuf) (candidate : result ≠ .noop → ¬ IsPlain offset gro pktBuf)
    (handled : Handled offset k pktBuf bufs items partner result bufs' items') : ∃ views,
      Batch offset gro input (k + 1) bufs' items'
        (if result = .coalesced then toWrite else toWrite ++ [k]) views := by
  obtain ⟨-, pktReady, -⟩ := batch.next found
  cases handled with
  | noop alone dropped => exact ⟨_, (batch.dropped dropped).push found⟩
  | tableInsert alone dropped place single stands inserted =>
      exact ⟨_, ((batch.dropped dropped).insert found (candidate nofun) place single stands).perm
        inserted.symm⟩
  | coalesced taken dropped present stands into replaced =>
      have last := batch.dropped dropped
      obtain ⟨-, _, _, found', stands', viewed⟩ := last.held _ List.mem_cons_self
      cases found'.symm.trans present
      obtain rfl := stands'.flow_eq stands
      have ready := batch.ready _ (List.mem_of_getElem? present)
      exact ⟨_, (last.join found (candidate nofun) viewed (into.of_ready ready pktReady)).perm
        replaced.symm⟩

end Packet

/-! ### The loop -/

/-- The state before turn `k`. -/
structure Turned (offset : Nat) (gro : GroDisablementFlags) (input : List Buffer) (k : Nat)
    (state : GroState) : Prop where
  batch : ∃ views, Batch offset gro input k state.bufs state.items state.toWrite views
  tcpKeyed : Grouped.Keyed TcpGroItem.key state.tcpTable
  udpKeyed : Grouped.Keyed UdpGroItem.key state.udpTable
  udpInhabited : Grouped.Inhabited state.udpTable

theorem Turned.start {offset : Nat} {gro : GroDisablementFlags} {input : List Buffer}
    (room : ∀ buf ∈ input, buf.Ready offset) : Turned offset gro input 0 ⟨input, ∅, ∅, []⟩ where
  batch := ⟨fun _ => [], .start room _⟩
  tcpKeyed := .empty _
  udpKeyed := .empty _
  udpInhabited := .empty

section Turn

variable {offset k : Nat} {gro : GroDisablementFlags} {input : List Buffer} {state : GroState}
  {buf : Buffer}

/-- **One turn.** -/
theorem groTurn_spec (turned : Turned offset gro input k state) (inside : k < input.length) :
    ∃ state', groTurn offset gro k state = .ok state'
      ∧ Turned offset gro input (k + 1) state' := by
  obtain ⟨buf, found⟩ : ∃ buf, input[k]? = some buf := ⟨_, List.getElem?_eq_getElem inside⟩
  obtain ⟨views, batch⟩ := turned.batch
  obtain ⟨present, ready, -⟩ := batch.next found
  obtain ⟨result, bufs, state', done, stepped⟩ := @groTurn_stepped _ _ gro _ _
    ⟨turned.tcpKeyed, turned.udpKeyed, turned.udpInhabited⟩ (fun _ => batch.seated) present
    ready.placed
  obtain ⟨views', batch'⟩ := batch.handled found stepped.candidate stepped.handled
  obtain ⟨tcpKeyed, udpKeyed, udpInhabited⟩ := stepped.tables
  obtain ⟨bytes, written, -, -, after⟩ := stepped.bufs
  have same : state'.bufs = bufs := by
    cases result with
    | noop =>
        cases ready.writeHdr_default.symm.trans written
        rw [after, if_pos rfl, stepped.handled.bufs_of_noop]
        exact set_of_getElem? present
    | tableInsert => exact after
    | coalesced => exact after
  refine ⟨state', done, ⟨views', ?_⟩, tcpKeyed, udpKeyed, udpInhabited⟩
  rw [same, stepped.toWrite]
  exact batch'

/-- **All turns** keep what every turn keeps, and the loop returns when every turn does. -/
theorem groLoop_keeps {Kept : Nat → GroState → Prop} {stop : Nat}
    (turn : ∀ {k : Nat} {state : GroState}, Kept k state → k < stop →
      ∃ state', groTurn offset gro k state = .ok state' ∧ Kept (k + 1) state') :
    ∀ (turns : Nat) {k : Nat} {state : GroState}, Kept k state → k + turns = stop →
      ∃ state', groLoop offset gro turns k state = .ok state' ∧ Kept stop state'
  | 0, k, state, kept, all => ⟨state, rfl, by rwa [← all]⟩
  | turns + 1, k, state, kept, all => by
      obtain ⟨state', done, kept'⟩ := turn kept (by omega)
      obtain ⟨last, rest, finished⟩ := groLoop_keeps turn turns kept' (by omega)
      refine ⟨last, ?_, finished⟩
      rw [groLoop, done]
      exact rest

end Turn

end RsTun.Gso
