/-
**Which datagrams the dispatch loops owe.**

The datagram of a frame is read off its bytes here (`datagramOf`), without the parsers: a fragment
has none, nor has a frame whose length fields do not fit. smoltcp's accessors are assumed to read
the fixed headers as specified (`ReadsFixedHeaders`); what its `new_checked` make of other frames is
left open.

* `parse_of_datagramOf` — a datagram is parsed as what it is.
* `recv_faithful_iff` — in a run of the reader, and in a run of a loop on top of it, exactly the
  datagrams come out, in order, and `None` means the end of the channel, **exactly** when every
  frame that is received is a datagram, or is rejected and the last one of a closed channel.
* `malformed_frames_break_dispatch` — a truncated frame ends the loop with a datagram behind it,
  and a fragment whose data look like a UDP header is delivered as a datagram.
-/

import RsTun.Netstack.UdpSocket
import RsTun.SystemNat.Dispatch

namespace RsTun.Netstack

open Library Library.Bytes Packet SystemNat

/-! ### smoltcp and the fixed headers -/

/-- **What smoltcp documents**: headers whose length fields are consistent are accepted, and the
accessors return their fields. -/
structure ReadsFixedHeaders (smoltcp : Smoltcp) : Prop where
  version4 : ∀ packet, byteAt packet 0 >>> 4 = 4 → smoltcp.ofPacket packet = some .ipv4
  version6 : ∀ packet, byteAt packet 0 >>> 4 = 6 → smoltcp.ofPacket packet = some .ipv6
  ipv4 : ∀ packet, 20 ≤ headerLength packet → headerLength packet ≤ be16 packet 2 →
    be16 packet 2 ≤ packet.length → smoltcp.ipv4NewChecked packet = some {
      srcAddr := .ofSlice 4 packet 12
      dstAddr := .ofSlice 4 packet 16
      nextHeader := .ofNumber (byteAt packet 9)
      payload := slice packet (headerLength packet) (be16 packet 2 - headerLength packet) }
  ipv6 : ∀ packet, 40 + be16 packet 4 ≤ packet.length → smoltcp.ipv6NewChecked packet = some {
      srcAddr := .ofSlice 16 packet 8
      dstAddr := .ofSlice 16 packet 24
      nextHeader := .ofNumber (byteAt packet 6)
      payload := slice packet 40 (be16 packet 4) }
  udp : ∀ packet, 8 ≤ be16 packet 4 → be16 packet 4 ≤ packet.length →
    smoltcp.udpNewChecked packet = some {
      srcPort := .ofNat (be16 packet 0)
      dstPort := .ofNat (be16 packet 2)
      payload := slice packet 8 (be16 packet 4 - 8) }

/-- The length checks alone make a smoltcp of this kind. -/
theorem lengthChecking_reads : ReadsFixedHeaders lengthChecking where
  version4 packet four := by
    cases packet with
    | nil => exact absurd four (by decide)
    | cons first rest => exact if_pos four
  version6 packet six := by
    cases packet with
    | nil => exact absurd six (by decide)
    | cons first rest =>
        have other : ¬ first >>> 4 = 4 := by
          intro four
          exact absurd (four.symm.trans six) (by decide)
        exact (if_neg other).trans (if_pos six)
  ipv4 packet header total fits := by
    unfold headerLength at header total
    exact if_neg (by omega)
  ipv6 packet fits := if_neg (by omega)
  udp packet header fits := if_neg (by omega)

/-! ### The datagram of a frame -/

/-- An unfragmented UDP packet over IPv4 with consistent length fields. -/
structure Ipv4UdpPacket (raw : Bytes) : Prop where
  version : byteAt raw 0 >>> 4 = 4
  header : 20 ≤ headerLength raw
  datagram : DatagramAt raw (headerLength raw) (be16 raw 2)
  protocol : byteAt raw 9 = ipprotoUdp
  unfragmented : ¬ FragmentBits raw

/-- The same over IPv6. The fixed header names UDP: the sink places no other packet on the channel,
and a fragment has a header of its own in between. -/
structure DirectIpv6UdpPacket (raw : Bytes) : Prop where
  version : byteAt raw 0 >>> 4 = 6
  datagram : DatagramAt raw 40 (40 + be16 raw 4)
  protocol : byteAt raw 6 = ipprotoUdp

instance (raw : Bytes) (off stop : Nat) : Decidable (DatagramAt raw off stop) :=
  decidable_of_iff (stop ≤ raw.length ∧ 8 ≤ be16 raw (off + 4) ∧ off + be16 raw (off + 4) ≤ stop)
    ⟨fun ⟨inside, header, fits⟩ => ⟨inside, header, fits⟩,
      fun ⟨inside, header, fits⟩ => ⟨inside, header, fits⟩⟩

instance (raw : Bytes) : Decidable (Ipv4UdpPacket raw) :=
  decidable_of_iff (byteAt raw 0 >>> 4 = 4 ∧ 20 ≤ headerLength raw
      ∧ DatagramAt raw (headerLength raw) (be16 raw 2) ∧ byteAt raw 9 = ipprotoUdp
      ∧ ¬ FragmentBits raw)
    ⟨fun ⟨version, header, datagram, protocol, unfragmented⟩ =>
        ⟨version, header, datagram, protocol, unfragmented⟩,
      fun ⟨version, header, datagram, protocol, unfragmented⟩ =>
        ⟨version, header, datagram, protocol, unfragmented⟩⟩

instance (raw : Bytes) : Decidable (DirectIpv6UdpPacket raw) :=
  decidable_of_iff (byteAt raw 0 >>> 4 = 6 ∧ DatagramAt raw 40 (40 + be16 raw 4)
      ∧ byteAt raw 6 = ipprotoUdp)
    ⟨fun ⟨version, datagram, protocol⟩ => ⟨version, datagram, protocol⟩,
      fun ⟨version, datagram, protocol⟩ => ⟨version, datagram, protocol⟩⟩

/-- The datagram whose UDP header is at `off`: the ports, and behind the header as many bytes as its
length field counts. -/
def datagramAt (frame : Bytes) (off : Nat) (src dst : IpAddr) : UdpPacket where
  data := slice frame (off + 8) (be16 frame (off + 4) - 8)
  localAddr := socketAddr src (portAt frame off)
  remoteAddr := socketAddr dst (portAt frame (off + 2))

/-- **The datagram of a frame**, with the addresses of the IP header. -/
def datagramOf (frame : Bytes) : Option UdpPacket :=
  if Ipv4UdpPacket frame then
    some (datagramAt frame (headerLength frame) (.v4 (.ofSlice 4 frame 12))
      (.v4 (.ofSlice 4 frame 16)))
  else if DirectIpv6UdpPacket frame then
    some (datagramAt frame 40 (.v6 (.ofSlice 16 frame 8)) (.v6 (.ofSlice 16 frame 24)))
  else none

section Parse

variable {smoltcp : Smoltcp} {raw frame : Bytes} {pkt : UdpPacket}

/-- smoltcp's view of a datagram. -/
theorem udpNewChecked_datagram {off stop : Nat} (datagram : DatagramAt raw off stop)
    (reads : ReadsFixedHeaders smoltcp) :
    smoltcp.udpNewChecked (slice raw off (stop - off))
      = some ⟨portAt raw off, portAt raw (off + 2),
        slice raw (off + 8) (be16 raw (off + 4) - 8)⟩ := by
  obtain ⟨inside, header, fits⟩ := datagram
  have length : be16 (slice raw off (stop - off)) 4 = be16 raw (off + 4) := be16_slice (by omega)
  rw [reads.udp]
  · rw [length, be16_slice (by omega), be16_slice (by omega), slice_slice (by omega), Nat.add_zero]
    rfl
  · rwa [length]
  · rw [length, length_slice (by omega)]
    omega

namespace Ipv4UdpPacket

/-- smoltcp's view of the packet. -/
theorem newChecked (packet : Ipv4UdpPacket raw) (reads : ReadsFixedHeaders smoltcp) :
    IpPacket.newChecked smoltcp raw = some (.ipv4 ⟨.ofSlice 4 raw 12, .ofSlice 4 raw 16,
      .ofNumber (byteAt raw 9),
      slice raw (headerLength raw) (be16 raw 2 - headerLength raw)⟩) := by
  have datagram := packet.datagram
  rw [IpPacket.newChecked, reads.version4 raw packet.version]
  dsimp only
  rw [reads.ipv4 raw packet.header (Nat.le_trans (Nat.le_add_right _ _) datagram.fits)
    datagram.inside]
  rfl

theorem parse_eq (packet : Ipv4UdpPacket raw) (reads : ReadsFixedHeaders smoltcp) :
    SplitRead.parse smoltcp raw = some (datagramAt raw (headerLength raw) (.v4 (.ofSlice 4 raw 12))
      (.v4 (.ofSlice 4 raw 16))) := by
  rw [SplitRead.parse, packet.newChecked reads]
  dsimp only [IpPacket.payload]
  rw [udpNewChecked_datagram packet.datagram reads]
  rfl

end Ipv4UdpPacket

theorem DirectIpv6UdpPacket.parse_eq (packet : DirectIpv6UdpPacket raw)
    (reads : ReadsFixedHeaders smoltcp) :
    SplitRead.parse smoltcp raw = some (datagramAt raw 40 (.v6 (.ofSlice 16 raw 8))
      (.v6 (.ofSlice 16 raw 24))) := by
  have view := udpNewChecked_datagram packet.datagram reads
  rw [Nat.add_sub_cancel_left] at view
  rw [SplitRead.parse, IpPacket.newChecked, reads.version6 raw packet.version]
  dsimp only
  rw [reads.ipv6 raw packet.datagram.inside]
  dsimp only [IpPacket.payload, Option.map_some]
  rw [view]
  rfl

/-- **A datagram is parsed as what it is.** -/
theorem parse_of_datagramOf (reads : ReadsFixedHeaders smoltcp)
    (datagram : datagramOf frame = some pkt) : SplitRead.parse smoltcp frame = some pkt := by
  unfold datagramOf at datagram
  split at datagram
  · rename_i v4
    exact (v4.parse_eq reads).trans datagram
  · split at datagram
    · rename_i v6
      exact (v6.parse_eq reads).trans datagram
    · cases datagram

/-- `new_checked` of the frame fails, or that of the UDP packet in it. -/
def Rejects (smoltcp : Smoltcp) (frame : Bytes) : Prop :=
  ((IpPacket.newChecked smoltcp frame).bind fun packet =>
    smoltcp.udpNewChecked packet.payload) = none

instance (smoltcp : Smoltcp) (frame : Bytes) : Decidable (Rejects smoltcp frame) :=
  inferInstanceAs (Decidable (_ = none))

theorem parse_eq_none_iff : SplitRead.parse smoltcp frame = none ↔ Rejects smoltcp frame := by
  rw [SplitRead.parse, Rejects]
  cases IpPacket.newChecked smoltcp frame with
  | none => exact iff_of_true rfl rfl
  | some packet =>
      dsimp only [Option.bind_some]
      cases smoltcp.udpNewChecked packet.payload with
      | none => exact iff_of_true rfl rfl
      | some udp => exact iff_of_false nofun nofun

end Parse

/-! ### The reader -/

/-- The frame that a call of `recv` takes is a datagram, or it is rejected and the last one of a
closed channel. -/
def HeadFits (smoltcp : Smoltcp) (channel : Channel Bytes) : Prop :=
  match channel.waiting with
  | [] => True
  | frame :: rest => (datagramOf frame).isSome
      ∨ Rejects smoltcp frame ∧ channel.senderAlive = false ∧ rest = []

instance (smoltcp : Smoltcp) (channel : Channel Bytes) : Decidable (HeadFits smoltcp channel) := by
  unfold HeadFits
  split <;> infer_instance

theorem headFits_iff {smoltcp : Smoltcp} {channel : Channel Bytes} {frame : Bytes}
    {rest : List Bytes} (waits : channel.waiting = frame :: rest) :
    HeadFits smoltcp channel ↔ (datagramOf frame).isSome
      ∨ Rejects smoltcp frame ∧ channel.senderAlive = false ∧ rest = [] := by
  rw [HeadFits, waits]

namespace ReaderRun

/-- **What a caller of `recv` relies on**: exactly the datagrams among the received frames have come
out, in order, and a `None` meant that the channel was closed and drained. -/
structure Faithful (run : ReaderRun) : Prop where
  exact : run.datagrams = run.channel.received.filterMap datagramOf
  ended : none ∈ run.results → run.channel.Drained

/-- What `recv` takes is a datagram, or rejected and the last frame of a closed channel. -/
def Fits (smoltcp : Smoltcp) (run : ReaderRun) (action : ReaderAction) : Prop :=
  action = .recv → HeadFits smoltcp run.channel

instance (smoltcp : Smoltcp) (run : ReaderRun) (action : ReaderAction) :
    Decidable (run.Fits smoltcp action) :=
  inferInstanceAs (Decidable (_ → _))

/-- At the end of the channel, every datagram that was placed has come out. -/
theorem Faithful.complete {run : ReaderRun} (faithful : run.Faithful)
    (drained : run.channel.Drained) :
    run.datagrams = run.channel.sent.filterMap datagramOf := by
  rw [Channel.sent_of_drained drained]
  exact faithful.exact

theorem start_faithful : start.Faithful := ⟨rfl, nofun⟩

section Step

variable {smoltcp : Smoltcp} {run next : ReaderRun} {action : ReaderAction}

/-- A step that takes no other frame keeps the promise. -/
theorem Faithful.step (reads : ReadsFixedHeaders smoltcp) (faithful : run.Faithful)
    (fits : run.Fits smoltcp action)
    (moved : (readerMachine smoltcp).step run action = some next) : next.Faithful := by
  cases action with
  | place frame =>
      obtain ⟨alive, same⟩ := Option.ite_none_right_eq_some.mp moved
      cases same
      refine ⟨faithful.exact, fun ended => ?_⟩
      rw [(faithful.ended ended).1] at alive
      cases alive
  | close =>
      cases moved
      exact ⟨faithful.exact, fun ended => ⟨rfl, (faithful.ended ended).2⟩⟩
  | recv =>
      obtain ⟨⟨result, channel⟩, done, rfl⟩ := Option.map_eq_some_iff.mp moved
      have head := fits rfl
      have before := faithful.exact
      unfold datagrams at before
      obtain ⟨frame, rest, waits, rfl, rfl⟩ | ⟨drained, rfl, rfl⟩ := SplitRead.recv_cases done
      · rw [headFits_iff waits] at head
        -- what comes out is the datagram of the frame, if it has one
        have same : SplitRead.parse smoltcp frame = datagramOf frame := by
          cases datagram : datagramOf frame with
          | some pkt => exact parse_of_datagramOf reads datagram
          | none =>
              rw [datagram] at head
              exact parse_eq_none_iff.mpr (head.resolve_left nofun).1
        refine ⟨?_, fun ended => ?_⟩
        · rw [datagrams, List.filterMap_append, List.filterMap_append, before, same]
          rfl
        · obtain earlier | now := List.mem_append.mp ended
          · have drained := (faithful.ended earlier).2
            rw [waits] at drained
            cases drained
          · have none' : none = datagramOf frame := (List.mem_singleton.mp now).trans same
            rw [← none'] at head
            obtain ⟨-, closed, last⟩ := head.resolve_left nofun
            exact ⟨closed, last⟩
      · refine ⟨?_, fun _ => drained⟩
        rw [datagrams, List.filterMap_append, before]
        exact List.append_nil _

/-- **Any other frame breaks it at once**: it comes out as a datagram that it is not, or as the end
of the channel. -/
theorem Faithful.breaks (faithful : run.Faithful) (bad : ¬ run.Fits smoltcp action)
    (moved : (readerMachine smoltcp).step run action = some next) : ¬ next.Faithful := by
  obtain ⟨rfl, other⟩ := Classical.not_imp.mp bad
  obtain ⟨⟨result, channel⟩, done, rfl⟩ := Option.map_eq_some_iff.mp moved
  obtain ⟨frame, rest, waits, rfl, rfl⟩ | ⟨drained, rfl, rfl⟩ := SplitRead.recv_cases done
  · rw [headFits_iff waits, not_or, Option.not_isSome_iff_eq_none] at other
    intro broken
    cases parsed : SplitRead.parse smoltcp frame with
    | none =>
        rw [parsed] at broken
        exact other.2 ⟨parse_eq_none_iff.mp parsed,
          broken.ended (List.mem_append_right _ (List.mem_singleton_self _))⟩
    | some pkt =>
        rw [parsed] at broken
        have more := congrArg List.length broken.exact
        have before := congrArg List.length faithful.exact
        unfold datagrams at more before
        dsimp only at more
        rw [List.filterMap_append, List.filterMap_append, List.length_append, List.length_append,
          before, List.filterMap_cons_none other.1] at more
        exact Nat.succ_ne_self _ more
  · rw [HeadFits, drained.2] at other
    exact absurd trivial other

end Step

end ReaderRun

/-! ### The dispatch loops -/

namespace DispatchRun

/-- **What the loops owe their datagrams**: `recv` keeps its promise, every datagram is delivered
unless `udp_tx` was closed, and only that or the end of the channel ends the loop. -/
structure Lasts (run : DispatchRun) : Prop where
  reader : run.reader.Faithful
  delivered : run.status ≠ .udpTxClosed →
    run.deliveries.map Delivery.packet = run.reader.datagrams
  ended : run.status = .socketClosed → run.reader.channel.Drained

/-- What a turn takes is a datagram, or rejected and the last frame of a closed channel. -/
def Fits (smoltcp : Smoltcp) (run : DispatchRun) (action : DispatchAction) : Prop :=
  ∀ env, action = .turn env → HeadFits smoltcp run.reader.channel

instance (smoltcp : Smoltcp) (run : DispatchRun) :
    ∀ action, Decidable (run.Fits smoltcp action)
  | .place _ => .isTrue nofun
  | .close => .isTrue nofun
  | .turn env => decidable_of_iff (HeadFits smoltcp run.reader.channel)
      ⟨fun fits _ _ => fits, fun fits => fits env rfl⟩

theorem start_lasts : start.Lasts := ⟨ReaderRun.start_faithful, fun _ => rfl, nofun⟩

section Step

variable {smoltcp : Smoltcp} {config : DispatchConfig} {run next : DispatchRun}

/-- Placing a frame, or closing the channel, keeps the promise of the loop. -/
theorem Lasts.of_channel {reader : ReaderRun} {action : ReaderAction}
    (reads : ReadsFixedHeaders smoltcp) (lasts : run.Lasts) (other : action ≠ .recv)
    (moved : (readerMachine smoltcp).step run.reader action = some reader) :
    Lasts { run with reader } := by
  have same : reader.results = run.reader.results
      ∧ (run.reader.channel.Drained → reader.channel.Drained) := by
    cases action with
    | place frame =>
        obtain ⟨alive, same⟩ := Option.ite_none_right_eq_some.mp moved
        cases same
        refine ⟨rfl, fun drained => ?_⟩
        rw [drained.1] at alive
        cases alive
    | close =>
        cases moved
        exact ⟨rfl, fun drained => ⟨rfl, drained.2⟩⟩
    | recv => exact absurd rfl other
  refine ⟨lasts.reader.step reads (fun called => absurd called other) moved, fun status => ?_,
    fun closed => same.2 (lasts.ended closed)⟩
  rw [ReaderRun.datagrams, same.1]
  exact lasts.delivered status

/-- A turn that takes no other frame keeps the promise of the loop. -/
theorem Lasts.turn {env : DispatchEnv} (reads : ReadsFixedHeaders smoltcp) (lasts : run.Lasts)
    (fits : HeadFits smoltcp run.reader.channel)
    (moved : (dispatchMachine smoltcp config).step run (.turn env) = some next) : next.Lasts := by
  obtain ⟨running, reader, result, called, results, rfl⟩ := turn_cases moved
  have faithful := lasts.reader.step reads (fun _ => fits) called
  have delivered := lasts.delivered (by rw [running]; exact nofun)
  cases result with
  | none =>
      refine ⟨faithful, fun _ => ?_, fun _ => faithful.ended ?_⟩
      · rw [handle_reader, ReaderRun.datagrams, results, List.filterMap_append]
        exact delivered.trans (List.append_nil _).symm
      · rw [results]
        exact List.mem_append_right _ (List.mem_singleton_self _)
  | some pkt =>
      obtain ⟨delivery, same, handled⟩ | handled := handle_some config env { run with reader } pkt
      · rw [handled]
        refine ⟨faithful, fun _ => ?_, fun closed => ?_⟩
        · rw [ReaderRun.datagrams, results, List.filterMap_append, List.map_append, delivered]
          exact congrArg (run.reader.datagrams ++ [·]) same
        · rw [running] at closed
          cases closed
      · rw [handled]
        exact ⟨faithful, fun other => absurd rfl other, nofun⟩

variable {action : DispatchAction}

/-- Every step that takes no other frame keeps the promise of the loop. -/
theorem Lasts.step (reads : ReadsFixedHeaders smoltcp) (lasts : run.Lasts)
    (fits : run.Fits smoltcp action)
    (moved : (dispatchMachine smoltcp config).step run action = some next) : next.Lasts := by
  cases action with
  | place frame =>
      obtain ⟨reader, placed, rfl⟩ := Option.map_eq_some_iff.mp moved
      exact lasts.of_channel reads (show ReaderAction.place frame ≠ .recv by simp) placed
  | close =>
      cases moved
      exact @Lasts.of_channel smoltcp run _ .close reads lasts nofun rfl
  | turn env => exact lasts.turn reads (fits env rfl) moved

/-- Any other frame breaks it. -/
theorem Lasts.breaks (lasts : run.Lasts) (bad : ¬ run.Fits smoltcp action)
    (moved : (dispatchMachine smoltcp config).step run action = some next) : ¬ next.Lasts := by
  intro broken
  obtain ⟨env, badTurn⟩ := not_forall.mp bad
  obtain ⟨rfl, other⟩ := Classical.not_imp.mp badTurn
  obtain ⟨-, reader, result, called, -, rfl⟩ := turn_cases moved
  have faithful := broken.reader
  rw [handle_reader] at faithful
  exact lasts.reader.breaks (fun fits => other (fits rfl)) called faithful

end Step

end DispatchRun

/-- **`recv` and the dispatch loops keep their promises throughout a run exactly when every frame
that is taken from the channel is a datagram, or is rejected and the last one of a closed
channel.** -/
theorem recv_faithful_iff {smoltcp : Smoltcp} (reads : ReadsFixedHeaders smoltcp)
    (config : DispatchConfig) :
    (∀ {actions : List ReaderAction} {final : ReaderRun},
      (readerMachine smoltcp).run .start actions = some final →
      ((readerMachine smoltcp).Throughout ReaderRun.Faithful .start actions ↔
        (readerMachine smoltcp).Meets (ReaderRun.Fits smoltcp) .start actions)) ∧
    (∀ {actions : List DispatchAction} {final : DispatchRun},
      (dispatchMachine smoltcp config).run .start actions = some final →
      ((dispatchMachine smoltcp config).Throughout DispatchRun.Lasts .start actions ↔
        (dispatchMachine smoltcp config).Meets (DispatchRun.Fits smoltcp) .start actions)) := by
  constructor
  · intro actions final reached
    exact Machine.throughout_iff_meets id (fun faithful => faithful.step reads)
      (fun faithful => faithful.breaks) ReaderRun.start_faithful reached
  · intro actions final reached
    exact Machine.throughout_iff_meets id (fun lasts => lasts.step reads)
      (fun lasts => lasts.breaks) DispatchRun.start_lasts reached

/-- Two datagrams, read by a loop until the channel is closed and drained. -/
def sampleDatagrams : List DispatchAction :=
  [.place (sampleUdpFrame [7]), .turn ⟨false, true⟩, .place (sampleUdpFrame [8]),
    .turn ⟨true, true⟩, .close, .turn ⟨true, true⟩]

/-- The same frames, read without a loop. -/
def sampleReads : List ReaderAction :=
  [.place (sampleUdpFrame [7]), .place (sampleUdpFrame [8]), .recv, .recv, .close, .recv]

theorem recv_faithful_iff_sampleDatagrams :
    (readerMachine lengthChecking).Throughout ReaderRun.Faithful .start sampleReads
      ∧ ∃ run : DispatchRun,
        (dispatchMachine lengthChecking ⟨true, true⟩).run .start sampleDatagrams = some run
          ∧ run.reader.results.length = 3
          ∧ (dispatchMachine lengthChecking ⟨true, true⟩).Throughout DispatchRun.Lasts .start
            sampleDatagrams := by
  refine ⟨((recv_faithful_iff lengthChecking_reads ⟨true, true⟩).1 rfl).mpr (by decide), _, rfl,
    rfl, ((recv_faithful_iff lengthChecking_reads ⟨true, true⟩).2 rfl).mpr ?_⟩
  decide

/-- The first fragment of a datagram of 16 bytes, and a whole datagram behind it. -/
def sampleCutShort : List DispatchAction :=
  [.place (sampleFrame 17 [4, 210, 0, 53, 0, 24, 0, 0, 1, 2, 3, 4]), .place (sampleUdpFrame [7]),
    .turn ⟨true, true⟩]

/-- A fragment from the middle of a datagram, at the offset 1480. Its data look like a UDP header
with the length 9 and a byte behind it. -/
def sampleFragment : Bytes := overwrite (sampleUdpFrame [7]) 6 [0, 185]

/-- **What is no datagram breaks the loops.** A truncated frame ends one: the channel is open, and
the datagram behind the frame waits in it for a reader that is gone. A fragment whose data pass for
a UDP packet is delivered, as a datagram that nobody sent. -/
theorem malformed_frames_break_dispatch :
    (∃ run : DispatchRun,
      (dispatchMachine lengthChecking ⟨false, false⟩).run .start sampleCutShort = some run
        ∧ run.status = .socketClosed
        ∧ run.reader.results = [none]
        ∧ run.reader.channel.senderAlive = true
        ∧ run.reader.channel.waiting = [sampleUdpFrame [7]]
        ∧ (datagramOf (sampleUdpFrame [7])).isSome = true
        ∧ ¬ run.reader.Faithful
        ∧ ¬ run.Lasts)
      ∧ ∃ run : DispatchRun,
        (dispatchMachine lengthChecking ⟨false, false⟩).run .start
            [.place sampleFragment, .turn ⟨true, true⟩] = some run
          ∧ run.deliveries.map (fun delivery => delivery.packet.data) = [[7]]
          ∧ datagramOf sampleFragment = none
          ∧ ¬ run.reader.Faithful
          ∧ ¬ run.Lasts := by
  constructor
  · refine ⟨_, rfl, rfl, rfl, rfl, rfl, by decide, fun faithful => ?_, fun lasts => ?_⟩
    · cases (faithful.ended List.mem_cons_self).1
    · cases (lasts.ended rfl).1
  · have none' : [sampleFragment].filterMap datagramOf = [] := by decide
    have forged : ∀ run : ReaderRun, run.datagrams.length = 1 →
        run.channel.received = [sampleFragment] → ¬ run.Faithful := by
      intro run one received faithful
      rw [faithful.exact, received, none'] at one
      cases one
    exact ⟨_, rfl, rfl, by decide, forged _ rfl rfl, fun lasts => forged _ rfl rfl lasts.reader⟩

end RsTun.Netstack
