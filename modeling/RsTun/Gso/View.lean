/-
**What a packet carries, and the packets that a merged payload stands for.**

`describe` reads off a packet whatever a receiver can tell it by: addresses, ports, protocol, the
numbers and options of a TCP header, and the payload. `Flow` is the part of that which the packets
of one merged buffer share, and `Flow.cut` are the packets that a payload stands for when it is cut
at one size.

* `describe_of_carries` — a packet with the headers of a flow is described by it.
* `Carries.congr` — the bytes that a merge or a split sets are not among those read off.
* `Flow.cut_single`, `Flow.cut_append`, `Flow.cut_prepend` — one packet more at either end.
-/

import RsTun.Gso.Segments

namespace RsTun.Gso

open Library Library.Bytes Packet

/-! ### Descriptions -/

/-- What a TCP header tells besides the ports. -/
structure TcpView where
  ack : Nat
  seq : Nat
  options : Bytes
  deriving DecidableEq

/-- What a packet carries, and from where to where. -/
structure PacketView where
  family : UInt8
  source : Bytes
  destination : Bytes
  protocol : UInt8
  ports : Option (Nat × Nat)
  tcp : Option TcpView
  payload : Bytes
  deriving DecidableEq

/-- The description of a packet whose IP header was read, from its transport header on. -/
def describeTransport (family protocol : UInt8) (source destination transport : Bytes) :
    PacketView :=
  let ports := some (be16 transport 0, be16 transport 2)
  if protocol = 6 then
    let dataAt := (byteAt transport 12 >>> 4).toNat * 4
    let tcp : TcpView :=
      ⟨value (slice transport 8 4), value (slice transport 4 4), slice transport 20 (dataAt - 20)⟩
    ⟨family, source, destination, protocol, ports, some tcp, transport.drop dataAt⟩
  else if protocol = 17 then
    ⟨family, source, destination, protocol, ports, none, transport.drop 8⟩
  else ⟨family, source, destination, protocol, none, none, transport⟩

/-- The description of a packet. -/
def describe (pkt : Bytes) : PacketView :=
  let version := byteAt pkt 0 >>> 4
  if version = 4 then
    describeTransport 4 (byteAt pkt 9) (slice pkt 12 4) (slice pkt 16 4)
      (pkt.drop (headerLength pkt))
  else if version = 6 then
    describeTransport 6 (byteAt pkt 6) (slice pkt 8 16) (slice pkt 24 16) (pkt.drop 40)
  else ⟨version, [], [], 0, none, none, pkt⟩

/-! ### Flows -/

/-- What the TCP packets of one merged buffer share besides addresses and ports. -/
structure TcpFlow where
  ack : Nat
  options : Bytes

/-- What the packets of one merged buffer share. -/
structure Flow where
  isV6 : Bool
  source : Bytes
  destination : Bytes
  sourcePort : Nat
  destinationPort : Nat
  tcp : Option TcpFlow

namespace Flow

variable (flow : Flow)

/-- Where the addresses start. -/
def addrOff : Nat := if flow.isV6 then 8 else 12

/-- The length of an address. -/
def addrLen : Nat := if flow.isV6 then 16 else 4

/-- Where the transport header starts. -/
def start : Nat := if flow.isV6 then 40 else 20

/-- Where the IP header tells the protocol. -/
def protocolAt : Nat := if flow.isV6 then 6 else 9

def protocol : UInt8 := if flow.tcp.isSome then 6 else 17

/-- Where the payload starts. -/
def headersLen : Nat :=
  flow.start + match flow.tcp with
    | some tcp => 20 + tcp.options.length
    | none => 8

/-- A packet of the flow. -/
def view (seq : Nat) (payload : Bytes) : PacketView where
  family := if flow.isV6 then 6 else 4
  source := flow.source
  destination := flow.destination
  protocol := flow.protocol
  ports := some (flow.sourcePort, flow.destinationPort)
  tcp := flow.tcp.map fun tcp => ⟨tcp.ack, seq % 2 ^ 32, tcp.options⟩
  payload := payload

/-- The packets that a payload stands for when it is cut at `size`. -/
def cut (size seq : Nat) (payload : Bytes) : List PacketView :=
  (List.range (pieceCount size payload.length)).map fun index =>
    flow.view (seq + index * size) (piece size payload index)

theorem length_cut (size seq : Nat) (payload : Bytes) :
    (flow.cut size seq payload).length = pieceCount size payload.length := by
  rw [cut, List.length_map, List.length_range]

theorem view_congr {seq seq' : Nat} (same : seq % 2 ^ 32 = seq' % 2 ^ 32) (payload : Bytes) :
    flow.view seq payload = flow.view seq' payload := by
  rw [view, view, same]

theorem cut_congr {seq seq' : Nat} (same : seq % 2 ^ 32 = seq' % 2 ^ 32) (size : Nat)
    (payload : Bytes) : flow.cut size seq payload = flow.cut size seq' payload := by
  refine List.map_congr_left fun index _ => flow.view_congr ?_ _
  rw [Nat.add_mod, same, ← Nat.add_mod]

/-- A payload that is not cut. -/
theorem cut_single {size : Nat} (seq : Nat) {payload : Bytes} (some : 0 < payload.length)
    (short : payload.length ≤ size) : flow.cut size seq payload = [flow.view seq payload] := by
  have count := pieceCount_mul_add (by omega) some short 0
  rw [Nat.zero_mul, Nat.zero_add, Nat.zero_add] at count
  have whole : piece size payload 0 = payload := by
    rw [piece, Nat.zero_mul, List.drop_zero, List.take_of_length_le short]
  rw [cut, count, List.range_one, List.map_singleton, whole, Nat.zero_mul, Nat.add_zero]

/-- **A packet more at the end**, behind full ones. -/
theorem cut_append {size count : Nat} (seq : Nat) {payload more : Bytes} (positive : 0 < size)
    (full : payload.length = count * size) (some : 0 < more.length)
    (short : more.length ≤ size) :
    flow.cut size seq (payload ++ more)
      = flow.cut size seq payload ++ [flow.view (seq + count * size) more] := by
  rw [cut, cut, List.length_append, full, pieceCount_mul positive,
    pieceCount_mul_add positive some short, List.range_succ, List.map_append, List.map_singleton,
    piece_append_of_eq full short]
  congr 1
  refine List.map_congr_left fun index among => ?_
  have early := List.mem_range.mp among
  rw [piece_append_of_le]
  rw [full]
  exact Nat.mul_le_mul_right size early

/-- **A full packet more in front.** -/
theorem cut_prepend {size : Nat} (seq : Nat) (payload : Bytes) {more : Bytes}
    (positive : 0 < size) (full : more.length = size) :
    flow.cut size seq (more ++ payload)
      = flow.view seq more :: flow.cut size (seq + size) payload := by
  rw [cut, cut, List.length_append, full, pieceCount_add positive, List.range_succ_eq_map,
    List.map_cons, List.map_map, piece_prepend_zero payload full, Nat.zero_mul, Nat.add_zero]
  congr 1
  refine List.map_congr_left fun index _ => ?_
  show flow.view (seq + (index + 1) * size) (piece size (more ++ payload) (index + 1)) = _
  rw [piece_prepend_succ payload full, Nat.succ_mul, Nat.add_assoc, Nat.add_comm size]

/-! ### Packets of a flow -/

/-- The bytes of the headers that a merge or a split sets. -/
def quiet : Set Nat :=
  (if flow.isV6 then wordAt 4 else ipv4Fields) ∪
    if flow.tcp.isSome then tcpFields flow.start ∪ wordAt (flow.start + 16)
    else wordAt (flow.start + 4) ∪ wordAt (flow.start + 6)

/-- The headers of the packet are those of the flow, with this sequence number. -/
structure Carries (seq : Nat) (pkt : Bytes) : Prop where
  version : byteAt pkt 0 >>> 4 = if flow.isV6 then 6 else 4
  plain : flow.isV6 = false → headerLength pkt = 20
  source : slice pkt flow.addrOff flow.addrLen = flow.source
  destination : slice pkt (flow.addrOff + flow.addrLen) flow.addrLen = flow.destination
  protocol : byteAt pkt flow.protocolAt = flow.protocol
  sourcePort : be16 pkt flow.start = flow.sourcePort
  destinationPort : be16 pkt (flow.start + 2) = flow.destinationPort
  ack : ∀ tcp, flow.tcp = some tcp → value (slice pkt (flow.start + 8) 4) = tcp.ack
  dataOffset : ∀ tcp, flow.tcp = some tcp →
    (byteAt pkt (flow.start + 12) >>> 4).toNat * 4 = 20 + tcp.options.length
  options : ∀ tcp, flow.tcp = some tcp →
    slice pkt (flow.start + 20) tcp.options.length = tcp.options
  sequence : flow.tcp.isSome = true → value (slice pkt (flow.start + 4) 4) = seq % 2 ^ 32
  whole : flow.headersLen ≤ pkt.length

/-- The two layouts. -/
theorem layout :
    (flow.isV6 = true ∧ flow.start = 40 ∧ flow.addrOff = 8 ∧ flow.addrLen = 16
        ∧ flow.protocolAt = 6)
      ∨ (flow.isV6 = false ∧ flow.start = 20 ∧ flow.addrOff = 12 ∧ flow.addrLen = 4
        ∧ flow.protocolAt = 9) := by
  unfold start addrOff addrLen protocolAt
  cases flow.isV6 with
  | true => exact .inl ⟨rfl, rfl, rfl, rfl, rfl⟩
  | false => exact .inr ⟨rfl, rfl, rfl, rfl, rfl⟩

theorem headersLen_tcp {tcp : TcpFlow} (isTcp : flow.tcp = some tcp) :
    flow.headersLen = flow.start + (20 + tcp.options.length) := by
  rw [headersLen, isTcp]

theorem headersLen_udp (isUdp : flow.tcp = none) : flow.headersLen = flow.start + 8 := by
  rw [headersLen, isUdp]

theorem start_add_eight_le : flow.start + 8 ≤ flow.headersLen := by
  cases flow with
  | mk isV6 source destination sourcePort destinationPort tcp =>
      cases tcp with
      | none => exact Nat.le_refl _
      | some tcp =>
          show _ ≤ _ + (20 + tcp.options.length)
          omega

/-- Where the quiet bytes are. -/
theorem mem_quiet {flow : Flow} {index : Nat} (quiet : index ∈ flow.quiet) :
    (flow.start = 40 ∧ 4 ≤ index ∧ index < 6)
      ∨ (flow.start = 20 ∧ (2 ≤ index ∧ index < 6 ∨ 10 ≤ index ∧ index < 12))
      ∨ (flow.start + 4 ≤ index ∧ index < flow.start + 8)
      ∨ index = flow.start + 13 ∨ (flow.start + 16 ≤ index ∧ index < flow.start + 18) := by
  obtain ip | transport := quiet
  · obtain ⟨family, start, -⟩ | ⟨family, start, -⟩ := flow.layout
    · rw [if_pos family] at ip
      exact .inl ⟨start, ip.1, ip.2⟩
    · rw [family, if_neg Bool.false_ne_true] at ip
      exact .inr (.inl ⟨start, ip⟩)
  · refine .inr (.inr ?_)
    split at transport
    · obtain (field | flags) | csum := transport
      · exact .inl field
      · exact .inr (.inl flags)
      · exact .inr (.inr csum)
    · obtain ⟨low, high⟩ | ⟨low, high⟩ := transport
      · exact .inl ⟨low, by omega⟩
      · exact .inl ⟨by omega, high⟩

variable {flow}

/-- **A packet with the headers of a flow** is described by it. -/
theorem describe_of_carries {seq : Nat} {pkt : Bytes} (carries : flow.Carries seq pkt) :
    describe pkt = flow.view seq (pkt.drop flow.headersLen) := by
  have transport : ∀ {family : UInt8}, describeTransport family flow.protocol flow.source
      flow.destination (pkt.drop flow.start)
        = ⟨family, flow.source, flow.destination, flow.protocol,
          some (flow.sourcePort, flow.destinationPort),
          flow.tcp.map fun tcp => ⟨tcp.ack, seq % 2 ^ 32, tcp.options⟩,
          pkt.drop flow.headersLen⟩ := by
    intro family
    unfold describeTransport
    dsimp only
    rw [be16_drop, be16_drop, Nat.add_zero, carries.sourcePort, carries.destinationPort]
    cases isTcp : flow.tcp with
    | none =>
        have udp : flow.protocol = 17 := by rw [protocol, isTcp]; rfl
        rw [udp, if_neg (by decide), if_pos rfl, List.drop_drop, headersLen_udp flow isTcp]
        rfl
    | some tcp =>
        have isTcp' : flow.tcp.isSome = true := by rw [isTcp]; rfl
        have six : flow.protocol = 6 := by rw [protocol, isTcp]; rfl
        have offset := carries.dataOffset tcp isTcp
        rw [six, if_pos rfl, byteAt_drop, offset, slice_drop, slice_drop, slice_drop,
          List.drop_drop, carries.ack tcp isTcp, carries.sequence isTcp', Nat.add_sub_cancel_left,
          carries.options tcp isTcp, headersLen_tcp flow isTcp]
        rfl
  have version := carries.version
  have source := carries.source
  have destination := carries.destination
  have protocol := carries.protocol
  unfold describe view
  dsimp only
  obtain ⟨family, start, addrOff, addrLen, protocolAt⟩
    | ⟨family, start, addrOff, addrLen, protocolAt⟩ := flow.layout
  · rw [addrOff, addrLen] at source destination
    rw [protocolAt] at protocol
    rw [start] at transport
    rw [version, if_pos family, if_neg (by decide), if_pos rfl, source, destination, protocol,
      transport]
  · rw [addrOff, addrLen] at source destination
    rw [protocolAt] at protocol
    rw [start] at transport
    rw [version, family, if_neg Bool.false_ne_true, if_pos rfl, source, destination, protocol,
      carries.plain family, transport]

/-- **Packets that agree off the quiet bytes of their headers** have the headers of one flow. -/
theorem Carries.congr {seq seq' : Nat} {pkt pkt' : Bytes} (carries : flow.Carries seq pkt)
    (agree : AgreeOff flow.quiet (pkt.take flow.headersLen) (pkt'.take flow.headersLen))
    (number : flow.tcp.isSome = true →
      value (slice pkt' (flow.start + 4) 4) = seq' % 2 ^ 32) : flow.Carries seq' pkt' := by
  have enough := flow.start_add_eight_le
  have layout := flow.layout
  have whole : flow.headersLen ≤ pkt'.length := by
    have size := agree.1
    have whole := carries.whole
    rw [List.length_take, List.length_take] at size
    omega
  have kept : ∀ {start size : Nat}, start + size ≤ flow.headersLen →
      (∀ index, start ≤ index → index < start + size → index ∉ flow.quiet) →
      slice pkt' start size = slice pkt start size :=
    fun within apart => agree.slice_of_take within apart
  have keptByte : ∀ {index : Nat}, index < flow.headersLen → index ∉ flow.quiet →
      byteAt pkt' index = byteAt pkt index := fun within apart => agree.byteAt_of_take within apart
  have first : byteAt pkt' 0 = byteAt pkt 0 :=
    keptByte (by omega) fun quiet => by have := mem_quiet quiet; omega
  exact {
    version := by rw [first, carries.version]
    plain := fun family => by rw [headerLength, first]; exact carries.plain family
    source := by
      rw [kept (by omega) fun index low high quiet => by have := mem_quiet quiet; omega]
      exact carries.source
    destination := by
      rw [kept (by omega) fun index low high quiet => by have := mem_quiet quiet; omega]
      exact carries.destination
    protocol := by
      rw [keptByte (by omega) fun quiet => by have := mem_quiet quiet; omega]
      exact carries.protocol
    sourcePort := by
      rw [be16_congr (kept (by omega) fun index low high quiet => by
        have := mem_quiet quiet; omega)]
      exact carries.sourcePort
    destinationPort := by
      rw [be16_congr (kept (by omega) fun index low high quiet => by
        have := mem_quiet quiet; omega)]
      exact carries.destinationPort
    ack := fun tcp isTcp => by
      have size := flow.headersLen_tcp isTcp
      rw [kept (by omega) fun index low high quiet => by have := mem_quiet quiet; omega]
      exact carries.ack tcp isTcp
    dataOffset := fun tcp isTcp => by
      have size := flow.headersLen_tcp isTcp
      rw [keptByte (by omega) fun quiet => by have := mem_quiet quiet; omega]
      exact carries.dataOffset tcp isTcp
    options := fun tcp isTcp => by
      have size := flow.headersLen_tcp isTcp
      rw [kept (by omega) fun index low high quiet => by have := mem_quiet quiet; omega]
      exact carries.options tcp isTcp
    sequence := number
    whole := whole }

/-! ### Merging -/

/-- A buffer of `numMerged + 1` packets of the flow, with payloads of `gso` bytes, the last one
perhaps shorter. -/
structure Holds (flow : Flow) (seq gso numMerged : Nat) (pkt : Bytes) : Prop where
  carries : flow.Carries seq pkt
  small : pkt.length ≤ 65535
  positive : 0 < gso
  full : flow.headersLen + gso ≤ pkt.length
  count : pieceCount gso (pkt.length - flow.headersLen) = numMerged + 1

variable {seq gso numMerged : Nat} {target : Bytes}

/-- All packets but the last are full. -/
theorem Holds.numMerged_mul_lt (holds : flow.Holds seq gso numMerged target) :
    numMerged * gso < target.length - flow.headersLen := by
  rw [← lt_pieceCount_iff holds.positive, holds.count]
  exact Nat.lt_succ_self _

/-- A payload that ends with a full packet. -/
theorem Holds.length_of_multiple (holds : flow.Holds seq gso numMerged target)
    (multiple : (target.length - flow.headersLen) % gso = 0) :
    target.length - flow.headersLen = (numMerged + 1) * gso := by
  have count := holds.count
  obtain ⟨times, length⟩ := Nat.dvd_of_mod_eq_zero multiple
  rw [Nat.mul_comm] at length
  rw [length, pieceCount_mul holds.positive] at count
  rw [length, count]

/-- A buffer of one packet. -/
theorem Holds.length_of_single (holds : flow.Holds seq gso 0 target) :
    target.length - flow.headersLen = gso := by
  have full := holds.full
  have single : ¬ 1 * gso < target.length - flow.headersLen := by
    rw [← lt_pieceCount_iff holds.positive, holds.count]
    exact Nat.lt_irrefl _
  omega

/-- A packet on its own. -/
theorem Carries.holds {pkt : Bytes} (carries : flow.Carries seq pkt) (small : pkt.length ≤ 65535)
    (some : flow.headersLen < pkt.length) :
    flow.Holds seq (pkt.length - flow.headersLen) 0 pkt where
  carries := carries
  small := small
  positive := by omega
  full := by omega
  count := by
    have count := pieceCount_mul (show 0 < pkt.length - flow.headersLen by omega) 1
    rwa [Nat.one_mul] at count

/-- What a buffer of one packet stands for is that packet. -/
theorem Holds.cut_eq_describe (holds : flow.Holds seq gso 0 target) :
    flow.cut gso seq (target.drop flow.headersLen) = [describe target] := by
  have positive := holds.positive
  have length := holds.length_of_single
  rw [describe_of_carries holds.carries]
  exact flow.cut_single seq (by rw [List.length_drop]; omega) (by rw [List.length_drop]; omega)

/-- **A packet merged at the end.** -/
theorem Holds.append {seq' : Nat} {pkt merged : Bytes} (holds : flow.Holds seq gso numMerged target)
    (carries : flow.Carries seq' pkt) (some : flow.headersLen < pkt.length)
    (short : pkt.length - flow.headersLen ≤ gso)
    (multiple : (target.length - flow.headersLen) % gso = 0)
    (follows : seq' % 2 ^ 32 = (seq + (numMerged + 1) * gso) % 2 ^ 32)
    (carries' : flow.Carries seq merged) (small : merged.length ≤ 65535)
    (data : merged.drop flow.headersLen
      = target.drop flow.headersLen ++ pkt.drop flow.headersLen) :
    flow.Holds seq gso (numMerged + 1) merged
      ∧ flow.cut gso seq (merged.drop flow.headersLen)
        = flow.cut gso seq (target.drop flow.headersLen) ++ [describe pkt] := by
  have full := holds.full
  have length := holds.length_of_multiple multiple
  have total := congrArg List.length data
  rw [List.length_append, List.length_drop, List.length_drop, List.length_drop] at total
  have whole := carries'.whole
  refine ⟨⟨carries', small, holds.positive, by omega, ?_⟩, ?_⟩
  · rw [total, length]
    exact pieceCount_mul_add holds.positive (by omega) short (numMerged + 1)
  · rw [data, flow.cut_append seq holds.positive (by rw [List.length_drop, length])
      (by rw [List.length_drop]; omega) (by rw [List.length_drop]; exact short),
      describe_of_carries carries, flow.view_congr follows]

/-- **A packet merged in front.** -/
theorem Holds.prepend {seq' : Nat} {pkt merged : Bytes}
    (holds : flow.Holds seq gso numMerged target) (carries : flow.Carries seq' pkt)
    (long : gso ≤ pkt.length - flow.headersLen)
    (alone : gso < pkt.length - flow.headersLen → numMerged = 0)
    (leads : (seq' + (pkt.length - flow.headersLen)) % 2 ^ 32 = seq % 2 ^ 32)
    (carries' : flow.Carries seq' merged) (small : merged.length ≤ 65535)
    (data : merged.drop flow.headersLen
      = pkt.drop flow.headersLen ++ target.drop flow.headersLen) :
    flow.Holds seq' (pkt.length - flow.headersLen) (numMerged + 1) merged
      ∧ flow.cut (pkt.length - flow.headersLen) seq' (merged.drop flow.headersLen)
        = describe pkt :: flow.cut gso seq (target.drop flow.headersLen) := by
  have positive := holds.positive
  have full := holds.full
  have total := congrArg List.length data
  rw [List.length_append, List.length_drop, List.length_drop, List.length_drop] at total
  have whole := carries'.whole
  have front : (pkt.drop flow.headersLen).length = pkt.length - flow.headersLen :=
    List.length_drop
  -- cutting the old payload at the new size makes no difference
  obtain ⟨count, cuts⟩ : pieceCount (pkt.length - flow.headersLen)
        (target.length - flow.headersLen) = numMerged + 1
      ∧ flow.cut (pkt.length - flow.headersLen) seq (target.drop flow.headersLen)
        = flow.cut gso seq (target.drop flow.headersLen) := by
    by_cases longer : gso < pkt.length - flow.headersLen
    · have single := alone longer
      subst single
      have length := holds.length_of_single
      have count := pieceCount_mul_add (show 0 < pkt.length - flow.headersLen by omega) positive
        long 0
      rw [Nat.zero_mul, Nat.zero_add] at count
      refine ⟨by rw [length]; exact count, ?_⟩
      rw [holds.cut_eq_describe, describe_of_carries holds.carries]
      exact flow.cut_single seq (by rw [List.length_drop]; omega) (by rw [List.length_drop]; omega)
    · have same : pkt.length - flow.headersLen = gso := by omega
      rw [same]
      exact ⟨holds.count, rfl⟩
  refine ⟨⟨carries', small, by omega, by omega, ?_⟩, ?_⟩
  · rw [total, pieceCount_add (by omega), count]
  · rw [data, flow.cut_prepend seq' _ (by omega) front, flow.cut_congr leads, cuts,
      describe_of_carries carries]

end Flow

end RsTun.Gso
