/-
**`handle_gro`: the merging of a batch of packets.**

`handleGro` follows the source statement by statement. Every index, slice, difference and
fixed-width sum is checked. A buffer is its bytes with its capacity, and a table is a map whose
`values()` come in an order of their own (`MapOrder`). Where the source builds one item in two
places, `tcpGroItem` and `udpGroItem` build it once, from what the functions before it read off the
packet.
-/

import Mathlib.Data.List.AList
import RsTun.Gso.Split

namespace RsTun.Gso

open Library Library.Bytes Library.OnesComplement

/-- `UDP_HDR_LEN`. -/
def udpHdrLen : Nat := 8

/-- `TCP_FLAG_ACK`. -/
def tcpFlagAck : UInt8 := 0x10

/-- `IPV4_FLAG_MORE_FRAGMENTS`. -/
def ipv4FlagMoreFragments : UInt8 := 0x20

/-- The errors of the merging; `virtioNetHdrEncodeTooShort` is dropped by the code. -/
inductive GroError where
  | invalidOffset
  | virtioNetHdrEncodeTooShort
  | gso (error : GsoError)
  deriving DecidableEq

/-- `VirtioNetHdr::default`. -/
def VirtioNetHdr.default : VirtioNetHdr := ⟨0, 0, 0, 0, 0, 0⟩

/-- `to_le_bytes`, the native order of a little-endian target. -/
def nativeBytes (number : UInt16) : Bytes :=
  [.ofNat (number.toNat % 256), .ofNat (number.toNat / 256)]

/-- `VirtioNetHdr::encode`, into the first bytes of `b`. -/
def VirtioNetHdr.encode (hdr : VirtioNetHdr) (b : Bytes) : Checked GroError Bytes :=
  if b.length < virtioNetHdrLen then Checked.fail .virtioNetHdrEncodeTooShort
  else .ok (overwrite b 0 ([hdr.flags, hdr.gsoType] ++ nativeBytes hdr.hdrLen
    ++ nativeBytes hdr.gsoSize ++ nativeBytes hdr.csumStart ++ nativeBytes hdr.csumOffset))

/-- `hdr.encode(&mut buf[offset - VIRTIO_NET_HDR_LEN..offset]).ok()`, under its condition. -/
def writeHdr (hdr : VirtioNetHdr) (buf : Bytes) (offset : Nat) : Checked GroError Bytes :=
  if virtioNetHdrLen ≤ offset then do
    let area ← Checked.range buf (offset - virtioNetHdrLen) offset
    match hdr.encode area with
    | .ok encoded => Checked.copyFromSlice buf (offset - virtioNetHdrLen) offset encoded
    | .error (.failed _) => return buf
    | .error .panicked => .error .panicked
  else return buf

/-! ### Candidates -/

/-- `GroCandidateType`. -/
inductive GroCandidateType where
  | notCandidate
  | tcp4
  | tcp6
  | udp4
  | udp6
  deriving DecidableEq

/-- `GroDisablementFlags`. -/
structure GroDisablementFlags where
  flags : UInt8

/-- `can_tcp`. -/
def GroDisablementFlags.canTcp (gro : GroDisablementFlags) : Bool := gro.flags &&& 1 == 0

/-- `can_udp`. -/
def GroDisablementFlags.canUdp (gro : GroDisablementFlags) : Bool := gro.flags &&& 2 == 0

/-- `packet_is_gro_candidate`. -/
def packetIsGroCandidate (b : Bytes) (gro : GroDisablementFlags) :
    Checked GroError GroCandidateType :=
  if b.length < 28 then .ok .notCandidate
  else do
    let first ← Checked.index b 0
    if first >>> 4 = 4 then
      if first &&& 0x0f ≠ 5 then return .notCandidate
      else
        let protocol ← Checked.index b 9
        if protocol = 6 ∧ 40 ≤ b.length ∧ gro.canTcp = true then return .tcp4
        else if protocol = 17 ∧ gro.canUdp = true then return .udp4
        else return .notCandidate
    else if first >>> 4 = 6 then
      let protocol ← Checked.index b 6
      if protocol = 6 ∧ 60 ≤ b.length ∧ gro.canTcp = true then return .tcp6
      else if protocol = 17 ∧ 48 ≤ b.length ∧ gro.canUdp = true then return .udp6
      else return .notCandidate
    else return .notCandidate

/-! ### Items and tables -/

/-- `TcpFlowKey`. -/
structure TcpFlowKey where
  srcAddr : Bytes
  dstAddr : Bytes
  srcPort : Nat
  dstPort : Nat
  rxAck : Nat
  isV6 : Bool
  deriving DecidableEq

/-- `UdpFlowKey`. -/
structure UdpFlowKey where
  srcAddr : Bytes
  dstAddr : Bytes
  srcPort : Nat
  dstPort : Nat
  isV6 : Bool
  deriving DecidableEq

/-- `key.addr[..addr_size].copy_from_slice(&pkt[start..stop])`, on an array of zeros. -/
def keyAddr (pkt : Bytes) (start stop addrSize : Nat) : Checked GroError Bytes := do
  let addr ← Checked.range pkt start stop
  Checked.copyFromSlice (List.replicate 16 0) 0 addrSize addr

/-- `TcpFlowKey::new`. -/
def TcpFlowKey.new (pkt : Bytes) (srcOff dstOff tcphOff : Nat) : Checked GroError TcpFlowKey := do
  let addrSize ← Checked.minus dstOff srcOff
  let srcPort ← Checked.readU16 pkt tcphOff
  let dstPort ← Checked.readU16 pkt (tcphOff + 2)
  let rxAck ← Checked.readU32 pkt (tcphOff + 8)
  let srcAddr ← keyAddr pkt srcOff dstOff addrSize
  let dstAddr ← keyAddr pkt dstOff (dstOff + addrSize) addrSize
  return { srcAddr, dstAddr, srcPort, dstPort, rxAck, isV6 := addrSize == 16 }

/-- `UdpFlowKey::new`. -/
def UdpFlowKey.new (pkt : Bytes) (srcOff dstOff udphOff : Nat) : Checked GroError UdpFlowKey := do
  let addrSize ← Checked.minus dstOff srcOff
  let srcPort ← Checked.readU16 pkt udphOff
  let dstPort ← Checked.readU16 pkt (udphOff + 2)
  let srcAddr ← keyAddr pkt srcOff dstOff addrSize
  let dstAddr ← keyAddr pkt dstOff (dstOff + addrSize) addrSize
  return { srcAddr, dstAddr, srcPort, dstPort, isV6 := addrSize == 16 }

/-- `TcpGroItem`. -/
structure TcpGroItem where
  key : TcpFlowKey
  sentSeq : Nat
  bufsIndex : Nat
  numMerged : Nat
  gsoSize : Nat
  iphLen : Nat
  tcphLen : Nat
  pshSet : Bool
  deriving DecidableEq

/-- `UdpGroItem`. -/
structure UdpGroItem where
  key : UdpFlowKey
  bufsIndex : Nat
  numMerged : Nat
  gsoSize : Nat
  iphLen : Nat
  deriving DecidableEq

/-- `TcpGroTable`. -/
abbrev TcpGroTable := AList fun _ : TcpFlowKey => List TcpGroItem

/-- `UdpGroTable`. -/
abbrev UdpGroTable := AList fun _ : UdpFlowKey => List UdpGroItem

/-- A `Vec<u8>`: its bytes, and how many it can hold where it is. -/
structure Buffer where
  bytes : Bytes
  capacity : Nat
  deriving DecidableEq

/-- `resize(size, 0)`. -/
def Buffer.resize (buffer : Buffer) (size : Nat) : Buffer where
  bytes := buffer.bytes.take size ++ List.replicate (size - buffer.bytes.length) 0
  capacity := max buffer.capacity size

/-! ### What can be merged -/

/-- `CanCoalesce`. -/
inductive CanCoalesce where
  | prepend
  | unavailable
  | append
  deriving DecidableEq

/-- `CoalesceResult`. -/
inductive CoalesceResult where
  | insufficientCap
  | pshEnding
  | itemInvalidCsum
  | pktInvalidCsum
  | success
  deriving DecidableEq

/-- `GroResult`. -/
inductive GroResult where
  | noop
  | tableInsert
  | coalesced
  deriving DecidableEq

/-- `checksum`, with its panics. -/
def groChecksum (data : Bytes) (initial : Nat) : Checked GroError Nat :=
  (checksum data initial).mapError .gso

/-- `checksum_valid`. -/
def checksumValid (pkt : Bytes) (iphLen : Nat) (proto : UInt8) (isV6 : Bool) :
    Checked GroError Bool :=
  let srcOff := if isV6 then 8 else 12
  let addrLen := if isV6 then 16 else 4
  if pkt.length < srcOff + addrLen * 2 then .ok false
  else do
    let lenForPseudo ← Checked.minus pkt.length iphLen
    let src ← Checked.range pkt srcOff (srcOff + addrLen)
    let dst ← Checked.range pkt (srcOff + addrLen) (srcOff + addrLen * 2)
    let psum := pseudoHeaderChecksum proto src dst (lenForPseudo % 65536)
    let sum ← groChecksum (← Checked.range pkt iphLen pkt.length) psum
    return complement sum == 0

/-- `ip_headers_can_coalesce`. -/
def ipHeadersCanCoalesce (pktA pktB : Bytes) : Checked GroError Bool :=
  if pktA.length < 9 ∨ pktB.length < 9 then .ok false
  else do
    let first ← Checked.index pktA 0
    if first >>> 4 = 6 then
      let firstB ← Checked.index pktB 0
      let second ← Checked.index pktA 1
      let secondB ← Checked.index pktB 1
      let hops ← Checked.index pktA 7
      let hopsB ← Checked.index pktB 7
      return first == firstB && second >>> 4 == secondB >>> 4 && hops == hopsB
    else
      let second ← Checked.index pktA 1
      let secondB ← Checked.index pktB 1
      let flags ← Checked.index pktA 6
      let flagsB ← Checked.index pktB 6
      let ttl ← Checked.index pktA 8
      let ttlB ← Checked.index pktB 8
      return second == secondB && flags >>> 5 == flagsB >>> 5 && ttl == ttlB

/-- The comparison of the options in `tcp_packets_can_coalesce`. -/
def optionsDiffer (pkt pktTarget : Bytes) (iphLen tcphLen itemIphLen : Nat) :
    Checked GroError Bool :=
  if 20 < tcphLen then do
    let options ← Checked.range pkt (iphLen + 20) (iphLen + tcphLen)
    let others ← Checked.range pktTarget (itemIphLen + 20) (itemIphLen + tcphLen)
    return options != others
  else .ok false

/-- `tcp_packets_can_coalesce`. -/
def tcpPacketsCanCoalesce (pkt : Bytes) (iphLen tcphLen seq : Nat) (pshSet : Bool) (gsoSize : Nat)
    (item : TcpGroItem) (bufs : List Buffer) (offset : Nat) : Checked GroError CanCoalesce := do
  let target ← Checked.entry bufs item.bufsIndex
  let pktTarget ← Checked.range target.bytes offset target.bytes.length
  if tcphLen ≠ item.tcphLen then return .unavailable
  else
    let differ ← optionsDiffer pkt pktTarget iphLen tcphLen item.iphLen
    if differ = true then return .unavailable
    else
      let same ← ipHeadersCanCoalesce pkt pktTarget
      if same = false then return .unavailable
      else
        let merged ← Checked.inBits 32 (item.numMerged * item.gsoSize)
        let lhsLen ← Checked.inBits 32 (item.gsoSize + merged)
        if seq = (item.sentSeq + lhsLen) % 2 ^ 32 then
          if item.pshSet = true then return .unavailable
          else
            let transport ← Checked.minus pktTarget.length iphLen
            let payload ← Checked.minus transport tcphLen
            if payload % item.gsoSize ≠ 0 then return .unavailable
            else if item.gsoSize < gsoSize then return .unavailable
            else return .append
        else if (seq + gsoSize) % 2 ^ 32 = item.sentSeq then
          if pshSet = true then return .unavailable
          else if gsoSize < item.gsoSize then return .unavailable
          else if item.gsoSize < gsoSize ∧ 0 < item.numMerged then return .unavailable
          else return .prepend
        else return .unavailable

/-- `udp_packets_can_coalesce`. -/
def udpPacketsCanCoalesce (pkt : Bytes) (iphLen gsoSize : Nat) (item : UdpGroItem)
    (bufs : List Buffer) (offset : Nat) : Checked GroError CanCoalesce := do
  let target ← Checked.entry bufs item.bufsIndex
  let pktTarget ← Checked.range target.bytes offset target.bytes.length
  let same ← ipHeadersCanCoalesce pkt pktTarget
  if same = false then return .unavailable
  else
    let transport ← Checked.minus pktTarget.length iphLen
    let payload ← Checked.minus transport udpHdrLen
    if payload % item.gsoSize ≠ 0 then return .unavailable
    else if item.gsoSize < gsoSize then return .unavailable
    else return .append

/-! ### Merging -/

/-- `item.num_merged > 0 || checksum_valid(&bufs[item_idx][offset..], …)`. -/
def itemCsumValid (target : Bytes) (iphLen numMerged : Nat) (proto : UInt8) (isV6 : Bool) :
    Checked GroError Bool :=
  if numMerged = 0 then checksumValid target iphLen proto isV6 else .ok true

/-- The checksum tests of `coalesce_tcp_packets` and `coalesce_udp_packets`: the result to return,
or none if both are right. -/
def invalidCsum (pkt target : Bytes) (iphLen numMerged : Nat) (proto : UInt8) (isV6 : Bool) :
    Checked GroError (Option CoalesceResult) := do
  let itemValid ← itemCsumValid target iphLen numMerged proto isV6
  if itemValid = false then return some .itemInvalidCsum
  else
    let pktValid ← checksumValid pkt iphLen proto isV6
    if pktValid = false then return some .pktInvalidCsum else return none

/-- The growth of a buffer by `more`, in `coalesce_tcp_packets` and `coalesce_udp_packets`. -/
def extendBuffer (buffer : Buffer) (offset headLen : Nat) (more : Bytes) :
    Checked GroError Buffer := do
  let grown := buffer.resize (buffer.bytes.length + more.length)
  let bytes ← Checked.copyFromSlice grown.bytes (offset + headLen)
    (offset + headLen + more.length) more
  return { grown with bytes }

/-- The end of `coalesce_tcp_packets`. -/
def countMerged (gsoSize : Nat) (item : TcpGroItem) : Checked GroError TcpGroItem := do
  let numMerged ← Checked.inBits 16 (item.numMerged + 1)
  return { item with
    gsoSize := if item.gsoSize < gsoSize then gsoSize else item.gsoSize
    numMerged }

/-- The first branch of `coalesce_tcp_packets`: the packet in front. -/
def prependTcpPacket (pkt : Bytes) (pktBufsIndex seq coalescedLen : Nat) (pshSet : Bool)
    (item : TcpGroItem) (itemBuf : Buffer) (bufs : List Buffer) (offset : Nat) (isV6 : Bool) :
    Checked GroError (CoalesceResult × TcpGroItem × List Buffer) := do
  let headersLen := item.iphLen + item.tcphLen
  let pktBuf ← Checked.entry bufs pktBufsIndex
  let room ← Checked.minus pktBuf.capacity offset
  if room < coalescedLen then return (.insufficientCap, item, bufs)
  else if pshSet = true then return (.pshEnding, item, bufs)
  else
    let target ← Checked.range itemBuf.bytes offset itemBuf.bytes.length
    match ← invalidCsum pkt target item.iphLen item.numMerged 6 isV6 with
    | some result => return (result, item, bufs)
    | none =>
        let itemPayload ← Checked.range itemBuf.bytes (offset + headersLen) itemBuf.bytes.length
        let pktLenInBuf ← Checked.minus pktBuf.bytes.length offset
        let extendBy ← Checked.minus coalescedLen pktLenInBuf
        let grown := pktBuf.resize (pktBuf.bytes.length + extendBy)
        let bytes ← Checked.copyFromSlice grown.bytes (offset + pktLenInBuf)
          (offset + pktLenInBuf + itemPayload.length) itemPayload
        let bufs ← Checked.swap (bufs.set pktBufsIndex { grown with bytes }) item.bufsIndex
          pktBufsIndex
        return (.success, { item with sentSeq := seq }, bufs)

/-- `if psh_set { … |= TCP_FLAG_PSH }`. -/
def raisePsh (bytes : Bytes) (flagsAt : Nat) (pshSet : Bool) : Checked GroError Bytes :=
  if pshSet = true then do
    let flags ← Checked.index bytes flagsAt
    Checked.copyFromSlice bytes flagsAt (flagsAt + 1) [flags ||| tcpFlagPsh]
  else .ok bytes

/-- The second branch of `coalesce_tcp_packets`: the packet behind. -/
def appendTcpPacket (pkt : Bytes) (coalescedLen : Nat) (pshSet : Bool) (item : TcpGroItem)
    (itemBuf : Buffer) (bufs : List Buffer) (offset : Nat) (isV6 : Bool) :
    Checked GroError (CoalesceResult × TcpGroItem × List Buffer) := do
  let headersLen := item.iphLen + item.tcphLen
  let pktHeadLen ← Checked.minus itemBuf.bytes.length offset
  let room ← Checked.minus itemBuf.capacity offset
  if room < coalescedLen then return (.insufficientCap, item, bufs)
  else
    let target ← Checked.range itemBuf.bytes offset itemBuf.bytes.length
    match ← invalidCsum pkt target item.iphLen item.numMerged 6 isV6 with
    | some result => return (result, item, bufs)
    | none =>
        let flagged ← raisePsh itemBuf.bytes (offset + item.iphLen + tcpFlagsOffset) pshSet
        let more ← Checked.range pkt headersLen pkt.length
        let grown ← extendBuffer { itemBuf with bytes := flagged } offset pktHeadLen more
        return (.success, { item with pshSet := item.pshSet || pshSet },
          bufs.set item.bufsIndex grown)

/-- The two branches of `coalesce_tcp_packets`. -/
def mergeTcpPacket (mode : CanCoalesce) (pkt : Bytes) (pktBufsIndex seq coalescedLen : Nat)
    (pshSet : Bool) (item : TcpGroItem) (itemBuf : Buffer) (bufs : List Buffer) (offset : Nat)
    (isV6 : Bool) : Checked GroError (CoalesceResult × TcpGroItem × List Buffer) :=
  if mode = .prepend then
    prependTcpPacket pkt pktBufsIndex seq coalescedLen pshSet item itemBuf bufs offset isV6
  else appendTcpPacket pkt coalescedLen pshSet item itemBuf bufs offset isV6

/-- `coalesce_tcp_packets`. -/
def coalesceTcpPackets (mode : CanCoalesce) (pkt : Bytes) (pktBufsIndex gsoSize seq : Nat)
    (pshSet : Bool) (item : TcpGroItem) (bufs : List Buffer) (offset : Nat) (isV6 : Bool) :
    Checked GroError (CoalesceResult × TcpGroItem × List Buffer) := do
  let itemBuf ← Checked.entry bufs item.bufsIndex
  let held ← Checked.minus itemBuf.bytes.length offset
  let coalescedLen ← Checked.minus (held + pkt.length) (item.iphLen + item.tcphLen)
  let (result, merged, bufs) ← mergeTcpPacket mode pkt pktBufsIndex seq coalescedLen pshSet item
    itemBuf bufs offset isV6
  if result = .success then
    let counted ← countMerged gsoSize merged
    return (result, counted, bufs)
  else return (result, merged, bufs)

/-- `coalesce_udp_packets`. -/
def coalesceUdpPackets (pkt : Bytes) (item : UdpGroItem) (bufs : List Buffer) (offset : Nat)
    (isV6 : Bool) : Checked GroError (CoalesceResult × UdpGroItem × List Buffer) := do
  let headersLen := item.iphLen + udpHdrLen
  let itemBuf ← Checked.entry bufs item.bufsIndex
  let held ← Checked.minus itemBuf.bytes.length offset
  let coalescedLen ← Checked.minus (held + pkt.length) headersLen
  let room ← Checked.minus itemBuf.capacity offset
  if room < coalescedLen then return (.insufficientCap, item, bufs)
  else
    let target ← Checked.range itemBuf.bytes offset itemBuf.bytes.length
    match ← invalidCsum pkt target item.iphLen item.numMerged 17 isV6 with
    | some result => return (result, item, bufs)
    | none =>
        let more ← Checked.range pkt headersLen pkt.length
        let grown ← extendBuffer itemBuf offset held more
        let numMerged ← Checked.inBits 16 (item.numMerged + 1)
        return (.success, { item with numMerged }, bufs.set item.bufsIndex grown)

/-! ### One packet -/

/-- `iph_len` of `tcp_gro` and `udp_gro`. -/
def groIphLen (pkt : Bytes) (isV6 : Bool) : Checked GroError Nat :=
  if isV6 = true then .ok 40
  else do
    let first ← Checked.index pkt 0
    return (first &&& 0x0f).toNat * 4

/-- The length that the IP header states is that of the packet. -/
def groLengthAgrees (pkt : Bytes) (iphLen : Nat) (isV6 : Bool) : Checked GroError Bool :=
  if isV6 = true then do
    let payloadLen ← Checked.readU16 pkt 4
    let rest ← Checked.minus pkt.length iphLen
    return payloadLen == rest
  else do
    let totalLen ← Checked.readU16 pkt 2
    return totalLen == pkt.length

/-- An IPv4 fragment. -/
def groIsFragment (pkt : Bytes) (isV6 : Bool) : Checked GroError Bool :=
  if isV6 = true then .ok false
  else do
    let high ← Checked.index pkt 6
    let low ← Checked.index pkt 7
    return high &&& ipv4FlagMoreFragments != 0 || high <<< 3 != 0 || low != 0

/-- `src_off` and `addr_len` of `tcp_gro` and `udp_gro`. -/
def groAddresses (isV6 : Bool) : Nat × Nat := if isV6 then (8, 16) else (12, 4)

/-- The item that `tcp_gro` inserts for the packet; none where it returns `Noop` at once. -/
def tcpGroItem (pkt : Bytes) (pktI : Nat) (isV6 : Bool) :
    Checked GroError (Option TcpGroItem) :=
  if 65535 < pkt.length then .ok none
  else do
    let iphLen ← groIphLen pkt isV6
    let agrees ← groLengthAgrees pkt iphLen isV6
    if agrees = false then return none
    else if pkt.length < iphLen then return none
    else
      let dataOffset ← Checked.index pkt (iphLen + 12)
      let tcphLen := (dataOffset >>> 4).toNat * 4
      if ¬ (20 ≤ tcphLen ∧ tcphLen ≤ 60) then return none
      else if pkt.length < iphLen + tcphLen then return none
      else
        let fragment ← groIsFragment pkt isV6
        if fragment = true then return none
        else
          let tcpFlags ← Checked.index pkt (iphLen + tcpFlagsOffset)
          if tcpFlags ≠ tcpFlagAck ∧ tcpFlags ≠ tcpFlagAck ||| tcpFlagPsh then return none
          else
            let rest ← Checked.minus pkt.length tcphLen
            let payload ← Checked.minus rest iphLen
            let gsoSize := payload % 65536
            if gsoSize < 1 then return none
            else
              let seq ← Checked.readU32 pkt (iphLen + 4)
              let (srcOff, addrLen) := groAddresses isV6
              let key ← TcpFlowKey.new pkt srcOff (srcOff + addrLen) iphLen
              return some {
                key
                sentSeq := seq
                bufsIndex := pktI
                numMerged := 0
                gsoSize
                iphLen := iphLen % 256
                tcphLen := tcphLen % 256
                pshSet := tcpFlags != tcpFlagAck }

/-- The loop of `tcp_gro` over the items of a flow, from the one before `i` down. -/
def tcpGroLoop (pkt : Bytes) (new : TcpGroItem) (offset : Nat) (isV6 : Bool) :
    (i : Nat) → List TcpGroItem → List Buffer →
      Checked GroError (GroResult × List TcpGroItem × List Buffer)
  | 0, items, bufs => .ok (.tableInsert, items, bufs)
  | i + 1, items, bufs => do
      let item ← Checked.entry items i
      let can ← tcpPacketsCanCoalesce pkt new.iphLen new.tcphLen new.sentSeq new.pshSet new.gsoSize
        item bufs offset
      if can = .unavailable then tcpGroLoop pkt new offset isV6 i items bufs
      else
        let (result, merged, bufs) ← coalesceTcpPackets can pkt new.bufsIndex new.gsoSize
          new.sentSeq new.pshSet item bufs offset isV6
        match result with
        | .success => return (.coalesced, items.set i merged, bufs)
        | .itemInvalidCsum => tcpGroLoop pkt new offset isV6 i (items.eraseIdx i) bufs
        | .pktInvalidCsum => return (.noop, items, bufs)
        | _ => tcpGroLoop pkt new offset isV6 i items bufs

/-- `tcp_gro`. -/
def tcpGro (bufs : List Buffer) (offset pktI : Nat) (table : TcpGroTable) (isV6 : Bool) :
    Checked GroError (GroResult × List Buffer × TcpGroTable) := do
  let buf ← Checked.entry bufs pktI
  let pkt ← Checked.range buf.bytes offset buf.bytes.length
  match ← tcpGroItem pkt pktI isV6 with
  | none => return (.noop, bufs, table)
  | some new =>
      match table.lookup new.key with
      | none => return (.tableInsert, bufs, table.insert new.key [new])
      | some items =>
          let (result, items, bufs) ← tcpGroLoop pkt new offset isV6 items.length items bufs
          if result = .tableInsert then
            return (result, bufs, table.insert new.key (items ++ [new]))
          else return (result, bufs, table.insert new.key items)

/-- The item that `udp_gro` inserts for the packet; none where it returns `Noop`. -/
def udpGroItem (pkt : Bytes) (pktI : Nat) (isV6 : Bool) :
    Checked GroError (Option UdpGroItem) :=
  if 65535 < pkt.length then .ok none
  else do
    let iphLen ← groIphLen pkt isV6
    let agrees ← groLengthAgrees pkt iphLen isV6
    if agrees = false then return none
    else if pkt.length < iphLen ∨ pkt.length < iphLen + udpHdrLen then return none
    else
      let fragment ← groIsFragment pkt isV6
      if fragment = true then return none
      else
        let rest ← Checked.minus pkt.length udpHdrLen
        let payload ← Checked.minus rest iphLen
        let gsoSize := payload % 65536
        if gsoSize < 1 then return none
        else
          let (srcOff, addrLen) := groAddresses isV6
          let key ← UdpFlowKey.new pkt srcOff (srcOff + addrLen) iphLen
          return some {
            key
            bufsIndex := pktI
            numMerged := 0
            gsoSize
            iphLen := iphLen % 256 }

/-- `udp_gro`; only the last item of a flow is tried. -/
def udpGro (bufs : List Buffer) (offset pktI : Nat) (table : UdpGroTable) (isV6 : Bool) :
    Checked GroError (GroResult × List Buffer × UdpGroTable) := do
  let buf ← Checked.entry bufs pktI
  let pkt ← Checked.range buf.bytes offset buf.bytes.length
  match ← udpGroItem pkt pktI isV6 with
  | none => return (.noop, bufs, table)
  | some new =>
      match table.lookup new.key with
      | none => return (.tableInsert, bufs, table.insert new.key [new])
      | some items =>
          let before ← Checked.minus items.length 1
          let item ← Checked.entry items before
          let can ← udpPacketsCanCoalesce pkt new.iphLen new.gsoSize item bufs offset
          if can = .append then
            let (result, merged, bufs) ← coalesceUdpPackets pkt item bufs offset isV6
            if result = .success then
              return (.coalesced, bufs, table.insert new.key (items.set before merged))
            else return (.tableInsert, bufs, table.insert new.key (items ++ [new]))
          else return (.tableInsert, bufs, table.insert new.key (items ++ [new]))

/-! ### Accounting -/

/-- The lengths and the header checksum that the accounting writes into the IP header. -/
def accountIpHeader (isV6 : Bool) (iphLen : Nat) (pktData : Bytes) : Checked GroError Bytes :=
  if isV6 = true then do
    let plen ← Checked.minus pktData.length iphLen
    Checked.copyFromSlice pktData 4 6 (encode 2 plen)
  else do
    let cleared ← Checked.copyFromSlice pktData 10 12 [0, 0]
    let sized ← Checked.copyFromSlice cleared 2 4 (encode 2 cleared.length)
    let sum ← groChecksum (← Checked.range sized 0 iphLen) 0
    Checked.copyFromSlice sized 10 12 (encode 2 (complement sum))

/-- The sum of the pseudo header, which the accounting writes into the checksum field. -/
def accountPseudoSum (proto : UInt8) (csumOffset : Nat) (isV6 : Bool) (iphLen : Nat)
    (pktData : Bytes) : Checked GroError Bytes := do
  let (addrOff, addrLen) := groAddresses isV6
  let lenForPseudo ← Checked.minus pktData.length iphLen
  let src ← Checked.range pktData addrOff (addrOff + addrLen)
  let dst ← Checked.range pktData (addrOff + addrLen) (addrOff + addrLen * 2)
  let psum := pseudoHeaderChecksum proto src dst (lenForPseudo % 65536)
  let csumAt := iphLen + csumOffset
  if csumAt + 2 ≤ pktData.length then do
    let cs ← groChecksum [] psum
    Checked.copyFromSlice pktData csumAt (csumAt + 2) (encode 2 cs)
  else return pktData

/-- The turn of `apply_tcp_coalesce_accounting` for one item. -/
def accountTcpItem (offset : Nat) (bufs : List Buffer) (item : TcpGroItem) :
    Checked GroError (List Buffer) := do
  let buf ← Checked.entry bufs item.bufsIndex
  if 0 < item.numMerged then
    let hdr : VirtioNetHdr := {
      flags := virtioNetHdrFNeedsCsum
      gsoType := if item.key.isV6 then virtioNetHdrGsoTcpv6 else virtioNetHdrGsoTcpv4
      hdrLen := .ofNat (item.iphLen + item.tcphLen)
      gsoSize := .ofNat item.gsoSize
      csumStart := .ofNat item.iphLen
      csumOffset := 16 }
    let bytes ← writeHdr hdr buf.bytes offset
    let pktData ← Checked.range bytes offset bytes.length
    let pktData ← accountIpHeader item.key.isV6 item.iphLen pktData
    let pktData ← accountPseudoSum 6 16 item.key.isV6 item.iphLen pktData
    let bytes ← Checked.copyFromSlice bytes offset bytes.length pktData
    return bufs.set item.bufsIndex { buf with bytes }
  else
    let bytes ← writeHdr .default buf.bytes offset
    return bufs.set item.bufsIndex { buf with bytes }

/-- The turn of `apply_udp_coalesce_accounting` for one item. -/
def accountUdpItem (offset : Nat) (bufs : List Buffer) (item : UdpGroItem) :
    Checked GroError (List Buffer) := do
  let buf ← Checked.entry bufs item.bufsIndex
  if 0 < item.numMerged then
    let hdr : VirtioNetHdr := {
      flags := virtioNetHdrFNeedsCsum
      gsoType := virtioNetHdrGsoUdpL4
      hdrLen := .ofNat (item.iphLen + udpHdrLen)
      gsoSize := .ofNat item.gsoSize
      csumStart := .ofNat item.iphLen
      csumOffset := 6 }
    let bytes ← writeHdr hdr buf.bytes offset
    let pktData ← Checked.range bytes offset bytes.length
    let pktData ← accountIpHeader item.key.isV6 item.iphLen pktData
    let udpLen ← Checked.minus pktData.length item.iphLen
    let pktData ← Checked.copyFromSlice pktData (item.iphLen + 4) (item.iphLen + 6)
      (encode 2 udpLen)
    let pktData ← accountPseudoSum 17 6 item.key.isV6 item.iphLen pktData
    let bytes ← Checked.copyFromSlice bytes offset bytes.length pktData
    return bufs.set item.bufsIndex { buf with bytes }
  else
    let bytes ← writeHdr .default buf.bytes offset
    return bufs.set item.bufsIndex { buf with bytes }

/-- `apply_tcp_coalesce_accounting`, over the items in the order they come. -/
def applyTcpCoalesceAccounting (offset : Nat) (items : List TcpGroItem) (bufs : List Buffer) :
    Checked GroError (List Buffer) := items.foldlM (accountTcpItem offset) bufs

/-- `apply_udp_coalesce_accounting`, over the items in the order they come. -/
def applyUdpCoalesceAccounting (offset : Nat) (items : List UdpGroItem) (bufs : List Buffer) :
    Checked GroError (List Buffer) := items.foldlM (accountUdpItem offset) bufs

/-! ### The batch -/

/-- An order in which the `values()` of a map come. -/
structure MapOrder (Value : Type) where
  arrange : List Value → List Value
  perm : ∀ values, (arrange values).Perm values

/-- What `handle_gro` works on. -/
structure GroState where
  bufs : List Buffer
  tcpTable : TcpGroTable
  udpTable : UdpGroTable
  toWrite : List Nat

/-- The call of `tcp_gro` in `handle_gro`. -/
def GroState.tcp (state : GroState) (offset i : Nat) (isV6 : Bool) :
    Checked GroError (GroResult × GroState) := do
  let (result, bufs, table) ← tcpGro state.bufs offset i state.tcpTable isV6
  return (result, { state with bufs, tcpTable := table })

/-- The call of `udp_gro` in `handle_gro`. -/
def GroState.udp (state : GroState) (offset i : Nat) (isV6 : Bool) :
    Checked GroError (GroResult × GroState) := do
  let (result, bufs, table) ← udpGro state.bufs offset i state.udpTable isV6
  return (result, { state with bufs, udpTable := table })

/-- What `handle_gro` does with a candidate. -/
def GroState.evaluate (state : GroState) (offset i : Nat) :
    GroCandidateType → Checked GroError (GroResult × GroState)
  | .tcp4 => state.tcp offset i false
  | .tcp6 => state.tcp offset i true
  | .udp4 => state.udp offset i false
  | .udp6 => state.udp offset i true
  | .notCandidate => .ok (.noop, state)

/-- The body of the loop of `handle_gro`. -/
def groTurn (offset : Nat) (gro : GroDisablementFlags) (i : Nat) (state : GroState) :
    Checked GroError GroState := do
  let buf ← Checked.entry state.bufs i
  if offset < virtioNetHdrLen ∨ buf.bytes.length < offset then Checked.fail .invalidOffset
  else
    let pkt ← Checked.range buf.bytes offset buf.bytes.length
    let candidate ← packetIsGroCandidate pkt gro
    let (result, state) ← state.evaluate offset i candidate
    match result with
    | .noop =>
        let buf ← Checked.entry state.bufs i
        let bytes ← writeHdr .default buf.bytes offset
        return { state with
          bufs := state.bufs.set i { buf with bytes }
          toWrite := state.toWrite ++ [i] }
    | .tableInsert => return { state with toWrite := state.toWrite ++ [i] }
    | .coalesced => return state

/-- The loop of `handle_gro`. -/
def groLoop (offset : Nat) (gro : GroDisablementFlags) :
    (turns i : Nat) → GroState → Checked GroError GroState
  | 0, _, state => .ok state
  | turns + 1, i, state => do
      let state ← groTurn offset gro i state
      groLoop offset gro turns (i + 1) state

/-- `handle_gro`. -/
def handleGro (offset : Nat) (gro : GroDisablementFlags) (tcpOrder : MapOrder (List TcpGroItem))
    (udpOrder : MapOrder (List UdpGroItem)) (state : GroState) : Checked GroError GroState := do
  let state ← groLoop offset gro state.bufs.length 0 state
  let bufs ← applyTcpCoalesceAccounting offset
    (tcpOrder.arrange (state.tcpTable.entries.map Sigma.snd)).flatten state.bufs
  let bufs ← applyUdpCoalesceAccounting offset
    (udpOrder.arrange (state.udpTable.entries.map Sigma.snd)).flatten bufs
  return { state with bufs }

end RsTun.Gso
