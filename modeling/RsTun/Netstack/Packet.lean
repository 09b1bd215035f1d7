/-
**Packets as the stack reads them, over the wire formats of smoltcp.**

smoltcp's parsers are a parameter: `Smoltcp` says what each of them returns for a byte string,
`none` standing for its `Err`. `IpPacket.newChecked` and its accessors are the stack's own.
`lengthChecking` is an instance with the length checks that smoltcp documents, on which concrete
packets are run.
-/

import RsTun.Net.Addr

namespace RsTun.Netstack

open Library Library.Bytes

/-- `smoltcp::wire::IpVersion`. -/
inductive IpVersion where
  | ipv4
  | ipv6
  deriving DecidableEq

/-- `smoltcp::wire::IpProtocol`; the protocols the stack does not name are `other`. -/
inductive IpProtocol where
  | tcp
  | udp
  | icmp
  | icmpv6
  | other (number : UInt8)
  deriving DecidableEq

/-- `IpProtocol::from(u8)`. -/
def IpProtocol.ofNumber (number : UInt8) : IpProtocol :=
  if number = 1 then .icmp
  else if number = 6 then .tcp
  else if number = 17 then .udp
  else if number = 58 then .icmpv6
  else .other number

/-- What the accessors of a checked `Ipv4Packet` or `Ipv6Packet` return. -/
structure IpView (Addr : Type) where
  srcAddr : Addr
  dstAddr : Addr
  nextHeader : IpProtocol
  payload : Bytes
  deriving DecidableEq

/-- What the accessors of a checked smoltcp `UdpPacket` return. -/
structure UdpView where
  srcPort : UInt16
  dstPort : UInt16
  payload : Bytes
  deriving DecidableEq

/-- `IpVersion::of_packet` and the `new_checked` of the three packet types. -/
structure Smoltcp where
  ofPacket : Bytes → Option IpVersion
  ipv4NewChecked : Bytes → Option (IpView Ipv4Addr)
  ipv6NewChecked : Bytes → Option (IpView Ipv6Addr)
  udpNewChecked : Bytes → Option UdpView

/-- `IpPacket`. -/
inductive IpPacket where
  | ipv4 (packet : IpView Ipv4Addr)
  | ipv6 (packet : IpView Ipv6Addr)
  deriving DecidableEq

namespace IpPacket

/-- `IpPacket::new_checked`. -/
def newChecked (smoltcp : Smoltcp) (packet : Bytes) : Option IpPacket :=
  match smoltcp.ofPacket packet with
  | none => none
  | some .ipv4 => (smoltcp.ipv4NewChecked packet).map .ipv4
  | some .ipv6 => (smoltcp.ipv6NewChecked packet).map .ipv6

/-- `IpPacket::src_addr`. -/
def srcAddr : IpPacket → IpAddr
  | .ipv4 packet => .v4 packet.srcAddr
  | .ipv6 packet => .v6 packet.srcAddr

/-- `IpPacket::dst_addr`. -/
def dstAddr : IpPacket → IpAddr
  | .ipv4 packet => .v4 packet.dstAddr
  | .ipv6 packet => .v6 packet.dstAddr

/-- `IpPacket::protocol`. -/
def protocol : IpPacket → IpProtocol
  | .ipv4 packet => packet.nextHeader
  | .ipv6 packet => packet.nextHeader

/-- `IpPacket::payload`. -/
def payload : IpPacket → Bytes
  | .ipv4 packet => packet.payload
  | .ipv6 packet => packet.payload

end IpPacket

/-- The length checks of smoltcp: a whole header, a total length that covers the header and fits
into the buffer. -/
def lengthChecking : Smoltcp where
  ofPacket packet :=
    match packet with
    | [] => none
    | first :: _ =>
        if first >>> 4 = 4 then some .ipv4 else if first >>> 4 = 6 then some .ipv6 else none
  ipv4NewChecked packet :=
    let headerLen := (byteAt packet 0 &&& 0x0f).toNat * 4
    let totalLen := be16 packet 2
    if packet.length < 20 ∨ packet.length < headerLen ∨ totalLen < headerLen
        ∨ packet.length < totalLen
    then none
    else some {
      srcAddr := .ofSlice 4 packet 12
      dstAddr := .ofSlice 4 packet 16
      nextHeader := .ofNumber (byteAt packet 9)
      payload := slice packet headerLen (totalLen - headerLen) }
  ipv6NewChecked packet :=
    let payloadLen := be16 packet 4
    if packet.length < 40 ∨ packet.length < 40 + payloadLen then none
    else some {
      srcAddr := .ofSlice 16 packet 8
      dstAddr := .ofSlice 16 packet 24
      nextHeader := .ofNumber (byteAt packet 6)
      payload := slice packet 40 payloadLen }
  udpNewChecked packet :=
    let length := be16 packet 4
    if packet.length < 8 ∨ packet.length < length ∨ length < 8 then none
    else some {
      srcPort := .ofNat (be16 packet 0)
      dstPort := .ofNat (be16 packet 2)
      payload := slice packet 8 (length - 8) }

/-- An IPv4 packet from 10.0.0.1 to 10.0.0.2 without options, on whose payload `lengthChecking` and
the loops run below. -/
def sampleFrame (protocol : UInt8) (payload : Bytes) : Bytes :=
  [0x45, 0, 0, .ofNat (20 + payload.length), 0, 0, 0, 0, 64, protocol, 0, 0, 10, 0, 0, 1,
    10, 0, 0, 2]
    ++ payload

/-- The datagram `payload` from port 1234 to port 53. -/
def sampleUdpFrame (payload : Bytes) : Bytes :=
  sampleFrame 17 ([4, 210, 0, 53, 0, .ofNat (8 + payload.length), 0, 0] ++ payload)

example : IpPacket.newChecked lengthChecking (sampleFrame 6 [1, 2])
    = some (.ipv4 ⟨⟨[10, 0, 0, 1], rfl⟩, ⟨[10, 0, 0, 2], rfl⟩, .tcp, [1, 2]⟩) := by decide

end RsTun.Netstack
