/-
**The dispatchers `process_ipv4` and `process_ipv6`, up to the call they end with.**

`dispatchIpv4` and `dispatchIpv6` read a packet and name the handler that it goes to, with the
arguments that come from the packet. `processIpv4` is the call of `dispatchIpv4`, carried out
(`processIpv4_eq`).

* `dispatchIpv4_fragment`, `dispatchIpv6_fragment` — no fragment goes to a TCP handler.
* `DatagramAt.parseUdpV4_eq`, `DatagramAt.parseUdpV6_eq` — what is extracted from a datagram whose
  length is consistent with the packet around it.
-/

import RsTun.Packet.Mtu
import RsTun.SystemNat.ProcessIpv4

namespace RsTun.SystemNat

open Library Library.Bytes Packet

/-- A call of `handle_tcp_v4` or `handle_tcp_v6`: the payload and the addresses. -/
inductive TcpCall where
  | v4 (payload : Bytes) (src dst : Ipv4Addr)
  | v6 (payload : Bytes) (src dst : Ipv6Addr)
  deriving DecidableEq

/-- The call carried out on the packet. -/
def TcpCall.run (config4 : TcpConfig 4) (config6 : TcpConfig 16) (nat : TcpNat) (now : Nat)
    (raw : Bytes) : TcpCall → TcpOutcome
  | .v4 payload src dst => handleTcpV4 config4 nat now raw payload src dst
  | .v6 payload src dst => handleTcpV6 config6 nat now raw payload src dst

/-- The NAT table after the TCP handlers, and the packets they have written. -/
def tcpEffect (config4 : TcpConfig 4) (config6 : TcpConfig 16) (nat : TcpNat) (now : Nat)
    (raw : Bytes) : Option TcpCall → TcpNat × List Bytes
  | none => (nat, [])
  | some call =>
      ((call.run config4 config6 nat now raw).nat, (call.run config4 config6 nat now raw).writes)

/-! ### IPv4 -/

/-- The call that `process_ipv4` ends with. -/
inductive Ipv4Call where
  | dropped
  | tcp (payload : Bytes) (src dst : Ipv4Addr)
  /-- `dispatch_udp`, with the header template of replies. -/
  | udp (src dst : SocketAddr) (data headerTemplate : Bytes)
  | icmp (ihl : Nat) (src dst : Ipv4Addr)
  deriving DecidableEq

/-- `process_ipv4`, up to its call. -/
def dispatchIpv4 (inet4Broadcast : Option Ipv4Addr) (raw : Bytes) : Ipv4Call :=
  if raw.length < 20 then .dropped
  else
    let ihl := headerLength raw
    if raw.length < ihl ∨ ihl < 20 then .dropped
    else
      let flagsFrag := be16 raw 6
      let moreFragments := flagsFrag &&& 0x2000 ≠ 0
      let fragOffset := flagsFrag &&& 0x1fff
      let srcIp : Ipv4Addr := Octets.ofSlice 4 raw 12
      let dstIp : Ipv4Addr := Octets.ofSlice 4 raw 16
      let payload := raw.drop ihl
      if some dstIp = inet4Broadcast then .dropped
      else if byteAt raw 9 = ipprotoTcp then
        if moreFragments ∨ fragOffset ≠ 0 then .dropped
        else .tcp payload srcIp dstIp
      else if byteAt raw 9 = ipprotoUdp then
        if moreFragments ∨ fragOffset ≠ 0 then .dropped
        else if isGlobalUnicastV4 dstIp = false then .dropped
        else
          match parseUdpV4 payload srcIp dstIp with
          | none => .dropped
          | some (src, dst, data) => .udp src dst data (raw.take (min (ihl + 8) raw.length))
      else if byteAt raw 9 = ipprotoIcmp then
        if some dstIp = inet4Broadcast ∨ isGlobalUnicastV4 dstIp = false then .dropped
        else .icmp ihl srcIp dstIp
      else .dropped

namespace Ipv4Call

/-- The call carried out. -/
def run (config : TcpConfig 4) (nat : TcpNat) (now : Nat) (raw : Bytes) : Ipv4Call → Ipv4Action
  | .dropped => .dropped
  | .tcp payload src dst => .tcp (handleTcpV4 config nat now raw payload src dst)
  | .udp src dst data headerTemplate => .udp src dst data headerTemplate
  | .icmp ihl src dst => .icmp ihl src dst

/-- The call of the TCP handler. -/
def tcpCall : Ipv4Call → Option TcpCall
  | .tcp payload src dst => some (.v4 payload src dst)
  | _ => none

end Ipv4Call

/-- **`process_ipv4` carries out the call of its dispatch.** -/
theorem processIpv4_eq (config : TcpConfig 4) (inet4Broadcast : Option Ipv4Addr) (nat : TcpNat)
    (now : Nat) (raw : Bytes) : processIpv4 config inet4Broadcast nat now raw
      = (dispatchIpv4 inet4Broadcast raw).run config nat now raw := by
  unfold processIpv4 dispatchIpv4
  dsimp only
  cases parseUdpV4 (raw.drop (headerLength raw)) (Octets.ofSlice 4 raw 12)
      (Octets.ofSlice 4 raw 16) with
  | none =>
      simp only [apply_ite (Ipv4Call.run config nat now raw)]
      rfl
  | some parsed =>
      simp only [apply_ite (Ipv4Call.run config nat now raw)]
      rfl

/-- The fragment bits of an IPv4 header. -/
def FragmentBits (raw : Bytes) : Prop := be16 raw 6 &&& 0x2000 ≠ 0 ∨ be16 raw 6 &&& 0x1fff ≠ 0

instance (raw : Bytes) : Decidable (FragmentBits raw) := inferInstanceAs (Decidable (_ ∨ _))

/-- The header of an IPv4 packet is there, and as long as it says. -/
def WholeIpv4Header (raw : Bytes) : Prop := 20 ≤ headerLength raw ∧ headerLength raw ≤ raw.length

instance (raw : Bytes) : Decidable (WholeIpv4Header raw) := inferInstanceAs (Decidable (_ ∧ _))

/-- **The TCP call of `process_ipv4`.** -/
theorem dispatchIpv4_tcpCall (inet4Broadcast : Option Ipv4Addr) (raw : Bytes) :
    (dispatchIpv4 inet4Broadcast raw).tcpCall
      = if WholeIpv4Header raw ∧ byteAt raw 9 = ipprotoTcp ∧ ¬ FragmentBits raw
          ∧ some (Octets.ofSlice 4 raw 16) ≠ inet4Broadcast
        then some (.v4 (raw.drop (headerLength raw)) (Octets.ofSlice 4 raw 12)
          (Octets.ofSlice 4 raw 16))
        else none := by
  unfold dispatchIpv4 FragmentBits
  dsimp only
  by_cases tiny : raw.length < 20
  · rw [if_pos tiny, if_neg]
    · rfl
    · rintro ⟨⟨header, fits⟩, -⟩
      omega
  · rw [if_neg tiny]
    by_cases broken : raw.length < headerLength raw ∨ headerLength raw < 20
    · rw [if_pos broken, if_neg]
      · rfl
      · rintro ⟨⟨header, fits⟩, -⟩
        omega
    · rw [if_neg broken]
      have whole : WholeIpv4Header raw := by
        unfold WholeIpv4Header
        omega
      by_cases broadcast : some (Octets.ofSlice 4 raw 16) = inet4Broadcast
      · rw [if_pos broadcast, if_neg fun passes => passes.2.2.2 broadcast]
        rfl
      · rw [if_neg broadcast]
        by_cases tcp : byteAt raw 9 = ipprotoTcp
        · rw [if_pos tcp]
          by_cases fragment : be16 raw 6 &&& 0x2000 ≠ 0 ∨ be16 raw 6 &&& 0x1fff ≠ 0
          · rw [if_pos fragment, if_neg fun passes => passes.2.2.1 fragment]
            rfl
          · rw [if_neg fragment, if_pos ⟨whole, tcp, fragment, broadcast⟩]
            rfl
        · have other : ¬ (WholeIpv4Header raw ∧ byteAt raw 9 = ipprotoTcp
              ∧ ¬ (be16 raw 6 &&& 0x2000 ≠ 0 ∨ be16 raw 6 &&& 0x1fff ≠ 0)
              ∧ some (Octets.ofSlice 4 raw 16) ≠ inet4Broadcast) := fun passes => tcp passes.2.1
          rw [if_neg tcp, if_neg other]
          repeat' split
          all_goals rfl

/-- **No fragment of an IPv4 packet goes to `handle_tcp_v4`.** -/
theorem dispatchIpv4_fragment (inet4Broadcast : Option Ipv4Addr) {raw : Bytes}
    (fragment : FragmentBits raw) : (dispatchIpv4 inet4Broadcast raw).tcpCall = none := by
  rw [dispatchIpv4_tcpCall]
  exact if_neg fun passes => passes.2.2.1 fragment

/-! ### IPv6 -/

/-- `parse_udp_v6`. -/
def parseUdpV6 (udp : Bytes) (srcIp dstIp : Ipv6Addr) : Option (SocketAddr × SocketAddr × Bytes) :=
  if udp.length < 8 then none
  else
    let length := be16 udp 4
    let payloadLen := min (length - 8) (udp.length - 8)
    some (.v6 srcIp (portAt udp 0) 0 0, .v6 dstIp (portAt udp 2) 0 0, slice udp 8 payloadLen)

/-- The call that `process_ipv6` ends with. -/
inductive Ipv6Call where
  | dropped
  | tcp (payload : Bytes) (src dst : Ipv6Addr)
  /-- `dispatch_udp`, with the header template of replies. -/
  | udp (src dst : SocketAddr) (data headerTemplate : Bytes)
  | icmp (src dst : Ipv6Addr)
  deriving DecidableEq

/-- `process_ipv6`, up to its call. -/
def dispatchIpv6 (raw : Bytes) : Ipv6Call :=
  if raw.length < 40 then .dropped
  else
    let srcIp : Ipv6Addr := Octets.ofSlice 16 raw 8
    let dstIp : Ipv6Addr := Octets.ofSlice 16 raw 24
    let walk := skipIpv6ExtensionHeaders (byteAt raw 6) (raw.drop 40)
    if walk.isFragment ∨ walk.transportPresent = false then .dropped
    else if walk.protocol = ipprotoTcp then .tcp walk.payload srcIp dstIp
    else if walk.protocol = ipprotoUdp then
      if isGlobalUnicastV6 dstIp = false then .dropped
      else
        match parseUdpV6 walk.payload srcIp dstIp with
        | none => .dropped
        | some (src, dst, data) =>
            let hdrLen := raw.length - walk.payload.length + 8
            .udp src dst data (raw.take (min hdrLen raw.length))
    else if walk.protocol = ipprotoIcmpv6 then
      if isGlobalUnicastV6 dstIp = false then .dropped
      else if walk.payload.length = raw.length - 40 then .icmp srcIp dstIp
      else .dropped
    else .dropped

/-- The call of the TCP handler. -/
def Ipv6Call.tcpCall : Ipv6Call → Option TcpCall
  | .tcp payload src dst => some (.v6 payload src dst)
  | _ => none

/-- **The TCP call of `process_ipv6`.** -/
theorem dispatchIpv6_tcpCall (raw : Bytes) : (dispatchIpv6 raw).tcpCall
    = if 40 ≤ raw.length ∧ (extensionWalk raw).isFragment = false
        ∧ (extensionWalk raw).transportPresent = true ∧ (extensionWalk raw).protocol = ipprotoTcp
      then some (.v6 (extensionWalk raw).payload (Octets.ofSlice 16 raw 8)
        (Octets.ofSlice 16 raw 24))
      else none := by
  unfold dispatchIpv6
  dsimp only
  rw [← extensionWalk]
  by_cases short : raw.length < 40
  · rw [if_pos short, if_neg (by omega)]
    rfl
  · rw [if_neg short]
    by_cases rejected : (extensionWalk raw).isFragment = true
        ∨ (extensionWalk raw).transportPresent = false
    · rw [if_pos rejected, if_neg]
      · rfl
      · rintro ⟨-, whole, present, -⟩
        rw [whole, present] at rejected
        simp at rejected
    · rw [if_neg rejected]
      obtain ⟨whole, present⟩ := not_or.mp rejected
      by_cases tcp : (extensionWalk raw).protocol = ipprotoTcp
      · rw [if_pos tcp, if_pos ⟨Nat.not_lt.mp short, Bool.eq_false_iff.mpr whole,
          Bool.not_eq_false _ ▸ present, tcp⟩]
        rfl
      · have other : ¬ (40 ≤ raw.length ∧ (extensionWalk raw).isFragment = false
            ∧ (extensionWalk raw).transportPresent = true
            ∧ (extensionWalk raw).protocol = ipprotoTcp) := fun passes => tcp passes.2.2.2
        rw [if_neg tcp, if_neg other]
        repeat' split
        all_goals rfl

/-- **No packet with a fragment header goes to `handle_tcp_v6`.** -/
theorem dispatchIpv6_fragment {raw : Bytes}
    (fragment : FragmentBehind (byteAt raw 6) (raw.drop 40)) :
    (dispatchIpv6 raw).tcpCall = none := by
  have found : (extensionWalk raw).isFragment = true :=
    skipIpv6ExtensionHeaders_isFragment_iff.mpr fragment
  rw [dispatchIpv6_tcpCall]
  refine if_neg fun passes => ?_
  rw [found] at passes
  exact absurd passes.2.1 (by simp)

/-- A transport protocol behind another first header stands behind extension headers. -/
theorem skippable_of_extended {raw : Bytes} {protocol : UInt8}
    (found : (extensionWalk raw).protocol = protocol) (extended : byteAt raw 6 ≠ protocol) :
    byteAt raw 6 = ipprotoHopopts ∨ byteAt raw 6 = ipprotoRouting
      ∨ byteAt raw 6 = ipprotoDstopts := by
  by_contra direct
  refine extended ?_
  rw [← found, extensionWalk]
  by_cases fragment : byteAt raw 6 = ipprotoFragment
  · rw [skipIpv6ExtensionHeaders, skipLoop, if_neg direct, if_pos fragment]
  · rw [skipIpv6ExtensionHeaders_of_direct _ direct fragment]

/-! ### Datagrams -/

/-- A UDP datagram at `off` in a packet whose IP payload ends at `stop`: its length covers the
header and stays within the payload. -/
structure DatagramAt (raw : Bytes) (off stop : Nat) : Prop where
  inside : stop ≤ raw.length
  header : 8 ≤ be16 raw (off + 4)
  fits : off + be16 raw (off + 4) ≤ stop

namespace DatagramAt

variable {raw : Bytes} {off stop : Nat}

/-- The data that the system stack takes of the datagram. -/
theorem data_eq (datagram : DatagramAt raw off stop) :
    ¬ (raw.drop off).length < 8
      ∧ slice (raw.drop off) 8 (min (be16 (raw.drop off) 4 - 8) ((raw.drop off).length - 8))
        = slice raw (off + 8) (be16 raw (off + 4) - 8) := by
  obtain ⟨inside, header, fits⟩ := datagram
  rw [List.length_drop]
  refine ⟨by omega, ?_⟩
  rw [be16_drop, slice_drop, Nat.min_eq_left (by omega)]

theorem parseUdpV4_eq (datagram : DatagramAt raw off stop) (src dst : Ipv4Addr) :
    parseUdpV4 (raw.drop off) src dst = some (.v4 src (portAt raw off),
      .v4 dst (portAt raw (off + 2)), slice raw (off + 8) (be16 raw (off + 4) - 8)) := by
  obtain ⟨long, data⟩ := datagram.data_eq
  rw [parseUdpV4, if_neg long]
  dsimp only
  rw [data, portAt_drop, portAt_drop, Nat.add_zero]

theorem parseUdpV6_eq (datagram : DatagramAt raw off stop) (src dst : Ipv6Addr) :
    parseUdpV6 (raw.drop off) src dst = some (.v6 src (portAt raw off) 0 0,
      .v6 dst (portAt raw (off + 2)) 0 0, slice raw (off + 8) (be16 raw (off + 4) - 8)) := by
  obtain ⟨long, data⟩ := datagram.data_eq
  rw [parseUdpV6, if_neg long]
  dsimp only
  rw [data, portAt_drop, portAt_drop, Nat.add_zero]

end DatagramAt

/-! ### Either version -/

/-- The call of a TCP handler that `process_ipv4` or `process_ipv6` makes, by the version of the
packet. -/
def systemTcp (inet4Broadcast : Option Ipv4Addr) (raw : Bytes) : Option TcpCall :=
  if byteAt raw 0 >>> 4 = 4 then (dispatchIpv4 inet4Broadcast raw).tcpCall
  else if byteAt raw 0 >>> 4 = 6 then (dispatchIpv6 raw).tcpCall
  else none

end RsTun.SystemNat
