/-
**The reflection of packets to a loopback address.**

A client packet to an address of the loopback list goes back to its source, as if that address had
sent it. The test stands behind the one for global unicast addresses, which `::1`, the default of
the IPv6 list, does not pass.

* `reflects_iff` — a handler reflects the packet if and only if its destination is global unicast.
* **`loopback_reflected_iff`** — both handlers, with the lists that `run` builds.
* `default_inet6_not_reflected` — the default of the IPv6 list.
-/

import RsTun.Config.Settings
import RsTun.SystemNat.RoundTrip

namespace RsTun.SystemNat

open Library Library.Bytes Packet

section Reflection

variable {size : Nat} {family : TcpFamily size} (spec : TcpFamilySpec family)
variable {config : TcpConfig size} {nat : TcpNat} {now tcpOff : Nat} {raw : Bytes}

/-- **The packet was reflected**: one packet was written, from the old destination to the old
source, with the same ports, otherwise different in a lowered MSS option and the checksums only,
which are valid; and the NAT table is as it was. -/
structure Reflects (tcpMss : Option UInt16) (nat : TcpNat) (raw : Bytes) (tcpOff : Nat)
    (outcome : TcpOutcome) : Prop where
  nat_eq : outcome.nat = nat
  written : ∃ pkt, outcome.writes = [pkt] ∧ spec.Valid pkt tcpOff
    ∧ spec.Rewrites tcpMss tcpOff raw pkt
    ∧ family.source pkt tcpOff
      = family.wrap (Octets.ofSlice size raw family.dstAt) (portAt raw tcpOff)
    ∧ family.destination pkt tcpOff
      = family.wrap (Octets.ofSlice size raw family.srcAt) (portAt raw (tcpOff + 2))

/-- The packet is one of the listener. -/
def FromListener (config : TcpConfig size) (src : Octets size) (srcPort : UInt16) : Prop :=
  config.serverAddr = some src ∧ (srcPort = config.tcpPort ∨ config.dnsTcpPort = some srcPort)

variable {spec}

/-- A port is written as the bytes it was read from. -/
theorem encode_portAt {data : Bytes} {start : Nat} (fits : start + 2 ≤ data.length) :
    encode 2 (portAt data start).toNat = slice data start 2 := by
  rw [portAt, UInt16.toNat_ofNat_of_lt' (be16_lt data start), encode_be16 fits]

/-- Writing the ports that are there changes nothing. -/
theorem rewritePorts_self {data : Bytes} {start : Nat} (fits : start + 4 ≤ data.length) :
    TcpFamily.rewritePorts data start (portAt data start) (portAt data (start + 2)) = data := by
  rw [TcpFamily.rewritePorts, encode_portAt (by omega), encode_portAt (by omega),
    overwrite_slice_self (by omega), overwrite_slice_self (by omega)]

/-- **Writing the addresses alone** is writing the ports that are there as well. -/
theorem finish_rewriteAddrs (located : spec.Located raw tcpOff) (tcpMss : Option UInt16)
    (src dst : Octets size) :
    family.finish tcpMss (family.rewriteAddrs raw src dst) tcpOff
      = family.rewritten tcpMss raw tcpOff src dst (portAt raw tcpOff)
        (portAt raw (tcpOff + 2)) := by
  obtain ⟨fitsSrc, fitsDst, fitsPorts⟩ := spec.fields_fit located src dst
  have before := spec.before located
  have adjacent := spec.adjacent
  have one : (overwrite raw family.srcAt src.bytes).length = raw.length := length_overwrite fitsSrc
  have two : (family.rewriteAddrs raw src dst).length = raw.length := by
    rw [TcpFamily.rewriteAddrs, length_overwrite (by rwa [one]), one]
  have kept : ∀ start, tcpOff ≤ start →
      portAt raw start = portAt (family.rewriteAddrs raw src dst) start := by
    intro start behind
    have srcEnd := src.length_eq
    have dstEnd := dst.length_eq
    rw [portAt, portAt, TcpFamily.rewriteAddrs,
      be16_overwrite_of_disjoint (by rwa [one]) (Or.inr (by omega)),
      be16_overwrite_of_disjoint fitsSrc (Or.inr (by omega))]
  rw [TcpFamily.rewritten, kept tcpOff (Nat.le_refl _), kept (tcpOff + 2) (Nat.le_add_right _ _),
    rewritePorts_self (by rwa [two])]

/-- **A handler reflects** what a client sends to an address of the list exactly when the address is
global unicast. -/
theorem reflects_iff {server client : Octets size} (located : spec.Located raw tcpOff)
    (notReply : ¬ (Octets.ofSlice size raw family.srcAt = server
      ∧ (portAt raw tcpOff = config.tcpPort ∨ config.dnsTcpPort = some (portAt raw tcpOff))))
    (listed : Octets.ofSlice size raw family.dstAt ∈ config.loopback) :
    Reflects spec config.tcpMss nat raw tcpOff
        (family.handleTcp config server client nat now raw (raw.drop tcpOff)
          (Octets.ofSlice size raw family.srcAt) (Octets.ofSlice size raw family.dstAt) tcpOff)
      ↔ family.isGlobalUnicast (Octets.ofSlice size raw family.dstAt) = true := by
  unfold TcpFamily.handleTcp
  dsimp only
  rw [portAt_drop, Nat.add_zero, if_neg notReply]
  by_cases unicast : family.isGlobalUnicast (Octets.ofSlice size raw family.dstAt) = false
  · rw [if_pos unicast, unicast]
    refine iff_of_false (fun reflected => ?_) Bool.false_ne_true
    obtain ⟨pkt, written, -⟩ := reflected.written
    cases written
  · rw [if_neg unicast, if_pos listed]
    refine iff_of_true ⟨rfl, _, rfl, ?_⟩ (Bool.eq_true_of_not_eq_false unicast)
    rw [finish_rewriteAddrs located]
    exact spec.rewritten_spec located _ _ _ _ _

/-- A handler reflects the packet, once it has its two addresses. -/
theorem reflects_configured_iff {outcome : TcpOutcome} (located : spec.Located raw tcpOff)
    (handled : ∀ server client, config.serverAddr = some server →
      config.clientAddr = some client → outcome = family.handleTcp config server client nat now raw
        (raw.drop tcpOff) (Octets.ofSlice size raw family.srcAt)
        (Octets.ofSlice size raw family.dstAt) tcpOff)
    (unconfigured : config.serverAddr = none ∨ config.clientAddr = none → outcome.writes = [])
    (listed : Octets.ofSlice size raw family.dstAt ∈ config.loopback)
    (client : ¬ FromListener config (Octets.ofSlice size raw family.srcAt) (portAt raw tcpOff)) :
    Reflects spec config.tcpMss nat raw tcpOff outcome
      ↔ (config.serverAddr.isSome ∧ config.clientAddr.isSome)
        ∧ family.isGlobalUnicast (Octets.ofSlice size raw family.dstAt) = true := by
  have silent : config.serverAddr = none ∨ config.clientAddr = none →
      ¬ Reflects spec config.tcpMss nat raw tcpOff outcome := by
    intro missing reflected
    obtain ⟨pkt, written, -⟩ := reflected.written
    rw [unconfigured missing] at written
    cases written
  cases hasServer : config.serverAddr with
  | none => exact iff_of_false (silent (Or.inl hasServer)) fun both => nomatch both.1.1
  | some serverAddr =>
      cases hasClient : config.clientAddr with
      | none => exact iff_of_false (silent (Or.inr hasClient)) fun both => nomatch both.1.2
      | some clientAddr =>
          rw [handled serverAddr clientAddr hasServer hasClient, and_iff_right ⟨rfl, rfl⟩]
          refine reflects_iff located (fun reply => client ⟨?_, reply.2⟩) listed
          rw [hasServer, reply.1]

end Reflection

theorem feedV4_unconfigured {config : TcpConfig 4} {nat : TcpNat} {now : Nat} {raw : Bytes}
    (missing : config.serverAddr = none ∨ config.clientAddr = none) :
    (feedV4 config nat now raw).writes = [] := by
  unfold feedV4 handleTcpV4
  split
  case h_1 hasServer hasClient =>
    rw [hasServer, hasClient] at missing
    exact missing.elim nofun nofun
  case h_2 => rfl

theorem feedV6_unconfigured {config : TcpConfig 16} {nat : TcpNat} {now : Nat} {raw : Bytes}
    (missing : config.serverAddr = none ∨ config.clientAddr = none) :
    (feedV6 config nat now raw).writes = [] := by
  unfold feedV6 handleTcpV6
  split
  case h_1 hasServer hasClient =>
    rw [hasServer, hasClient] at missing
    exact missing.elim nofun nofun
  case h_2 => rfl

/-- **A client packet to a loopback address is reflected** exactly where the family has its two
addresses and the destination is global unicast, with the lists that `run` builds from any
configuration. -/
theorem loopback_reflected_iff (std : StdText) (cfg : TunInboundConfig) :
    (∀ (config : TcpConfig 4) (nat : TcpNat) (now : Nat) (raw : Bytes),
      20 ≤ headerLength raw → headerLength raw + 20 ≤ raw.length →
      config.loopback = (settings std cfg).inet4Loopback →
      Octets.ofSlice 4 raw 16 ∈ config.loopback →
      ¬ FromListener config (Octets.ofSlice 4 raw 12) (portAt raw (headerLength raw)) →
      (Reflects ipv4Spec config.tcpMss nat raw (headerLength raw) (feedV4 config nat now raw)
        ↔ (config.serverAddr.isSome ∧ config.clientAddr.isSome)
          ∧ isGlobalUnicastV4 (Octets.ofSlice 4 raw 16) = true))
    ∧ ∀ (config : TcpConfig 16) (nat : TcpNat) (now : Nat) (raw : Bytes),
      40 ≤ raw.length → 20 ≤ (extensionWalk raw).payload.length →
      config.loopback = (settings std cfg).inet6Loopback →
      Octets.ofSlice 16 raw 24 ∈ config.loopback →
      ¬ FromListener config (Octets.ofSlice 16 raw 8) (portAt raw (transportOffset raw)) →
      (Reflects ipv6Spec config.tcpMss nat raw (transportOffset raw) (feedV6 config nat now raw)
        ↔ (config.serverAddr.isSome ∧ config.clientAddr.isSome)
          ∧ isGlobalUnicastV6 (Octets.ofSlice 16 raw 24) = true) := by
  constructor
  · intro config nat now raw header segment _ listed client
    have located : ipv4Spec.Located raw (headerLength raw) := ⟨rfl, header, segment⟩
    have handled := fun server address hasServer hasClient =>
      @feedV4_eq config server address hasServer hasClient nat now raw segment
    have reflects := @reflects_configured_iff 4 ipv4Family ipv4Spec config nat now _ raw _ located
      handled feedV4_unconfigured
    exact reflects listed client
  · intro config nat now raw header segment _ listed client
    have handled := fun server address hasServer hasClient =>
      @feedV6_eq config server address hasServer hasClient nat now raw header segment
    have reflects := @reflects_configured_iff 16 ipv6Family ipv6Spec config nat now _ raw _
      (located_transport header segment) handled feedV6_unconfigured
    have unicast : ipv6Family.isGlobalUnicast = isGlobalUnicastV6 := rfl
    rw [unicast] at reflects
    exact reflects listed client

/-- Texts of which none is an address. -/
def noText : StdText := ⟨fun _ => none, fun _ => none, fun _ => none⟩

/-- A listener on the address, with the next one for clients. -/
def loopbackConfig (size server : Nat) (loopback : List (Octets size)) : TcpConfig size where
  serverAddr := some (Octets.ofNat size server)
  clientAddr := some (Octets.ofNat size (server + 1))
  loopback := loopback
  tcpPort := 5000
  dnsTcpPort := none
  tcpMss := some 1400
  dnsHijack := false

/-- A SYN from 10.0.0.5:4000 to 127.0.0.1:443. -/
def loopbackSynV4 : Bytes :=
  [0x45, 0, 0, 44, 0, 1, 0, 0, 64, 6, 0, 0, 10, 0, 0, 5, 127, 0, 0, 1,
    0x0F, 0xA0, 0x01, 0xBB, 0, 0, 0, 1, 0, 0, 0, 0, 0x60, 0x02, 0xFF, 0xFF, 0, 0, 0, 0,
    2, 4, 0x05, 0xB4]

/-- A SYN from fd00::5, port 4000, to ::1, port 443. -/
def loopbackSynV6 : Bytes :=
  [0x60, 0, 0, 0, 0, 20, 6, 64, 0xfd, 0, 0, 0, 0, 0, 0, 0, 0, 0, 0, 0, 0, 0, 0, 5,
    0, 0, 0, 0, 0, 0, 0, 0, 0, 0, 0, 0, 0, 0, 0, 1,
    0x0F, 0xA0, 0x01, 0xBB, 0, 0, 0, 1, 0, 0, 0, 0, 0x50, 0x02, 0xFF, 0xFF, 0, 0, 0, 0]

theorem loopback_reflected_iff_default : Reflects ipv4Spec (some 1400) TcpNat.new loopbackSynV4 20
    (feedV4 (loopbackConfig 4 0x0A000001 [defaultInet4Loopback]) TcpNat.new 0 loopbackSynV4) :=
  ((loopback_reflected_iff noText (.minimal "tun" [])).1
    (loopbackConfig 4 0x0A000001 [defaultInet4Loopback]) TcpNat.new 0 loopbackSynV4 (by decide)
    (by decide) rfl (by decide) (by unfold FromListener; decide)).mpr ⟨⟨rfl, rfl⟩, by decide⟩

/-- **The default of the IPv6 list is not reflected**: nothing is written for a packet to `::1`. -/
theorem default_inet6_not_reflected :
    (settings noText (.minimal "tun" [])).inet6Loopback = [defaultInet6Loopback]
      ∧ 40 ≤ loopbackSynV6.length ∧ 20 ≤ (extensionWalk loopbackSynV6).payload.length
      ∧ Octets.ofSlice 16 loopbackSynV6 24 = defaultInet6Loopback
      ∧ ¬ FromListener (loopbackConfig 16 0xfd000000000000000000000000000001 [defaultInet6Loopback])
        (Octets.ofSlice 16 loopbackSynV6 8) (portAt loopbackSynV6 40)
      ∧ (feedV6 (loopbackConfig 16 0xfd000000000000000000000000000001 [defaultInet6Loopback])
        TcpNat.new 0 loopbackSynV6).writes = []
      ∧ ¬ Reflects ipv6Spec (some 1400) TcpNat.new loopbackSynV6 40
        (feedV6 (loopbackConfig 16 0xfd000000000000000000000000000001 [defaultInet6Loopback])
          TcpNat.new 0 loopbackSynV6) := by
  have silent : (feedV6 (loopbackConfig 16 0xfd000000000000000000000000000001
      [defaultInet6Loopback]) TcpNat.new 0 loopbackSynV6).writes = [] := by
    decide
  refine ⟨rfl, by decide, by decide, by decide, by unfold FromListener; decide, silent,
    fun reflected => ?_⟩
  obtain ⟨pkt, written, -⟩ := reflected.written
  rw [silent] at written
  cases written

end RsTun.SystemNat
