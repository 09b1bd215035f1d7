/-
**From the configured addresses to the filters of `process_ipv4`.**

`selectAddresses` is the address loop of `TunInbound::run`: the first prefix of each family becomes
the server address, and the next address the client address. `processIpv4` ends with the call that
it makes for a packet, or with none.

* `selectAddresses_first` — what `run` has accepted: the server address is the first prefix, has a
  next address, and that one is the client address.
* `client_ne_broadcast_iff` — the client address is not the broadcast address exactly when the
  server address is not the last but one of its prefix.
* `listener_packet_accepted_iff` — exactly then a packet of the listener passes all filters.
* `listener_packet_dropped` — the packet of a listener on 10.0.0.254/24 is dropped.
-/

import RsTun.Net.Subnet
import RsTun.SystemNat.RoundTrip

namespace RsTun.SystemNat

open Library Library.Bytes Library.Prefix Packet

/-! ### The configured addresses -/

/-- `str::split_once('/')`. -/
def splitOnce (text : String) : Option (String × String) :=
  match text.toList.dropWhile (· ≠ '/') with
  | [] => none
  | _ :: rest => some (String.ofList (text.toList.takeWhile (· ≠ '/')), String.ofList rest)

/-- `str::parse::<u8>`: an optional plus sign and digits, below 256. -/
def parseU8 (text : String) : Option UInt8 :=
  let digits := match text.toList with
    | '+' :: rest => rest
    | chars => chars
  if digits = [] ∨ digits.all Char.isDigit = false then none
  else
    let number := digits.foldl (fun number digit => number * 10 + (digit.toNat - 48)) 0
    if number < 256 then some (UInt8.ofNat number) else none

/-- `parse_addr_prefix`, over the standard library's `str::parse::<IpAddr>`. -/
def parseAddrPrefix (parseIpAddr : String → Option IpAddr) (s : String) :
    Option (IpAddr × UInt8) :=
  match splitOnce s with
  | none => none
  | some (ipStr, lenStr) =>
      match parseIpAddr ipStr with
      | none => none
      | some ip =>
          match parseU8 lenStr with
          | none => none
          | some prefixLen =>
              let maxLen : UInt8 := match ip with
                | .v4 _ => 32
                | .v6 _ => 128
              if maxLen < prefixLen then none else some (ip, prefixLen)

/-- Why `run` gives up on the configured addresses. -/
inductive AddressError where
  | needOneMoreIpv4 (ip : Ipv4Addr) (prefixLen : UInt8)
  | needOneMoreIpv6 (ip : Ipv6Addr) (prefixLen : UInt8)
  | noAddress

/-- The variables of the address loop of `run`. -/
structure Addresses where
  inet4ServerAddr : Option Ipv4Addr
  inet4ClientAddr : Option Ipv4Addr
  inet6ServerAddr : Option Ipv6Addr
  inet6ClientAddr : Option Ipv6Addr
  inet4Prefixes : List (Ipv4Addr × UInt8)
  inet6Prefixes : List (Ipv6Addr × UInt8)

/-- The address loop of `run`. -/
def addressLoop (parseIpAddr : String → Option IpAddr) :
    List String → Addresses → Except AddressError Addresses
  | [], addresses => .ok addresses
  | addrStr :: rest, addresses =>
      match parseAddrPrefix parseIpAddr addrStr with
      | some (.v4 ip, pl) =>
          if addresses.inet4ServerAddr = none then
            if hasNextAddrV4 ip pl = false then .error (.needOneMoreIpv4 ip pl)
            else addressLoop parseIpAddr rest { addresses with
              inet4ServerAddr := some ip
              inet4ClientAddr := some (Octets.ofNat 4 (ip.toNat + 1))
              inet4Prefixes := addresses.inet4Prefixes ++ [(ip, pl)] }
          else addressLoop parseIpAddr rest { addresses with
            inet4Prefixes := addresses.inet4Prefixes ++ [(ip, pl)] }
      | some (.v6 ip, pl) =>
          if addresses.inet6ServerAddr = none then
            if hasNextAddrV6 ip pl = false then .error (.needOneMoreIpv6 ip pl)
            else addressLoop parseIpAddr rest { addresses with
              inet6ServerAddr := some ip
              inet6ClientAddr := some (Octets.ofNat 16 (ip.toNat + 1))
              inet6Prefixes := addresses.inet6Prefixes ++ [(ip, pl)] }
          else addressLoop parseIpAddr rest { addresses with
            inet6Prefixes := addresses.inet6Prefixes ++ [(ip, pl)] }
      | none => addressLoop parseIpAddr rest addresses

/-- **The addresses `run` accepts.** -/
def selectAddresses (parseIpAddr : String → Option IpAddr) (configured : List String) :
    Except AddressError Addresses :=
  match addressLoop parseIpAddr configured ⟨none, none, none, none, [], []⟩ with
  | .error error => .error error
  | .ok addresses =>
      if addresses.inet4ServerAddr = none ∧ addresses.inet6ServerAddr = none then .error .noAddress
      else .ok addresses

/-- `inet4_broadcast`: the broadcast address of the first IPv4 prefix. -/
def Addresses.inet4Broadcast (addresses : Addresses) : Option Ipv4Addr :=
  addresses.inet4Prefixes.head?.map fun first => broadcastAddrV4 first.1 first.2

/-! ### The packet filters -/

/-- `parse_udp_v4`. -/
def parseUdpV4 (udp : Bytes) (srcIp dstIp : Ipv4Addr) : Option (SocketAddr × SocketAddr × Bytes) :=
  if udp.length < 8 then none
  else
    let length := be16 udp 4
    let payloadLen := min (length - 8) (udp.length - 8)
    some (.v4 srcIp (portAt udp 0), .v4 dstIp (portAt udp 2), slice udp 8 payloadLen)

/-- What `process_ipv4` does with a packet. -/
inductive Ipv4Action where
  | dropped
  /-- `handle_tcp_v4` was called. -/
  | tcp (outcome : TcpOutcome)
  /-- `dispatch_udp` is called, with the datagram and the header template of replies to it. -/
  | udp (src dst : SocketAddr) (data headerTemplate : Bytes)
  /-- `handle_icmpv4` is called. -/
  | icmp (ihl : Nat) (src dst : Ipv4Addr)

/-- `process_ipv4`. -/
def processIpv4 (config : TcpConfig 4) (inet4Broadcast : Option Ipv4Addr) (nat : TcpNat) (now : Nat)
    (raw : Bytes) : Ipv4Action :=
  if raw.length < 20 then .dropped
  else
    let ihl := headerLength raw
    if raw.length < ihl ∨ ihl < 20 then .dropped
    else
      let flagsFrag := be16 raw 6
      let moreFragments := flagsFrag &&& 0x2000 ≠ 0
      let fragOffset := flagsFrag &&& 0x1fff
      let srcIp : Ipv4Addr := Octets.ofSlice 4 raw 12
      let dstIp : Ipv4Addr := Octets.ofSlice 4 raw 16
      let payload := raw.drop ihl
      if some dstIp = inet4Broadcast then .dropped
      else if byteAt raw 9 = ipprotoTcp then
        if moreFragments ∨ fragOffset ≠ 0 then .dropped
        else .tcp (handleTcpV4 config nat now raw payload srcIp dstIp)
      else if byteAt raw 9 = ipprotoUdp then
        if moreFragments ∨ fragOffset ≠ 0 then .dropped
        else if isGlobalUnicastV4 dstIp = false then .dropped
        else
          match parseUdpV4 payload srcIp dstIp with
          | none => .dropped
          | some (src, dst, data) => .udp src dst data (raw.take (min (ihl + 8) raw.length))
      else if byteAt raw 9 = ipprotoIcmp then
        if some dstIp = inet4Broadcast ∨ isGlobalUnicastV4 dstIp = false then .dropped
        else .icmp ihl srcIp dstIp
      else .dropped

/-! ### Packets of the listener -/

/-- A parsed IPv4 prefix is no longer than an address. -/
theorem parseAddrPrefix_v4 {parseIpAddr : String → Option IpAddr} {s : String} {ip : Ipv4Addr}
    {pl : UInt8} (parsed : parseAddrPrefix parseIpAddr s = some (.v4 ip, pl)) : pl.toNat ≤ 32 := by
  unfold parseAddrPrefix at parsed
  split at parsed
  · cases parsed
  · split at parsed
    · cases parsed
    · rename_i parsedIp _
      split at parsed
      · cases parsed
      · rename_i prefixLen _
        cases parsedIp with
        | v4 ip' =>
            by_cases long : (32 : UInt8) < prefixLen
            · rw [if_pos long] at parsed
              cases parsed
            · rw [if_neg long] at parsed
              cases parsed
              exact UInt8.le_iff_toNat_le.mp (UInt8.not_lt.mp long)
        | v6 ip' =>
            by_cases long : (128 : UInt8) < prefixLen
            · rw [if_pos long] at parsed
              cases parsed
            · rw [if_neg long] at parsed
              cases parsed

/-- What the address loop has established about IPv4 so far. -/
def Addresses.Inet4Selected (addresses : Addresses) : Prop :=
  match addresses.inet4ServerAddr with
  | none => addresses.inet4Prefixes = []
  | some server => ∃ pl : UInt8, pl.toNat ≤ 32
      ∧ addresses.inet4Prefixes.head? = some (server, pl)
      ∧ hasNextAddrV4 server pl = true
      ∧ addresses.inet4ClientAddr = some (Octets.ofNat 4 (server.toNat + 1))

theorem addressLoop_selected {parseIpAddr : String → Option IpAddr} :
    ∀ {configured : List String} {addresses accepted : Addresses}, addresses.Inet4Selected →
      addressLoop parseIpAddr configured addresses = .ok accepted → accepted.Inet4Selected
  | [], _, _, selected, looped => by
      cases looped
      exact selected
  | addrStr :: rest, addresses, accepted, selected, looped => by
      rw [addressLoop] at looped
      split at looped
      · rename_i ip pl parsed
        have valid := parseAddrPrefix_v4 parsed
        split at looped
        · rename_i first
          simp only [Addresses.Inet4Selected, first] at selected
          split at looped
          · cases looped
          · rename_i next
            refine addressLoop_selected ?_ looped
            refine ⟨pl, valid, ?_, by simpa using next, rfl⟩
            simp only [selected, List.nil_append, List.head?_cons]
        · rename_i later
          refine addressLoop_selected ?_ looped
          obtain ⟨server, known⟩ := Option.ne_none_iff_exists'.mp later
          simp only [Addresses.Inet4Selected, known] at selected ⊢
          obtain ⟨length, short, head, next, client⟩ := selected
          refine ⟨length, short, ?_, next, client⟩
          rw [List.head?_append, head, Option.some_or]
      · split at looped
        · split at looped
          · cases looped
          · refine addressLoop_selected ?_ looped
            exact selected
        · refine addressLoop_selected ?_ looped
          exact selected
      · exact addressLoop_selected selected looped

/-- **What `run` has accepted**: the server address comes from the first IPv4 prefix and has a next
address, which is the client address. -/
theorem selectAddresses_first {parseIpAddr : String → Option IpAddr} {configured : List String}
    {accepted : Addresses} (ok : selectAddresses parseIpAddr configured = .ok accepted)
    {server : Ipv4Addr} (hasServer : accepted.inet4ServerAddr = some server) :
    ∃ pl : UInt8, pl.toNat ≤ 32 ∧ accepted.inet4Prefixes.head? = some (server, pl)
      ∧ hasNextAddrV4 server pl = true
      ∧ accepted.inet4ClientAddr = some (Octets.ofNat 4 (server.toNat + 1)) := by
  unfold selectAddresses at ok
  split at ok
  · cases ok
  · rename_i addresses looped
    split at ok
    · cases ok
    · cases ok
      have empty : (⟨none, none, none, none, [], []⟩ : Addresses).Inet4Selected := rfl
      have selected := addressLoop_selected empty looped
      simpa only [Addresses.Inet4Selected, hasServer] using selected

/-- The server address is not the last but one of its prefix, so that the client address is not the
last one. -/
def RoomBehindClient (server : Ipv4Addr) (prefixLen : UInt8) : Prop :=
  hostPart 32 prefixLen.toNat server.toNat + 2 ≠ blockSize 32 prefixLen.toNat

instance (server : Ipv4Addr) (prefixLen : UInt8) :
    Decidable (RoomBehindClient server prefixLen) := by
  unfold RoomBehindClient
  infer_instance

/-- **The client address against the broadcast address.** -/
theorem client_ne_broadcast_iff {server : Ipv4Addr} {pl : UInt8} (valid : pl.toNat ≤ 32)
    (next : hasNextAddrV4 server pl = true) :
    Octets.ofNat 4 (server.toNat + 1) ≠ broadcastAddrV4 server pl ↔ RoomBehindClient server pl := by
  have room := (hasNextAddrV4_iff valid).mp next
  have start := blockStart_add_hostPart 32 pl.toNat server.toNat
  have broadcast := @broadcastAddrV4_toNat server pl valid
  have small : server.toNat + 1 < 256 ^ 4 := by
    have whole := (broadcastAddrV4 server pl).toNat_lt
    rw [broadcast] at whole
    omega
  have client : (Octets.ofNat 4 (server.toNat + 1)).toNat = server.toNat + 1 := by
    rw [Octets.toNat_ofNat, Nat.mod_eq_of_lt small]
  rw [RoomBehindClient, Ne, Ne, not_iff_not]
  constructor
  · intro same
    have numbers := congrArg Octets.toNat same
    rw [client, broadcast] at numbers
    omega
  · intro last
    apply Octets.toNat_injective
    rw [client, broadcast]
    omega

/-- A packet without the fragment bits is not a fragment. -/
theorem not_fragment {flagsFrag : Nat} (whole : flagsFrag &&& 0x3fff = 0) :
    ¬ (flagsFrag &&& 0x2000 ≠ 0 ∨ flagsFrag &&& 0x1fff ≠ 0) := by
  have more : flagsFrag &&& 0x2000 = 0 := by
    rw [show 0x2000 = 0x3fff &&& 0x2000 from rfl, ← Nat.land_assoc, whole, Nat.zero_and]
  have offset : flagsFrag &&& 0x1fff = 0 := by
    rw [show 0x1fff = 0x3fff &&& 0x1fff from rfl, ← Nat.land_assoc, whole, Nat.zero_and]
  rw [more, offset]
  simp

/-- A well-formed TCP packet meets no filter but that of the broadcast address. -/
theorem processIpv4_tcp {config : TcpConfig 4} {inet4Broadcast : Option Ipv4Addr} {nat : TcpNat}
    {now : Nat} {raw : Bytes} (packet : Ipv4TcpPacket raw) :
    processIpv4 config inet4Broadcast nat now raw
      = if some (Octets.ofSlice 4 raw 16) = inet4Broadcast then .dropped
        else .tcp (feedV4 config nat now raw) := by
  have header := packet.header
  have segment := packet.segment
  rw [processIpv4, if_neg (by omega)]
  dsimp only
  rw [if_neg (by omega)]
  split
  · rfl
  · rw [if_pos packet.protocol, if_neg (not_fragment packet.unfragmented)]
    rfl

/-- A packet from the server address and a listener's port ends in the branch for replies. -/
theorem feedV4_reply {config : TcpConfig 4} {server client : Ipv4Addr} {nat : TcpNat} {now : Nat}
    {raw : Bytes} (packet : Ipv4TcpPacket raw) (hasServer : config.serverAddr = some server)
    (hasClient : config.clientAddr = some client) (src : Octets.ofSlice 4 raw 12 = server)
    (srcPort : portAt raw (headerLength raw) = config.tcpPort
      ∨ config.dnsTcpPort = some (portAt raw (headerLength raw))) :
    (feedV4 config nat now raw).verdict = .listenerReply := by
  have recognised : Octets.ofSlice 4 raw ipv4Family.srcAt = server
      ∧ (portAt (raw.drop (headerLength raw)) 0 = config.tcpPort
        ∨ config.dnsTcpPort = some (portAt (raw.drop (headerLength raw)) 0)) := by
    rw [portAt_drop, Nat.add_zero]
    exact ⟨src, srcPort⟩
  rw [feedV4_eq hasServer hasClient nat now packet.segment, TcpFamily.handleTcp]
  rw [if_pos recognised, TcpFamily.handleReply]
  split
  · rfl
  · split
    · rfl
    · split <;> rfl

/-- **The packets of the listener reach the branch for replies.** Whatever addresses `run` has
accepted, with the first IPv4 prefix of length `pl`: a well-formed TCP packet from a port of the
listener on the server address to the client address reaches the branch for replies, and the client
address is not the broadcast address, exactly when the server address is not the last but one of its
prefix. -/
theorem listener_packet_accepted_iff {parseIpAddr : String → Option IpAddr}
    {configured : List String} {accepted : Addresses}
    (ok : selectAddresses parseIpAddr configured = .ok accepted) {server : Ipv4Addr}
    (hasServer : accepted.inet4ServerAddr = some server) :
    ∃ pl client, accepted.inet4Prefixes.head? = some (server, pl)
      ∧ accepted.inet4ClientAddr = some client
      ∧ (accepted.inet4Broadcast ≠ some client ↔ RoomBehindClient server pl)
      ∧ ∀ (config : TcpConfig 4) (nat : TcpNat) (now : Nat) (raw : Bytes),
        config.serverAddr = accepted.inet4ServerAddr →
        config.clientAddr = accepted.inet4ClientAddr → Ipv4TcpPacket raw →
        Octets.ofSlice 4 raw 12 = server → Octets.ofSlice 4 raw 16 = client →
        (portAt raw (headerLength raw) = config.tcpPort
          ∨ config.dnsTcpPort = some (portAt raw (headerLength raw))) →
        ((∃ outcome, processIpv4 config accepted.inet4Broadcast nat now raw = .tcp outcome
            ∧ outcome.verdict = .listenerReply)
          ↔ RoomBehindClient server pl) := by
  obtain ⟨pl, valid, head, next, hasClient⟩ := selectAddresses_first ok hasServer
  have broadcast : accepted.inet4Broadcast = some (broadcastAddrV4 server pl) := by
    rw [Addresses.inet4Broadcast, head, Option.map_some]
  have filter := client_ne_broadcast_iff valid next
  refine ⟨pl, _, head, hasClient, ?_, ?_⟩
  · rw [broadcast, ← filter, Ne, Ne, Option.some.injEq, eq_comm]
  · intro config nat now raw sameServer sameClient packet src dst srcPort
    rw [processIpv4_tcp packet, dst, broadcast, ← filter]
    constructor
    · rintro ⟨outcome, called, -⟩ same
      rw [if_pos (congrArg some same)] at called
      cases called
    · intro different
      rw [if_neg fun same => different (Option.some.inj same)]
      exact ⟨_, rfl, feedV4_reply packet (sameServer.trans hasServer) (sameClient.trans hasClient)
        src srcPort⟩

/-- The text of one address, parsed as the standard library does. -/
def sampleParse (text : String) (bits : Nat) (s : String) : Option IpAddr :=
  if s = text then some (.v4 (Octets.ofNat 4 bits)) else none

/-- What `run` makes of one IPv4 prefix. -/
theorem selectAddresses_singleton {parseIpAddr : String → Option IpAddr} {text : String}
    {ip : Ipv4Addr} {pl : UInt8} (parsed : parseAddrPrefix parseIpAddr text = some (.v4 ip, pl))
    (next : hasNextAddrV4 ip pl = true) :
    selectAddresses parseIpAddr [text]
      = .ok ⟨some ip, some (Octets.ofNat 4 (ip.toNat + 1)), none, none, [(ip, pl)], []⟩ := by
  simp [selectAddresses, addressLoop, parsed, next]

theorem listener_packet_accepted_iff_sample :
    ∃ accepted, selectAddresses (sampleParse "10.0.0.1" 0x0A000001) ["10.0.0.1/24"] = .ok accepted
      ∧ ∃ outcome, processIpv4 sampleConfig accepted.inet4Broadcast TcpNat.new 0 sampleSynAck
          = .tcp outcome ∧ outcome.verdict = .listenerReply := by
  have parsed : parseAddrPrefix (sampleParse "10.0.0.1" 0x0A000001) "10.0.0.1/24"
      = some (.v4 (Octets.ofNat 4 0x0A000001), 24) := by decide +kernel
  have ok := selectAddresses_singleton parsed (by decide +kernel)
  obtain ⟨pl, client, head, hasClient, -, accepted⟩ := listener_packet_accepted_iff ok rfl
  cases head
  cases hasClient
  have packet : Ipv4TcpPacket sampleSynAck :=
    ⟨by decide, by decide, by decide, by decide, by decide, by decide⟩
  refine ⟨_, ok, (accepted sampleConfig TcpNat.new 0 sampleSynAck rfl ?_ packet ?_ ?_ ?_).mpr ?_⟩
  · decide +kernel
  · decide +kernel
  · decide +kernel
  · decide +kernel
  · decide +kernel

/-- The answer of a listener on 10.0.0.254:5000 to the client address 10.0.0.255. -/
def sampleTopSynAck : Bytes :=
  [0x45, 0, 0, 40, 0, 2, 0, 0, 64, 6, 0, 0, 10, 0, 0, 254, 10, 0, 0, 255,
    0x13, 0x88, 0x27, 0x10, 0, 0, 0, 9, 0, 0, 0, 2, 0x50, 0x12, 0xFF, 0xFF, 0, 0, 0, 0]

/-- **On 10.0.0.254/24 the packets of the listener are dropped**: `run` accepts the prefix, and the
client address it derives is the broadcast address. -/
theorem listener_packet_dropped :
    ∃ accepted,
      selectAddresses (sampleParse "10.0.0.254" 0x0A0000FE) ["10.0.0.254/24"] = .ok accepted
      ∧ accepted.inet4ServerAddr = some (Octets.ofSlice 4 sampleTopSynAck 12)
      ∧ accepted.inet4ClientAddr = some (Octets.ofSlice 4 sampleTopSynAck 16)
      ∧ accepted.inet4Broadcast = accepted.inet4ClientAddr
      ∧ Ipv4TcpPacket sampleTopSynAck
      ∧ portAt sampleTopSynAck (headerLength sampleTopSynAck) = sampleConfig.tcpPort
      ∧ ∀ nat now, processIpv4 { sampleConfig with
            serverAddr := accepted.inet4ServerAddr
            clientAddr := accepted.inet4ClientAddr } accepted.inet4Broadcast nat now sampleTopSynAck
          = .dropped := by
  have parsed : parseAddrPrefix (sampleParse "10.0.0.254" 0x0A0000FE) "10.0.0.254/24"
      = some (.v4 (Octets.ofNat 4 0x0A0000FE), 24) := by decide +kernel
  have packet : Ipv4TcpPacket sampleTopSynAck :=
    ⟨by decide, by decide, by decide, by decide, by decide, by decide⟩
  refine ⟨_, selectAddresses_singleton parsed (by decide +kernel), ?_, ?_, ?_, packet, ?_, ?_⟩
  · decide +kernel
  · decide +kernel
  · decide +kernel
  · decide +kernel
  · intro nat now
    rw [processIpv4_tcp packet]
    exact if_pos (by decide +kernel)

end RsTun.SystemNat
