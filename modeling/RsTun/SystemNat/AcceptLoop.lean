/-
**From a client's packet to the accepted connection (`accept_loop`, `tcp_dns_accept_loop`).**

A packet that the read loop sends on to a listener opens a connection there, whose peer port is the
NAT port. Later an accept loop takes the connection and asks the NAT table whose port it is. In
between there are other packets, in either direction, the GC task, interface changes and time. The
operations on the table are taken one at a time.

* `TcpCall.nat_cases` — all that a TCP handler does to the table.
* `Standing` — the two maps are inverse, and the session of a connection that is recent stays.
* `accepted_own` — **a connection that is accepted in time is accepted as what it is**: with the
  destination of the packet that opened it, or as a DNS connection of its client.
-/

import RsTun.SystemNat.Dispatch
import RsTun.SystemNat.TcpDns

namespace RsTun.SystemNat

open Library Library.Bytes Packet

/-! ### What a handler does to the table -/

/-- The source of the packet, as the handler puts it together. -/
def TcpCall.client : TcpCall → SocketAddr
  | .v4 payload src _ => ipv4Family.wrap src (portAt payload 0)
  | .v6 payload src _ => ipv6Family.wrap src (portAt payload 0)

/-- The destination of the packet. -/
def TcpCall.server : TcpCall → SocketAddr
  | .v4 payload _ dst => ipv4Family.wrap dst (portAt payload 2)
  | .v6 payload _ dst => ipv6Family.wrap dst (portAt payload 2)

/-- What a handler can have done to the table. -/
inductive NatEffect (nat : TcpNat) (now : Nat) (client server : SocketAddr) (outcome : TcpOutcome) :
    Prop where
  | kept (same : outcome.nat = nat) (verdict : ∀ port, outcome.verdict ≠ .forwarded port)
  | replied (port : UInt16) (touched : outcome.nat = (nat.lookupBack now port).2)
      (verdict : ∀ port, outcome.verdict ≠ .forwarded port)
  | exhausted (failed : nat.lookupOrInsert now client server = (none, outcome.nat))
      (verdict : ∀ port, outcome.verdict ≠ .forwarded port)
  | forwarded (port : UInt16)
      (found : nat.lookupOrInsert now client server = (some port, outcome.nat))
      (verdict : outcome.verdict = .forwarded port)

section Effect

variable {size : Nat} (family : TcpFamily size) (config : TcpConfig size) (nat : TcpNat)
  (now : Nat)

theorem handleReply_effect (raw : Bytes) (tcpOff : Nat) (dstPort : UInt16)
    (client server : SocketAddr) :
    NatEffect nat now client server (family.handleReply config nat now raw tcpOff dstPort) := by
  have touched : (family.handleReply config nat now raw tcpOff dstPort).nat
      = (nat.lookupBack now dstPort).2 := by
    unfold TcpFamily.handleReply
    split
    · rename_i found
      rw [found]
    · rename_i found
      rw [found]
      split
      · rfl
      · split <;> rfl
  have verdict : (family.handleReply config nat now raw tcpOff dstPort).verdict
      = .listenerReply := by
    unfold TcpFamily.handleReply
    split
    · rfl
    · split
      · rfl
      · split <;> rfl
  exact .replied dstPort touched fun port => by rw [verdict]; exact nofun

/-- **All that the common part of the handlers does to the table.** -/
theorem handleTcp_effect (server client : Octets size) (raw tcpPayload : Bytes)
    (srcIp dstIp : Octets size) (tcpOff : Nat) :
    NatEffect nat now (family.wrap srcIp (portAt tcpPayload 0))
      (family.wrap dstIp (portAt tcpPayload 2))
      (family.handleTcp config server client nat now raw tcpPayload srcIp dstIp tcpOff) := by
  simp only [TcpFamily.handleTcp]
  split
  · exact handleReply_effect family config nat now raw tcpOff _ _ _
  · split
    · exact .kept rfl fun _ same => by cases same
    · split
      · exact .kept rfl fun _ same => by cases same
      · split
        · rename_i failed
          exact .exhausted failed fun _ same => by cases same
        · rename_i port after found
          exact .forwarded port found rfl

end Effect

/-- **All that a call of a handler does to the table.** -/
theorem TcpCall.nat_cases (call : TcpCall) (config4 : TcpConfig 4) (config6 : TcpConfig 16)
    (nat : TcpNat) (now : Nat) (raw : Bytes) :
    NatEffect nat now call.client call.server (call.run config4 config6 nat now raw) := by
  cases call with
  | v4 payload src dst =>
      show NatEffect _ _ _ _ (handleTcpV4 config4 nat now raw payload src dst)
      unfold handleTcpV4
      split
      · split
        · exact .kept rfl nofun
        · exact handleTcp_effect ipv4Family config4 nat now _ _ raw payload src dst _
      · exact .kept rfl nofun
  | v6 payload src dst =>
      show NatEffect _ _ _ _ (handleTcpV6 config6 nat now raw payload src dst)
      unfold handleTcpV6
      dsimp only
      split
      · split
        · exact .kept rfl nofun
        · split
          · exact .kept rfl nofun
          · exact handleTcp_effect ipv6Family config6 nat now _ _ raw payload src dst _
      · exact .kept rfl nofun

/-! ### The loops -/

/-- `Target`. -/
inductive Target where
  | domain (host : String) (port : UInt16)
  | socket (addr : SocketAddr)
  deriving DecidableEq

/-- `InboundTcpStream`, but for its stream, which is the connection that was accepted. -/
structure InboundTcpStream where
  target : Target
  inboundTag : String
  sniffedProtocol : Option String
  sniffedDomain : Option String
  deriving DecidableEq

/-- The listener that a packet is sent on to. -/
inductive Listener where
  | tcp
  | dns
  deriving DecidableEq

/-- The listener behind `effective_tcp_port`. -/
def listenerOf {size : Nat} (config : TcpConfig size) (dstPort : UInt16) : Listener :=
  if config.dnsHijack = true ∧ dstPort = 53 ∧ config.dnsTcpPort.isSome then .dns else .tcp

/-- The listener that a call sends its packet on to. -/
def TcpCall.listener (config4 : TcpConfig 4) (config6 : TcpConfig 16) : TcpCall → Listener
  | .v4 payload _ _ => listenerOf config4 (portAt payload 2)
  | .v6 payload _ _ => listenerOf config6 (portAt payload 2)

/-- A connection to a listener. The last four fields are a record only: from whom and to whom the
packet was that opened it, when, and whether the interfaces have changed since. -/
structure Connection where
  listener : Listener
  natPort : UInt16
  client : SocketAddr
  server : SocketAddr
  seen : Nat
  interfaceChanged : Bool
  deriving DecidableEq

/-- What an accept loop makes of a connection. -/
inductive Acceptance where
  | stream (inbound : InboundTcpStream)
  | dnsTask (task : TcpDnsTask)
  | unknownPort

/-- The arguments of the read loop and of the accept loops. -/
structure LoopConfig where
  config4 : TcpConfig 4
  config6 : TcpConfig 16
  inet4Broadcast : Option Ipv4Addr
  tag : String
  dnsTx : Bool
  /-- The `udp_timeout`, which is also the timeout of the sessions. -/
  timeout : Nat

/-- The table, the clock, the connections that were opened, and what was made of those that were
accepted, with the time. -/
structure Loops where
  nat : TcpNat
  clock : Nat
  connections : List Connection
  accepted : List (Connection × Nat × Acceptance)

/-- What happens next. -/
inductive LoopMove where
  /-- The read loop reads a packet. -/
  | packet (raw : Bytes)
  /-- An accept loop takes a connection. -/
  | accept (index : Nat)
  /-- The GC task. -/
  | gc
  | interfaceChanged
  | elapse (duration : Nat)

namespace Loops

/-- The start: an empty table, and no connection. -/
def fresh (clock : Nat) : Loops := ⟨TcpNat.new, clock, [], []⟩

/-- What an accept loop makes of what `lookup_back` returns. -/
def acceptance (config : LoopConfig) : Listener → Option Key → Acceptance
  | _, none => .unknownPort
  | .tcp, some (_, dst) => .stream ⟨.socket dst, config.tag, none, none⟩
  | .dns, some (src, _) => .dnsTask (.new src config.tag config.dnsTx)

/-- The read loop, for a packet that a TCP handler is called with. -/
def packet (config : LoopConfig) (loops : Loops) (raw : Bytes) (call : TcpCall) : Loops :=
  let outcome := call.run config.config4 config.config6 loops.nat loops.clock raw
  match outcome.verdict with
  | .forwarded natPort =>
      let connection : Connection :=
        { listener := call.listener config.config4 config.config6, natPort, client := call.client
          server := call.server, seen := loops.clock, interfaceChanged := false }
      { loops with nat := outcome.nat, connections := loops.connections ++ [connection] }
  | _ => { loops with nat := outcome.nat }

/-- One move. -/
def step (config : LoopConfig) (loops : Loops) : LoopMove → Option Loops
  | .packet raw =>
      match systemTcp config.inet4Broadcast raw with
      | some call => some (loops.packet config raw call)
      | none => some loops
  | .accept index =>
      loops.connections[index]?.map fun connection =>
        let (found, nat) := loops.nat.lookupBack loops.clock connection.natPort
        let made := acceptance config connection.listener found
        { loops with nat, accepted := loops.accepted ++ [(connection, loops.clock, made)] }
  | .gc => some { loops with nat := loops.nat.gc loops.clock config.timeout }
  | .interfaceChanged => some { loops with
      nat := loops.nat.clear
      connections := loops.connections.map fun connection =>
        { connection with interfaceChanged := true } }
  | .elapse duration => some { loops with clock := loops.clock + duration }

/-- The loops over time. -/
def machine (config : LoopConfig) : Machine Loops LoopMove := ⟨step config⟩

end Loops

/-! ### What the operations keep, each taken alone -/

namespace TcpNat

/-- The two maps are inverse, and every session has a mutex that was made. -/
structure Inverse (nat : TcpNat) : Prop where
  maps : ∀ key port, nat.addrMap.lookup key = some port
    ↔ ∃ entry, nat.portMap.lookup port = some entry ∧ entry.key = key
  made : ∀ port entry, nat.portMap.lookup port = some entry → entry.lastActive < nat.mutexes

/-- The sessions that are not older than the timeout stay, and become no older. -/
def Carries (timeout clock : Nat) (before after : TcpNat) : Prop :=
  ∀ port entry, before.portMap.lookup port = some entry →
    clock ≤ before.instants entry.lastActive + timeout →
    after.portMap.lookup port = some entry
      ∧ before.instants entry.lastActive ≤ after.instants entry.lastActive

theorem inverse_new : TcpNat.new.Inverse where
  maps _ _ := iff_of_false nofun nofun
  made _ _ := nofun

section Operations

variable {nat : TcpNat} {timeout clock : Nat}

theorem Inverse.of_maps {after : TcpNat} (inverse : nat.Inverse)
    (addrs : after.addrMap = nat.addrMap) (ports : after.portMap = nat.portMap)
    (mutexes : after.mutexes = nat.mutexes) : after.Inverse := by
  refine ⟨fun key port => ?_, fun port entry => ?_⟩
  · rw [addrs, ports]
    exact inverse.maps key port
  · rw [ports, mutexes]
    exact inverse.made port entry

theorem Inverse.touch (inverse : nat.Inverse) (entry : TcpNatEntry) (now : Nat) :
    (nat.touch entry now).Inverse :=
  inverse.of_maps (touch_addrMap _ _ _) (touch_portMap _ _ _) (touch_mutexes _ _ _)

theorem carries_touch (entry : TcpNatEntry) (now : Nat) :
    Carries timeout clock nat (nat.touch entry now) := by
  intro port other held _
  rw [touch_portMap]
  exact ⟨held, instants_le_touch nat entry now _⟩

theorem carries_self : Carries timeout clock nat nat :=
  fun _ _ held _ => ⟨held, Nat.le_refl _⟩

/-- A refresh leaves a session that was active within the last second. -/
theorem recent_touch (entry : TcpNatEntry) (now : Nat) :
    now ≤ (nat.touch entry now).instants entry.lastActive + second := by
  unfold TcpNat.touch
  split
  · dsimp only
    rw [Function.update_self]
    exact Nat.le_add_right _ _
  · rename_i fresh
    omega

/-- `lookup_back` alone. -/
theorem lookupBack_keeps (inverse : nat.Inverse) (now : Nat) (port : UInt16) :
    (nat.lookupBack now port).2.Inverse
      ∧ Carries timeout clock nat (nat.lookupBack now port).2 := by
  unfold lookupBack
  split
  · exact ⟨inverse.touch _ _, carries_touch _ _⟩
  · exact ⟨inverse, carries_self⟩

/-- An insertion under a port that is free and a pair that has none. -/
theorem insertSession_keeps (inverse : nat.Inverse) (now : Nat) {key : Key} {port : UInt16}
    (unknown : nat.addrMap.lookup key = none) (free : nat.portMap.lookup port = none) :
    (nat.insertSession now key port).Inverse
      ∧ Carries timeout clock nat (nat.insertSession now key port) := by
  refine ⟨⟨fun other found => ?_, fun found entry held => ?_⟩, fun found entry held _ => ?_⟩
  · rw [insertSession_addrMap, insertSession_portMap]
    by_cases same : other = key
    · subst same
      rw [if_pos rfl]
      constructor
      · intro here
        cases here
        exact ⟨_, if_pos rfl, rfl⟩
      · rintro ⟨entry, held, owned⟩
        split at held
        · rename_i here
          rw [here]
        · have none := (inverse.maps other found).mpr ⟨entry, held, owned⟩
          rw [unknown] at none
          cases none
    · rw [if_neg same, inverse.maps]
      refine exists_congr fun entry => ?_
      by_cases here : found = port
      · subst here
        rw [if_pos rfl, free]
        refine iff_of_false nofun fun both => ?_
        obtain ⟨made, owned⟩ := both
        cases made
        exact same owned.symm
      · rw [if_neg here]
  · rw [insertSession_portMap] at held
    show entry.lastActive < nat.mutexes + 1
    split at held
    · cases held
      exact Nat.lt_succ_self _
    · exact Nat.lt_succ_of_lt (inverse.made found entry held)
  · have other : found ≠ port := by
      rintro rfl
      rw [free] at held
      cases held
    have old : entry.lastActive ≠ nat.mutexes := Nat.ne_of_lt (inverse.made found entry held)
    rw [insertSession_portMap, if_neg other]
    refine ⟨held, Nat.le_of_eq ?_⟩
    show _ = Function.update nat.instants nat.mutexes now entry.lastActive
    rw [Function.update_of_ne old]

/-- **`lookup_or_insert` alone**: what it keeps, and what it returns. -/
theorem lookupOrInsert_keeps (inverse : nat.Inverse) (now : Nat) (src dst : SocketAddr) :
    (nat.lookupOrInsert now src dst).2.Inverse
      ∧ Carries timeout clock nat (nat.lookupOrInsert now src dst).2
      ∧ ∀ port, (nat.lookupOrInsert now src dst).1 = some port →
        ∃ entry, (nat.lookupOrInsert now src dst).2.portMap.lookup port = some entry
          ∧ entry.key = (src, dst)
          ∧ now ≤ (nat.lookupOrInsert now src dst).2.instants entry.lastActive + second := by
  unfold lookupOrInsert
  cases known : nat.addrMap.lookup (src, dst) with
  | some port =>
      obtain ⟨entry, held, owned⟩ := (inverse.maps _ _).mp known
      simp only [held]
      refine ⟨inverse.touch _ _, carries_touch _ _, fun found same => ?_⟩
      cases same
      rw [touch_portMap]
      exact ⟨entry, held, owned, recent_touch entry now⟩
  | none =>
      dsimp only [allocateAndInsert]
      cases allocated : nat.allocatePortLocked with
      | mk found portIndex =>
          cases found with
          | none =>
              exact ⟨inverse.of_maps rfl rfl rfl, fun _ _ held _ => ⟨held, Nat.le_refl _⟩, nofun⟩
          | some port =>
              have free := (allocatePortLocked_some (congrArg Prod.fst allocated)).1
              have moved : (nat.setPortIndex portIndex).Inverse := inverse.of_maps rfl rfl rfl
              obtain ⟨kept, carried⟩ :=
                @insertSession_keeps _ timeout clock moved now (src, dst) port known free
              refine ⟨kept, carried, fun found same => ?_⟩
              cases same
              refine ⟨⟨src, dst, nat.mutexes⟩, ?_, rfl, ?_⟩
              · rw [insertSession_portMap, if_pos rfl]
                rfl
              · show now ≤ Function.update nat.instants nat.mutexes now nat.mutexes + second
                rw [Function.update_self]
                exact Nat.le_add_right _ _

/-- The sessions that `gc` collects alone. -/
theorem mem_expired_iff (now : Nat) {victim : Expired} :
    victim ∈ (nat.sessions.filter fun session =>
        now - nat.instants session.2.lastActive > timeout).map (fun session =>
          (⟨session.1, session.2.key, session.2, nat.instants session.2.lastActive⟩ : Expired))
      ↔ nat.portMap.lookup victim.port = some victim.entry ∧ victim.key = victim.entry.key
        ∧ victim.seen = nat.instants victim.entry.lastActive
        ∧ timeout < now - nat.instants victim.entry.lastActive := by
  rw [List.mem_map]
  constructor
  · rintro ⟨⟨port, entry⟩, among, rfl⟩
    obtain ⟨held, old⟩ := List.mem_filter.mp among
    exact ⟨mem_sessions.mp held, rfl, rfl, of_decide_eq_true old⟩
  · rintro ⟨held, owned, seen, old⟩
    refine ⟨(victim.port, victim.entry),
      List.mem_filter.mpr ⟨mem_sessions.mpr held, decide_eq_true old⟩, ?_⟩
    rw [← owned, ← seen]

/-- **What `gc` alone leaves of `port_map`**: the sessions that are not older than the timeout. -/
theorem gc_portMap (now : Nat) (port : UInt16) {entry : TcpNatEntry} :
    (nat.gc now timeout).portMap.lookup port = some entry
      ↔ nat.portMap.lookup port = some entry
        ∧ now - nat.instants entry.lastActive ≤ timeout := by
  rw [gc, evict_portMap]
  split
  · rename_i evicted
    obtain ⟨victim, among, rfl⟩ := evicted
    obtain ⟨held, -, -, old⟩ := (mem_expired_iff now).mp among
    refine iff_of_false nofun fun both => ?_
    obtain rfl := Option.some.inj (held.symm.trans both.1)
    exact absurd both.2 (Nat.not_le.mpr old)
  · rename_i kept
    refine ⟨fun held => ⟨held, ?_⟩, fun both => both.1⟩
    by_contra old
    exact kept ⟨⟨port, entry.key, entry, nat.instants entry.lastActive⟩,
      (mem_expired_iff now).mpr ⟨held, rfl, rfl, Nat.not_le.mp old⟩, rfl⟩

/-- What `gc` alone leaves of `addr_map`: the pairs of these sessions. -/
theorem gc_addrMap (inverse : nat.Inverse) (now : Nat) (key : Key) (port : UInt16) :
    (nat.gc now timeout).addrMap.lookup key = some port
      ↔ ∃ entry, (nat.portMap.lookup port = some entry
        ∧ now - nat.instants entry.lastActive ≤ timeout) ∧ entry.key = key := by
  rw [gc, evict_addrMap]
  split
  · rename_i evicted
    obtain ⟨victim, among, rfl⟩ := evicted
    obtain ⟨held, owned, -, old⟩ := (mem_expired_iff now).mp among
    refine iff_of_false nofun ?_
    rintro ⟨entry, ⟨here, young⟩, same⟩
    have first := (inverse.maps _ _).mpr ⟨entry, here, same⟩
    have second := (inverse.maps _ _).mpr ⟨victim.entry, held, owned.symm⟩
    obtain rfl := Option.some.inj (first.symm.trans second)
    obtain rfl := Option.some.inj (here.symm.trans held)
    exact absurd young (Nat.not_le.mpr old)
  · rename_i kept
    rw [inverse.maps]
    refine exists_congr fun entry => ⟨fun both => ⟨⟨both.1, ?_⟩, both.2⟩,
      fun both => ⟨both.1.1, both.2⟩⟩
    by_contra old
    exact kept ⟨⟨port, entry.key, entry, nat.instants entry.lastActive⟩,
      (mem_expired_iff now).mpr ⟨both.1, rfl, rfl, Nat.not_le.mp old⟩, both.2⟩

/-- **`gc` alone** keeps the maps inverse, and the sessions that are not older than the timeout. -/
theorem gc_keeps (inverse : nat.Inverse) (now : Nat) :
    (nat.gc now timeout).Inverse ∧ Carries timeout now nat (nat.gc now timeout) := by
  refine ⟨⟨fun key port => ?_, fun port entry held => ?_⟩, fun port entry held young => ?_⟩
  · rw [gc_addrMap inverse]
    exact exists_congr fun entry => and_congr_left fun _ => (gc_portMap now port).symm
  · rw [gc, evict_mutexes]
    exact inverse.made port entry ((gc_portMap now port).mp held).1
  · rw [gc_portMap, gc, evict_instants]
    exact ⟨⟨held, by omega⟩, Nat.le_refl _⟩

end Operations

end TcpNat

/-! ### Connections that are accepted in time -/

/-- As long as the connection is recent and the interfaces have not changed, its port has the
session of its packet. -/
def Connection.Kept (timeout : Nat) (nat : TcpNat) (clock : Nat) (connection : Connection) : Prop :=
  connection.interfaceChanged = false → clock + second ≤ connection.seen + timeout →
    ∃ entry, nat.portMap.lookup connection.natPort = some entry
      ∧ entry.key = (connection.client, connection.server)
      ∧ connection.seen ≤ nat.instants entry.lastActive + second

/-- What an accept loop is to make of a connection. -/
def Connection.own (config : LoopConfig) (connection : Connection) : Acceptance :=
  match connection.listener with
  | .tcp => .stream ⟨.socket connection.server, config.tag, none, none⟩
  | .dns => .dnsTask (.new connection.client config.tag config.dnsTx)

/-- The connection was taken in time: within the timeout, less the second by which a refresh is
throttled, and before the interfaces changed. -/
def Connection.InTime (timeout at' : Nat) (connection : Connection) : Prop :=
  connection.interfaceChanged = false ∧ at' + second ≤ connection.seen + timeout

/-- **The invariant of the loops.** -/
structure Standing (config : LoopConfig) (loops : Loops) : Prop where
  inverse : loops.nat.Inverse
  kept : ∀ connection ∈ loops.connections,
    connection.Kept config.timeout loops.nat loops.clock
  accepted : ∀ connection at' made, (connection, at', made) ∈ loops.accepted →
    connection.InTime config.timeout at' → made = connection.own config

theorem standing_fresh (config : LoopConfig) (clock : Nat) :
    Standing config (Loops.fresh clock) where
  inverse := TcpNat.inverse_new
  kept _ among := absurd among List.not_mem_nil
  accepted _ _ _ among := absurd among List.not_mem_nil

section Moves

variable {config : LoopConfig} {loops next : Loops}

theorem Connection.Kept.carried {timeout clock : Nat} {nat after : TcpNat} {connection : Connection}
    (kept : connection.Kept timeout nat clock)
    (carries : nat.Carries timeout clock after) : connection.Kept timeout after clock := by
  intro undisturbed recent
  obtain ⟨entry, held, owned, seen⟩ := kept undisturbed recent
  obtain ⟨still, older⟩ := carries _ _ held (by omega)
  exact ⟨entry, still, owned, by omega⟩

/-- A change of the table that carries the recent sessions. -/
theorem Standing.table (standing : Standing config loops) {nat : TcpNat} (inverse : nat.Inverse)
    (carries : loops.nat.Carries config.timeout loops.clock nat) :
    Standing config { loops with nat } where
  inverse := inverse
  kept connection among := (standing.kept connection among).carried carries
  accepted := standing.accepted

/-- **The read loop**: a packet that is sent on opens a connection whose port has its session. -/
theorem Standing.packet (standing : Standing config loops) (raw : Bytes) (call : TcpCall) :
    Standing config (loops.packet config raw call) := by
  have silent : (∀ port, (call.run config.config4 config.config6 loops.nat loops.clock raw).verdict
      ≠ .forwarded port) → loops.packet config raw call
        = { loops with
            nat := (call.run config.config4 config.config6 loops.nat loops.clock raw).nat } := by
    intro none
    unfold Loops.packet
    dsimp only
    split
    · rename_i port forwards
      exact absurd forwards (none port)
    · rfl
  obtain ⟨inverse, carries, returned⟩ := @TcpNat.lookupOrInsert_keeps _ config.timeout loops.clock
    standing.inverse loops.clock call.client call.server
  cases call.nat_cases config.config4 config.config6 loops.nat loops.clock raw with
  | kept same none =>
      rw [silent none, same]
      exact standing
  | replied port touched none =>
      rw [silent none, touched]
      obtain ⟨kept, carried⟩ := TcpNat.lookupBack_keeps standing.inverse loops.clock port
      exact standing.table kept carried
  | exhausted failed none =>
      rw [silent none]
      rw [failed] at inverse carries
      exact standing.table inverse carries
  | forwarded port found forwards =>
      rw [found] at inverse carries returned
      obtain ⟨entry, held, owned, seen⟩ := returned port rfl
      obtain ⟨-, kept, accepted⟩ := standing.table inverse carries
      unfold Loops.packet
      dsimp only
      rw [forwards]
      refine ⟨inverse, fun connection among => ?_, accepted⟩
      obtain before | last := List.mem_append.mp among
      · exact kept connection before
      · obtain rfl := List.mem_singleton.mp last
        exact fun _ _ => ⟨entry, held, owned, seen⟩

/-- **An accept loop**: what is accepted in time is accepted as what it is. -/
theorem Standing.accept (standing : Standing config loops) {index : Nat}
    (stepped : loops.step config (.accept index) = some next) : Standing config next := by
  obtain ⟨connection, found, made⟩ := Option.map_eq_some_iff.mp stepped
  have among := List.mem_of_getElem? found
  obtain ⟨inverse, carries⟩ := @TcpNat.lookupBack_keeps _ config.timeout loops.clock
    standing.inverse loops.clock connection.natPort
  obtain ⟨-, kept, -⟩ := standing.table inverse carries
  cases made
  refine ⟨inverse, kept, fun other at' outcome member inTime => ?_⟩
  obtain before | last := List.mem_append.mp member
  · exact standing.accepted other at' outcome before inTime
  · cases List.mem_singleton.mp last
    obtain ⟨entry, held, owned, -⟩ := standing.kept connection among inTime.1 inTime.2
    have known : (loops.nat.lookupBack loops.clock connection.natPort).1
        = some (connection.client, connection.server) := by
      rw [TcpNat.lookupBack, held]
      exact congrArg some owned
    rw [known, Connection.own]
    cases connection.listener <;> rfl

/-- **Every move keeps the invariant.** -/
theorem standing_step {move : LoopMove} (standing : Standing config loops)
    (stepped : (Loops.machine config).step loops move = some next) : Standing config next := by
  cases move with
  | packet raw =>
      change loops.step config (.packet raw) = some next at stepped
      unfold Loops.step at stepped
      dsimp only at stepped
      split at stepped
      · cases stepped
        exact standing.packet raw _
      · cases stepped
        exact standing
  | accept index => exact standing.accept stepped
  | gc =>
      cases stepped
      obtain ⟨inverse, carries⟩ := TcpNat.gc_keeps standing.inverse loops.clock
      exact standing.table inverse carries
  | interfaceChanged =>
      cases stepped
      refine ⟨⟨fun _ _ => iff_of_false nofun nofun, nofun⟩, fun connection among => ?_,
        standing.accepted⟩
      obtain ⟨before, -, rfl⟩ := List.mem_map.mp among
      exact nofun
  | elapse duration =>
      cases stepped
      refine ⟨standing.inverse, fun connection among undisturbed recent => ?_, standing.accepted⟩
      exact standing.kept connection among undisturbed
        (Nat.le_trans (Nat.add_le_add_right (Nat.le_add_right _ duration) _) recent)

end Moves

/-- **A connection that is accepted in time is accepted as what it is.** For every sequence of
packets (in either direction), accepts, collections, interface changes and pauses, with the
operations on the table one at a time: a connection that an accept loop takes within the session
timeout, less one second, of the packet that opened it, with no interface change in between, is sent
on with the destination of that packet, or, at the DNS listener, served in the name of its source.
-/
theorem accepted_own (config : LoopConfig) (clock : Nat) {moves : List LoopMove} {loops : Loops}
    (reached : (Loops.machine config).run (.fresh clock) moves = some loops) :
    ∀ connection at' made, (connection, at', made) ∈ loops.accepted →
      connection.InTime config.timeout at' → made = connection.own config :=
  (Machine.run_invariant standing_step (standing_fresh config clock) reached).accepted

/-- The system stack with the sample addresses and a timeout of 300 seconds. -/
def sampleLoopConfig : LoopConfig where
  config4 := sampleConfig
  config6 := ⟨none, none, [], 5001, none, none, false⟩
  inet4Broadcast := none
  tag := "tun"
  dnsTx := true
  timeout := 300 * second

/-- The connection that the sample SYN opens. -/
def sampleConnection : Connection where
  listener := .tcp
  natPort := 10000
  client := .v4 (Octets.ofNat 4 0x0A000005) 4000
  server := .v4 (Octets.ofNat 4 0x01010101) 443
  seen := 0
  interfaceChanged := false

theorem accepted_own_sample : ∃ loops made,
    (Loops.machine sampleLoopConfig).run (.fresh 0) [.packet sampleSyn, .accept 0] = some loops
      ∧ (sampleConnection, 0, made) ∈ loops.accepted
      ∧ made = .stream ⟨.socket (.v4 (Octets.ofNat 4 0x01010101) 443), "tun", none, none⟩ := by
  have ran : ((Loops.machine sampleLoopConfig).run (.fresh 0) [.packet sampleSyn, .accept 0]).map
      (fun loops => loops.accepted.map fun item => (item.1, item.2.1))
        = some [(sampleConnection, 0)] := by
    decide +kernel
  obtain ⟨loops, reached, accepted⟩ := Option.map_eq_some_iff.mp ran
  obtain ⟨⟨connection, at', made⟩, among, same⟩ :=
    List.mem_map.mp (accepted ▸ List.mem_singleton_self (sampleConnection, 0))
  cases same
  have inTime : sampleConnection.InTime sampleLoopConfig.timeout 0 := ⟨rfl, by decide⟩
  exact ⟨loops, made, reached, among,
    accepted_own sampleLoopConfig 0 reached sampleConnection 0 made among inTime⟩

end RsTun.SystemNat
