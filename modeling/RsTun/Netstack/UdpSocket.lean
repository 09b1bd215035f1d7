/-
**The UDP socket of the stack, and the two dispatch loops that read it.**

`SplitRead.recv` returns `None` both at the end of the channel and for a frame that it cannot parse,
and the `udp_dispatch` loops of the gvisor and mixed stacks take every `None` for the end.

* `recv_cases` — what a call of `recv` can return.
* `datagrams_eq` — in every run the frames are parsed in order, one result each.
* `turn_cases` — a turn of a loop is a call of `recv` and the handling of its result.
-/

import RsTun.Library.Channel
import RsTun.Library.Machine
import RsTun.Netstack.Packet

namespace RsTun.Netstack

open Library Library.Bytes

/-- `SocketAddr::new`. -/
def socketAddr : IpAddr → UInt16 → SocketAddr
  | .v4 ip, port => .v4 ip port
  | .v6 ip, port => .v6 ip port 0 0

/-- `UdpPacket`. -/
structure UdpPacket where
  data : Bytes
  localAddr : SocketAddr
  remoteAddr : SocketAddr
  deriving DecidableEq

namespace SplitRead

/-- What `SplitRead::recv` makes of a received packet. -/
def parse (smoltcp : Smoltcp) (data : Bytes) : Option UdpPacket :=
  match IpPacket.newChecked smoltcp data with
  | none => none
  | some packet =>
      match smoltcp.udpNewChecked packet.payload with
      | none => none
      | some udp => some {
          data := udp.payload
          localAddr := socketAddr packet.srcAddr udp.srcPort
          remoteAddr := socketAddr packet.dstAddr udp.dstPort }

/-- `SplitRead::recv`, not enabled while it waits. -/
def recv (smoltcp : Smoltcp) (channel : Channel Bytes) :
    Option (Option UdpPacket × Channel Bytes) :=
  channel.receive.map fun received => (received.1.bind (parse smoltcp), received.2)

/-- **A call of `recv`** parses the first frame, or ends on a drained channel. -/
theorem recv_cases {smoltcp : Smoltcp} {channel next : Channel Bytes} {result : Option UdpPacket}
    (done : recv smoltcp channel = some (result, next)) :
    (∃ frame rest, channel.waiting = frame :: rest ∧ result = parse smoltcp frame ∧
      next = { channel with received := channel.received ++ [frame], waiting := rest }) ∨
    (channel.Drained ∧ result = none ∧ next = channel) := by
  obtain ⟨⟨item, moved⟩, received, same⟩ := Option.map_eq_some_iff.mp done
  cases same
  obtain ⟨frame, rest, waits, rfl, same⟩ | ⟨drained, rfl, same⟩ := Channel.receive_cases received
  · exact .inl ⟨frame, rest, waits, rfl, same⟩
  · exact .inr ⟨drained, rfl, same⟩

end SplitRead

/-! ### The reader -/

/-- The channel, and what the calls of `recv` have returned. -/
structure ReaderRun where
  channel : Channel Bytes
  results : List (Option UdpPacket)
  deriving DecidableEq

/-- A frame is placed on the channel, the sender is dropped, or `recv` returns. -/
inductive ReaderAction where
  | place (frame : Bytes)
  | close
  | recv
  deriving DecidableEq

/-- The reader and its sender. -/
def readerMachine (smoltcp : Smoltcp) : Machine ReaderRun ReaderAction where
  step run
    | .place frame =>
        if run.channel.senderAlive then
          some { run with
            channel := { run.channel with waiting := run.channel.waiting ++ [frame] } }
        else none
    | .close => some { run with channel := { run.channel with senderAlive := false } }
    | .recv => (SplitRead.recv smoltcp run.channel).map fun returned =>
        ⟨returned.2, run.results ++ [returned.1]⟩

namespace ReaderRun

/-- Nothing was placed. -/
def start : ReaderRun := ⟨.empty, []⟩

/-- The datagrams that `recv` has returned. -/
def datagrams (run : ReaderRun) : List UdpPacket := run.results.filterMap id

/-- A step parses at most the first frame. -/
theorem datagrams_step {smoltcp : Smoltcp} {run next : ReaderRun} {action : ReaderAction}
    (parsed : run.datagrams = run.channel.received.filterMap (SplitRead.parse smoltcp))
    (moved : (readerMachine smoltcp).step run action = some next) :
    next.datagrams = next.channel.received.filterMap (SplitRead.parse smoltcp) := by
  cases action with
  | place frame =>
      obtain ⟨-, same⟩ := Option.ite_none_right_eq_some.mp moved
      cases same
      exact parsed
  | close =>
      cases moved
      exact parsed
  | recv =>
      obtain ⟨⟨result, channel⟩, done, rfl⟩ := Option.map_eq_some_iff.mp moved
      unfold datagrams at parsed ⊢
      obtain ⟨frame, rest, -, rfl, rfl⟩ | ⟨-, rfl, rfl⟩ := SplitRead.recv_cases done
      · rw [List.filterMap_append, List.filterMap_append, parsed]
        rfl
      · rw [List.filterMap_append, parsed]
        exact List.append_nil _

/-- **In every run the received frames have been parsed in order**, whatever they are. -/
theorem datagrams_eq {smoltcp : Smoltcp} {actions : List ReaderAction} {final : ReaderRun}
    (reached : (readerMachine smoltcp).run start actions = some final) :
    final.datagrams = final.channel.received.filterMap (SplitRead.parse smoltcp) :=
  @Machine.run_invariant _ _ (readerMachine smoltcp)
    (fun run => run.datagrams = run.channel.received.filterMap (SplitRead.parse smoltcp))
    (fun parsed moved => datagrams_step parsed moved) _ _ _ rfl reached

end ReaderRun

/-! ### The dispatch loops -/

/-- What the loops are started with. -/
structure DispatchConfig where
  dnsHijack : Bool
  /-- `dns_tx` is `Some` -/
  dnsTx : Bool

/-- What the receivers of the other channels do in one turn. -/
structure DispatchEnv where
  /-- `dns_tx` takes the query -/
  dnsOpen : Bool
  /-- `udp_tx` takes the packet -/
  udpOpen : Bool
  deriving DecidableEq

/-- Where a datagram went. -/
inductive Delivery where
  /-- to `dns_tx` -/
  | query (packet : UdpPacket)
  /-- to `udp_tx`, with the session of its addresses -/
  | inbound (packet : UdpPacket)
  deriving DecidableEq

/-- The datagram of a delivery. -/
def Delivery.packet : Delivery → UdpPacket
  | .query packet => packet
  | .inbound packet => packet

/-- Whether a loop runs, or why it ended. -/
inductive DispatchStatus where
  | running
  /-- `recv` returned `None` -/
  | socketClosed
  /-- `udp_tx` is closed -/
  | udpTxClosed
  deriving DecidableEq

/-- A loop and its reader. -/
structure DispatchRun where
  reader : ReaderRun
  status : DispatchStatus
  deliveries : List Delivery
  deriving DecidableEq

/-- The events of a loop: those of the channel, and a turn. -/
inductive DispatchAction where
  | place (frame : Bytes)
  | close
  | turn (env : DispatchEnv)
  deriving DecidableEq

/-- The body of `while let Some(pkt) = udp_read.recv().await`, and its exit. -/
def DispatchRun.handle (config : DispatchConfig) (env : DispatchEnv) (run : DispatchRun) :
    Option UdpPacket → DispatchRun
  | none => { run with status := .socketClosed }
  | some pkt =>
      if config.dnsHijack && pkt.remoteAddr.port == 53 && config.dnsTx && env.dnsOpen then
        { run with deliveries := run.deliveries ++ [.query pkt] }
      else if env.udpOpen then { run with deliveries := run.deliveries ++ [.inbound pkt] }
      else { run with status := .udpTxClosed }

/-- The `udp_dispatch` loop of `run_gvisor` and of `run_mixed`. -/
def dispatchMachine (smoltcp : Smoltcp) (config : DispatchConfig) :
    Machine DispatchRun DispatchAction where
  step run
    | .place frame =>
        ((readerMachine smoltcp).step run.reader (.place frame)).map fun reader =>
          { run with reader }
    | .close =>
        ((readerMachine smoltcp).step run.reader .close).map fun reader => { run with reader }
    | .turn env =>
        if run.status = .running then
          (SplitRead.recv smoltcp run.reader.channel).map fun returned =>
            DispatchRun.handle config env
              { run with reader := ⟨returned.2, run.reader.results ++ [returned.1]⟩ } returned.1
        else none

namespace DispatchRun

/-- A loop at its first turn. -/
def start : DispatchRun := ⟨.start, .running, []⟩

@[simp] theorem handle_reader (config : DispatchConfig) (env : DispatchEnv) (run : DispatchRun)
    (result : Option UdpPacket) : (run.handle config env result).reader = run.reader := by
  unfold handle
  split
  · rfl
  · split
    · rfl
    · split
      · rfl
      · rfl

/-- A turn on a datagram delivers it, or ends the loop because `udp_tx` is closed. -/
theorem handle_some (config : DispatchConfig) (env : DispatchEnv) (run : DispatchRun)
    (pkt : UdpPacket) :
    (∃ delivery : Delivery, delivery.packet = pkt ∧ run.handle config env (some pkt)
      = { run with deliveries := run.deliveries ++ [delivery] }) ∨
    run.handle config env (some pkt) = { run with status := .udpTxClosed } := by
  unfold handle
  dsimp only
  split
  · exact .inl ⟨.query pkt, rfl, rfl⟩
  · split
    · exact .inl ⟨.inbound pkt, rfl, rfl⟩
    · exact .inr rfl

/-- A turn is a call of `recv` and the handling of its result. -/
theorem turn_cases {smoltcp : Smoltcp} {config : DispatchConfig} {run next : DispatchRun}
    {env : DispatchEnv}
    (moved : (dispatchMachine smoltcp config).step run (.turn env) = some next) :
    run.status = .running ∧ ∃ reader result,
      (readerMachine smoltcp).step run.reader .recv = some reader
        ∧ reader.results = run.reader.results ++ [result]
        ∧ next = handle config env { run with reader } result := by
  obtain ⟨running, called⟩ := Option.ite_none_right_eq_some.mp moved
  obtain ⟨⟨result, channel⟩, done, rfl⟩ := Option.map_eq_some_iff.mp called
  refine ⟨running, ⟨channel, run.reader.results ++ [result]⟩, result, ?_, rfl, rfl⟩
  rw [readerMachine]
  simp only [done, Option.map_some]

end DispatchRun

end RsTun.Netstack
