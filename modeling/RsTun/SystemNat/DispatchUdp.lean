/-
**UDP datagrams: answered by the resolver, or delivered.**

`dispatch_udp` hands a hijacked DNS query to `dns_tx` and awaits its answer, and delivers every
other datagram to `udp_tx`. Behind `dns_tx` is a resolver of the host, or the bridge task of a
`Handler`, which does nothing with what `new_dns_query` returns.

* `answered_iff` — when an answer reaches the TUN as a reply.
* **`dispatchUdp_accounts_iff`** — a datagram is answered or delivered, and delivered if the handler
  declines it, **exactly** when it is not hijacked and `udp_tx` is open, or is hijacked and answered
  with a reply that fits.
* `declined_query_lost` — a query that the handler declines is neither.
-/

import RsTun.Packet.Mtu
import RsTun.SystemNat.ReplyLengths

namespace RsTun.SystemNat

open Library Library.Bytes Packet

/-! ### The resolver -/

/-- `DnsQuerySource`. -/
inductive DnsQuerySource where
  | inbound
  | hijacked
  deriving DecidableEq

/-- `DnsQuery`, but for its reply sender. -/
structure DnsQuery where
  message : Bytes
  «from» : SocketAddr
  inboundTag : String
  source : DnsQuerySource
  deriving DecidableEq

/-- What becomes of the reply sender of a query. -/
inductive ReplySender where
  | answers (response : Bytes)
  | dropped
  | kept
  deriving DecidableEq

/-- A call of `new_dns_query`: what becomes of the reply sender, and what the call returns. -/
structure NewDnsQuery where
  replySender : ReplySender
  consumed : Bool

/-- The receiver of `dns_tx`. -/
inductive DnsTx where
  | closed
  | resolver (receive : DnsQuery → ReplySender)
  | handler (newDnsQuery : DnsQuery → NewDnsQuery)

/-- Sending a query; `none` when the channel is closed. -/
def DnsTx.send : DnsTx → DnsQuery → Option ReplySender
  | .closed, _ => none
  | .resolver receive, query => some (receive query)
  -- the bridge task looks at what `new_dns_query` returns and goes on
  | .handler newDnsQuery, query => some (newDnsQuery query).replySender

/-- The receiver declines the query: it drops the reply sender, or `new_dns_query` returns `false`.
-/
def DnsTx.Declines : DnsTx → DnsQuery → Prop
  | .closed, _ => False
  | .resolver receive, query => receive query = .dropped
  | .handler newDnsQuery, query =>
      (newDnsQuery query).replySender = .dropped ∨ (newDnsQuery query).consumed = false

/-! ### Sessions -/

/-- `UdpEntry`; `replyTx` is the number of the reply task. -/
structure UdpEntry where
  replyTx : Nat
  lastSeen : Nat
  deriving DecidableEq

/-- What a reply task has captured. -/
structure ReplyTask where
  src : SocketAddr
  headerTemplate : Bytes
  replyMtu : Nat
  deriving DecidableEq

/-- `udp_sessions`, and the reply tasks that were spawned. -/
structure UdpSessions where
  entries : SocketAddr × SocketAddr → Option UdpEntry
  tasks : List ReplyTask

/-- `InboundUdpPacket`; its session is the number of the reply task. -/
structure InboundUdpPacket where
  data : Bytes
  src : SocketAddr
  target : SocketAddr
  inboundTag : String
  session : Nat
  deriving DecidableEq

/-- The session of a datagram, entered if there is none, and when it was last seen. -/
def UdpSessions.enter (sessions : UdpSessions) (key : SocketAddr × SocketAddr)
    (ipUdpHeader : Bytes) (mtu now : Nat) : UdpSessions × Nat :=
  match sessions.entries key with
  | some entry =>
      ({ sessions with
          entries := Function.update sessions.entries key (some { entry with lastSeen := now }) },
        entry.replyTx)
  | none =>
      let replyTx := sessions.tasks.length
      ({ entries := Function.update sessions.entries key (some ⟨replyTx, now⟩)
         tasks := sessions.tasks ++ [⟨key.1, ipUdpHeader, mtu⟩] },
        replyTx)

/-! ### The dispatch -/

/-- The arguments of `dispatch_udp` that are the same for every datagram. -/
structure UdpContext where
  tag : String
  udpTxOpen : Bool
  mtu : Nat
  dnsTx : Option DnsTx
  dnsHijack : Bool

/-- What a call of `dispatch_udp` leaves: what it wrote to the TUN, what it sent to `udp_tx`, and
the sessions. -/
structure Dispatched where
  writes : List MtuWrite
  sent : List InboundUdpPacket
  sessions : UdpSessions

/-- A call of `dispatch_udp` awaits an answer, or has returned. -/
inductive DispatchState where
  | awaits
  | returned (dispatched : Dispatched)

/-- The ordinary path of `dispatch_udp`. -/
def deliverUdp (context : UdpContext) (sessions : UdpSessions) (src dst : SocketAddr) (data : Bytes)
    (ipUdpHeader : Bytes) (now : Nat) : Dispatched :=
  let (sessions, session) := sessions.enter (src, dst) ipUdpHeader context.mtu now
  let packet : InboundUdpPacket := ⟨data, src, dst, context.tag, session⟩
  { writes := [], sent := if context.udpTxOpen then [packet] else [], sessions }

/-- `matches!(addr, SocketAddr::V6(_))`. -/
def isV6 : SocketAddr → Bool
  | .v4 _ _ => false
  | .v6 _ _ _ _ => true

/-- The answer of a resolver. -/
def answerUdp (context : UdpContext) (sessions : UdpSessions) (src dst : SocketAddr) :
    ReplySender → Checked Empty DispatchState
  | .answers response => do
      match ← buildUdpReplyPacket dst src response with
      | some pkt => return .returned ⟨tunWriteMtu pkt context.mtu (isV6 dst), [], sessions⟩
      | none => return .returned ⟨[], [], sessions⟩
  | .dropped => return .returned ⟨[], [], sessions⟩
  | .kept => return .awaits

/-- The query that `dispatch_udp` sends. -/
def UdpContext.query (context : UdpContext) (src : SocketAddr) (data : Bytes) : DnsQuery :=
  ⟨data, src, context.tag, .hijacked⟩

/-- What becomes of the reply sender, if the datagram is hijacked and its query sent. -/
def UdpContext.hijack (context : UdpContext) (src dst : SocketAddr) (data : Bytes) :
    Option ReplySender :=
  if context.dnsHijack ∧ dst.port = 53 then
    context.dnsTx.bind fun tx => tx.send (context.query src data)
  else none

/-- `dispatch_udp`. -/
def dispatchUdp (context : UdpContext) (sessions : UdpSessions) (src dst : SocketAddr)
    (data : Bytes) (ipUdpHeader : Bytes) (now : Nat) : Checked Empty DispatchState :=
  match context.hijack src dst data with
  | some replySender => answerUdp context sessions src dst replySender
  | none => return .returned (deliverUdp context sessions src dst data ipUdpHeader now)

/-! ### Accounted for -/

/-- **A reply**: a packet with these bytes, from `source` to `destination`, that states its own
lengths. -/
def IsReply (pkt payload : Bytes) : SocketAddr → SocketAddr → Prop
  | .v4 ip port, .v4 ip' port' =>
      LengthsMatch pkt ∧ EmittedV4 pkt payload ip.bytes ip'.bytes port.toNat port'.toNat 20
  | .v6 ip port _ _, .v6 ip' port' _ _ =>
      LengthsMatch pkt ∧ EmittedV6 pkt payload ip.bytes ip'.bytes port.toNat port'.toNat
  | _, _ => False

/-- The length of a reply from this address. -/
def replyLength (payload : Bytes) : SocketAddr → Nat
  | .v4 _ _ => 28 + payload.length
  | .v6 _ _ _ _ => 48 + payload.length

section Accounts

variable (context : UdpContext) (sessions : UdpSessions) (src dst : SocketAddr)
  (data ipUdpHeader : Bytes) (now : Nat)

/-- The datagram is answered: the answer of the receiver of `dns_tx` is written to the TUN, as a
reply, and nothing else is done. -/
def Answered (done : Dispatched) : Prop :=
  ∃ response pkt, context.hijack src dst data = some (.answers response)
    ∧ IsReply pkt response dst src ∧ done.writes = [.whole pkt] ∧ done.sent = []

/-- The datagram is delivered to `udp_tx`, and nothing else is done. -/
def Delivered (done : Dispatched) : Prop :=
  done.writes = [] ∧ ∃ session, done.sent = [⟨data, src, dst, context.tag, session⟩]

/-- The datagram is hijacked, and the receiver of `dns_tx` declines it. -/
def Declined : Prop :=
  context.dnsHijack ∧ dst.port = 53
    ∧ ∃ tx, context.dnsTx = some tx ∧ tx.Declines (context.query src data)

/-- **The datagram is accounted for**: answered or delivered, and delivered if it is declined. -/
def Accounts : Prop :=
  ∃ done, dispatchUdp context sessions src dst data ipUdpHeader now = .ok (.returned done)
    ∧ (Answered context src dst data done ∨ Delivered context src dst data done)
    ∧ (Declined context src dst data → Delivered context src dst data done)

/-- The query of the datagram is not sent: it is not to be hijacked, or there is no `dns_tx`, or it
is closed. -/
def NotSent : Prop :=
  context.dnsHijack = false ∨ dst.port ≠ 53 ∨ context.dnsTx = none ∨ context.dnsTx = some .closed

/-- The answer fits a reply, and the reply fits the MTU. -/
def ResponseFits (response : Bytes) : Prop :=
  SameFamily dst src ∧ PlainFits response dst src
    ∧ (context.mtu = 0 ∨ replyLength response dst ≤ context.mtu)

/-- The query of the datagram is sent, not declined, and answered with bytes that fit. -/
def AnswerFits : Prop :=
  context.dnsHijack ∧ dst.port = 53 ∧ ∃ tx response, context.dnsTx = some tx
    ∧ tx.send (context.query src data) = some (.answers response)
    ∧ ¬ tx.Declines (context.query src data) ∧ ResponseFits context src dst response

end Accounts

section Hijack

variable {context : UdpContext} {sessions : UdpSessions} {src dst : SocketAddr}
  {data response ipUdpHeader pkt : Bytes} {now : Nat} {replySender : ReplySender}

/-- A query is not sent exactly when nothing becomes of a reply sender. -/
theorem hijack_eq_none_iff :
    context.hijack src dst data = none ↔ NotSent context dst := by
  unfold UdpContext.hijack NotSent
  cases hijacks : context.dnsHijack with
  | false => exact iff_of_true (if_neg fun both => Bool.false_ne_true both.1) (Or.inl rfl)
  | true =>
      by_cases dns : dst.port = 53
      · rw [if_pos ⟨rfl, dns⟩]
        cases context.dnsTx with
        | none => exact iff_of_true rfl (Or.inr (Or.inr (Or.inl rfl)))
        | some tx =>
            cases tx with
            | closed => exact iff_of_true rfl (Or.inr (Or.inr (Or.inr rfl)))
            | resolver receive => simp [dns, DnsTx.send]
            | handler newDnsQuery => simp [dns, DnsTx.send]
      · exact iff_of_true (if_neg fun both => dns both.2) (Or.inr (Or.inl dns))

/-- What becomes of the reply sender of a query that is sent. -/
theorem hijack_eq_some_iff : context.hijack src dst data = some replySender
    ↔ context.dnsHijack ∧ dst.port = 53 ∧ ∃ tx, context.dnsTx = some tx
      ∧ tx.send (context.query src data) = some replySender := by
  unfold UdpContext.hijack
  by_cases both : context.dnsHijack ∧ dst.port = 53
  · rw [if_pos both, Option.bind_eq_some_iff]
    exact ⟨fun sent => ⟨both.1, both.2, sent⟩, fun sent => sent.2.2⟩
  · rw [if_neg both]
    exact iff_of_false nofun fun sent => both ⟨sent.1, sent.2.1⟩

/-- A packet that is built is as long as a reply, and it is one if its lengths match. -/
theorem built_reply (built : buildUdpReplyPacket dst src response = .ok (some pkt)) :
    SameFamily dst src ∧ pkt.length = replyLength response dst
      ∧ (LengthsMatch pkt → IsReply pkt response dst src) := by
  cases dst <;> cases src
  case v4.v4 =>
      have emitted := buildUdpReplyV4_emitted built
      exact ⟨trivial, emitted.length, fun lengths => ⟨lengths, emitted⟩⟩
  case v6.v6 =>
      have emitted := buildUdpReplyV6_emitted built
      exact ⟨trivial, emitted.length, fun lengths => ⟨lengths, emitted⟩⟩
  case v4.v6 => cases built
  case v6.v4 => cases built

theorem IsReply.lengths (reply : IsReply pkt response dst src) : LengthsMatch pkt := by
  cases dst <;> cases src
  case v4.v4 => exact reply.1
  case v6.v6 => exact reply.1
  case v4.v6 => exact absurd reply id
  case v6.v4 => exact absurd reply id

/-- A packet is written whole exactly when it fits the MTU. -/
theorem tunWriteMtu_eq_whole_iff {written : Bytes} {mtu : Nat} {isIpv6 : Bool} :
    tunWriteMtu pkt mtu isIpv6 = [.whole written]
      ↔ (mtu = 0 ∨ pkt.length ≤ mtu) ∧ written = pkt := by
  by_cases fits : mtu = 0 ∨ pkt.length ≤ mtu
  · unfold tunWriteMtu
    rw [if_pos fits, and_iff_right fits]
    exact ⟨fun same => (MtuWrite.whole.inj (List.singleton_inj.mp same)).symm,
      fun same => by rw [same]⟩
  · refine iff_of_false (fun whole => ?_) fun both => fits both.1
    have among : MtuWrite.whole written ∈ tunWriteMtu pkt mtu isIpv6 := by
      rw [whole]
      exact List.mem_singleton_self _
    unfold tunWriteMtu at among
    rw [if_neg fits] at among
    split at among
    · split at among <;> obtain ⟨_, -, other⟩ := List.mem_map.mp among <;> cases other
    · obtain ⟨_, -, other⟩ := List.mem_map.mp among
      cases other

/-- **An answer reaches the TUN as a reply** exactly when it fits one, and the reply fits the MTU.
-/
theorem answered_iff :
    (∃ done pkt, answerUdp context sessions src dst (.answers response) = .ok (.returned done)
      ∧ IsReply pkt response dst src ∧ done.writes = [.whole pkt] ∧ done.sent = [])
        ↔ ResponseFits context src dst response := by
  constructor
  · rintro ⟨done, pkt, answered, reply, writes, -⟩
    obtain ⟨result, built, later⟩ := Checked.bind_eq_ok.mp answered
    cases result with
    | none =>
        cases later
        cases writes
    | some made =>
        cases later
        obtain ⟨fits, rfl⟩ := tunWriteMtu_eq_whole_iff.mp writes
        obtain ⟨family, length, -⟩ := built_reply built
        exact ⟨family, (lengthSafe_plain response dst src).mp (Or.inr ⟨pkt, built, reply.lengths⟩),
          length ▸ fits⟩
  · rintro ⟨family, fits, mtu⟩
    obtain nothing | ⟨pkt, built, lengths⟩ := (lengthSafe_plain response dst src).mpr fits
    · exact absurd nothing (plain_ne_none family)
    · obtain ⟨-, length, reply⟩ := built_reply built
      refine ⟨⟨tunWriteMtu pkt context.mtu (isV6 dst), [], sessions⟩, pkt, ?_, reply lengths,
        tunWriteMtu_eq_whole_iff.mpr ⟨length ▸ mtu, rfl⟩, rfl⟩
      unfold answerUdp
      dsimp only
      rw [built]
      rfl

/-- A datagram whose query is sent is never delivered. -/
theorem not_delivered_of_sent {done : Dispatched}
    (sent : context.hijack src dst data = some replySender)
    (returned : dispatchUdp context sessions src dst data ipUdpHeader now = .ok (.returned done)) :
    ¬ Delivered context src dst data done := by
  rintro ⟨-, session, delivered⟩
  unfold dispatchUdp at returned
  rw [sent] at returned
  cases replySender with
  | answers response =>
      obtain ⟨built, -, later⟩ := Checked.bind_eq_ok.mp returned
      cases built <;> cases later <;> cases delivered
  | dropped =>
      cases returned
      cases delivered
  | kept => cases returned

/-- A datagram whose query is not sent is accounted for exactly when `udp_tx` is open. -/
theorem accounts_of_not_sent (notSent : NotSent context dst) :
    Accounts context sessions src dst data ipUdpHeader now ↔ context.udpTxOpen := by
  have none := (@hijack_eq_none_iff context src dst data).mpr notSent
  have returned : dispatchUdp context sessions src dst data ipUdpHeader now
      = .ok (.returned (deliverUdp context sessions src dst data ipUdpHeader now)) := by
    unfold dispatchUdp
    rw [none]
    rfl
  constructor
  · rintro ⟨done, same, answered | delivered, -⟩
    · obtain ⟨response, pkt, sent, -⟩ := answered
      rw [none] at sent
      cases sent
    · obtain ⟨-, session, sent⟩ := delivered
      rw [returned] at same
      cases same
      dsimp only [deliverUdp] at sent
      by_contra closed
      rw [if_neg closed] at sent
      cases sent
  · intro udpTx
    have delivered : Delivered context src dst data
        (deliverUdp context sessions src dst data ipUdpHeader now) :=
      ⟨rfl, _, if_pos udpTx⟩
    exact ⟨_, returned, Or.inr delivered, fun _ => delivered⟩

/-- A datagram whose query is sent is accounted for exactly when it is answered, and the query is
not declined. -/
theorem accounts_of_sent (sent : context.hijack src dst data = some replySender) :
    Accounts context sessions src dst data ipUdpHeader now
      ↔ ¬ Declined context src dst data
        ∧ ∃ response, replySender = .answers response ∧ ResponseFits context src dst response := by
  have dispatched : dispatchUdp context sessions src dst data ipUdpHeader now
      = answerUdp context sessions src dst replySender := by
    unfold dispatchUdp
    rw [sent]
  constructor
  · rintro ⟨done, returned, answered | delivered, declined⟩
    · obtain ⟨response, pkt, same, reply, writes, nothing⟩ := answered
      obtain rfl := Option.some.inj (sent.symm.trans same)
      exact ⟨fun declines => not_delivered_of_sent sent returned (declined declines), response, rfl,
        answered_iff.mp ⟨done, pkt, dispatched.symm.trans returned, reply, writes, nothing⟩⟩
    · exact absurd delivered (not_delivered_of_sent sent returned)
  · rintro ⟨kept, response, rfl, fits⟩
    obtain ⟨done, pkt, returned, reply, writes, nothing⟩ := answered_iff.mpr fits
    exact ⟨done, dispatched.trans returned, Or.inl ⟨response, pkt, sent, reply, writes, nothing⟩,
      fun declines => absurd declines kept⟩

end Hijack

/-- **When a datagram is accounted for.** For every datagram, sessions, configuration and receiver
of `dns_tx`: it is answered or delivered, and delivered if it is declined, exactly when its query is
not sent and `udp_tx` is open, or its query is sent, not declined, and answered with bytes that fit.
-/
theorem dispatchUdp_accounts_iff (context : UdpContext) (sessions : UdpSessions)
    (src dst : SocketAddr) (data ipUdpHeader : Bytes) (now : Nat) :
    Accounts context sessions src dst data ipUdpHeader now
      ↔ (NotSent context dst ∧ context.udpTxOpen) ∨ AnswerFits context src dst data := by
  cases hijacked : context.hijack src dst data with
  | none =>
      have notSent := hijack_eq_none_iff.mp hijacked
      rw [accounts_of_not_sent notSent]
      constructor
      · exact fun udpTx => Or.inl ⟨notSent, udpTx⟩
      · rintro (⟨-, udpTx⟩ | ⟨hijacks, dns, tx, response, attached, sent, -⟩)
        · exact udpTx
        · have some := hijack_eq_some_iff.mpr ⟨hijacks, dns, tx, attached, sent⟩
          rw [hijacked] at some
          cases some
  | some replySender =>
      rw [accounts_of_sent hijacked]
      obtain ⟨hijacks, dns, tx, attached, sent⟩ := hijack_eq_some_iff.mp hijacked
      constructor
      · rintro ⟨kept, response, rfl, fits⟩
        exact Or.inr ⟨hijacks, dns, tx, response, attached, sent,
          fun declines => kept ⟨hijacks, dns, tx, attached, declines⟩, fits⟩
      · rintro (⟨notSent, -⟩ | ⟨-, -, tx', response, attached', sent', kept, fits⟩)
        · rw [hijack_eq_none_iff.mpr notSent] at hijacked
          cases hijacked
        · obtain rfl := Option.some.inj (attached.symm.trans attached')
          refine ⟨fun declined => ?_, response, Option.some.inj (sent.symm.trans sent'), fits⟩
          obtain ⟨-, -, other, same, declines⟩ := declined
          obtain rfl := Option.some.inj (attached.symm.trans same)
          exact kept declines

/-- A handler with the default `new_dns_query`, which drops the query and returns `false`. -/
def decliningContext : UdpContext :=
  { tag := "tun", udpTxOpen := true, mtu := 1500
    dnsTx := some (.handler fun _ => ⟨.dropped, false⟩), dnsHijack := true }

/-- **A declined query is lost**: it is neither answered nor delivered. -/
theorem declined_query_lost : Declined decliningContext sampleReply.2 sampleReply.1 []
    ∧ ∃ done, dispatchUdp decliningContext ⟨fun _ => none, []⟩ sampleReply.2 sampleReply.1 [] [] 0
        = .ok (.returned done) ∧ done.writes = [] ∧ done.sent = []
      ∧ ¬ Accounts decliningContext ⟨fun _ => none, []⟩ sampleReply.2 sampleReply.1 [] [] 0 := by
  refine ⟨⟨rfl, rfl, _, rfl, Or.inr rfl⟩, _, rfl, rfl, rfl, ?_⟩
  rintro ⟨done, returned, ⟨response, pkt, sent, -⟩ | ⟨-, session, delivered⟩, -⟩
  · cases sent
  · cases returned
    cases delivered

end RsTun.SystemNat
