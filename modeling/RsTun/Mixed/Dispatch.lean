/-
**The dispatch of `run_mixed` against that of the system stack.**

`run_mixed` has a dispatcher of its own: TCP goes to the handlers that `process_ipv4` and
`process_ipv6` call, UDP to the sink of the gvisor stack.

* `mixedTurn_eq` — a turn of the read loop offers a frame to the sink exactly when it is dispatched
  there.
* `tcp_dispatch_agrees_iff` — without local subnets, both stacks make the same TCP call for a packet
  **exactly** when it is not an IPv4 TCP packet that is a fragment or is sent to the broadcast
  address: over IPv4 `run_mixed` has no filter for either.
* `fragment_forwarded` — a fragment from the middle of a segment is read as a TCP header, gets a NAT
  port, and is rewritten.
-/

import RsTun.Netstack.ReadLoop
import RsTun.SystemNat.Dispatch

namespace RsTun.Mixed

open Library Library.Bytes Packet SystemNat Netstack

/-- What the read loop of `run_mixed` does with a frame. -/
inductive MixedCall where
  | skipped
  | tcp (call : TcpCall)
  /-- `stack_sink.send` -/
  | sink
  | icmpv4 (ihl : Nat) (src dst : Ipv4Addr)
  | icmpv6 (src dst : Ipv6Addr)
  deriving DecidableEq

/-- The read loop of `run_mixed`, up to its call for a frame. -/
def mixedDispatch (config : ReadLoopConfig) (raw : Bytes) : MixedCall :=
  if raw = [] then .skipped
  else if config.filters raw then .skipped
  else if byteAt raw 0 >>> 4 = 4 then
    let ihl := headerLength raw
    if raw.length < ihl ∨ ihl < 20 then .skipped
    else
      let srcIp : Ipv4Addr := Octets.ofSlice 4 raw 12
      let dstIp : Ipv4Addr := Octets.ofSlice 4 raw 16
      let payload := raw.drop ihl
      if byteAt raw 9 = ipprotoTcp then .tcp (.v4 payload srcIp dstIp)
      else if byteAt raw 9 = ipprotoUdp then .sink
      else if byteAt raw 9 = ipprotoIcmp then .icmpv4 ihl srcIp dstIp
      else .skipped
  else if byteAt raw 0 >>> 4 = 6 then
    if raw.length < 40 then .skipped
    else
      let srcIp : Ipv6Addr := Octets.ofSlice 16 raw 8
      let dstIp : Ipv6Addr := Octets.ofSlice 16 raw 24
      let walk := skipIpv6ExtensionHeaders (byteAt raw 6) (raw.drop 40)
      if walk.isFragment ∨ walk.transportPresent = false then .skipped
      else if walk.protocol = ipprotoTcp then .tcp (.v6 walk.payload srcIp dstIp)
      else if walk.protocol = ipprotoUdp then
        if isGlobalUnicastV6 dstIp = false then .skipped else .sink
      else if walk.protocol = ipprotoIcmpv6 ∧ walk.payload.length = raw.length - 40 then
        .icmpv6 srcIp dstIp
      else .skipped
  else .skipped

/-- The call of a TCP handler. -/
def MixedCall.tcpCall : MixedCall → Option TcpCall
  | .tcp call => some call
  | _ => none

/-- The call of a TCP handler that `run_mixed` makes. -/
def mixedTcp (config : ReadLoopConfig) (raw : Bytes) : Option TcpCall :=
  (mixedDispatch config raw).tcpCall

/-- **A turn of the read loop** offers the frame to the sink exactly when it is dispatched there. -/
theorem mixedTurn_eq (smoltcp : Smoltcp) (config : ReadLoopConfig) (sink : StackSplitSink)
    (raw : Bytes) : mixedTurn smoltcp config sink (.packet raw)
      = if mixedDispatch config raw = .sink then offer smoltcp sink raw else .next sink := by
  unfold mixedTurn mixedDispatch
  dsimp only
  by_cases nothing : raw = []
  · rw [if_pos nothing, if_pos nothing, if_neg nofun]
  · rw [if_neg nothing, if_neg nothing]
    cases config.filters raw with
    | true => rfl
    | false =>
        rw [if_neg Bool.false_ne_true, if_neg Bool.false_ne_true]
        by_cases four : byteAt raw 0 >>> 4 = 4
        · rw [if_pos four, if_pos four]
          by_cases broken : raw.length < headerLength raw ∨ headerLength raw < 20
          · rw [if_pos broken, if_pos broken, if_neg nofun]
          · rw [if_neg broken, if_neg broken]
            by_cases udp : byteAt raw 9 = ipprotoUdp
            · have other : ¬ byteAt raw 9 = ipprotoTcp := by
                rw [udp]
                decide
              rw [if_pos udp, if_neg other, if_pos udp, if_pos rfl]
            · rw [if_neg udp, if_neg udp]
              repeat' split
              all_goals first | rfl | contradiction
        · rw [if_neg four, if_neg four]
          by_cases six : byteAt raw 0 >>> 4 = 6
          · rw [if_pos six, if_pos six]
            by_cases short : raw.length < 40
            · rw [if_pos short, if_pos short, if_neg nofun]
            · rw [if_neg short, if_neg short]
              generalize skipIpv6ExtensionHeaders (byteAt raw 6) (raw.drop 40) = walk
              by_cases rejected : walk.isFragment = true ∨ walk.transportPresent = false
              · rw [if_pos rejected, if_pos rejected, if_neg nofun]
              · rw [if_neg rejected, if_neg rejected]
                by_cases udp : walk.protocol = ipprotoUdp
                · have other : ¬ walk.protocol = ipprotoTcp := by
                    rw [udp]
                    decide
                  rw [if_pos udp, if_neg other, if_pos udp]
                  cases isGlobalUnicastV6 (.ofSlice 16 raw 24) with
                  | true => rfl
                  | false => rfl
                · rw [if_neg udp, if_neg udp]
                  repeat' split
                  all_goals first | rfl | contradiction
          · rw [if_neg six, if_neg six, if_neg nofun]

/-- A configuration without local subnets filters nothing. -/
theorem filters_empty (icmpForwarder : Bool) (raw : Bytes) :
    ReadLoopConfig.filters ⟨[], [], icmpForwarder⟩ raw = false := rfl

/-! ### Both dispatchers -/

/-- A packet of a datagram that was cut. -/
def IpFragment (raw : Bytes) : Prop :=
  byteAt raw 0 >>> 4 = 4 ∧ FragmentBits raw
    ∨ byteAt raw 0 >>> 4 = 6 ∧ FragmentBehind (byteAt raw 6) (raw.drop 40)

/-- **What the stacks owe each other**: the same TCP call for a packet, and none for a fragment,
which so changes no NAT table and is not rewritten. -/
structure TcpAgreement (icmpForwarder : Bool) (inet4Broadcast : Option Ipv4Addr) (raw : Bytes) :
    Prop where
  same : mixedTcp ⟨[], [], icmpForwarder⟩ raw = systemTcp inet4Broadcast raw
  fragment : IpFragment raw →
    mixedTcp ⟨[], [], icmpForwarder⟩ raw = none ∧ systemTcp inet4Broadcast raw = none
  untouched : IpFragment raw → ∀ config4 config6 nat now,
    tcpEffect config4 config6 nat now raw (mixedTcp ⟨[], [], icmpForwarder⟩ raw) = (nat, [])
      ∧ tcpEffect config4 config6 nat now raw (systemTcp inet4Broadcast raw) = (nat, [])

/-- An IPv4 TCP packet that `process_ipv4` drops as a fragment or a broadcast. -/
def DroppedIpv4Tcp (inet4Broadcast : Option Ipv4Addr) (raw : Bytes) : Prop :=
  byteAt raw 0 >>> 4 = 4 ∧ WholeIpv4Header raw ∧ byteAt raw 9 = ipprotoTcp
    ∧ (FragmentBits raw ∨ some (Octets.ofSlice 4 raw 16) = inet4Broadcast)

/-- **The TCP call of `run_mixed`.** -/
theorem mixedTcp_eq (icmpForwarder : Bool) (raw : Bytes) : mixedTcp ⟨[], [], icmpForwarder⟩ raw
    = if byteAt raw 0 >>> 4 = 4 then
        if WholeIpv4Header raw ∧ byteAt raw 9 = ipprotoTcp
        then some (.v4 (raw.drop (headerLength raw)) (Octets.ofSlice 4 raw 12)
          (Octets.ofSlice 4 raw 16))
        else none
      else if byteAt raw 0 >>> 4 = 6 then (dispatchIpv6 raw).tcpCall
      else none := by
  unfold mixedTcp mixedDispatch
  dsimp only
  by_cases nothing : raw = []
  · subst nothing
    rfl
  · rw [if_neg nothing, filters_empty, if_neg Bool.false_ne_true]
    by_cases four : byteAt raw 0 >>> 4 = 4
    · rw [if_pos four, if_pos four]
      by_cases broken : raw.length < headerLength raw ∨ headerLength raw < 20
      · rw [if_pos broken, if_neg]
        · rfl
        · rintro ⟨⟨header, fits⟩, -⟩
          omega
      · rw [if_neg broken]
        have whole : WholeIpv4Header raw := by
          unfold WholeIpv4Header
          omega
        by_cases tcp : byteAt raw 9 = ipprotoTcp
        · rw [if_pos tcp, if_pos ⟨whole, tcp⟩]
          rfl
        · have other : ¬ (WholeIpv4Header raw ∧ byteAt raw 9 = ipprotoTcp) :=
            fun passes => tcp passes.2
          rw [if_neg tcp, if_neg other]
          repeat' split
          all_goals rfl
    · rw [if_neg four, if_neg four]
      by_cases six : byteAt raw 0 >>> 4 = 6
      · rw [if_pos six, if_pos six]
        unfold dispatchIpv6
        dsimp only
        -- the two chains of conditions differ behind the TCP branch only
        by_cases short : raw.length < 40
        · rw [if_pos short, if_pos short]
          rfl
        · rw [if_neg short, if_neg short]
          generalize skipIpv6ExtensionHeaders (byteAt raw 6) (raw.drop 40) = walk
          by_cases rejected : walk.isFragment = true ∨ walk.transportPresent = false
          · rw [if_pos rejected, if_pos rejected]
            rfl
          · rw [if_neg rejected, if_neg rejected]
            by_cases tcp : walk.protocol = ipprotoTcp
            · rw [if_pos tcp, if_pos tcp]
              rfl
            · rw [if_neg tcp, if_neg tcp]
              repeat' split
              all_goals rfl
      · rw [if_neg six, if_neg six]
        rfl

/-- **No fragment reaches a TCP handler of the system stack.** -/
theorem systemTcp_fragment (inet4Broadcast : Option Ipv4Addr) {raw : Bytes}
    (fragment : IpFragment raw) : systemTcp inet4Broadcast raw = none := by
  unfold systemTcp
  obtain ⟨four, bits⟩ | ⟨six, behind⟩ := fragment
  · rw [if_pos four, dispatchIpv4_fragment inet4Broadcast bits]
  · rw [dispatchIpv6_fragment behind, if_pos six, if_neg]
    rw [six]
    decide

/-- **The two stacks make the same TCP call** for a packet, and none for a fragment, exactly when it
is not an IPv4 TCP packet that is a fragment or a broadcast. -/
theorem tcp_dispatch_agrees_iff (icmpForwarder : Bool) (inet4Broadcast : Option Ipv4Addr)
    (raw : Bytes) : TcpAgreement icmpForwarder inet4Broadcast raw
      ↔ ¬ DroppedIpv4Tcp inet4Broadcast raw := by
  constructor
  · rintro agreement ⟨four, whole, tcp, dropped⟩
    have same := agreement.same
    have other : ¬ (WholeIpv4Header raw ∧ byteAt raw 9 = ipprotoTcp ∧ ¬ FragmentBits raw
        ∧ some (Octets.ofSlice 4 raw 16) ≠ inet4Broadcast) :=
      fun passes => dropped.elim passes.2.2.1 passes.2.2.2
    rw [mixedTcp_eq, systemTcp, if_pos four, if_pos four, if_pos ⟨whole, tcp⟩,
      dispatchIpv4_tcpCall, if_neg other] at same
    cases same
  · intro kept
    have same : mixedTcp ⟨[], [], icmpForwarder⟩ raw = systemTcp inet4Broadcast raw := by
      rw [mixedTcp_eq, systemTcp]
      by_cases four : byteAt raw 0 >>> 4 = 4
      · rw [if_pos four, if_pos four, dispatchIpv4_tcpCall]
        by_cases tcp : WholeIpv4Header raw ∧ byteAt raw 9 = ipprotoTcp
        · obtain ⟨unfragmented, unicast⟩ :=
            not_or.mp fun dropped => kept ⟨four, tcp.1, tcp.2, dropped⟩
          rw [if_pos tcp, if_pos ⟨tcp.1, tcp.2, unfragmented, unicast⟩]
        · rw [if_neg tcp, if_neg fun passes => tcp ⟨passes.1, passes.2.1⟩]
      · rw [if_neg four, if_neg four]
    have neither : IpFragment raw →
        mixedTcp ⟨[], [], icmpForwarder⟩ raw = none ∧ systemTcp inet4Broadcast raw = none := by
      intro fragment
      have system := systemTcp_fragment inet4Broadcast fragment
      exact ⟨same.trans system, system⟩
    refine ⟨same, neither, fun fragment config4 config6 nat now => ?_⟩
    rw [(neither fragment).1, (neither fragment).2]
    exact ⟨rfl, rfl⟩

/-- A fragment from the middle of a TCP segment, from 10.0.0.2 to 93.184.216.34. -/
def sampleFragment : Bytes :=
  [0x45, 0, 0, 40, 0, 7, 0, 0xB9, 64, 6, 0, 0, 10, 0, 0, 2, 93, 184, 216, 34,
    1, 2, 3, 4, 5, 6, 7, 8, 9, 10, 11, 12, 13, 14, 15, 16, 17, 18, 19, 20]

/-- **The mixed stack reads the data of a fragment as a TCP header**: the first four bytes become
the ports of a session, and the packet is rewritten and sent to the listener. -/
theorem fragment_forwarded :
    IpFragment sampleFragment
      ∧ systemTcp none sampleFragment = none
      ∧ ∃ call, mixedTcp ⟨[], [], true⟩ sampleFragment = some call
        ∧ (∃ natPort, (call.run sampleConfig ⟨none, none, [], 0, none, none, false⟩ TcpNat.new 0
          sampleFragment).verdict = .forwarded natPort)
        ∧ (call.run sampleConfig ⟨none, none, [], 0, none, none, false⟩ TcpNat.new 0
          sampleFragment).writes.length = 1
        ∧ ¬ TcpAgreement true none sampleFragment := by
  have disagree : ¬ mixedTcp ⟨[], [], true⟩ sampleFragment = systemTcp none sampleFragment := by
    decide +kernel
  refine ⟨Or.inl ⟨by decide, by decide⟩, by decide +kernel, .v4 (sampleFragment.drop 20)
    (Octets.ofSlice 4 sampleFragment 12) (Octets.ofSlice 4 sampleFragment 16), by decide +kernel,
    ⟨10000, by decide +kernel⟩, by decide +kernel, fun agreement => disagree agreement.same⟩

end RsTun.Mixed
