/-
**The ICMP forwarder: what it hands to the client.**

`strip_raw_ip_header` takes the IP header off what a raw socket received; `build_echo_reply_packet`
puts the header of the client's request, turned round, before what is left, and overwrites its type
and code.

* `buildEchoReplyV4_spec`, `buildEchoReplyV6_spec` — what is written carries all of the message but
  its type, code and checksum.
* `buildEchoReplyPacket_written_iff` — whether anything is written does not depend on the type.
-/

import RsTun.Library.Checked
import RsTun.Net.Addr
import RsTun.Packet.Mtu

namespace RsTun.Icmp

open Library Library.Bytes Packet

/-- `ICMPV4_ECHO_REQUEST`. -/
def icmpv4EchoRequest : UInt8 := 8

/-- `ICMPV4_ECHO_REPLY`. -/
def icmpv4EchoReply : UInt8 := 0

/-- `ICMPV6_ECHO_REQUEST`. -/
def icmpv6EchoRequest : UInt8 := 128

/-- `ICMPV6_ECHO_REPLY`. -/
def icmpv6EchoReply : UInt8 := 129

/-- `FlowKey`. -/
structure FlowKey where
  src : IpAddr
  dst : IpAddr
  icmpId : UInt16
  deriving DecidableEq

/-- `recompute_icmpv6_checksum`. -/
def recomputeIcmpv6Checksum (pkt : Bytes) : Bytes :=
  if pkt.length < 40 + 8 then pkt
  else
    let cleared := overwrite pkt 42 [0, 0]
    overwrite cleared 42 (encode 2
      (checksumWithPseudoV6 (slice pkt 8 16) (slice pkt 24 16) ipprotoIcmpv6 (cleared.drop 40)))

/-- `strip_raw_ip_header`. -/
def stripRawIpHeader (data : Bytes) : Option Bytes :=
  if data = [] then none
  else if byteAt data 0 >>> 4 = 4 then
    if data.length < 20 then none
    else if headerLength data < 20 ∨ data.length < headerLength data + 8 then none
    else some (data.drop (headerLength data))
  else if byteAt data 0 >>> 4 = 6 then
    if data.length < 48 then none else some (data.drop 40)
  else none

/-- `build_echo_reply_v4`. -/
def buildEchoReplyV4 (template : Bytes) (key : FlowKey) (replyPayload : Bytes) :
    Checked Empty (Option Bytes) :=
  let ihl := headerLength template
  if template.length < 20 ∨ replyPayload = [] then .ok none
  else if ihl < 20 ∨ template.length < ihl then .ok none
  else
    match key.dst, key.src with
    | .v4 dst, .v4 src => do
      let totalLen := ihl + replyPayload.length
      let pkt ← Checked.copyFromSlice (List.replicate totalLen 0) 0 ihl (template.take ihl)
      let pkt ← Checked.copyFromSlice pkt 12 16 dst.bytes
      let pkt ← Checked.copyFromSlice pkt 16 20 src.bytes
      let pkt ← Checked.copyFromSlice pkt 2 4 (encode 2 totalLen)
      let pkt ← Checked.copyFromSlice pkt ihl totalLen replyPayload
      -- the four assignments to `pkt[ihl]` .. `pkt[ihl + 3]`
      let pkt ← Checked.copyFromSlice pkt ihl (ihl + 4) [icmpv4EchoReply, 0, 0, 0]
      let cs := internetChecksum (pkt.drop ihl)
      let pkt ← Checked.copyFromSlice pkt (ihl + 2) (ihl + 4) (encode 2 cs)
      return some (recomputeIpv4Checksum pkt)
    | _, _ => .ok none

/-- `build_echo_reply_v6`. -/
def buildEchoReplyV6 (template : Bytes) (key : FlowKey) (replyPayload : Bytes) :
    Checked Empty (Option Bytes) :=
  if template.length < 40 ∨ replyPayload = [] then .ok none
  else
    match key.dst, key.src with
    | .v6 dst, .v6 src => do
      let totalLen := 40 + replyPayload.length
      let pkt ← Checked.copyFromSlice (List.replicate totalLen 0) 0 40 (template.take 40)
      let pkt ← Checked.copyFromSlice pkt 8 24 dst.bytes
      let pkt ← Checked.copyFromSlice pkt 24 40 src.bytes
      let pkt ← Checked.copyFromSlice pkt 4 6 (encode 2 replyPayload.length)
      let pkt ← Checked.copyFromSlice pkt 40 totalLen replyPayload
      -- the two assignments to `pkt[40]` and `pkt[41]`
      let pkt ← Checked.copyFromSlice pkt 40 42 [icmpv6EchoReply, 0]
      return some (recomputeIcmpv6Checksum pkt)
    | _, _ => .ok none

/-- `build_echo_reply_packet`. -/
def buildEchoReplyPacket (template : Bytes) (key : FlowKey) (replyPayload : Bytes) (isV6 : Bool) :
    Checked Empty (Option Bytes) :=
  if isV6 then buildEchoReplyV6 template key replyPayload
  else buildEchoReplyV4 template key replyPayload

/-! ### Where the ICMP message of a packet is -/

/-- Where the ICMP message of a packet starts. -/
def icmpOffset (isV6 : Bool) (pkt : Bytes) : Nat := if isV6 then 40 else headerLength pkt

/-- A template and a key of the family, with which a packet can be built. -/
def Usable (template : Bytes) (key : FlowKey) (isV6 : Bool) : Prop :=
  if isV6 then
    40 ≤ template.length ∧ (∃ dst, key.dst = .v6 dst) ∧ ∃ src, key.src = .v6 src
  else
    20 ≤ headerLength template ∧ headerLength template ≤ template.length
      ∧ (∃ dst, key.dst = .v4 dst) ∧ ∃ src, key.src = .v4 src

/-- How many bytes of the message are assigned to one by one. -/
def assigned (isV6 : Bool) : Nat := if isV6 then 2 else 4

/-- The packet carries the message, but for its type, code and checksum. -/
structure Carries (isV6 : Bool) (template message pkt : Bytes) : Prop where
  offset : icmpOffset isV6 pkt = icmpOffset isV6 template
  length : pkt.length = icmpOffset isV6 template + message.length
  agree : AgreeOff {index | index < 4} message (pkt.drop (icmpOffset isV6 template))

variable {template message : Bytes} {key : FlowKey}

/-- Only the checksum field changes. -/
theorem agreeOff_recomputeIcmpv6Checksum (pkt : Bytes) :
    AgreeOff (wordAt 42) pkt (recomputeIcmpv6Checksum pkt) := by
  rw [recomputeIcmpv6Checksum]
  split
  · exact AgreeOff.refl _ _
  · exact agreeOff_refill _ (by omega) fun index low high => ⟨low, high⟩

/-- Frames before the message, and in its first four bytes, keep a packet carrying it. -/
theorem carries_of_agree {isV6 : Bool} {pkt pkt' : Bytes} {touched : Set Nat}
    (copied : pkt.drop (icmpOffset isV6 template) = message)
    (whole : pkt.length = icmpOffset isV6 template + message.length)
    (first : byteAt pkt 0 = byteAt template 0) (agree : AgreeOff touched pkt pkt')
    (apart : ∀ index ∈ touched, index ≠ 0 ∧ index < icmpOffset isV6 template + 4) :
    Carries isV6 template message pkt' := by
  refine ⟨?_, agree.1.trans whole, ?_⟩
  · have first' : byteAt pkt' 0 = byteAt template 0 :=
      (agree.byteAt_eq fun inside => (apart 0 inside).1 rfl).trans first
    simp only [icmpOffset, headerLength, first']
  · rw [← copied]
    exact (agree.drop _).mono fun index inside => by
      have bound := (apart _ inside).2
      show index < 4
      omega

/-- A packet that is being built: its size, and the first byte of its header. -/
structure Building (size : Nat) (first : UInt8) (pkt : Bytes) : Prop where
  length : pkt.length = size
  first : byteAt pkt 0 = first

/-- A copy behind the first byte. -/
theorem Building.copy {size : Nat} {first : UInt8} {pkt : Bytes}
    (building : Building size first pkt) (start stop : Nat) (source : Bytes)
    (sized : start + source.length = stop)
    (inside : stop ≤ size) (later : 0 < start) :
    (Checked.copyFromSlice pkt start stop source : Checked Empty Bytes)
        = .ok (overwrite pkt start source)
      ∧ Building size first (overwrite pkt start source) := by
  have fits : start + source.length ≤ pkt.length := by
    rw [building.length]
    omega
  refine ⟨Checked.copyFromSlice_eq_ok sized (by rwa [building.length]), ?_, ?_⟩
  · rw [length_overwrite fits, building.length]
  · have agree : AgreeOff {index | 0 < index} pkt (overwrite pkt start source) :=
      agreeOff_overwrite fits fun index low _ => Nat.lt_of_lt_of_le later low
    rw [agree.byteAt_eq (Nat.lt_irrefl 0), building.first]

/-- The copy of the header into the zeros. -/
theorem building_header {size off : Nat} (positive : 0 < off) (inside : off ≤ size)
    (fits : off ≤ template.length) :
    (Checked.copyFromSlice (List.replicate size 0) 0 off (template.take off)
        : Checked Empty Bytes)
        = .ok (overwrite (List.replicate size 0) 0 (template.take off))
      ∧ Building size (byteAt template 0)
        (overwrite (List.replicate size 0) 0 (template.take off)) := by
  have front : (template.take off).length = off := List.length_take_of_le fits
  have zeros : (List.replicate size (0 : UInt8)).length = size := List.length_replicate
  have fits' : 0 + (template.take off).length ≤ (List.replicate size (0 : UInt8)).length := by
    rw [front, zeros]
    omega
  refine ⟨Checked.copyFromSlice_eq_ok (by omega) (by rwa [zeros]), ?_, ?_⟩
  · rw [length_overwrite fits', zeros]
  · rw [← @byteAt_take template 0 off positive, byteAt, byteAt, List.getD_eq_getElem?_getD,
      List.getD_eq_getElem?_getD, getElem?_overwrite fits', if_pos ⟨Nat.le_refl 0, by omega⟩]

/-- The copy of the message behind the header. -/
theorem Building.copyMessage {size off : Nat} {first : UInt8} {pkt : Bytes}
    (building : Building size first pkt) (whole : size = off + message.length) (later : 0 < off) :
    (Checked.copyFromSlice pkt off size message : Checked Empty Bytes)
        = .ok (overwrite pkt off message)
      ∧ Building size first (overwrite pkt off message)
      ∧ (overwrite pkt off message).drop off = message := by
  obtain ⟨done, building'⟩ := building.copy off size message whole.symm (Nat.le_refl size) later
  exact ⟨done, building', drop_overwrite_self (by rw [building.length, whole])⟩

/-- **`build_echo_reply_v4`.** -/
theorem buildEchoReplyV4_spec (usable : Usable template key false) (present : message ≠ []) :
    (message.length < 4 → buildEchoReplyV4 template key message = .error .panicked)
      ∧ (4 ≤ message.length → ∃ pkt, buildEchoReplyV4 template key message = .ok (some pkt)
        ∧ Carries false template message pkt) := by
  obtain ⟨header, fits, ⟨dst, sameDst⟩, src, sameSrc⟩ := usable
  have plain : ¬ (template.length < 20 ∨ message = []) := by
    rintro (short | none)
    · omega
    · exact present none
  simp only [buildEchoReplyV4, if_neg plain, if_neg (not_or.mpr ⟨Nat.not_lt.mpr header,
    Nat.not_lt.mpr fits⟩), sameDst, sameSrc, bind, Except.bind]
  obtain ⟨done, building⟩ := @building_header template
    (headerLength template + message.length) (headerLength template) (by omega)
    (Nat.le_add_right _ _) fits
  rw [done]
  dsimp only
  obtain ⟨done, building⟩ := building.copy 12 16 dst.bytes
    (by rw [dst.length_eq]) (by omega) (by decide)
  rw [done]
  dsimp only
  obtain ⟨done, building⟩ := building.copy 16 20 src.bytes
    (by rw [src.length_eq]) (by omega) (by decide)
  rw [done]
  dsimp only
  obtain ⟨done, building⟩ := building.copy 2 4
    (encode 2 (headerLength template + message.length)) (by rw [length_encode]) (by omega)
    (by decide)
  rw [done]
  dsimp only
  obtain ⟨done, building, copied⟩ := building.copyMessage rfl (by omega)
  rw [done]
  dsimp only
  generalize overwrite _ (headerLength template) message = pkt at building copied ⊢
  constructor
  · intro short
    rw [Checked.copyFromSlice, if_neg]
    rintro ⟨-, inside, -⟩
    rw [building.length] at inside
    omega
  · intro long
    obtain ⟨done, typed⟩ := building.copy (headerLength template) (headerLength template + 4)
      [icmpv4EchoReply, 0, 0, 0] rfl (by omega) (by omega)
    rw [done]
    dsimp only
    have replied : AgreeOff
        {index | headerLength template ≤ index ∧ index < headerLength template + 4} pkt
        (overwrite pkt (headerLength template) [icmpv4EchoReply, 0, 0, 0]) :=
      agreeOff_overwrite (by rw [building.length]; exact Nat.add_le_add_left long _)
        fun index low high => ⟨low, high⟩
    generalize overwrite pkt (headerLength template) [icmpv4EchoReply, 0, 0, 0] = pkt'
      at typed replied ⊢
    generalize internetChecksum (pkt'.drop (headerLength template)) = cs
    obtain ⟨done, -⟩ := typed.copy (headerLength template + 2) (headerLength template + 4)
      (encode 2 cs) (by rw [length_encode]) (by omega) (by omega)
    rw [done]
    have stored : AgreeOff
        {index | headerLength template ≤ index ∧ index < headerLength template + 4} pkt'
        (overwrite pkt' (headerLength template + 2) (encode 2 cs)) := by
      refine agreeOff_overwrite ?_ ?_
      · rw [length_encode, typed.length]
        omega
      · rw [length_encode]
        exact fun index low high => ⟨by omega, by omega⟩
    have wider : ∀ {before after : Bytes}, AgreeOff
        {index | headerLength template ≤ index ∧ index < headerLength template + 4} before after →
        AgreeOff {index | 10 ≤ index ∧ index < headerLength template + 4} before after :=
      fun agree => agree.mono fun index inside => ⟨by have low := inside.1; omega, inside.2⟩
    have checksum := (agreeOff_recomputeIpv4Checksum
      (overwrite pkt' (headerLength template + 2) (encode 2 cs))).mono
      (show {index | 10 ≤ index ∧ index < 12}
        ⊆ {index | 10 ≤ index ∧ index < headerLength template + 4} from
        fun index inside => ⟨inside.1, by have high := inside.2; omega⟩)
    refine ⟨_, rfl, carries_of_agree copied building.length building.first
      (((wider replied).trans (wider stored)).trans checksum) fun index inside => ⟨?_, inside.2⟩⟩
    have low := inside.1
    omega

/-- **`build_echo_reply_v6`.** -/
theorem buildEchoReplyV6_spec (usable : Usable template key true) (present : message ≠ []) :
    (message.length < 2 → buildEchoReplyV6 template key message = .error .panicked)
      ∧ (2 ≤ message.length → ∃ pkt, buildEchoReplyV6 template key message = .ok (some pkt)
        ∧ Carries true template message pkt) := by
  obtain ⟨fits, ⟨dst, sameDst⟩, src, sameSrc⟩ := usable
  have plain : ¬ (template.length < 40 ∨ message = []) := by
    rintro (short | none)
    · omega
    · exact present none
  simp only [buildEchoReplyV6, if_neg plain, sameDst, sameSrc, bind, Except.bind]
  obtain ⟨done, building⟩ := @building_header template (40 + message.length) 40 (by decide)
    (Nat.le_add_right _ _) fits
  rw [done]
  dsimp only
  obtain ⟨done, building⟩ := building.copy 8 24 dst.bytes (by rw [dst.length_eq]) (by omega)
    (by decide)
  rw [done]
  dsimp only
  obtain ⟨done, building⟩ := building.copy 24 40 src.bytes (by rw [src.length_eq]) (by omega)
    (by decide)
  rw [done]
  dsimp only
  obtain ⟨done, building⟩ := building.copy 4 6 (encode 2 message.length)
    (by rw [length_encode]) (by omega) (by decide)
  rw [done]
  dsimp only
  obtain ⟨done, building, copied⟩ := building.copyMessage rfl (by decide)
  rw [done]
  dsimp only
  generalize overwrite _ 40 message = pkt at building copied ⊢
  constructor
  · intro short
    rw [Checked.copyFromSlice, if_neg]
    rintro ⟨-, inside, -⟩
    rw [building.length] at inside
    omega
  · intro long
    obtain ⟨done, -⟩ := building.copy 40 42 [icmpv6EchoReply, 0] rfl (by omega) (by decide)
    rw [done]
    have replied : AgreeOff {index | 40 ≤ index ∧ index < 44} pkt
        (overwrite pkt 40 [icmpv6EchoReply, 0]) :=
      agreeOff_overwrite (by rw [building.length]; exact Nat.add_le_add_left long _)
        fun index low high => ⟨low, Nat.lt_of_lt_of_le high (by decide)⟩
    have checksum := (agreeOff_recomputeIcmpv6Checksum (overwrite pkt 40 [icmpv6EchoReply, 0])).mono
      (show wordAt 42 ⊆ {index | 40 ≤ index ∧ index < 44} from
        fun index inside => ⟨le_trans (by decide) inside.1, inside.2⟩)
    refine ⟨_, rfl, carries_of_agree copied building.length building.first
      (replied.trans checksum) fun index inside => ⟨?_, inside.2⟩⟩
    have low := inside.1
    omega

/-- A packet is built of a template and a key of the family, if the message is long enough. -/
theorem buildEchoReplyPacket_written {isV6 : Bool} (usable : Usable template key isV6)
    (long : assigned isV6 ≤ message.length) :
    ∃ pkt, buildEchoReplyPacket template key message isV6 = .ok (some pkt)
      ∧ Carries isV6 template message pkt := by
  have present : message ≠ [] := by
    rintro rfl
    cases isV6 <;> cases long
  cases isV6 with
  | false => exact (buildEchoReplyV4_spec usable present).2 long
  | true => exact (buildEchoReplyV6_spec usable present).2 long

/-- **Whether anything is written** depends on the template, the key and the length only. -/
theorem buildEchoReplyPacket_written_iff {isV6 : Bool} :
    (∃ pkt, buildEchoReplyPacket template key message isV6 = .ok (some pkt))
      ↔ Usable template key isV6 ∧ assigned isV6 ≤ message.length := by
  constructor
  · rintro ⟨pkt, built⟩
    have usable : Usable template key isV6 := by
      cases isV6 with
      | false =>
          simp only [buildEchoReplyPacket, buildEchoReplyV4, Bool.false_eq_true, if_false] at built
          split at built
          · cases built
          · split at built
            · cases built
            · rename_i fits
              split at built
              · rename_i dst src sameDst sameSrc
                exact ⟨by omega, by omega, ⟨dst, sameDst⟩, src, sameSrc⟩
              · cases built
      | true =>
          simp only [buildEchoReplyPacket, buildEchoReplyV6, if_true] at built
          split at built
          · cases built
          · rename_i fits
            split at built
            · rename_i dst src sameDst sameSrc
              exact ⟨by omega, ⟨dst, sameDst⟩, src, sameSrc⟩
            · cases built
    refine ⟨usable, Nat.le_of_not_lt fun short => ?_⟩
    by_cases present : message = []
    · rw [present] at built
      cases isV6 with
      | false => simp [buildEchoReplyPacket, buildEchoReplyV4] at built
      | true => simp [buildEchoReplyPacket, buildEchoReplyV6] at built
    · have panicked : buildEchoReplyPacket template key message isV6 = .error .panicked := by
        cases isV6 with
        | false => exact (buildEchoReplyV4_spec usable present).1 short
        | true => exact (buildEchoReplyV6_spec usable present).1 short
      rw [panicked] at built
      cases built
  · rintro ⟨usable, long⟩
    obtain ⟨pkt, built, -⟩ := buildEchoReplyPacket_written usable long
    exact ⟨pkt, built⟩

end RsTun.Icmp
