/-
**Addresses the handlers accept as destinations, and the extension headers of IPv6.**

`skipIpv6ExtensionHeaders` walks the chain of hop-by-hop, routing and destination-options headers.
Every turn of its loop drops at least eight bytes, so that a payload's length is enough turns; what
it returns is a suffix of the payload (`skipIpv6ExtensionHeaders_suffix`), and the walk over another
payload with the same extension headers ends at the same place (`skipIpv6ExtensionHeaders_congr`).
It reports a fragment exactly when the chain leads to a fragment header
(`skipIpv6ExtensionHeaders_isFragment_iff`).
-/

import RsTun.Net.Addr

namespace RsTun.Packet

open Library Library.Bytes

/-- `is_global_unicast_v4`. -/
def isGlobalUnicastV4 (addr : Ipv4Addr) : Bool :=
  if addr.bytes = [0, 0, 0, 0] ∨ addr.bytes = [255, 255, 255, 255] then false
  else if 224 ≤ byteAt addr.bytes 0 ∧ byteAt addr.bytes 0 < 240 then false
  else true

/-- `is_global_unicast_v6`. -/
def isGlobalUnicastV6 (addr : Ipv6Addr) : Bool :=
  if addr.toNat = 0 ∨ addr.toNat = 1 then false
  else
    let seg0 := be16 addr.bytes 0
    if seg0 &&& 0xffc0 = 0xfe80 then false
    else if seg0 &&& 0xff00 = 0xff00 then false
    else true

/-- `IPPROTO_HOPOPTS`. -/
def ipprotoHopopts : UInt8 := 0

/-- `IPPROTO_ROUTING`. -/
def ipprotoRouting : UInt8 := 43

/-- `IPPROTO_FRAGMENT`. -/
def ipprotoFragment : UInt8 := 44

/-- `IPPROTO_DSTOPTS`. -/
def ipprotoDstopts : UInt8 := 60

/-- What the walk over the extension headers returns. -/
structure ExtensionWalk where
  protocol : UInt8
  payload : Bytes
  isFragment : Bool
  transportPresent : Bool
  deriving DecidableEq

/-- The loop of `skip_ipv6_extension_headers`, at most `turns` turns of it. -/
def skipLoop : Nat → UInt8 → Bytes → ExtensionWalk
  | 0, protocol, payload => ⟨protocol, payload, false, false⟩
  | turns + 1, protocol, payload =>
      if protocol = ipprotoHopopts ∨ protocol = ipprotoRouting ∨ protocol = ipprotoDstopts then
        if payload.length < 2 then ⟨protocol, payload, false, false⟩
        else
          let extLen := ((byteAt payload 1).toNat + 1) * 8
          if payload.length < extLen then ⟨protocol, payload, false, false⟩
          else skipLoop turns (byteAt payload 0) (payload.drop extLen)
      else if protocol = ipprotoFragment then ⟨protocol, payload, true, false⟩
      else ⟨protocol, payload, false, true⟩

/-- `skip_ipv6_extension_headers`. -/
def skipIpv6ExtensionHeaders (protocol : UInt8) (payload : Bytes) : ExtensionWalk :=
  skipLoop (payload.length + 1) protocol payload

theorem skipLoop_suffix : ∀ (turns : Nat) (protocol : UInt8) (payload : Bytes),
    ∃ skipped ≤ payload.length, (skipLoop turns protocol payload).payload = payload.drop skipped
  | 0, _, _ => ⟨0, Nat.zero_le _, rfl⟩
  | turns + 1, protocol, payload => by
      have whole : ∃ skipped ≤ payload.length, payload = payload.drop skipped :=
        ⟨0, Nat.zero_le _, rfl⟩
      rw [skipLoop]
      split
      · split
        · exact whole
        · dsimp only
          split
          · exact whole
          · rename_i enough
            obtain ⟨skipped, within, rest⟩ := skipLoop_suffix turns (byteAt payload 0)
              (payload.drop (((byteAt payload 1).toNat + 1) * 8))
            rw [List.length_drop] at within
            rw [List.drop_drop] at rest
            exact ⟨_, by omega, rest⟩
      · split
        · exact whole
        · exact whole

/-- **The transport payload is a suffix of the packet's payload.** -/
theorem skipIpv6ExtensionHeaders_suffix (protocol : UInt8) (payload : Bytes) :
    ∃ skipped ≤ payload.length,
      (skipIpv6ExtensionHeaders protocol payload).payload = payload.drop skipped :=
  skipLoop_suffix _ protocol payload

/-- A walk that skips a header drops at least eight bytes. -/
theorem skipIpv6ExtensionHeaders_shortens {protocol : UInt8} {payload : Bytes}
    (skippable : protocol = ipprotoHopopts ∨ protocol = ipprotoRouting ∨ protocol = ipprotoDstopts)
    (present : (skipIpv6ExtensionHeaders protocol payload).transportPresent = true) :
    (skipIpv6ExtensionHeaders protocol payload).payload.length + 8 ≤ payload.length := by
  rw [skipIpv6ExtensionHeaders, skipLoop, if_pos skippable] at present ⊢
  by_cases short : payload.length < 2
  · rw [if_pos short] at present
    cases present
  · rw [if_neg short] at present ⊢
    dsimp only at present ⊢
    by_cases broken : payload.length < ((byteAt payload 1).toNat + 1) * 8
    · rw [if_pos broken] at present
      cases present
    · rw [if_neg broken]
      obtain ⟨skipped, within, rest⟩ := skipLoop_suffix payload.length (byteAt payload 0)
        (payload.drop (((byteAt payload 1).toNat + 1) * 8))
      rw [rest, List.length_drop, List.length_drop]
      omega

/-- A transport protocol in the fixed header ends the walk at once. -/
theorem skipIpv6ExtensionHeaders_of_direct {protocol : UInt8} (payload : Bytes)
    (direct : ¬ (protocol = ipprotoHopopts ∨ protocol = ipprotoRouting ∨ protocol = ipprotoDstopts))
    (whole : protocol ≠ ipprotoFragment) :
    skipIpv6ExtensionHeaders protocol payload = ⟨protocol, payload, false, true⟩ := by
  rw [skipIpv6ExtensionHeaders, skipLoop, if_neg direct, if_neg whole]

/-- A walk that finds the transport header reads nothing behind it. -/
theorem skipLoop_congr : ∀ (turns : Nat) (protocol : UInt8) {payload payload' : Bytes},
    payload'.length = payload.length →
    (skipLoop turns protocol payload).transportPresent = true →
    (∀ index < payload.length - (skipLoop turns protocol payload).payload.length,
      payload'[index]? = payload[index]?) →
    skipLoop turns protocol payload' = { skipLoop turns protocol payload with
      payload := payload'.drop
        (payload.length - (skipLoop turns protocol payload).payload.length) }
  | 0, _, _, _, _, present, _ => by cases present
  | turns + 1, protocol, payload, payload', lengths, present, agree => by
      rw [skipLoop] at present agree ⊢
      rw [skipLoop]
      by_cases extension : protocol = ipprotoHopopts ∨ protocol = ipprotoRouting
          ∨ protocol = ipprotoDstopts
      · simp only [if_pos extension] at present agree ⊢
        by_cases short : payload.length < 2
        · rw [if_pos short] at present
          cases present
        · simp only [if_neg short, lengths] at present agree ⊢
          by_cases broken : payload.length < ((byteAt payload 1).toNat + 1) * 8
          · rw [if_pos broken] at present
            cases present
          · simp only [if_neg broken] at present agree ⊢
            obtain ⟨skipped, within, rest⟩ := skipLoop_suffix turns (byteAt payload 0)
              (payload.drop (((byteAt payload 1).toNat + 1) * 8))
            have size := congrArg List.length rest
            rw [List.length_drop, List.length_drop] at size
            rw [List.length_drop] at within
            have same : ∀ index < 2, byteAt payload' index = byteAt payload index := by
              intro index early
              rw [byteAt, byteAt, List.getD_eq_getElem?_getD, List.getD_eq_getElem?_getD,
                agree index (by omega)]
            rw [same 0 (by omega), same 1 (by omega), if_neg broken, skipLoop_congr turns _
              (by rw [List.length_drop, List.length_drop, lengths]) present fun index early => ?_]
            · rw [List.drop_drop, List.length_drop, size, show ((byteAt payload 1).toNat + 1) * 8
                + (payload.length - ((byteAt payload 1).toNat + 1) * 8
                  - (payload.length - ((byteAt payload 1).toNat + 1) * 8 - skipped))
                = payload.length - (payload.length - ((byteAt payload 1).toNat + 1) * 8 - skipped)
                by omega]
            · rw [List.getElem?_drop, List.getElem?_drop]
              rw [List.length_drop] at early
              exact agree _ (by omega)
      · simp only [if_neg extension] at present agree ⊢
        by_cases fragment : protocol = ipprotoFragment
        · rw [if_pos fragment] at present
          cases present
        · simp only [if_neg fragment, Nat.sub_self, List.drop_zero]

/-- **Another payload with the same extension headers** has its transport header at the same
offset. -/
theorem skipIpv6ExtensionHeaders_congr {protocol : UInt8} {payload payload' : Bytes}
    (lengths : payload'.length = payload.length)
    (present : (skipIpv6ExtensionHeaders protocol payload).transportPresent = true)
    (agree : ∀ index < payload.length - (skipIpv6ExtensionHeaders protocol payload).payload.length,
      payload'[index]? = payload[index]?) :
    skipIpv6ExtensionHeaders protocol payload' = { skipIpv6ExtensionHeaders protocol payload with
      payload := payload'.drop
        (payload.length - (skipIpv6ExtensionHeaders protocol payload).payload.length) } := by
  rw [skipIpv6ExtensionHeaders, lengths]
  exact skipLoop_congr _ protocol lengths present agree

/-! ### Fragments -/

/-- The chain of extension headers leads to a fragment header. -/
inductive FragmentBehind : UInt8 → Bytes → Prop
  | here (payload : Bytes) : FragmentBehind ipprotoFragment payload
  | behind {protocol : UInt8} {payload : Bytes}
      (skippable : protocol = ipprotoHopopts ∨ protocol = ipprotoRouting
        ∨ protocol = ipprotoDstopts)
      (opened : 2 ≤ payload.length) (whole : ((byteAt payload 1).toNat + 1) * 8 ≤ payload.length)
      (rest : FragmentBehind (byteAt payload 0)
        (payload.drop (((byteAt payload 1).toNat + 1) * 8))) :
      FragmentBehind protocol payload

theorem skipLoop_isFragment_iff (turns : Nat) : ∀ (protocol : UInt8) (payload : Bytes),
    payload.length < turns →
      ((skipLoop turns protocol payload).isFragment = true ↔ FragmentBehind protocol payload) := by
  induction turns with
  | zero => exact fun _ _ short => absurd short (Nat.not_lt_zero _)
  | succ turns ih =>
      intro protocol payload enough
      rw [skipLoop]
      by_cases skippable : protocol = ipprotoHopopts ∨ protocol = ipprotoRouting
          ∨ protocol = ipprotoDstopts
      · have other : protocol ≠ ipprotoFragment := by
          rintro rfl
          revert skippable
          decide
        rw [if_pos skippable]
        by_cases short : payload.length < 2
        · rw [if_pos short]
          refine ⟨nofun, fun behind => ?_⟩
          cases behind with
          | here => exact absurd rfl other
          | behind _ opened => exact absurd short (Nat.not_lt.mpr opened)
        · rw [if_neg short]
          dsimp only
          by_cases broken : payload.length < ((byteAt payload 1).toNat + 1) * 8
          · rw [if_pos broken]
            refine ⟨nofun, fun behind => ?_⟩
            cases behind with
            | here => exact absurd rfl other
            | behind _ _ whole => exact absurd broken (Nat.not_lt.mpr whole)
          · rw [if_neg broken, ih _ _ (by rw [List.length_drop]; omega)]
            refine ⟨fun rest => .behind skippable (Nat.not_lt.mp short) (Nat.not_lt.mp broken) rest,
              fun behind => ?_⟩
            cases behind with
            | here => exact absurd rfl other
            | behind _ _ _ rest => exact rest
      · rw [if_neg skippable]
        by_cases fragment : protocol = ipprotoFragment
        · rw [if_pos fragment, fragment]
          exact ⟨fun _ => .here payload, fun _ => rfl⟩
        · rw [if_neg fragment]
          refine ⟨nofun, fun behind => ?_⟩
          cases behind with
          | here => exact absurd rfl fragment
          | behind skips => exact absurd skips skippable

/-- **The walk reports a fragment** exactly when the chain leads to a fragment header. -/
theorem skipIpv6ExtensionHeaders_isFragment_iff {protocol : UInt8} {payload : Bytes} :
    (skipIpv6ExtensionHeaders protocol payload).isFragment = true
      ↔ FragmentBehind protocol payload :=
  skipLoop_isFragment_iff _ protocol payload (Nat.lt_succ_self _)

end RsTun.Packet
