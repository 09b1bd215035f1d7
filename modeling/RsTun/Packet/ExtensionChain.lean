/-
**The chain of extension headers that `skip_ipv6_extension_headers` goes over.**

An extension header says in its second byte how long it is, and in its first one what follows it. A
string of bytes starts with at most one complete header, so that a payload has one longest chain of
them (`MaximalChain.unique`).

* `truncated_iff` — the two length checks of a turn fail exactly when a header breaks off.
* `SkipsExactly.unique` — one walk at most skips the longest chain and tells how it ends.
* `skipTurns_exact` — the loop, from any protocol and payload on, in more turns than bytes.
* **`skipIpv6ExtensionHeaders_exact`** — the walk ends, skips the longest chain, and its two flags
  tell how the chain ends.
-/

import RsTun.Packet.Header

namespace RsTun.Packet

open Library Library.Bytes

/-- The headers that the walk goes over: hop-by-hop, routing and destination options. -/
def Skippable (protocol : UInt8) : Prop :=
  protocol = ipprotoHopopts ∨ protocol = ipprotoRouting ∨ protocol = ipprotoDstopts

instance (protocol : UInt8) : Decidable (Skippable protocol) :=
  inferInstanceAs (Decidable (_ ∨ _))

/-- All bytes of a header: as many as its second byte says. -/
def CompleteHeader (header : Bytes) : Prop :=
  header.length = ((byteAt header 1).toNat + 1) * 8

/-- The bytes are a part of a header, and some of it is missing. -/
def Truncated (rest : Bytes) : Prop := ∃ missing ≠ [], CompleteHeader (rest ++ missing)

/-- Complete headers from a protocol on, each of which names the next one; what the last one names.
-/
inductive HeaderChain : UInt8 → List Bytes → UInt8 → Prop
  | nil (protocol : UInt8) : HeaderChain protocol [] protocol
  | cons {protocol last : UInt8} {header : Bytes} {headers : List Bytes}
      (skippable : Skippable protocol) (complete : CompleteHeader header)
      (behind : HeaderChain (byteAt header 0) headers last) :
      HeaderChain protocol (header :: headers) last

/-- The chain is in front of `rest`, and no chain in front of the payload is longer. -/
structure MaximalChain (protocol : UInt8) (payload : Bytes) (headers : List Bytes) (last : UInt8)
    (rest : Bytes) : Prop where
  chain : HeaderChain protocol headers last
  split : payload = headers.flatten ++ rest
  maximal : ∀ headers' last' rest', HeaderChain protocol headers' last' →
    payload = headers'.flatten ++ rest' → headers' <+: headers

/-! ### Complete headers -/

variable {protocol last : UInt8} {payload header rest : Bytes} {headers : List Bytes}

theorem CompleteHeader.eight_le (complete : CompleteHeader header) : 8 ≤ header.length := by
  rw [complete]
  omega

/-- **A string starts with one complete header** at most. -/
theorem CompleteHeader.unique {header' rest' : Bytes} (complete : CompleteHeader header)
    (complete' : CompleteHeader header') (same : header ++ rest = header' ++ rest') :
    header = header' ∧ rest = rest' := by
  have long := complete.eight_le
  have long' := complete'.eight_le
  have second : byteAt header 1 = byteAt header' 1 := by
    rw [← byteAt_append_of_lt rest (show 1 < header.length by omega), same,
      byteAt_append_of_lt rest' (by omega)]
  refine List.append_inj same ?_
  rw [complete, complete', second]

/-- **A header breaks off** exactly when its length is not there, or less than it says is. -/
theorem truncated_iff :
    Truncated rest ↔ rest.length < 2 ∨ rest.length < ((byteAt rest 1).toNat + 1) * 8 := by
  constructor
  · rintro ⟨missing, some, complete⟩
    have positive := List.length_pos_iff.mpr some
    by_cases short : rest.length < 2
    · exact .inl short
    · right
      rw [CompleteHeader, byteAt_append_of_lt missing (by omega), List.length_append] at complete
      omega
  · intro less
    by_cases short : rest.length < 2
    · -- with zeros for the missing bytes the header has eight
      refine ⟨List.replicate (8 - rest.length) 0, ?_, ?_⟩
      · exact List.ne_nil_of_length_pos (by rw [List.length_replicate]; omega)
      · have second : byteAt (rest ++ List.replicate (8 - rest.length) 0) 1 = 0 := by
          rw [byteAt, List.getD_eq_getElem?_getD, List.getElem?_append_right (by omega),
            List.getElem?_replicate, if_pos (by omega), Option.getD_some]
        rw [CompleteHeader, second, List.length_append, List.length_replicate]
        show rest.length + (8 - rest.length) = 8
        omega
    · have shorter := less.resolve_left short
      refine ⟨List.replicate (((byteAt rest 1).toNat + 1) * 8 - rest.length) 0, ?_, ?_⟩
      · exact List.ne_nil_of_length_pos (by rw [List.length_replicate]; omega)
      · rw [CompleteHeader, byteAt_append_of_lt _ (by omega), List.length_append,
          List.length_replicate]
        omega

/-- No complete header is in front of bytes that break off. -/
theorem Truncated.not_complete (truncated : Truncated payload) (complete : CompleteHeader header) :
    payload ≠ header ++ rest := by
  rintro rfl
  have long := complete.eight_le
  rw [truncated_iff, byteAt_append_of_lt rest (by omega), ← complete, List.length_append]
    at truncated
  omega

/-! ### The longest chain -/

/-- What the last header names. -/
theorem HeaderChain.last_unique {last' : UInt8} (chain : HeaderChain protocol headers last)
    (chain' : HeaderChain protocol headers last') : last = last' := by
  induction chain with
  | nil =>
      cases chain' with
      | nil => rfl
  | cons _ _ _ ih =>
      cases chain' with
      | cons _ _ behind => exact ih behind

/-- **The longest chain is one.** -/
theorem MaximalChain.unique {headers' : List Bytes} {last' : UInt8} {rest' : Bytes}
    (longest : MaximalChain protocol payload headers last rest)
    (longest' : MaximalChain protocol payload headers' last' rest') : headers = headers' :=
  (longest'.maximal _ _ _ longest.chain longest.split).eq_of_length_le
    (longest.maximal _ _ _ longest'.chain longest'.split).length_le

/-- A chain that cannot start. -/
theorem MaximalChain.of_stuck
    (stuck : Skippable protocol → ∀ header rest, CompleteHeader header → payload ≠ header ++ rest) :
    MaximalChain protocol payload [] protocol payload where
  chain := .nil protocol
  split := rfl
  maximal := by
    intro headers' last' rest' chain split
    cases chain with
    | nil => exact List.prefix_rfl
    | cons skippable complete behind =>
        rw [List.flatten_cons, List.append_assoc] at split
        exact absurd split (stuck skippable _ _ complete)

/-- One header in front of the longest chain behind it. -/
theorem MaximalChain.cons {rest' : Bytes} (skippable : Skippable protocol)
    (complete : CompleteHeader header)
    (longest : MaximalChain (byteAt header 0) rest headers last rest') :
    MaximalChain protocol (header ++ rest) (header :: headers) last rest' where
  chain := .cons skippable complete longest.chain
  split := by rw [List.flatten_cons, List.append_assoc, ← longest.split]
  maximal := by
    intro headers' last' rest'' chain split
    cases chain with
    | nil => exact List.nil_prefix
    | cons _ complete' behind =>
        rw [List.flatten_cons, List.append_assoc] at split
        obtain ⟨rfl, same⟩ := complete.unique complete' split
        exact (List.prefix_cons_inj _).mpr (longest.maximal _ _ _ behind same)

/-! ### The loop -/

/-- The loop of `skip_ipv6_extension_headers`; nothing when it has not ended after `turns` turns. -/
def skipTurns : Nat → UInt8 → Bytes → Option ExtensionWalk
  | 0, _, _ => none
  | turns + 1, protocol, payload =>
      if protocol = ipprotoHopopts ∨ protocol = ipprotoRouting ∨ protocol = ipprotoDstopts then
        if payload.length < 2 then some ⟨protocol, payload, false, false⟩
        else
          let extLen := ((byteAt payload 1).toNat + 1) * 8
          if payload.length < extLen then some ⟨protocol, payload, false, false⟩
          else skipTurns turns (byteAt payload 0) (payload.drop extLen)
      else if protocol = ipprotoFragment then some ⟨protocol, payload, true, false⟩
      else some ⟨protocol, payload, false, true⟩

theorem skipLoop_of_skipTurns {turns : Nat} {walk : ExtensionWalk}
    (ended : skipTurns turns protocol payload = some walk) :
    skipLoop turns protocol payload = walk := by
  induction turns generalizing protocol payload with
  | zero => cases ended
  | succ turns ih =>
      rw [skipTurns] at ended
      rw [skipLoop]
      split at ended
      case isTrue skippable =>
        rw [if_pos skippable]
        dsimp only at ended ⊢
        split at ended
        case isTrue short =>
          rw [if_pos short]
          exact Option.some.inj ended
        case isFalse opened =>
          rw [if_neg opened]
          split at ended
          case isTrue broken =>
            rw [if_pos broken]
            exact Option.some.inj ended
          case isFalse whole =>
            rw [if_neg whole]
            exact ih ended
      case isFalse direct =>
        rw [if_neg direct]
        split at ended
        case isTrue fragment =>
          rw [if_pos fragment]
          exact Option.some.inj ended
        case isFalse other =>
          rw [if_neg other]
          exact Option.some.inj ended

/-- **The walk skips the longest chain of complete headers**, and tells how it ends: with another
protocol, with the fragment header, or inside a header. -/
structure SkipsExactly (protocol : UInt8) (payload : Bytes) (walk : ExtensionWalk) : Prop where
  chain : ∃ headers, MaximalChain protocol payload headers walk.protocol walk.payload
  transport : walk.transportPresent = true
    ↔ ¬ Skippable walk.protocol ∧ walk.protocol ≠ ipprotoFragment
  fragment : walk.isFragment = true ↔ walk.protocol = ipprotoFragment
  broken : walk.isFragment = false ∧ walk.transportPresent = false
    ↔ Skippable walk.protocol ∧ Truncated walk.payload

/-- **What the walk returns is determined** by what it skips. -/
theorem SkipsExactly.unique {walk walk' : ExtensionWalk}
    (skips : SkipsExactly protocol payload walk) (skips' : SkipsExactly protocol payload walk') :
    walk = walk' := by
  obtain ⟨headers, longest⟩ := skips.chain
  obtain ⟨headers', longest'⟩ := skips'.chain
  obtain rfl := longest.unique longest'
  have last := longest.chain.last_unique longest'.chain
  have rest := List.append_cancel_left (longest.split.symm.trans longest'.split)
  have fragment : walk.isFragment = walk'.isFragment := by
    rw [Bool.eq_iff_iff, skips.fragment, skips'.fragment, last]
  have transport : walk.transportPresent = walk'.transportPresent := by
    rw [Bool.eq_iff_iff, skips.transport, skips'.transport, last]
  cases walk
  cases walk'
  cases last
  cases rest
  cases fragment
  cases transport
  rfl

/-- The fragment header is none of those that are skipped. -/
theorem Skippable.ne_fragment (skippable : Skippable protocol) : protocol ≠ ipprotoFragment := by
  rintro rfl
  revert skippable
  decide

/-- A header that breaks off ends the walk. -/
theorem SkipsExactly.of_truncated (skippable : Skippable protocol)
    (truncated : Truncated payload) :
    SkipsExactly protocol payload ⟨protocol, payload, false, false⟩ where
  chain := ⟨[], .of_stuck fun _ _ _ complete => truncated.not_complete complete⟩
  transport := iff_of_false nofun fun both => both.1 skippable
  fragment := iff_of_false nofun skippable.ne_fragment
  broken := iff_of_true ⟨rfl, rfl⟩ ⟨skippable, truncated⟩

/-- So does a header that is not skipped. -/
theorem SkipsExactly.of_direct (direct : ¬ Skippable protocol) :
    SkipsExactly protocol payload ⟨protocol, payload, decide (protocol = ipprotoFragment),
      !decide (protocol = ipprotoFragment)⟩ where
  chain := ⟨[], .of_stuck fun skippable => absurd skippable direct⟩
  transport := by
    rw [Bool.not_eq_true', decide_eq_false_iff_not, and_iff_right direct]
  fragment := decide_eq_true_iff
  broken := by
    refine iff_of_false (fun both => ?_) fun both => direct both.1
    rw [Bool.not_eq_false'] at both
    exact Bool.false_ne_true (both.1.symm.trans both.2)

/-- A header in front. -/
theorem SkipsExactly.cons {walk : ExtensionWalk} (skippable : Skippable protocol)
    (complete : CompleteHeader header) (behind : SkipsExactly (byteAt header 0) rest walk) :
    SkipsExactly protocol (header ++ rest) walk where
  chain := by
    obtain ⟨headers, longest⟩ := behind.chain
    exact ⟨header :: headers, longest.cons skippable complete⟩
  transport := behind.transport
  fragment := behind.fragment
  broken := behind.broken

/-- **The loop**, in more turns than there are bytes: every turn that goes on drops a header. -/
theorem skipTurns_exact (turns : Nat) (protocol : UInt8) (payload : Bytes)
    (enough : payload.length < turns) :
    ∃ walk, skipTurns turns protocol payload = some walk ∧ SkipsExactly protocol payload walk := by
  induction turns generalizing protocol payload with
  | zero => exact absurd enough (Nat.not_lt_zero _)
  | succ turns ih =>
      rw [skipTurns]
      split
      case isFalse direct =>
        refine ⟨_, ?_, .of_direct direct⟩
        split
        case isTrue fragment =>
          rw [decide_eq_true fragment]
          rfl
        case isFalse other =>
          rw [decide_eq_false other]
          rfl
      case isTrue skippable =>
        dsimp only
        split
        case isTrue short =>
          exact ⟨_, rfl, .of_truncated skippable (truncated_iff.mpr (.inl short))⟩
        case isFalse opened =>
          split
          case isTrue less =>
            exact ⟨_, rfl, .of_truncated skippable (truncated_iff.mpr (.inr less))⟩
          case isFalse whole =>
            generalize sized : ((byteAt payload 1).toNat + 1) * 8 = extLen at whole ⊢
            have length : (payload.take extLen).length = extLen :=
              List.length_take_of_le (Nat.le_of_not_lt whole)
            have first : byteAt (payload.take extLen) 0 = byteAt payload 0 :=
              byteAt_take (by omega)
            have complete : CompleteHeader (payload.take extLen) := by
              rw [CompleteHeader, length, byteAt_take (by omega), sized]
            obtain ⟨walk, ended, exact'⟩ := ih (byteAt payload 0) (payload.drop extLen)
              (by rw [List.length_drop]; omega)
            refine ⟨walk, ended, ?_⟩
            rw [← first] at exact'
            have whole := exact'.cons skippable complete
            rwa [List.take_append_drop] at whole

/-- **`skip_ipv6_extension_headers`**, for every protocol and payload: the loop ends, what it
returns is a suffix of the payload, what it skips is the longest chain of complete headers, and the
two flags tell how the chain ends. -/
theorem skipIpv6ExtensionHeaders_exact (protocol : UInt8) (payload : Bytes) :
    (∃ turns, ∀ more, turns ≤ more → skipTurns more protocol payload
        = some (skipIpv6ExtensionHeaders protocol payload))
      ∧ (skipIpv6ExtensionHeaders protocol payload).payload <:+ payload
      ∧ SkipsExactly protocol payload (skipIpv6ExtensionHeaders protocol payload) := by
  obtain ⟨walk, ended, skips⟩ :=
    skipTurns_exact (payload.length + 1) protocol payload (Nat.lt_succ_self _)
  have returned : skipIpv6ExtensionHeaders protocol payload = walk := skipLoop_of_skipTurns ended
  rw [returned]
  refine ⟨⟨payload.length + 1, fun more enough => ?_⟩, ?_, skips⟩
  · obtain ⟨walk', ended', skips'⟩ := skipTurns_exact more protocol payload enough
    rw [ended', skips.unique skips']
  · obtain ⟨headers, longest⟩ := skips.chain
    exact ⟨headers.flatten, longest.split.symm⟩

end RsTun.Packet
