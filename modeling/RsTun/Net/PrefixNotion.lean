/-
**The copies of the prefix arithmetic, against one notion of a prefix.**

A prefix of an address is the block of numbers of `Library.Prefix`. The functions compute masks with
checked shifts here, and `ip_in_subnet` shifts the addresses themselves; all but two of them ask for
a length of 0 first, for which the shift would be by the whole width.

* `guardedAgree` — those that ask agree with the blocks at every length.
* `Linux.network_zero`, `Linux.prefixContains_zero` — `v4_network`, `v6_network`,
  `prefix_contains_v4` and `prefix_contains_v6` do not ask.
* **`oneNotion_iff`** — all of them agree if and only if no prefix has length 0.
-/

import RsTun.Linux.Routes
import RsTun.Net.Subnet

namespace RsTun

open Library Library.Prefix

variable {size : Nat}

/-- `!((1 << (width - len)) - 1)`. -/
def maskOf (width length : Nat) : Checked Empty Nat := do
  let bit ← Checked.shiftOne width (width - length)
  return complement width (bit - 1)

/-- `v4_prefix_mask`, `v6_prefix_mask`, with their shifts checked. -/
def Linux.prefixMaskChecked (size : Nat) (pl : UInt8) : Checked Empty Nat :=
  if pl = 0 then .ok 0 else maskOf (8 * size) (min pl.toNat (8 * size))

/-- `v4_intersects`, `v6_intersects`, with their shifts checked. -/
def Linux.intersectsChecked (eNet : Octets size) (ePl : UInt8) (net : Octets size) (pl : UInt8) :
    Checked Empty Bool := do
  let (coarseNet, coarsePl, fineNet) := if ePl ≤ pl then (eNet, ePl, net) else (net, pl, eNet)
  let fineMask ← Linux.prefixMaskChecked size coarsePl
  let coarseMask ← Linux.prefixMaskChecked size coarsePl
  return fineNet.toNat &&& fineMask == coarseNet.toNat &&& coarseMask

/-- `broadcast_addr_v4`, with its shift checked. -/
def broadcastAddrV4Checked (network : Ipv4Addr) (prefixLen : UInt8) : Checked Empty Ipv4Addr := do
  let mask ← if prefixLen.toNat = 0 then .ok 0 else maskOf 32 (min prefixLen.toNat 32)
  let net := network.toNat &&& mask
  return .ofNat 4 (net ||| complement 32 mask)

/-- `has_next_addr_v4` on 32 bits, `has_next_addr_v6` on 128, with the sum and the shift checked. -/
def hasNextAddrChecked (width cur prefixLen : Nat) : Checked Empty Bool :=
  if cur = 2 ^ width - 1 then return false
  else do
    let next ← Checked.inBits width (cur + 1)
    if prefixLen = 0 then return true
    let mask ← maskOf width (min prefixLen width)
    return cur &&& mask == next &&& mask

/-- What `ip_in_local_subnets_v4`, `ip_in_local_subnets_v6` ask of one subnet. -/
def inLocalSubnet (addr : Octets size) (subnet : Octets size × UInt8) : Checked Empty Bool :=
  let pl := min subnet.2.toNat (8 * size)
  if pl = 0 then return true
  else do
    let mask ← maskOf (8 * size) pl
    return addr.toNat &&& mask == subnet.1.toNat &&& mask

/-- `ip_in_local_subnets_v4`, `ip_in_local_subnets_v6`, with their shifts checked. -/
def ipInLocalSubnetsChecked (addr : Octets size) (subnets : List (Octets size × UInt8)) :
    Checked Empty Bool :=
  subnets.anyM (inLocalSubnet addr)

/-- `addr_in_prefix_v4`. -/
def addrInPrefixV4 (addr network : Ipv4Addr) (prefixLen : UInt8) : Checked Empty Bool :=
  if prefixLen = 0 then return true
  else do
    let mask ← maskOf 32 (min prefixLen.toNat 32)
    return addr.toNat &&& mask == network.toNat &&& mask

/-- `addr_in_prefix_v6`, which has a mask of its own for a whole address. -/
def addrInPrefixV6 (addr network : Ipv6Addr) (prefixLen : UInt8) : Checked Empty Bool :=
  if prefixLen = 0 then return true
  else do
    let bits := min prefixLen.toNat 128
    let mask ← if bits = 128 then .ok (2 ^ 128 - 1) else maskOf 128 bits
    return addr.toNat &&& mask == network.toNat &&& mask

/-- A branch of `ip_in_subnet`: `32u32.saturating_sub(prefix_len)` bits are shifted out. -/
def inSubnet (width base prefixLen target : Nat) : Checked Empty Bool :=
  if prefixLen = 0 then return true
  else do
    let shift := width - prefixLen
    let left ← Checked.shiftRight width base shift
    let right ← Checked.shiftRight width target shift
    return left == right

/-- `ip_in_subnet`. -/
def ipInSubnet (base : IpAddr) (prefixLen : UInt8) (target : IpAddr) : Checked Empty Bool :=
  match base, target with
  | .v4 b, .v4 t => inSubnet 32 b.toNat prefixLen.toNat t.toNat
  | .v6 b, .v6 t => inSubnet 128 b.toNat prefixLen.toNat t.toNat
  | _, _ => return false

/-! ### What a call tells -/

/-- The call returns whether the fact holds. -/
def Tells (call : Checked Empty Bool) (fact : Prop) : Prop :=
  ∃ answer, call = .ok answer ∧ (answer = true ↔ fact)

section Calls

variable {first second : Octets size} {width length : Nat}

theorem tells_true {fact : Prop} (holds : fact) : Tells (return true) fact :=
  ⟨true, rfl, iff_of_true rfl holds⟩

theorem Tells.congr {call : Checked Empty Bool} {fact fact' : Prop} (tells : Tells call fact)
    (same : fact ↔ fact') : Tells call fact' := by
  obtain ⟨answer, returned, holds⟩ := tells
  exact ⟨answer, returned, holds.trans same⟩

/-- A search that stops at the first hit. -/
theorem tells_anyM {Item : Type} {items : List Item} {call : Item → Checked Empty Bool}
    {fact : Item → Prop} (tells : ∀ item ∈ items, Tells (call item) (fact item)) :
    Tells (items.anyM call) (∃ item ∈ items, fact item) := by
  induction items with
  | nil =>
      exact ⟨false, rfl, iff_of_false nofun fun ⟨_, member, _⟩ => absurd member List.not_mem_nil⟩
  | cons item rest ih =>
      obtain ⟨⟨answer, returned, holds⟩, later⟩ := List.forall_mem_cons.mp tells
      refine Tells.congr ?_ (List.exists_mem_cons_iff _ _ _).symm
      rw [List.anyM, returned]
      cases answer with
      | true => exact tells_true (.inl (holds.mp rfl))
      | false => exact (ih later).congr (or_iff_right fun held => by cases holds.mpr held).symm

theorem maskOf_eq_ok (nonzero : length ≠ 0) (valid : length ≤ width) :
    maskOf width length = .ok (mask width length) := by
  have fits : width - length < width := by omega
  simp only [maskOf, bind, Except.bind, Checked.shiftOne_eq_ok fits]
  rw [mask, if_neg nonzero]
  rfl

/-- All addresses share the block of length 0. -/
theorem sameBlock_zero (first second : Octets size) :
    SameBlock (8 * size) 0 first.toNat second.toNat := by
  have whole : ∀ addr : Octets size, addr.toNat / blockSize (8 * size) 0 = 0 := fun addr =>
    Nat.div_eq_of_lt (Linux.toNat_lt_two_pow addr)
  rw [SameBlock, whole, whole]

/-- **A masked comparison** behind a test for length 0. -/
theorem tells_masked (valid : length ≤ 8 * size) : Tells (if length = 0 then return true
      else do
        let mask ← maskOf (8 * size) length
        return first.toNat &&& mask == second.toNat &&& mask)
    (SameBlock (8 * size) length second.toNat first.toNat) := by
  split
  case isTrue zero =>
    rw [zero]
    exact tells_true (sameBlock_zero second first)
  case isFalse nonzero =>
    rw [maskOf_eq_ok nonzero valid]
    refine ⟨_, rfl, ?_⟩
    rw [beq_iff_eq, Linux.masked_eq_iff valid]
    exact ⟨SameBlock.symm, SameBlock.symm⟩

/-! ### The functions that ask for a length of 0 -/

theorem prefixMaskChecked_eq_ok {pl : UInt8} (positive : 0 < size) :
    Linux.prefixMaskChecked size pl = .ok (Linux.prefixMask size pl) := by
  unfold Linux.prefixMaskChecked Linux.prefixMask
  split
  case isTrue => rfl
  case isFalse nonzero =>
    have least : min pl.toNat (8 * size) ≠ 0 := by
      have := Linux.toNat_ne_zero nonzero
      omega
    rw [maskOf_eq_ok least (Nat.min_le_right _ _), mask, if_neg least]

theorem intersectsChecked_eq_ok {ePl pl : UInt8} (positive : 0 < size) :
    Linux.intersectsChecked first ePl second pl = .ok (Linux.intersects first ePl second pl) := by
  unfold Linux.intersectsChecked Linux.intersects
  simp only [bind, Except.bind, prefixMaskChecked_eq_ok positive]
  rfl

theorem broadcastAddrV4Checked_eq_ok {network : Ipv4Addr} {prefixLen : UInt8} :
    broadcastAddrV4Checked network prefixLen = .ok (broadcastAddrV4 network prefixLen) := by
  unfold broadcastAddrV4Checked broadcastAddrV4
  split
  case isTrue => rfl
  case isFalse nonzero =>
    rw [maskOf_eq_ok (by omega) (Nat.min_le_right _ _), mask, if_neg (by omega)]
    rfl

theorem hasNextAddrChecked_eq_ok {cur prefixLen : Nat} (positive : 0 < width)
    (fits : cur < 2 ^ width) :
    hasNextAddrChecked width cur prefixLen = .ok (hasNextAddr width cur prefixLen) := by
  unfold hasNextAddrChecked hasNextAddr
  split
  case isTrue => rfl
  case isFalse more =>
    simp only [bind, Except.bind, Checked.inBits_eq_ok (show cur + 1 < 2 ^ width by omega)]
    split
    case isTrue => rfl
    case isFalse nonzero =>
      rw [maskOf_eq_ok (by omega) (Nat.min_le_right _ _), mask, if_neg (by omega)]
      rfl

/-- An address is less than the last one of its block exactly when the next one lies in it. -/
theorem succ_mem_block_iff {cur : Nat} : cur + 1 ∈ block width length cur
    ↔ hostPart width length cur + 1 < blockSize width length := by
  rw [mem_block_iff, sameBlock_iff_blockStart, same_block_succ_iff]

theorem tells_inSubnet {prefixLen : Nat} (valid : prefixLen ≤ 8 * size) :
    Tells (inSubnet (8 * size) first.toNat prefixLen second.toNat)
      (SameBlock (8 * size) prefixLen first.toNat second.toNat) := by
  unfold inSubnet
  split
  case isTrue zero =>
    rw [zero]
    exact tells_true (sameBlock_zero first second)
  case isFalse nonzero =>
    have shifted : ∀ number, Checked.shiftRight (8 * size) number (8 * size - prefixLen)
        = (.ok (number / blockSize (8 * size) prefixLen) : Checked Empty Nat) := by
      intro number
      rw [Checked.shiftRight, if_pos (by omega), Nat.shiftRight_eq_div_pow]
      rfl
    simp only [bind, Except.bind, shifted]
    exact ⟨_, rfl, beq_iff_eq⟩

theorem toNat_eq_zero_iff {prefixLen : UInt8} : prefixLen = 0 ↔ prefixLen.toNat = 0 :=
  UInt8.toNat_inj.symm

theorem tells_addrInPrefixV4 {addr network : Ipv4Addr} {prefixLen : UInt8}
    (valid : prefixLen.toNat ≤ 8 * 4) : Tells (addrInPrefixV4 addr network prefixLen)
      (SameBlock (8 * 4) prefixLen.toNat network.toNat addr.toNat) := by
  unfold addrInPrefixV4
  rw [Nat.min_eq_left valid]
  simp only [toNat_eq_zero_iff]
  exact tells_masked valid

/-- The mask of a whole address is that of its length. -/
theorem tells_addrInPrefixV6 {addr network : Ipv6Addr} {prefixLen : UInt8}
    (valid : prefixLen.toNat ≤ 8 * 16) : Tells (addrInPrefixV6 addr network prefixLen)
      (SameBlock (8 * 16) prefixLen.toNat network.toNat addr.toNat) := by
  unfold addrInPrefixV6
  rw [Nat.min_eq_left valid]
  simp only [toNat_eq_zero_iff]
  have masked := @tells_masked 16 addr network prefixLen.toNat valid
  by_cases full : prefixLen.toNat = 128
  · have whole : maskOf (8 * 16) prefixLen.toNat = .ok (2 ^ 128 - 1) := by
      rw [full]
      rfl
    rw [whole] at masked
    rw [if_pos full]
    exact masked
  · rw [if_neg full]
    exact masked

end Calls

/-! ### One notion of a prefix -/

/-- What the functions of one family are asked: a prefix, another one whose address is also the one
to be tested, and local subnets. No prefix is longer than an address; addresses may have host bits.
-/
structure PrefixQuery (size : Nat) where
  ip : Octets size
  prefixLen : UInt8
  other : Octets size
  otherLen : UInt8
  subnets : List (Octets size × UInt8)
  valid : prefixLen.toNat ≤ 8 * size
  otherValid : otherLen.toNat ≤ 8 * size
  subnetsValid : ∀ subnet ∈ subnets, subnet.2.toNat ≤ 8 * size

namespace PrefixQuery

/-- The numbers of the prefix. -/
def block (query : PrefixQuery size) : Set Nat :=
  Prefix.block (8 * size) query.prefixLen.toNat query.ip.toNat

/-- The numbers of the other prefix. -/
def otherBlock (query : PrefixQuery size) : Set Nat :=
  Prefix.block (8 * size) query.otherLen.toNat query.other.toNat

/-- Those of the functions of a family that ask for a length of 0 agree with the blocks. -/
structure GuardedAgree (query : PrefixQuery size)
    (addrInPrefix : Octets size → Octets size → UInt8 → Checked Empty Bool)
    (wrap : Octets size → IpAddr) : Prop where
  intersects : Tells
    (Linux.intersectsChecked query.ip query.prefixLen query.other query.otherLen)
    (query.block ∩ query.otherBlock).Nonempty
  hasNext : Tells (hasNextAddrChecked (8 * size) query.ip.toNat query.prefixLen.toNat)
    (query.ip.toNat + 1 ∈ query.block)
  inLocalSubnets : Tells (ipInLocalSubnetsChecked query.other query.subnets)
    (∃ subnet ∈ query.subnets,
      query.other.toNat ∈ Prefix.block (8 * size) subnet.2.toNat subnet.1.toNat)
  inPrefix : Tells (addrInPrefix query.other query.ip query.prefixLen)
    (query.other.toNat ∈ query.block)
  inSubnet : Tells (ipInSubnet (wrap query.ip) query.prefixLen (wrap query.other))
    (query.other.toNat ∈ query.block)

/-- All functions of a family agree with the blocks. -/
structure Agrees (query : PrefixQuery size)
    (addrInPrefix : Octets size → Octets size → UInt8 → Checked Empty Bool)
    (wrap : Octets size → IpAddr) : Prop where
  network : ∃ net, Linux.network query.ip query.prefixLen = .ok net
    ∧ net.toNat = blockStart (8 * size) query.prefixLen.toNat query.ip.toNat
  contains : Tells
    (Linux.prefixContains (query.ip, query.prefixLen) (query.other, query.otherLen))
    (query.otherBlock ⊆ query.block)
  guarded : GuardedAgree query addrInPrefix wrap

variable {query : PrefixQuery size}
  {addrInPrefix : Octets size → Octets size → UInt8 → Checked Empty Bool}
  {wrap : Octets size → IpAddr}

/-- **The functions that ask** agree at every length. -/
theorem guardedAgree (positive : 0 < size)
    (inPrefix : Tells (addrInPrefix query.other query.ip query.prefixLen)
      (SameBlock (8 * size) query.prefixLen.toNat query.ip.toNat query.other.toNat))
    (inSubnet : ipInSubnet (wrap query.ip) query.prefixLen (wrap query.other)
      = RsTun.inSubnet (8 * size) query.ip.toNat query.prefixLen.toNat query.other.toNat) :
    GuardedAgree query addrInPrefix wrap where
  intersects := by
    refine ⟨_, intersectsChecked_eq_ok positive, ?_⟩
    rw [Linux.intersects_iff query.valid query.otherValid, block, otherBlock,
      block_inter_nonempty_iff query.valid query.otherValid]
  hasNext := by
    have fits := Linux.toNat_lt_two_pow query.ip
    refine ⟨_, hasNextAddrChecked_eq_ok (by omega) fits, ?_⟩
    rw [hasNextAddr_iff query.valid fits, block, succ_mem_block_iff]
  inLocalSubnets := by
    refine tells_anyM fun subnet member => ?_
    have valid := query.subnetsValid subnet member
    unfold inLocalSubnet
    rw [Nat.min_eq_left valid]
    exact (tells_masked valid).congr mem_block_iff.symm
  inPrefix := inPrefix.congr mem_block_iff.symm
  inSubnet := by
    rw [inSubnet]
    exact (tells_inSubnet query.valid).congr mem_block_iff.symm

/-- **A family agrees** exactly when the prefix does not have length 0. -/
theorem agrees_iff (guarded : GuardedAgree query addrInPrefix wrap) :
    Agrees query addrInPrefix wrap ↔ query.prefixLen ≠ 0 := by
  constructor
  · rintro ⟨⟨net, returned, -⟩, -, -⟩ zero
    rw [zero, Linux.network_zero] at returned
    cases returned
  · intro nonzero
    refine ⟨⟨_, Linux.network_eq_ok nonzero query.valid, ?_⟩, ?_, guarded⟩
    · exact Linux.toNat_ofNat_of_lt
        (lt_of_le_of_lt (Nat.div_mul_le_self _ _) (Linux.toNat_lt_two_pow query.ip))
    · refine Tells.congr ?_ (block_subset_iff query.otherValid query.valid).symm
      by_cases shorter : query.prefixLen ≤ query.otherLen
      · refine ⟨_, Linux.prefixContains_eq_ok nonzero query.valid shorter, ?_⟩
        rw [decide_eq_true_iff, and_iff_right (UInt8.le_iff_toNat_le.mp shorter)]
      · refine ⟨false, ?_, iff_of_false nofun fun both =>
          shorter (UInt8.le_iff_toNat_le.mpr both.1)⟩
        rw [Linux.prefixContains]
        simp only [bind, Except.bind]
        rw [if_pos (UInt8.not_le.mp shorter)]
        rfl

end PrefixQuery

/-- All copies of the prefix arithmetic agree with the blocks; and an address of the other family is
in no subnet. -/
structure OneNotion (queryV4 : PrefixQuery 4) (queryV6 : PrefixQuery 16) : Prop where
  v4 : queryV4.Agrees addrInPrefixV4 .v4
  v6 : queryV6.Agrees addrInPrefixV6 .v6
  broadcast : ∃ last, broadcastAddrV4Checked queryV4.ip queryV4.prefixLen = .ok last
    ∧ last.toNat = blockStart 32 queryV4.prefixLen.toNat queryV4.ip.toNat
      + (blockSize 32 queryV4.prefixLen.toNat - 1)
  mixed : ipInSubnet (.v4 queryV4.ip) queryV4.prefixLen (.v6 queryV6.other) = .ok false
    ∧ ipInSubnet (.v6 queryV6.ip) queryV6.prefixLen (.v4 queryV4.other) = .ok false

/-- **The copies are one notion of a prefix** if and only if the prefix that `v4_network`,
`v6_network`, `prefix_contains_v4` and `prefix_contains_v6` mask with does not have length 0. -/
theorem oneNotion_iff (queryV4 : PrefixQuery 4) (queryV6 : PrefixQuery 16) :
    OneNotion queryV4 queryV6 ↔ queryV4.prefixLen ≠ 0 ∧ queryV6.prefixLen ≠ 0 := by
  have guardedV4 : queryV4.GuardedAgree addrInPrefixV4 .v4 :=
    PrefixQuery.guardedAgree (by decide) (tells_addrInPrefixV4 queryV4.valid) rfl
  have guardedV6 : queryV6.GuardedAgree addrInPrefixV6 .v6 :=
    PrefixQuery.guardedAgree (by decide) (tells_addrInPrefixV6 queryV6.valid) rfl
  constructor
  · intro one
    exact ⟨(PrefixQuery.agrees_iff guardedV4).mp one.v4,
      (PrefixQuery.agrees_iff guardedV6).mp one.v6⟩
  · rintro ⟨nonzero, nonzero'⟩
    exact ⟨(PrefixQuery.agrees_iff guardedV4).mpr nonzero,
      (PrefixQuery.agrees_iff guardedV6).mpr nonzero',
      ⟨_, broadcastAddrV4Checked_eq_ok, broadcastAddrV4_toNat queryV4.valid⟩, rfl, rfl⟩

/-- The default route, as a query of either family. -/
def wholeQuery (size : Nat) : PrefixQuery size :=
  ⟨.ofNat size 0, 0, .ofNat size 1, 0, [], Nat.zero_le _, Nat.zero_le _, List.forall_mem_nil _⟩

/-- **Length 0**: `0.0.0.0/0` has no network, and is asked in vain whether it contains another
prefix. -/
theorem whole_prefix_panics :
    Linux.network (Octets.ofNat 4 0) 0 = .error .panicked
      ∧ Linux.prefixContains (Octets.ofNat 4 0, 0) (Octets.ofNat 4 1, 0) = .error .panicked
      ∧ ¬ ∀ queryV4 queryV6, OneNotion queryV4 queryV6 := by
  refine ⟨Linux.network_zero _, Linux.prefixContains_zero (.ofNat 4 0) (.ofNat 4 1, 0),
    fun all => ?_⟩
  obtain ⟨net, returned, -⟩ := (all (wholeQuery 4) (wholeQuery 16)).v4.network
  rw [show (wholeQuery 4).prefixLen = 0 from rfl, Linux.network_zero] at returned
  cases returned

end RsTun
