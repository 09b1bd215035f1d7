/-
**Subnet arithmetic: the broadcast address, and whether there is a next address.**

* `broadcastAddrV4_toNat` — the broadcast address is the last one of the block.
* `hasNextAddrV4_iff` — an address has a next one exactly when it is not the last of its block, for
  every prefix length, the lengths 0 and 32 included.
* `ipInLocalSubnets_iff` — an address is in a local subnet exactly when it shares the block of one.
-/

import RsTun.Library.Prefix
import RsTun.Net.Addr

namespace RsTun

open Library Library.Prefix

/-- `broadcast_addr_v4`. -/
def broadcastAddrV4 (network : Ipv4Addr) (prefixLen : UInt8) : Ipv4Addr :=
  let mask := if prefixLen.toNat = 0 then 0
    else complement 32 ((1 <<< (32 - min prefixLen.toNat 32)) - 1)
  let net := network.toNat &&& mask
  Octets.ofNat 4 (net ||| complement 32 mask)

/-- `has_next_addr_v4` on 32 bits, `has_next_addr_v6` on 128. -/
def hasNextAddr (width cur prefixLen : Nat) : Bool :=
  if cur = 2 ^ width - 1 then false
  else
    let next := cur + 1
    if prefixLen = 0 then true
    else
      let mask := complement width ((1 <<< (width - min prefixLen width)) - 1)
      cur &&& mask == next &&& mask

/-- `has_next_addr_v4`. -/
def hasNextAddrV4 (ip : Ipv4Addr) (prefixLen : UInt8) : Bool :=
  hasNextAddr 32 ip.toNat prefixLen.toNat

/-- `has_next_addr_v6`. -/
def hasNextAddrV6 (ip : Ipv6Addr) (prefixLen : UInt8) : Bool :=
  hasNextAddr 128 ip.toNat prefixLen.toNat

/-- `ip_in_local_subnets_v4` on 4 octets, `ip_in_local_subnets_v6` on 16. -/
def ipInLocalSubnets {size : Nat} (addr : Octets size) (subnets : List (Octets size × UInt8)) :
    Bool :=
  subnets.any fun subnet =>
    let pl := min subnet.2.toNat (8 * size)
    if pl = 0 then true
    else
      let mask := complement (8 * size) ((1 <<< (8 * size - pl)) - 1)
      addr.toNat &&& mask == subnet.1.toNat &&& mask

/-- `ip_in_local_subnets_v4`. -/
def ipInLocalSubnetsV4 (addr : Ipv4Addr) (subnets : List (Ipv4Addr × UInt8)) : Bool :=
  ipInLocalSubnets addr subnets

/-- `ip_in_local_subnets_v6`. -/
def ipInLocalSubnetsV6 (addr : Ipv6Addr) (subnets : List (Ipv6Addr × UInt8)) : Bool :=
  ipInLocalSubnets addr subnets

theorem Ipv4Addr.toNat_lt_two_pow (addr : Ipv4Addr) : addr.toNat < 2 ^ 32 :=
  lt_of_lt_of_eq addr.toNat_lt (by norm_num)

/-- **The broadcast address is the last of the block.** -/
theorem broadcastAddrV4_toNat {network : Ipv4Addr} {prefixLen : UInt8}
    (valid : prefixLen.toNat ≤ 32) : (broadcastAddrV4 network prefixLen).toNat
      = blockStart 32 prefixLen.toNat network.toNat + (blockSize 32 prefixLen.toNat - 1) := by
  have masked : (if prefixLen.toNat = 0 then 0
      else complement 32 ((1 <<< (32 - min prefixLen.toNat 32)) - 1))
      = mask 32 prefixLen.toNat := by
    rw [mask, Nat.min_eq_left valid]
  have whole : blockStart 32 prefixLen.toNat network.toNat
      + (blockSize 32 prefixLen.toNat - 1) < 2 ^ 32 := by
    have split : 2 ^ 32 = 2 ^ prefixLen.toNat * blockSize 32 prefixLen.toNat := by
      rw [blockSize, ← pow_add, Nat.add_sub_cancel' valid]
    have fewer : network.toNat / blockSize 32 prefixLen.toNat < 2 ^ prefixLen.toNat := by
      rw [Nat.div_lt_iff_lt_mul (blockSize_pos _ _), ← split]
      exact Ipv4Addr.toNat_lt_two_pow network
    have positive := blockSize_pos 32 prefixLen.toNat
    rw [split]
    calc blockStart 32 prefixLen.toNat network.toNat + (blockSize 32 prefixLen.toNat - 1)
        < network.toNat / blockSize 32 prefixLen.toNat * blockSize 32 prefixLen.toNat
          + blockSize 32 prefixLen.toNat := by
          rw [blockStart]
          omega
      _ = (network.toNat / blockSize 32 prefixLen.toNat + 1) * blockSize 32 prefixLen.toNat :=
          (Nat.succ_mul _ _).symm
      _ ≤ 2 ^ prefixLen.toNat * blockSize 32 prefixLen.toNat := Nat.mul_le_mul_right _ fewer
  rw [broadcastAddrV4, masked, and_mask valid (Ipv4Addr.toNat_lt_two_pow network),
    or_complement_mask, Octets.toNat_ofNat]
  exact Nat.mod_eq_of_lt (by norm_num at whole ⊢; exact whole)

/-- **There is a next address** exactly when the address is not the last of its block. -/
theorem hasNextAddr_iff {width cur prefixLen : Nat} (valid : prefixLen ≤ width)
    (fits : cur < 2 ^ width) : hasNextAddr width cur prefixLen = true
      ↔ hostPart width prefixLen cur + 1 < blockSize width prefixLen := by
  unfold hasNextAddr
  by_cases last : cur = 2 ^ width - 1
  · rw [if_pos last]
    refine ⟨fun impossible => absurd impossible (by simp), fun room => ?_⟩
    -- the last address of all is the last of its block
    have split : 2 ^ width = 2 ^ prefixLen * blockSize width prefixLen := by
      rw [blockSize, ← pow_add, Nat.add_sub_cancel' valid]
    have divides : blockSize width prefixLen ∣ cur + 1 := by
      rw [last, Nat.sub_add_cancel (Nat.two_pow_pos _), split]
      exact Nat.dvd_mul_left _ _
    have same := same_block_succ_iff.mpr room
    have next := blockStart_add_hostPart width prefixLen (cur + 1)
    have here := blockStart_add_hostPart width prefixLen cur
    have zero : hostPart width prefixLen (cur + 1) = 0 := Nat.mod_eq_zero_of_dvd divides
    omega
  · rw [if_neg last]
    by_cases none : prefixLen = 0
    · rw [if_pos none, none, hostPart, blockSize, Nat.sub_zero, Nat.mod_eq_of_lt fits]
      exact ⟨fun _ => by omega, fun _ => rfl⟩
    · have masked : complement width ((1 <<< (width - min prefixLen width)) - 1)
          = mask width prefixLen := by
        rw [mask, if_neg none, Nat.min_eq_left valid]
      rw [if_neg none, masked, beq_iff_eq, and_mask valid fits, and_mask valid (by omega)]
      exact same_block_succ_iff

theorem hasNextAddrV4_iff {ip : Ipv4Addr} {prefixLen : UInt8} (valid : prefixLen.toNat ≤ 32) :
    hasNextAddrV4 ip prefixLen = true
      ↔ hostPart 32 prefixLen.toNat ip.toNat + 1 < blockSize 32 prefixLen.toNat :=
  hasNextAddr_iff valid (Ipv4Addr.toNat_lt_two_pow ip)

/-- **Membership in the local subnets**: the address and the subnet have one first address. -/
theorem ipInLocalSubnets_iff {size : Nat} {addr : Octets size}
    {subnets : List (Octets size × UInt8)} :
    ipInLocalSubnets addr subnets = true ↔ ∃ subnet ∈ subnets,
      blockStart (8 * size) (min subnet.2.toNat (8 * size)) addr.toNat
        = blockStart (8 * size) (min subnet.2.toNat (8 * size)) subnet.1.toNat := by
  have fits : ∀ other : Octets size, other.toNat < 2 ^ (8 * size) := by
    intro other
    have bound := other.toNat_lt
    rwa [show 256 = 2 ^ 8 by norm_num, ← pow_mul] at bound
  unfold ipInLocalSubnets
  rw [List.any_eq_true]
  apply exists_congr
  intro subnet
  refine and_congr_right fun _ => ?_
  have valid : min subnet.2.toNat (8 * size) ≤ 8 * size := Nat.min_le_right _ _
  rw [← and_mask valid (fits addr), ← and_mask valid (fits subnet.1), mask]
  by_cases none : min subnet.2.toNat (8 * size) = 0
  · simp only [if_pos none, Nat.and_zero]
  · simp only [if_neg none, beq_iff_eq]

end RsTun
