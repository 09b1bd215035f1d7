/-
**The routes that macOS gets.**

`setup` adds routes to the TUN, for the whole of a family as eight ranges, since the default route
is taken, and then routes over the default gateway for the excluded prefixes. `route add` fails
where the prefix has a route. `teardown` deletes the prefixes again. The functions for the two
families are one definition over the number of octets.

* `ipv4SubRanges_keys`, `ipv6SubRanges_keys` — the ranges are the prefixes of up to eight bits that
  end in their first one.
* **`takes_tun_iff`** — with the default ranges an address takes the TUN exactly when its first
  octet is not zero, and no longer prefix with a route of the table or of an exclusion covers it.
* **`routes_restored_iff`** — `teardown` brings every table back exactly when none of the prefixes
  that it deletes had a route before.
-/

import RsTun.Config.TunInboundConfig
import RsTun.Library.RouteMap

namespace RsTun.Macos

open Library Library.Prefix Library.RouteMap

/-- Where a route leads: `-interface`, or a gateway. -/
inductive Hop where
  | interface (name : String)
  | gateway (addr : IpAddr)
  deriving DecidableEq

/-- A prefix `(addr, len)`, which may have host bits. -/
abbrev Subnet (size : Nat) := Octets size × UInt8

/-- `IPV4_SUB_RANGES`. -/
def ipv4SubRanges : List (Subnet 4) :=
  [(Ipv4Addr.new 1 0 0 0, 8), (Ipv4Addr.new 2 0 0 0, 7), (Ipv4Addr.new 4 0 0 0, 6),
    (Ipv4Addr.new 8 0 0 0, 5), (Ipv4Addr.new 16 0 0 0, 4), (Ipv4Addr.new 32 0 0 0, 3),
    (Ipv4Addr.new 64 0 0 0, 2), (Ipv4Addr.new 128 0 0 0, 1)]

/-- The IPv6 address whose first 16 bits are given. -/
def ipv6Of (bits : Nat) : Ipv6Addr := .ofNat 16 (bits <<< 112)

/-- `IPV6_SUB_RANGES`. -/
def ipv6SubRanges : List (Subnet 16) :=
  [(ipv6Of 0x100, 8), (ipv6Of 0x200, 7), (ipv6Of 0x400, 6), (ipv6Of 0x800, 5), (ipv6Of 0x1000, 4),
    (ipv6Of 0x2000, 3), (ipv6Of 0x4000, 2), (ipv6Of 0x8000, 1)]

/-- The prefix that the kernel keeps a route under: without the host bits. -/
def keyOf {size : Nat} (subnet : Subnet size) : Key :=
  keyAt (8 * size) subnet.2.toNat subnet.1.toNat

/-- A family: its prefixes among texts, its addresses, and its ranges. -/
structure Family (size : Nat) where
  prefixes : StdText → List String → List (Subnet size)
  has : IpAddr → Bool
  subRanges : List (Subnet size)
  valid : ∀ {std texts}, ∀ subnet ∈ prefixes std texts, subnet.2.toNat ≤ 8 * size
  nothing : ∀ {std}, prefixes std [] = []
  sized : 0 < size
  ranges : subRanges.map keyOf = (List.range 8).map fun index => (8 - index, 1)

theorem prefixesV4_nil {std : StdText} : prefixesV4 std [] = [] := rfl

theorem prefixesV6_nil {std : StdText} : prefixesV6 std [] = [] := rfl

theorem ipv4SubRanges_keys :
    ipv4SubRanges.map keyOf = (List.range 8).map fun index => (8 - index, 1) := by
  decide +kernel

theorem ipv6SubRanges_keys :
    ipv6SubRanges.map keyOf = (List.range 8).map fun index => (8 - index, 1) := by
  decide +kernel

/-- IPv4. -/
def v4 : Family 4 where
  prefixes := prefixesV4
  has addr := match addr with
    | .v4 _ => true
    | .v6 _ => false
  subRanges := ipv4SubRanges
  valid _ member := prefixesV4_valid _ member
  nothing := prefixesV4_nil
  sized := Nat.zero_lt_succ _
  ranges := ipv4SubRanges_keys

/-- IPv6. -/
def v6 : Family 16 where
  prefixes := prefixesV6
  has addr := match addr with
    | .v4 _ => false
    | .v6 _ => true
  subRanges := ipv6SubRanges
  valid _ member := prefixesV6_valid _ member
  nothing := prefixesV6_nil
  sized := Nat.zero_lt_succ _
  ranges := ipv6SubRanges_keys

section Setup

variable {size : Nat} (family : Family size) (std : StdText) (cfg : TunInboundConfig)

/-- `has_v4`, `has_v6`. -/
def hasFamily : Bool :=
  cfg.address.any fun a => ((parseAddrPrefix std a).map fun (ip, _) => family.has ip).getD false

/-- `tun_routes_v4`, `tun_routes_v6`. -/
def tunRoutes : List (Subnet size) :=
  if cfg.routeAddress ≠ [] then family.prefixes std cfg.routeAddress else family.subRanges

/-- `exclude_routes_v4`, `exclude_routes_v6`. -/
def excludeRoutes : List (Subnet size) := family.prefixes std cfg.routeExcludeAddress

/-- `setup`, on the table of a family: the commands in turn, and what `SetupState` has of them.
`gateway` is what `get_default_gateway_v4` or `get_default_gateway_v6` finds. -/
def setup (ifName : String) (gateway : Option IpAddr) : List (Command Hop) × List (Subnet size) :=
  let routes := if hasFamily family std cfg then tunRoutes family std cfg else []
  let excludes :=
    if cfg.routeExcludeAddress ≠ [] then
      if hasFamily family std cfg then
        match gateway with
        | some gw => (excludeRoutes family std cfg).map fun cidr => .add (keyOf cidr) (.gateway gw)
        | none => []
      else []
    else []
  (routes.map (fun cidr => .add (keyOf cidr) (.interface ifName)) ++ excludes, routes)

/-- `teardown`. -/
def teardown (routes : List (Subnet size)) : List (Command Hop) :=
  (if hasFamily family std cfg then routes.map fun cidr => .delete (keyOf cidr) else [])
    ++ if cfg.routeExcludeAddress ≠ [] then
      (excludeRoutes family std cfg).map fun cidr => .delete (keyOf cidr) else []

/-- The table behind `setup`. -/
def tableAfter (ifName : String) (gateway : Option IpAddr) (table : Table Hop) : Table Hop :=
  applyAll table (setup family std cfg ifName gateway).1

/-- The prefixes of the routes that `setup` adds over the gateway. -/
def bypassed (gateway : Option IpAddr) : List (Subnet size) :=
  if gateway.isSome = true then excludeRoutes family std cfg else []

end Setup

variable {size : Nat} {family : Family size} {std : StdText} {cfg : TunInboundConfig}
  {ifName : String} {gateway : Option IpAddr} {table : Table Hop}

/-! ### What is there behind setup -/

/-- **The routes behind setup**: what was there, then the TUN, then the gateway. -/
theorem tableAfter_eq (present : hasFamily family std cfg = true) (key : Key) :
    ∃ hop, hop ≠ .interface ifName ∧ tableAfter family std cfg ifName gateway table key
      = ((table key).or
        (if key ∈ (tunRoutes family std cfg).map keyOf then some (.interface ifName) else none)).or
        (if key ∈ (bypassed family std cfg gateway).map keyOf then some hop else none) := by
  have added {routes : List (Subnet size)} {hop : Hop} {before : Table Hop} :
      applyAll before (routes.map fun cidr => .add (keyOf cidr) hop) key
        = (before key).or (if key ∈ routes.map keyOf then some hop else none) := by
    have mapped : routes.map (fun cidr => Command.add (keyOf cidr) hop)
        = (routes.map keyOf).map fun key => Command.add key hop := by
      rw [List.map_map]
      rfl
    rw [mapped, applyAll_adds]
  unfold tableAfter setup bypassed
  dsimp only
  rw [if_pos present, if_pos present, applyAll_append]
  cases gateway with
  | none =>
      refine ⟨.gateway (.v4 (.ofNat 4 0)), (fun same => by cases same), ?_⟩
      dsimp only
      rw [ite_self, Option.isSome_none, if_neg Bool.false_ne_true, List.map_nil,
        if_neg List.not_mem_nil, Option.or_none]
      exact added
  | some gw =>
      refine ⟨.gateway gw, (fun same => by cases same), ?_⟩
      rw [Option.isSome_some, if_pos rfl]
      by_cases empty : cfg.routeExcludeAddress = []
      · rw [if_neg (not_not.mpr empty), excludeRoutes, empty, family.nothing, List.map_nil,
          if_neg List.not_mem_nil, Option.or_none]
        exact added
      · rw [if_pos empty]
        dsimp only
        rw [added, added]

/-! ### The default ranges -/

/-- The length of the range that an address lies in, if its first octet is not zero. -/
def rangeLength {size : Nat} (addr : Octets size) : Nat := 8 * size - Nat.log2 addr.toNat

/-- **The ranges**: a prefix of an address is one of them exactly when the first octet of the
address is not zero and the prefix ends in the first bit that is set. -/
theorem mem_subRanges_iff {addr : Octets size} {length : Nat} (fits : length ≤ 8 * size) :
    keyAt (8 * size) length addr.toNat ∈ family.subRanges.map keyOf
      ↔ 2 ^ (8 * size - 8) ≤ addr.toNat ∧ length = rangeLength addr := by
  have sized := family.sized
  have small : addr.toNat < 2 ^ (8 * size) := by
    have bound := addr.toNat_lt
    rwa [show (256 : Nat) = 2 ^ 8 from rfl, ← pow_mul] at bound
  have listed : keyAt (8 * size) length addr.toNat ∈ family.subRanges.map keyOf
      ↔ (1 ≤ length ∧ length ≤ 8) ∧ addr.toNat / 2 ^ (8 * size - length) = 1 := by
    rw [family.ranges, List.mem_map]
    constructor
    · rintro ⟨index, inside, same⟩
      have below := List.mem_range.mp inside
      obtain ⟨first, second⟩ := Prod.mk.inj same
      exact ⟨by omega, second.symm⟩
    · rintro ⟨⟨low, high⟩, one⟩
      refine ⟨8 - length, List.mem_range.mpr (by omega), Prod.ext ?_ one.symm⟩
      exact Nat.sub_sub_self high
  have quotient : addr.toNat / 2 ^ (8 * size - length) = 1
      ↔ addr.toNat ≠ 0 ∧ Nat.log2 addr.toNat = 8 * size - length := by
    rw [Nat.div_eq_iff (Nat.two_pow_pos _)]
    by_cases zero : addr.toNat = 0
    · have positive := Nat.two_pow_pos (8 * size - length)
      rw [zero]
      exact iff_of_false (by omega) fun both => both.1 rfl
    · rw [Nat.log2_eq_iff zero, pow_succ]
      omega
  rw [listed, quotient, rangeLength]
  by_cases zero : addr.toNat = 0
  · have positive := Nat.two_pow_pos (8 * size - 8)
    rw [zero]
    exact iff_of_false (fun both => both.2.1 rfl) fun both => by omega
  · have high := (Nat.log2_lt zero).mpr small
    rw [← Nat.le_log2 zero]
    omega

/-- **Where the default ranges lead an address.** For a table that has no route to the TUN for it,
behind `setup` it takes the TUN exactly when its first octet is not zero, the table has no route for
it that is as long as its range or longer, and no exclusion that covers it is longer than that. -/
theorem takes_tun_iff (size : Nat) (family : Family size) (std : StdText) (cfg : TunInboundConfig)
    (ifName : String) (gateway : Option IpAddr) (table : Table Hop) (addr : Octets size)
    (present : hasFamily family std cfg = true) (all : cfg.routeAddress = [])
    (outside : ∀ length, table (keyAt (8 * size) length addr.toNat) ≠ some (.interface ifName)) :
    lookup (8 * size) (tableAfter family std cfg ifName gateway table) addr.toNat
        = some (.interface ifName)
      ↔ 2 ^ (8 * size - 8) ≤ addr.toNat
        ∧ (∀ length ≤ 8 * size, rangeLength addr ≤ length →
          table (keyAt (8 * size) length addr.toNat) = none)
        ∧ ∀ exclude ∈ bypassed family std cfg gateway,
          SameBlock (8 * size) exclude.2.toNat exclude.1.toNat addr.toNat →
            exclude.2.toNat ≤ rangeLength addr := by
  have routes : tunRoutes family std cfg = family.subRanges := if_neg (not_not.mpr all)
  have covers {exclude : Subnet size} {length : Nat} :
      keyOf exclude = keyAt (8 * size) length addr.toNat ↔ exclude.2.toNat = length
        ∧ SameBlock (8 * size) exclude.2.toNat exclude.1.toNat addr.toNat := keyAt_eq_iff
  rw [lookup_eq_some_iff]
  constructor
  · rintro ⟨length, fits, found, longest⟩
    have free : ∀ longer ≤ 8 * size, length < longer →
        table (keyAt (8 * size) longer addr.toNat) = none
          ∧ keyAt (8 * size) longer addr.toNat ∉ (bypassed family std cfg gateway).map keyOf := by
      intro longer fits' longer'
      have nothing := longest longer fits' longer'
      obtain ⟨hop, -, after⟩ := @tableAfter_eq size family std cfg ifName gateway table present
        (keyAt (8 * size) longer addr.toNat)
      rw [after, Option.or_eq_none_iff, Option.or_eq_none_iff] at nothing
      refine ⟨nothing.1.1, fun member => ?_⟩
      rw [if_pos member] at nothing
      cases nothing.2
    obtain ⟨hop, other, after⟩ := @tableAfter_eq size family std cfg ifName gateway table present
      (keyAt (8 * size) length addr.toNat)
    rw [after] at found
    have before : table (keyAt (8 * size) length addr.toNat) = none := by
      cases held : table (keyAt (8 * size) length addr.toNat) with
      | none => rfl
      | some hop' =>
          rw [held] at found
          exact absurd (held.trans found) (outside length)
    rw [before, Option.none_or, routes] at found
    by_cases range : keyAt (8 * size) length addr.toNat ∈ family.subRanges.map keyOf
    · obtain ⟨octet, exactly⟩ := (mem_subRanges_iff fits).mp range
      refine ⟨octet, fun longer fits' le => ?_, fun exclude member same => ?_⟩
      · rcases Nat.lt_or_eq_of_le le with longer' | rfl
        · exact (free longer fits' (exactly ▸ longer')).1
        · exact exactly ▸ before
      · by_contra further
        refine (free exclude.2.toNat ?_ (exactly ▸ Nat.lt_of_not_le further)).2 ?_
        · unfold bypassed at member
          split at member
          · exact family.valid exclude member
          · cases member
        · exact List.mem_map.mpr ⟨exclude, member, covers.mpr ⟨rfl, same⟩⟩
    · rw [if_neg range, Option.none_or] at found
      split at found
      · exact absurd (Option.some.inj found) other
      · cases found
  · rintro ⟨octet, free, shorter⟩
    have fits : rangeLength addr ≤ 8 * size := Nat.sub_le _ _
    refine ⟨rangeLength addr, fits, ?_, fun longer fits' longer' => ?_⟩
    · obtain ⟨hop, -, after⟩ := @tableAfter_eq size family std cfg ifName gateway table present
        (keyAt (8 * size) (rangeLength addr) addr.toNat)
      rw [after, free _ fits (Nat.le_refl _), routes,
        if_pos ((mem_subRanges_iff fits).mpr ⟨octet, rfl⟩)]
      rfl
    · obtain ⟨hop, -, after⟩ := @tableAfter_eq size family std cfg ifName gateway table present
        (keyAt (8 * size) longer addr.toNat)
      have range : keyAt (8 * size) longer addr.toNat ∉ family.subRanges.map keyOf := fun member =>
        longer'.ne' ((mem_subRanges_iff fits').mp member).2
      have excluded : keyAt (8 * size) longer addr.toNat
          ∉ (bypassed family std cfg gateway).map keyOf := by
        intro member
        obtain ⟨exclude, listed, same⟩ := List.mem_map.mp member
        obtain ⟨exactly, block⟩ := covers.mp same
        have small := shorter exclude listed block
        omega
      rw [after, free longer fits' longer'.le, routes, if_neg range, if_neg excluded]
      rfl

/-- Parsers that know the texts of the sample. -/
def sampleRouteTexts : StdText where
  parseIpAddr text := if text = "172.19.0.1" then some (.v4 (.new 172 19 0 1))
    else if text = "10.0.0.0" then some (.v4 (.new 10 0 0 0)) else none
  parseU8 text := if text = "30" then some 30 else if text = "8" then some 8 else none
  parseU32 _ := none

/-- A TUN that leaves a private network out. -/
def sampleExclusion : TunInboundConfig :=
  { TunInboundConfig.minimal "tun" ["172.19.0.1/30"] with routeExcludeAddress := ["10.0.0.0/8"] }

/-- The table of a host behind a router. -/
def sampleDefaultRoute : Table Hop := fun key =>
  if key = (0, 0) then some (.gateway (.v4 (.new 192 168 1 1))) else none

theorem takes_tun_iff_sample :
    lookup 32 (tableAfter v4 sampleRouteTexts sampleExclusion "utun4"
        (some (.v4 (.new 192 168 1 1))) sampleDefaultRoute) (Ipv4Addr.new 8 8 8 8).toNat
      = some (.interface "utun4") := by
  refine (takes_tun_iff 4 v4 sampleRouteTexts sampleExclusion "utun4"
    (some (.v4 (.new 192 168 1 1))) sampleDefaultRoute (Ipv4Addr.new 8 8 8 8) (by decide +kernel)
    rfl fun length => ?_).mpr ⟨by decide +kernel, fun length _ long => ?_, by decide +kernel⟩
  · unfold sampleDefaultRoute
    split
    · exact fun same => by cases same
    · exact fun same => by cases same
  · refine if_neg fun same => ?_
    have zero : length = 0 := (Prod.mk.inj same).1
    have range : rangeLength (Ipv4Addr.new 8 8 8 8) = 5 := by decide +kernel
    omega

/-! ### Taking the routes back -/

/-- The prefixes whose routes `teardown` deletes. -/
def deleted {size : Nat} (family : Family size) (std : StdText) (cfg : TunInboundConfig) :
    List (Subnet size) :=
  (if hasFamily family std cfg then tunRoutes family std cfg else [])
    ++ excludeRoutes family std cfg

theorem teardown_eq : teardown family std cfg (setup family std cfg ifName gateway).2
    = ((deleted family std cfg).map keyOf).map .delete := by
  rw [teardown, deleted, List.map_map, List.map_append]
  unfold setup
  congr 1
  · split
    · rfl
    · rfl
  · split
    · rfl
    · rename_i empty
      rw [excludeRoutes, not_not.mp empty, family.nothing]
      rfl

/-- **`teardown` undoes `setup`** on a table exactly when none of the prefixes that it deletes had a
route before. -/
theorem routes_restored_iff (size : Nat) (family : Family size) (std : StdText)
    (cfg : TunInboundConfig) (ifName : String) (gateway : Option IpAddr) (table : Table Hop) :
    applyAll (tableAfter family std cfg ifName gateway table)
        (teardown family std cfg (setup family std cfg ifName gateway).2) = table
      ↔ ∀ subnet ∈ deleted family std cfg, table (keyOf subnet) = none := by
  rw [teardown_eq, applyAll_undone_iff, List.forall_mem_map]
  intro key apart
  by_cases present : hasFamily family std cfg = true
  · obtain ⟨hop, -, after⟩ := @tableAfter_eq size family std cfg ifName gateway table present key
    rw [deleted, if_pos present, List.map_append, List.mem_append, not_or] at apart
    have bypass : key ∉ (bypassed family std cfg gateway).map keyOf := by
      unfold bypassed
      split
      · exact apart.2
      · exact List.not_mem_nil
    rw [after, if_neg apart.1, if_neg bypass, Option.or_none, Option.or_none]
  · have idle : (setup family std cfg ifName gateway).1 = [] := by
      unfold setup
      dsimp only
      rw [if_neg present, if_neg present, ite_self]
      rfl
    rw [tableAfter, idle]
    rfl

end RsTun.Macos
