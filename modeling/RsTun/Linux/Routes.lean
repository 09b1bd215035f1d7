/-
**The routes of the TUN table: route prefixes less excluded prefixes.**

`split_subtract` halves a route prefix until a part lies within an excluded prefix, or meets none.
The functions for the two families are one definition over the number of octets. Arithmetic is that
of a build with overflow checks: a shift by the whole width panics.

* `splitSubtract_spec` — what the halving of one route denotes: the route less the excluded
  addresses, and less what it loses (`Loses`).
* **`finalRoute_difference_iff`** — the routes denote exactly the difference if and only if no shift
  overflows and what one route loses another keeps.
-/

import RsTun.Config.TunInboundConfig
import RsTun.Library.Checked
import RsTun.Library.Prefix

namespace RsTun.Linux

open Library Library.Prefix

/-- A prefix `(net, pl)`; `net` may have host bits. -/
abbrev Subnet (size : Nat) := Octets size × UInt8

variable {size : Nat}

/-- `v4_network`, `v6_network`. -/
def network (ip : Octets size) (pl : UInt8) : Checked Empty (Octets size) := do
  let bit ← Checked.shiftOne (8 * size) (8 * size - min pl.toNat (8 * size))
  return .ofNat size (ip.toNat &&& complement (8 * size) (bit - 1))

/-- `prefix_contains_v4`, `prefix_contains_v6`. -/
def prefixContains (outer inner : Subnet size) : Checked Empty Bool := do
  let (oNet, oPl) := outer
  let (iNet, iPl) := inner
  if oPl > iPl then return false
  let bit ← Checked.shiftOne (8 * size) (8 * size - min oPl.toNat (8 * size))
  let mask := complement (8 * size) (bit - 1)
  return oNet.toNat &&& mask == iNet.toNat &&& mask

/-- `v4_prefix_mask`, `v6_prefix_mask`. -/
def prefixMask (size : Nat) (pl : UInt8) : Nat :=
  if pl = 0 then 0
  else complement (8 * size) ((1 <<< (8 * size - min pl.toNat (8 * size))) - 1)

/-- `v4_intersects`, `v6_intersects`. -/
def intersects (eNet : Octets size) (ePl : UInt8) (net : Octets size) (pl : UInt8) : Bool :=
  let (coarseNet, coarsePl, fineNet) := if ePl ≤ pl then (eNet, ePl, net) else (net, pl, eNet)
  fineNet.toNat &&& prefixMask size coarsePl == coarseNet.toNat &&& prefixMask size coarsePl

/-- `fully_excluded_v4`, `fully_excluded_v6`: the excludes are tried in their order. -/
def fullyExcluded (net : Octets size) (pl : UInt8) (excludes : List (Subnet size)) :
    Checked Empty Bool :=
  excludes.anyM fun (eNet, ePl) =>
    if ePl ≤ pl then prefixContains (eNet, ePl) (net, pl) else return false

/-- `split_subtract_v4`, `split_subtract_v6`: what is pushed to `out`. `levels` is the number of
bits behind the prefix, which the source compares `pl` for. -/
def splitSubtract (excludes : List (Subnet size)) (levels : Nat) (net : Octets size) (pl : UInt8) :
    Checked Empty (List (Subnet size)) := do
  if ← fullyExcluded net pl excludes then return []
  match levels with
  | 0 => return [(net, pl)]
  | levels + 1 =>
    if !excludes.any fun (eNet, ePl) => intersects eNet ePl net pl then return [(net, pl)]
    let childPl := pl + 1
    let left := net
    let bit ← Checked.shiftOne (8 * size) (8 * size - childPl.toNat)
    let right ← network (.ofNat size (net.toNat ||| bit)) childPl
    let lower ← splitSubtract excludes levels left childPl
    let upper ← splitSubtract excludes levels right childPl
    return lower ++ upper

/-- The loop over the routes in `final_route_v4`, `final_route_v6`. -/
def splitSubtractAll (excludes : List (Subnet size)) :
    List (Subnet size) → Checked Empty (List (Subnet size))
  | [] => return []
  | (net, pl) :: routes => do
    let here ← splitSubtract excludes (8 * size - pl.toNat) net pl
    let behind ← splitSubtractAll excludes routes
    return here ++ behind

/-- `final_route_v4`, `final_route_v6`, of the route targets and the excludes. -/
def finalRoute (routes excludes : List (Subnet size)) : Checked Empty (List (Subnet size)) :=
  if excludes.isEmpty then return routes else splitSubtractAll excludes routes

section Config

variable (std : StdText) (cfg : TunInboundConfig)

/-- `build_route_targets_v4`. -/
def buildRouteTargetsV4 : List (Subnet 4) :=
  if cfg.routeAddress ≠ [] then prefixesV4 std cfg.routeAddress else [(.ofNat 4 0, 0)]

/-- `build_route_targets_v6`. -/
def buildRouteTargetsV6 : List (Subnet 16) :=
  if cfg.routeAddress ≠ [] then prefixesV6 std cfg.routeAddress else [(.ofNat 16 0, 0)]

/-- `parse_excluded_v4`. -/
def parseExcludedV4 : List (Subnet 4) := prefixesV4 std cfg.routeExcludeAddress

/-- `parse_excluded_v6`. -/
def parseExcludedV6 : List (Subnet 16) := prefixesV6 std cfg.routeExcludeAddress

/-- `final_route_v4`. -/
def finalRouteV4 : Checked Empty (List (Subnet 4)) :=
  finalRoute (buildRouteTargetsV4 std cfg) (parseExcludedV4 std cfg)

/-- `final_route_v6`. -/
def finalRouteV6 : Checked Empty (List (Subnet 16)) :=
  finalRoute (buildRouteTargetsV6 std cfg) (parseExcludedV6 std cfg)

end Config

/-! ### The set that prefixes denote -/

/-- The prefix of the given net contains the address. -/
def Holds (subnet : Subnet size) (addr : Octets size) : Prop :=
  SameBlock (8 * size) subnet.2.toNat subnet.1.toNat addr.toNat

instance (subnet : Subnet size) (addr : Octets size) : Decidable (Holds subnet addr) :=
  inferInstanceAs (Decidable (SameBlock _ _ _ _))

/-- The union of the prefixes. -/
def Denotes (subnets : List (Subnet size)) (addr : Octets size) : Prop :=
  ∃ subnet ∈ subnets, Holds subnet addr

/-- The first prefix contains the second one. -/
def Within (outer inner : Subnet size) : Prop :=
  outer.2.toNat ≤ inner.2.toNat
    ∧ SameBlock (8 * size) outer.2.toNat outer.1.toNat inner.1.toNat

instance (outer inner : Subnet size) : Decidable (Within outer inner) :=
  inferInstanceAs (Decidable (_ ∧ _))

/-- **What the halving of a route loses.** Let the first host bit of `net` that is set be the first
bit behind the prefix of length `level`. If an exclude meets that prefix, it is halved, and its
lower half gets lost: the child that should be the lower half keeps the bit of `net`. -/
def Loses (excludes : List (Subnet size)) (route : Subnet size) (addr : Octets size) : Prop :=
  ¬ Denotes excludes addr ∧ ∃ level,
    route.2.toNat ≤ level ∧ level < 8 * size
    ∧ blockSize (8 * size) (level + 1) ≤ hostPart (8 * size) route.2.toNat route.1.toNat
    ∧ hostPart (8 * size) route.2.toNat route.1.toNat < blockSize (8 * size) level
    ∧ (∃ exclude ∈ excludes, SameBlock (8 * size) (min exclude.2.toNat level)
        exclude.1.toNat route.1.toNat)
    ∧ SameBlock (8 * size) level route.1.toNat addr.toNat
    ∧ ¬ SameBlock (8 * size) (level + 1) route.1.toNat addr.toNat

/-- The mask of a prefix of length 0 is not asked for: no exclude has this length, or one that comes
before contains the route. -/
def ShiftsFit (excludes : List (Subnet size)) (route : Subnet size) : Prop :=
  (∀ exclude ∈ excludes, exclude.2 ≠ 0)
    ∨ ∃ exclude ∈ excludes.takeWhile (·.2 ≠ 0), Within exclude route

/-- The prefixes are no longer than an address. -/
def Valid (subnets : List (Subnet size)) : Prop := ∀ subnet ∈ subnets, subnet.2.toNat ≤ 8 * size

/-! ### What each function computes -/

theorem toNat_lt_two_pow (addr : Octets size) : addr.toNat < 2 ^ (8 * size) := by
  have bound := addr.toNat_lt
  rwa [show 256 = 2 ^ 8 by norm_num, ← pow_mul] at bound

theorem toNat_ofNat_of_lt {number : Nat} (fits : number < 2 ^ (8 * size)) :
    (Octets.ofNat size number).toNat = number := by
  rw [Octets.toNat_ofNat]
  apply Nat.mod_eq_of_lt
  rwa [show 256 = 2 ^ 8 by norm_num, ← pow_mul]

theorem toNat_ne_zero {pl : UInt8} (nonzero : pl ≠ 0) : pl.toNat ≠ 0 :=
  fun zero => nonzero (UInt8.toNat_inj.mp zero)

/-- Two addresses masked alike are in one block. -/
theorem masked_eq_iff {length : Nat} (valid : length ≤ 8 * size) (first second : Octets size) :
    first.toNat &&& mask (8 * size) length = second.toNat &&& mask (8 * size) length
      ↔ SameBlock (8 * size) length first.toNat second.toNat := by
  rw [and_mask valid (toNat_lt_two_pow first), and_mask valid (toNat_lt_two_pow second),
    sameBlock_iff_blockStart]

theorem prefixMask_eq {pl : UInt8} (valid : pl.toNat ≤ 8 * size) :
    prefixMask size pl = mask (8 * size) pl.toNat := by
  rw [prefixMask, mask, Nat.min_eq_left valid]
  by_cases zero : pl = 0
  · rw [if_pos zero, if_pos (show pl.toNat = 0 from congrArg UInt8.toNat zero)]
  · rw [if_neg zero, if_neg (toNat_ne_zero zero)]

/-- **Intersection**: the shorter prefix contains the net of the other. -/
theorem intersects_iff {eNet net : Octets size} {ePl pl : UInt8} (valid : ePl.toNat ≤ 8 * size)
    (valid' : pl.toNat ≤ 8 * size) : intersects eNet ePl net pl = true
      ↔ SameBlock (8 * size) (min ePl.toNat pl.toNat) eNet.toNat net.toNat := by
  unfold intersects
  by_cases shorter : ePl ≤ pl
  · rw [if_pos shorter, Nat.min_eq_left (UInt8.le_iff_toNat_le.mp shorter)]
    simp only [beq_iff_eq, prefixMask_eq valid]
    rw [masked_eq_iff valid]
    exact ⟨SameBlock.symm, SameBlock.symm⟩
  · rw [if_neg shorter, Nat.min_eq_right (by
      rw [UInt8.le_iff_toNat_le] at shorter
      omega)]
    simp only [beq_iff_eq, prefixMask_eq valid']
    rw [masked_eq_iff valid']

theorem network_eq_ok {ip : Octets size} {pl : UInt8} (nonzero : pl ≠ 0)
    (valid : pl.toNat ≤ 8 * size) :
    network ip pl = .ok (.ofNat size (blockStart (8 * size) pl.toNat ip.toNat)) := by
  have masked := and_mask valid (toNat_lt_two_pow ip)
  have positive := toNat_ne_zero nonzero
  rw [mask, if_neg positive] at masked
  simp only [network, bind, Except.bind]
  rw [Nat.min_eq_left valid, Checked.shiftOne_eq_ok (by omega)]
  dsimp only
  rw [masked]
  rfl

/-- The mask of length 0 asks for a shift by the whole width. -/
theorem network_zero (ip : Octets size) : network ip 0 = .error .panicked := by
  have overflows : Checked.shiftOne (8 * size) (8 * size - min (0 : UInt8).toNat (8 * size))
      = (.error .panicked : Checked Empty Nat) := if_neg (by simp)
  simp only [network, bind, Except.bind, overflows]

/-- The network of an address contains it. -/
theorem holds_of_network {ip net : Octets size} {pl : UInt8} (valid : pl.toNat ≤ 8 * size)
    (networked : network ip pl = .ok net) : Holds (net, pl) ip := by
  have nonzero : pl ≠ 0 := by
    rintro rfl
    rw [network_zero] at networked
    cases networked
  rw [network_eq_ok nonzero valid] at networked
  cases networked
  have low : blockStart (8 * size) pl.toNat ip.toNat < 2 ^ (8 * size) :=
    lt_of_le_of_lt (Nat.div_mul_le_self _ _) (toNat_lt_two_pow ip)
  rw [Holds, toNat_ofNat_of_lt low]
  exact Nat.mul_div_cancel _ (blockSize_pos _ _)

theorem prefixContains_eq_ok {outer inner : Subnet size} (nonzero : outer.2 ≠ 0)
    (valid : outer.2.toNat ≤ 8 * size) (le : outer.2 ≤ inner.2) :
    prefixContains outer inner
      = .ok (decide (SameBlock (8 * size) outer.2.toNat outer.1.toNat inner.1.toNat)) := by
  have positive := toNat_ne_zero nonzero
  have same := masked_eq_iff valid outer.1 inner.1
  rw [mask, if_neg positive] at same
  simp only [prefixContains, bind, Except.bind]
  rw [if_neg (UInt8.not_lt.mpr le), Nat.min_eq_left valid, Checked.shiftOne_eq_ok (by omega)]
  simp only [pure, Except.pure, ← same]
  rfl

theorem prefixContains_zero (net : Octets size) (inner : Subnet size) :
    prefixContains (net, 0) inner = .error .panicked := by
  simp only [prefixContains, bind, Except.bind]
  rw [if_neg (UInt8.not_lt.mpr UInt8.zero_le)]
  have none : Checked.shiftOne (8 * size) (8 * size - min (0 : UInt8).toNat (8 * size))
      = (.error .panicked : Checked Empty Nat) := by
    refine if_neg ?_
    simp
  rw [none]

/-- One exclude in `fully_excluded`. -/
theorem fullyExcluded_cons {net : Octets size} {pl : UInt8} {exclude : Subnet size}
    {excludes : List (Subnet size)} (nonzero : exclude.2 ≠ 0)
    (valid : exclude.2.toNat ≤ 8 * size) : fullyExcluded net pl (exclude :: excludes)
      = if Within exclude (net, pl) then .ok true else fullyExcluded net pl excludes := by
  have here : (if exclude.2 ≤ pl then prefixContains exclude (net, pl) else return false)
      = (.ok (decide (Within exclude (net, pl))) : Checked Empty Bool) := by
    by_cases le : exclude.2 ≤ pl
    · rw [if_pos le, prefixContains_eq_ok nonzero valid le]
      congr 1
      rw [decide_eq_decide]
      exact ⟨fun same => ⟨UInt8.le_iff_toNat_le.mp le, same⟩, fun within => within.2⟩
    · rw [if_neg le]
      refine congrArg Except.ok (decide_eq_false fun within => le ?_).symm
      exact UInt8.le_iff_toNat_le.mpr within.1
  rw [fullyExcluded, List.anyM]
  simp only [bind, Except.bind]
  rw [here]
  by_cases within : Within exclude (net, pl)
  · simp only [within, decide_true, if_true]
    rfl
  · simp only [within, decide_false, if_false]
    rfl

/-- **`fully_excluded`**: whether a prefix lies within an exclude, or a panic at the first exclude
of length 0 if none before it decides. -/
theorem fullyExcluded_spec {net : Octets size} {pl : UInt8} {excludes : List (Subnet size)}
    (valid : Valid excludes) :
    ((∃ exclude ∈ excludes.takeWhile (·.2 ≠ 0), Within exclude (net, pl))
      ∧ fullyExcluded net pl excludes = .ok true)
    ∨ ((∀ exclude ∈ excludes, exclude.2 ≠ 0 ∧ ¬ Within exclude (net, pl))
      ∧ fullyExcluded net pl excludes = .ok false)
    ∨ (¬ ShiftsFit excludes (net, pl) ∧ fullyExcluded net pl excludes = .error .panicked) := by
  induction excludes with
  | nil => exact .inr (.inl ⟨fun exclude member => absurd member List.not_mem_nil, rfl⟩)
  | cons exclude excludes ih =>
      obtain ⟨here, behind⟩ := List.forall_mem_cons.mp valid
      by_cases zero : exclude.2 = 0
      · refine .inr (.inr ⟨?_, ?_⟩)
        · rintro (nonzero | ⟨found, member, -⟩)
          · exact nonzero exclude List.mem_cons_self zero
          · rw [List.takeWhile_cons_of_neg (by simp [zero])] at member
            cases member
        · obtain ⟨eNet, ePl⟩ := exclude
          have zero' : ePl = 0 := zero
          subst zero'
          rw [fullyExcluded, List.anyM]
          simp only [bind, Except.bind]
          rw [if_pos UInt8.zero_le, prefixContains_zero]
      · have front : (exclude :: excludes).takeWhile (·.2 ≠ 0)
            = exclude :: excludes.takeWhile (·.2 ≠ 0) :=
          List.takeWhile_cons_of_pos (by simp [zero])
        rw [fullyExcluded_cons zero here, ShiftsFit, front]
        by_cases within : Within exclude (net, pl)
        · rw [if_pos within]
          exact .inl ⟨⟨exclude, List.mem_cons_self, within⟩, rfl⟩
        · rw [if_neg within]
          rcases ih behind with ⟨⟨found, member, within'⟩, result⟩ | ⟨none, result⟩
            | ⟨stuck, result⟩
          · exact .inl ⟨⟨found, List.mem_cons_of_mem _ member, within'⟩, result⟩
          · exact .inr (.inl ⟨List.forall_mem_cons.mpr ⟨⟨zero, within⟩, none⟩, result⟩)
          · refine .inr (.inr ⟨?_, result⟩)
            rintro (nonzero | ⟨found, member, within'⟩)
            · exact stuck (.inl fun other member => nonzero other (List.mem_cons_of_mem _ member))
            · rcases List.mem_cons.mp member with rfl | member
              · exact within within'
              · exact stuck (.inr ⟨found, member, within'⟩)

/-! ### One route, halved -/

theorem Within.denotes {excludes : List (Subnet size)} {exclude route : Subnet size}
    {addr : Octets size} (member : exclude ∈ excludes) (valid : route.2.toNat ≤ 8 * size)
    (within : Within exclude route) (held : Holds route addr) : Denotes excludes addr :=
  ⟨exclude, member, within.2.trans (held.coarser within.1 valid)⟩

/-- A route that lies within an exclude keeps nothing. -/
theorem denotes_nil_iff {excludes : List (Subnet size)} {route : Subnet size} {addr : Octets size}
    (within : ∃ exclude ∈ excludes, Within exclude route) (valid : route.2.toNat ≤ 8 * size) :
    Denotes [] addr
      ↔ Holds route addr ∧ ¬ Denotes excludes addr ∧ ¬ Loses excludes route addr := by
  obtain ⟨exclude, member, within⟩ := within
  constructor
  · rintro ⟨subnet, impossible, -⟩
    cases impossible
  · rintro ⟨held, kept, -⟩
    exact absurd (within.denotes member valid held) kept

theorem denotes_singleton {route : Subnet size} {addr : Octets size} :
    Denotes [route] addr ↔ Holds route addr := by
  simp [Denotes]

theorem denotes_append {first second : List (Subnet size)} {addr : Octets size} :
    Denotes (first ++ second) addr ↔ Denotes first addr ∨ Denotes second addr := by
  simp only [Denotes, List.mem_append, or_and_right, exists_or]

/-- A prefix that meets no exclude is kept whole. -/
theorem denotes_apart_iff {excludes : List (Subnet size)} {route : Subnet size} {addr : Octets size}
    (valid : Valid excludes) (valid' : route.2.toNat ≤ 8 * size)
    (apart : ∀ exclude ∈ excludes, ¬ SameBlock (8 * size) (min exclude.2.toNat route.2.toNat)
      exclude.1.toNat route.1.toNat) : Denotes [route] addr
      ↔ Holds route addr ∧ ¬ Denotes excludes addr ∧ ¬ Loses excludes route addr := by
  rw [denotes_singleton]
  refine ⟨fun held => ⟨held, ?_, ?_⟩, fun kept => kept.1⟩
  · rintro ⟨exclude, member, excluded⟩
    exact apart exclude member
      ((sameBlock_min_iff (valid exclude member) valid').mp ⟨addr.toNat, excluded, held⟩)
  · rintro ⟨-, level, longer, inside, -, -, ⟨exclude, member, meets⟩, -, -⟩
    refine apart exclude member (meets.coarser ?_ ?_)
    · exact le_min (Nat.min_le_left _ _) (le_trans (Nat.min_le_right _ _) longer)
    · exact le_trans (Nat.min_le_right _ _) inside.le

/-- The upper half starts with its net, so that it loses nothing. -/
theorem not_loses_upperHalf {excludes : List (Subnet size)} {net right addr : Octets size}
    {pl childPl : UInt8} (child : childPl.toNat = pl.toNat + 1)
    (start : right.toNat = upperHalf (8 * size) pl.toNat net.toNat) :
    ¬ Loses excludes (right, childPl) addr := by
  rintro ⟨-, level, -, -, set, -, -⟩
  dsimp only at set
  rw [child, start, hostPart_upperHalf] at set
  exact absurd set (Nat.not_le.mpr (blockSize_pos _ _))

/-- When the first host bit of `net` is set, the lower half is lost. -/
theorem loses_of_set {excludes : List (Subnet size)} {net addr : Octets size} {pl : UInt8}
    (inside : pl.toNat < 8 * size)
    (set : blockSize (8 * size) (pl.toNat + 1) ≤ hostPart (8 * size) pl.toNat net.toNat)
    (meets : ∃ exclude ∈ excludes, SameBlock (8 * size) (min exclude.2.toNat pl.toNat)
      exclude.1.toNat net.toNat) :
    Loses excludes (net, pl) addr ↔ ¬ Denotes excludes addr
      ∧ SameBlock (8 * size) pl.toNat net.toNat addr.toNat
      ∧ ¬ SameBlock (8 * size) (pl.toNat + 1) net.toNat addr.toNat := by
  constructor
  · rintro ⟨kept, level, longer, inside', -, first, -, near, apart⟩
    have same : level = pl.toNat := by
      have larger : blockSize (8 * size) (pl.toNat + 1) < blockSize (8 * size) level :=
        lt_of_le_of_lt set first
      have powers := (Nat.pow_lt_pow_iff_right (by norm_num)).mp larger
      dsimp only at longer
      omega
    rw [same] at near apart
    exact ⟨kept, near, apart⟩
  · rintro ⟨kept, near, apart⟩
    exact ⟨kept, pl.toNat, le_refl _, inside, set, hostPart_lt _ _ _, meets, near, apart⟩

/-- When the first host bit of `net` is clear, what is lost is lost in the lower half. -/
theorem loses_of_clear {excludes : List (Subnet size)} {net addr : Octets size} {pl childPl : UInt8}
    (inside : pl.toNat < 8 * size) (child : childPl.toNat = pl.toNat + 1)
    (clear : ¬ blockSize (8 * size) (pl.toNat + 1) ≤ hostPart (8 * size) pl.toNat net.toNat) :
    Loses excludes (net, pl) addr ↔ Loses excludes (net, childPl) addr := by
  have place := hostPart_succ inside net.toNat
  rw [if_neg clear] at place
  refine and_congr_right fun _ => exists_congr fun level => ?_
  dsimp only
  rw [child, place]
  constructor
  · rintro ⟨longer, inside', set, rest⟩
    have other : level ≠ pl.toNat := by
      rintro rfl
      exact clear set
    exact ⟨by omega, inside', set, rest⟩
  · rintro ⟨longer, inside', set, rest⟩
    exact ⟨by omega, inside', set, rest⟩

/-- **The children of a prefix that is halved** keep together what the prefix is to keep. -/
theorem denotes_halves_iff {excludes : List (Subnet size)} {net right addr : Octets size}
    {pl childPl : UInt8} (inside : pl.toNat < 8 * size) (child : childPl.toNat = pl.toNat + 1)
    (start : right.toNat = upperHalf (8 * size) pl.toNat net.toNat)
    (meets : ∃ exclude ∈ excludes, SameBlock (8 * size) (min exclude.2.toNat pl.toNat)
      exclude.1.toNat net.toNat) :
    (Holds (net, childPl) addr ∧ ¬ Denotes excludes addr ∧ ¬ Loses excludes (net, childPl) addr)
      ∨ (Holds (right, childPl) addr ∧ ¬ Denotes excludes addr
        ∧ ¬ Loses excludes (right, childPl) addr)
    ↔ Holds (net, pl) addr ∧ ¬ Denotes excludes addr ∧ ¬ Loses excludes (net, pl) addr := by
  have whole : ¬ Loses excludes (right, childPl) addr := not_loses_upperHalf child start
  have lower : Holds (net, childPl) addr ↔ SameBlock (8 * size) pl.toNat net.toNat addr.toNat
      ∧ (blockSize (8 * size) (pl.toNat + 1) ≤ hostPart (8 * size) pl.toNat net.toNat
        ↔ blockSize (8 * size) (pl.toNat + 1) ≤ hostPart (8 * size) pl.toNat addr.toNat) := by
    rw [Holds, child]
    exact sameBlock_succ_iff inside
  have upper : Holds (right, childPl) addr ↔ SameBlock (8 * size) pl.toNat net.toNat addr.toNat
      ∧ blockSize (8 * size) (pl.toNat + 1) ≤ hostPart (8 * size) pl.toNat addr.toNat := by
    rw [Holds, child, start]
    exact sameBlock_upperHalf_iff inside net.toNat addr.toNat
  have near : Holds (net, pl) addr ↔ SameBlock (8 * size) pl.toNat net.toNat addr.toNat := Iff.rfl
  by_cases set : blockSize (8 * size) (pl.toNat + 1) ≤ hostPart (8 * size) pl.toNat net.toNat
  · -- both children are the upper half, and the one that starts with its net keeps it whole
    have lost := @loses_of_set _ _ _ addr _ inside set meets
    rw [sameBlock_succ_iff inside] at lost
    rw [lower, upper, near, lost]
    constructor
    · rintro (⟨⟨close, agree⟩, kept, -⟩ | ⟨⟨close, above⟩, kept, -⟩)
      · exact ⟨close, kept, fun gone => gone.2.2 ⟨close, agree⟩⟩
      · exact ⟨close, kept, fun gone => gone.2.2 ⟨close, iff_of_true set above⟩⟩
    · rintro ⟨close, kept, stays⟩
      have agree := by_contra fun differ => stays ⟨kept, close, fun both => differ both.2⟩
      exact .inr ⟨⟨close, agree.mp set⟩, kept, whole⟩
  · -- the lower half goes on with the net; nothing of the upper half is lost
    have same : Loses excludes (net, pl) addr ↔ Loses excludes (net, childPl) addr :=
      loses_of_clear inside child set
    have apart : Loses excludes (net, childPl) addr →
        ¬ blockSize (8 * size) (pl.toNat + 1) ≤ hostPart (8 * size) pl.toNat addr.toNat := by
      rintro ⟨-, level, longer, inside', -, -, -, near', -⟩ above
      have close := near'.coarser (show pl.toNat + 1 ≤ level from child ▸ longer) inside'.le
      exact set (((sameBlock_succ_iff inside).mp close).2.mpr above)
    rw [lower, upper, near, same]
    constructor
    · rintro (⟨⟨close, -⟩, kept, stays⟩ | ⟨⟨close, above⟩, kept, -⟩)
      · exact ⟨close, kept, stays⟩
      · exact ⟨close, kept, fun gone => apart gone above⟩
    · rintro ⟨close, kept, stays⟩
      by_cases above : blockSize (8 * size) (pl.toNat + 1) ≤ hostPart (8 * size) pl.toNat addr.toNat
      · exact .inr ⟨⟨close, above⟩, kept, whole⟩
      · exact .inl ⟨⟨close, iff_of_false set above⟩, kept, stays⟩

/-- The prefix that lies within an exclude. -/
theorem splitSubtract_within {excludes : List (Subnet size)} {levels : Nat} {net : Octets size}
    {pl : UInt8} (valid : pl.toNat ≤ 8 * size)
    (within : ∃ exclude ∈ excludes.takeWhile (·.2 ≠ 0), Within exclude (net, pl))
    (result : fullyExcluded net pl excludes = .ok true) :
    ∃ out, splitSubtract excludes levels net pl = .ok out ∧ ∀ addr, Denotes out addr
      ↔ Holds (net, pl) addr ∧ ¬ Denotes excludes addr ∧ ¬ Loses excludes (net, pl) addr := by
  obtain ⟨exclude, member, within⟩ := within
  refine ⟨[], ?_, fun addr =>
    denotes_nil_iff ⟨exclude, (List.takeWhile_sublist _).mem member, within⟩ valid⟩
  rw [splitSubtract.eq_def]
  simp only [bind, Except.bind, result]
  rfl

/-- The prefix that is not halved further. -/
theorem splitSubtract_apart {excludes : List (Subnet size)} {levels : Nat} {net : Octets size}
    {pl : UInt8} (notWithin : fullyExcluded net pl excludes = .ok false)
    (apart : levels = 0 ∨ (excludes.any fun (eNet, ePl) => intersects eNet ePl net pl) = false) :
    splitSubtract excludes levels net pl = .ok [(net, pl)] := by
  rw [splitSubtract.eq_def]
  simp only [bind, Except.bind, notWithin, Bool.false_eq_true, if_false]
  cases levels with
  | zero => rfl
  | succ levels =>
      have apart' := apart.resolve_left (Nat.succ_ne_zero levels)
      simp only [apart', Bool.not_false, if_true]
      rfl

/-- The prefix that is halved. -/
theorem splitSubtract_halved {excludes : List (Subnet size)} {levels : Nat} {net : Octets size}
    {pl : UInt8} {lower upper : List (Subnet size)} (small : 8 * size < 256)
    (inside : pl.toNat < 8 * size) (notWithin : fullyExcluded net pl excludes = .ok false)
    (meets : (excludes.any fun (eNet, ePl) => intersects eNet ePl net pl) = true)
    (lowerDone : splitSubtract excludes levels net (pl + 1) = .ok lower)
    (upperDone : splitSubtract excludes levels
      (.ofNat size (upperHalf (8 * size) pl.toNat net.toNat)) (pl + 1) = .ok upper) :
    splitSubtract excludes (levels + 1) net pl = .ok (lower ++ upper) := by
  have child : (pl + 1).toNat = pl.toNat + 1 := by
    rw [UInt8.toNat_add, UInt8.toNat_one]
    omega
  have nonzero : pl + 1 ≠ 0 := by
    intro zero
    rw [zero] at child
    exact absurd child (by simp)
  have bits : net.toNat ||| 1 <<< (8 * size - (pl.toNat + 1)) < 2 ^ (8 * size) := by
    refine Nat.or_lt_two_pow (toNat_lt_two_pow net) ?_
    rw [Nat.one_shiftLeft]
    exact Nat.pow_lt_pow_right (by norm_num) (by omega)
  rw [splitSubtract]
  simp only [bind, Except.bind, notWithin, meets, Bool.false_eq_true, if_false, Bool.not_true]
  rw [child, Checked.shiftOne_eq_ok (by omega)]
  dsimp only
  rw [network_eq_ok nonzero (by omega), toNat_ofNat_of_lt bits, child]
  dsimp only
  rw [lowerDone]
  dsimp only
  rw [show blockStart (8 * size) (pl.toNat + 1)
      (net.toNat ||| 1 <<< (8 * size - (pl.toNat + 1)))
    = upperHalf (8 * size) pl.toNat net.toNat from rfl, upperDone]
  rfl

/-- The halving of one route, when no exclude has length 0: induction on the bits behind it. -/
theorem splitSubtract_nonzero {excludes : List (Subnet size)} (small : 8 * size < 256)
    (valid : Valid excludes) (nonzero : ∀ exclude ∈ excludes, exclude.2 ≠ 0) (levels : Nat)
    (net : Octets size) (pl : UInt8) (depth : pl.toNat + levels = 8 * size) :
    ∃ out, splitSubtract excludes levels net pl = .ok out ∧ ∀ addr, Denotes out addr
      ↔ Holds (net, pl) addr ∧ ¬ Denotes excludes addr ∧ ¬ Loses excludes (net, pl) addr := by
  induction levels generalizing net pl with
  | zero =>
      have valid' : pl.toNat ≤ 8 * size := by omega
      rcases @fullyExcluded_spec _ net pl excludes valid with ⟨within, result⟩
        | ⟨none, result⟩ | ⟨stuck, -⟩
      · exact splitSubtract_within valid' within result
      · -- an exclude that meets a single address contains it
        refine ⟨_, splitSubtract_apart result (.inl rfl), fun addr =>
          denotes_apart_iff valid valid' fun exclude member meets => ?_⟩
        have shorter : exclude.2.toNat ≤ pl.toNat := by
          have fits := valid exclude member
          omega
        dsimp only at meets
        rw [Nat.min_eq_left shorter] at meets
        exact (none exclude member).2 ⟨shorter, meets⟩
      · exact absurd (.inl nonzero) stuck
  | succ levels ih =>
      have inside : pl.toNat < 8 * size := by omega
      rcases @fullyExcluded_spec _ net pl excludes valid with ⟨within, result⟩
        | ⟨none, result⟩ | ⟨stuck, -⟩
      · exact splitSubtract_within inside.le within result
      · by_cases meets : (excludes.any fun (eNet, ePl) => intersects eNet ePl net pl) = true
        · have child : (pl + 1).toNat = pl.toNat + 1 := by
            rw [UInt8.toNat_add, UInt8.toNat_one]
            omega
          obtain ⟨lower, lowerDone, lowerSpec⟩ := ih net (pl + 1) (by omega)
          obtain ⟨upper, upperDone, upperSpec⟩ :=
            ih (.ofNat size (upperHalf (8 * size) pl.toNat net.toNat)) (pl + 1) (by omega)
          refine ⟨_, splitSubtract_halved small inside result meets lowerDone upperDone,
            fun addr => ?_⟩
          obtain ⟨exclude, member, meets⟩ := List.any_eq_true.mp meets
          rw [denotes_append, lowerSpec, upperSpec]
          exact denotes_halves_iff inside child
            (toNat_ofNat_of_lt (upperHalf_lt inside (toNat_lt_two_pow net)))
            ⟨exclude, member, (intersects_iff (valid exclude member) inside.le).mp meets⟩
        · refine ⟨_, splitSubtract_apart result (.inr (Bool.not_eq_true _ ▸ meets)), fun addr =>
            denotes_apart_iff valid inside.le fun exclude member near => ?_⟩
          exact meets (List.any_eq_true.mpr ⟨exclude, member,
            (intersects_iff (valid exclude member) inside.le).mpr near⟩)
      · exact absurd (.inl nonzero) stuck

/-- **The halving of one route** ends when no shift overflows, and its result denotes the addresses
of the route that are not excluded and not lost. -/
theorem splitSubtract_spec {excludes : List (Subnet size)} {route : Subnet size}
    (small : 8 * size < 256) (valid : Valid excludes) (valid' : route.2.toNat ≤ 8 * size)
    (fits : ShiftsFit excludes route) :
    ∃ out, splitSubtract excludes (8 * size - route.2.toNat) route.1 route.2 = .ok out
      ∧ ∀ addr, Denotes out addr
        ↔ Holds route addr ∧ ¬ Denotes excludes addr ∧ ¬ Loses excludes route addr := by
  rcases fits with nonzero | within
  · exact splitSubtract_nonzero small valid nonzero _ _ _ (by omega)
  · rcases @fullyExcluded_spec _ route.1 route.2 excludes valid with ⟨-, result⟩
      | ⟨none, -⟩ | ⟨stuck, -⟩
    · exact splitSubtract_within valid' within result
    · obtain ⟨exclude, member, within⟩ := within
      exact absurd within (none exclude ((List.takeWhile_sublist _).mem member)).2
    · exact absurd (.inr within) stuck

/-- Otherwise it panics. -/
theorem splitSubtract_panics {excludes : List (Subnet size)} {route : Subnet size} {levels : Nat}
    (valid : Valid excludes) (overflows : ¬ ShiftsFit excludes route) :
    splitSubtract excludes levels route.1 route.2 = .error .panicked := by
  rcases @fullyExcluded_spec _ route.1 route.2 excludes valid with ⟨within, -⟩
    | ⟨none, -⟩ | ⟨-, result⟩
  · exact absurd (.inr within) overflows
  · exact absurd (.inl fun exclude member => (none exclude member).1) overflows
  · rw [splitSubtract.eq_def]
    simp only [bind, Except.bind, result]

/-! ### All routes -/

/-- The routes cover exactly the addresses of the targets that are not excluded. -/
def DifferenceExact (routes excludes : List (Subnet size))
    (result : Checked Empty (List (Subnet size))) : Prop :=
  ∃ out, result = .ok out
    ∧ ∀ addr, Denotes out addr ↔ Denotes routes addr ∧ ¬ Denotes excludes addr

/-- No shift overflows, and an address that one route loses is kept by another. -/
structure NothingLost (routes excludes : List (Subnet size)) : Prop where
  shiftsFit : ∀ route ∈ routes, ShiftsFit excludes route
  kept : ∀ route ∈ routes, ∀ addr, Loses excludes route addr →
    ∃ other ∈ routes, Holds other addr ∧ ¬ Loses excludes other addr

/-- The loop over the routes: what it returns, or that it panics. -/
theorem splitSubtractAll_spec {routes excludes : List (Subnet size)} (small : 8 * size < 256)
    (valid : Valid excludes) (valid' : Valid routes) :
    ((∀ route ∈ routes, ShiftsFit excludes route)
      ∧ ∃ out, splitSubtractAll excludes routes = .ok out ∧ ∀ addr, Denotes out addr
        ↔ ∃ route ∈ routes,
          Holds route addr ∧ ¬ Denotes excludes addr ∧ ¬ Loses excludes route addr)
    ∨ ((∃ route ∈ routes, ¬ ShiftsFit excludes route)
      ∧ splitSubtractAll excludes routes = .error .panicked) := by
  induction routes with
  | nil =>
      refine .inl ⟨fun route member => absurd member List.not_mem_nil, [], rfl, fun addr => ?_⟩
      simp [Denotes]
  | cons route routes ih =>
      obtain ⟨here, behind⟩ := List.forall_mem_cons.mp valid'
      simp only [splitSubtractAll, bind, Except.bind]
      by_cases fits : ShiftsFit excludes route
      · obtain ⟨first, done, firstSpec⟩ := splitSubtract_spec small valid here fits
        rw [done]
        dsimp only
        rcases ih behind with ⟨allFit, rest, done', restSpec⟩ | ⟨⟨other, member, stuck⟩, done'⟩
        · rw [done']
          refine .inl ⟨List.forall_mem_cons.mpr ⟨fits, allFit⟩, first ++ rest, rfl, fun addr => ?_⟩
          rw [denotes_append, firstSpec, restSpec, List.exists_mem_cons_iff]
        · rw [done']
          exact .inr ⟨⟨other, List.mem_cons_of_mem _ member, stuck⟩, rfl⟩
      · rw [splitSubtract_panics valid fits]
        exact .inr ⟨⟨route, List.mem_cons_self, fits⟩, rfl⟩

/-- **The final routes** denote the difference exactly when nothing is lost. -/
theorem finalRoute_exact_iff {routes excludes : List (Subnet size)} (small : 8 * size < 256)
    (valid : Valid excludes) (valid' : Valid routes) :
    DifferenceExact routes excludes (finalRoute routes excludes) ↔ NothingLost routes excludes := by
  cases excludes with
  | nil =>
      have nothing : ∀ addr : Octets size, ¬ Denotes [] addr := by simp [Denotes]
      refine ⟨fun _ => ⟨fun _ _ => .inl fun exclude member => absurd member List.not_mem_nil, ?_⟩,
        fun _ => ⟨routes, rfl, fun addr => ?_⟩⟩
      · rintro route - addr ⟨-, level, -, -, -, -, ⟨exclude, member, -⟩, -⟩
        cases member
      · simp [nothing]
  | cons exclude excludes =>
      rw [finalRoute, List.isEmpty_cons, if_neg Bool.false_ne_true]
      rcases splitSubtractAll_spec small valid valid' with ⟨fits, out, done, spec⟩
        | ⟨⟨route, member, stuck⟩, done⟩
      · constructor
        · rintro ⟨out', done', exact⟩
          rw [done] at done'
          cases done'
          refine ⟨fits, fun route member addr lost => ?_⟩
          obtain ⟨-, level, longer, inside, -, -, -, near, -⟩ := id lost
          have held : Holds route addr := near.coarser longer inside.le
          obtain ⟨other, member', held', -, kept⟩ :=
            (spec addr).mp ((exact addr).mpr ⟨⟨route, member, held⟩, lost.1⟩)
          exact ⟨other, member', held', kept⟩
        · intro nothing
          refine ⟨out, done, fun addr => ?_⟩
          rw [spec]
          constructor
          · rintro ⟨route, member, held, kept, -⟩
            exact ⟨⟨route, member, held⟩, kept⟩
          · rintro ⟨⟨route, member, held⟩, kept⟩
            by_cases lost : Loses (exclude :: excludes) route addr
            · obtain ⟨other, member', held', kept'⟩ := nothing.kept route member addr lost
              exact ⟨other, member', held', kept, kept'⟩
            · exact ⟨route, member, held, kept, lost⟩
      · constructor
        · rintro ⟨out, done', -⟩
          rw [done] at done'
          cases done'
        · intro nothing
          exact absurd (nothing.shiftsFit route member) stuck

section Config

variable (std : StdText) (cfg : TunInboundConfig)

theorem buildRouteTargetsV4_valid : Valid (buildRouteTargetsV4 std cfg) := by
  unfold buildRouteTargetsV4
  split
  · exact fun subnet member => prefixesV4_valid std member
  · intro subnet member
    rw [List.mem_singleton.mp member]
    exact Nat.zero_le _

theorem buildRouteTargetsV6_valid : Valid (buildRouteTargetsV6 std cfg) := by
  unfold buildRouteTargetsV6
  split
  · exact fun subnet member => prefixesV6_valid std member
  · intro subnet member
    rw [List.mem_singleton.mp member]
    exact Nat.zero_le _

/-- **The routes of both families** denote the route prefixes less the excluded ones exactly when no
shift overflows and what one route loses another keeps. -/
theorem finalRoute_difference_iff :
    (DifferenceExact (buildRouteTargetsV4 std cfg) (parseExcludedV4 std cfg) (finalRouteV4 std cfg)
      ↔ NothingLost (buildRouteTargetsV4 std cfg) (parseExcludedV4 std cfg))
    ∧ (DifferenceExact (buildRouteTargetsV6 std cfg) (parseExcludedV6 std cfg)
        (finalRouteV6 std cfg)
      ↔ NothingLost (buildRouteTargetsV6 std cfg) (parseExcludedV6 std cfg)) :=
  ⟨finalRoute_exact_iff (by decide) (fun _ member => prefixesV4_valid std member)
      (buildRouteTargetsV4_valid std cfg),
    finalRoute_exact_iff (by decide) (fun _ member => prefixesV6_valid std member)
      (buildRouteTargetsV6_valid std cfg)⟩

end Config

/-- How the standard library reads the strings of the following configurations. -/
def sampleRouteText : StdText where
  parseIpAddr text :=
    if text = "10.128.0.0" then some (.v4 ⟨[10, 128, 0, 0], rfl⟩)
    else if text = "10.1.0.0" then some (.v4 ⟨[10, 1, 0, 0], rfl⟩)
    else if text = "0.0.0.0" then some (.v4 ⟨[0, 0, 0, 0], rfl⟩)
    else none
  parseU8 text :=
    if text = "8" then some 8 else if text = "16" then some 16 else if text = "0" then some 0
    else none
  parseU32 _ := none

/-- A configuration with one route and one exclude. -/
def sampleRouteConfig (route exclude : String) : TunInboundConfig :=
  { TunInboundConfig.minimal "tun-in" ["198.18.0.1/16"] with
    routeAddress := [route], routeExcludeAddress := [exclude] }

/-- **A route with host bits loses its lower half, and an exclude of length 0 panics**: 10.0.0.1 is
an address of 10.128.0.0/8 outside 10.1.0.0/16, and no address is left outside 0.0.0.0/0. -/
theorem finalRoute_inexact :
    ¬ DifferenceExact
        (buildRouteTargetsV4 sampleRouteText (sampleRouteConfig "10.128.0.0/8" "10.1.0.0/16"))
        (parseExcludedV4 sampleRouteText (sampleRouteConfig "10.128.0.0/8" "10.1.0.0/16"))
        (finalRouteV4 sampleRouteText (sampleRouteConfig "10.128.0.0/8" "10.1.0.0/16"))
    ∧ ¬ DifferenceExact
        (buildRouteTargetsV4 sampleRouteText (sampleRouteConfig "10.128.0.0/8" "0.0.0.0/0"))
        (parseExcludedV4 sampleRouteText (sampleRouteConfig "10.128.0.0/8" "0.0.0.0/0"))
        (finalRouteV4 sampleRouteText (sampleRouteConfig "10.128.0.0/8" "0.0.0.0/0")) := by
  have routes : ∀ exclude, buildRouteTargetsV4 sampleRouteText
      (sampleRouteConfig "10.128.0.0/8" exclude) = [(⟨[10, 128, 0, 0], rfl⟩, 8)] := by
    intro exclude
    show buildRouteTargetsV4 sampleRouteText (sampleRouteConfig "10.128.0.0/8" "") = _
    decide +kernel
  have excludes : parseExcludedV4 sampleRouteText
      (sampleRouteConfig "10.128.0.0/8" "10.1.0.0/16") = [(⟨[10, 1, 0, 0], rfl⟩, 16)] := by
    decide +kernel
  constructor
  · rintro ⟨out, done, exact⟩
    have computed : finalRouteV4 sampleRouteText (sampleRouteConfig "10.128.0.0/8" "10.1.0.0/16")
        = .ok [(⟨[10, 128, 0, 0], rfl⟩, 9), (⟨[10, 128, 0, 0], rfl⟩, 9)] := by
      decide +kernel
    rw [computed] at done
    cases done
    have here := exact ⟨[10, 0, 0, 1], rfl⟩
    rw [routes, excludes] at here
    simp only [Denotes, List.mem_cons, List.not_mem_nil, or_false, exists_eq_left, or_self,
      Holds] at here
    exact absurd here (by decide +kernel)
  · rintro ⟨out, done, -⟩
    have computed : finalRouteV4 sampleRouteText (sampleRouteConfig "10.128.0.0/8" "0.0.0.0/0")
        = .error .panicked := by
      decide +kernel
    rw [computed] at done
    cases done

end RsTun.Linux
