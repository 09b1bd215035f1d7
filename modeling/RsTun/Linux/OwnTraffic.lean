/-
**Where marked traffic goes, and what excluding addresses does.**

The mark is to keep the traffic of the program itself out of the TUN table. It is let through by the
rule for the mark alone: the rules behind it ask for other things.

* `own_traffic_skips_iff` — while the TUN table holds the default route, marked traffic keeps out of
  it only where no traffic of this host is captured at all: a socket that is not bound has no source
  when it is routed, and the last rules send it to the TUN table.
* `excluding_captures` — once an address is excluded the TUN table holds specific routes, and what
  the rules capture depends on the destination alone: neither the mark nor a specific route of
  `main` keeps a packet out.
-/

import RsTun.Linux.Policy

namespace RsTun.Linux

open Library Library.Prefix Library.RuleTable

variable {std : StdText} {cfg : TunInboundConfig} {ifName : String} {kernel : Kernel}
  {routes : UInt32 → Option Nat} {packet : Packet} {family : Family}

/-! ### The mark -/

/-- **Marked traffic of this host** that is bound for an address outside the subnets of the TUN does
not take the TUN table, which holds the default route. -/
def OwnTrafficSkips (kernel : Kernel) (std : StdText) (cfg : TunInboundConfig) (ifName : String)
    (family : Family) (mark : UInt32) : Prop :=
  ∀ (routes : UInt32 → Option Nat) (packet : Packet), packet.mark = mark → packet.uid ≠ noUid →
    packet.iif = "lo" → familyOf packet.src = family → OutsideTun std cfg family packet.dst →
    routes (table cfg) = some 0 →
    routeOf kernel routes packet (linuxTable kernel std cfg ifName family)
      ≠ some (.table (table cfg))

/-- The route of `main` is no other table's. -/
theorem mainRoute_ne {id : UInt32} (apart : id ≠ mainTable) :
    mainRoute routes ≠ some (.table id) := by
  rw [mainRoute]
  cases routes mainTable with
  | none => exact fun same => by cases same
  | some length =>
      intro same
      injection same with same
      injection same with same
      exact apart same.symm

/-- **What the mark is worth.** For every configuration whose rules fit in before the anchor and
whose excluded ranges stay below -1, marked traffic keeps out of the TUN table if and only if that
is not `main`, and either all UIDs are excluded, or the interfaces keep out what comes from this
host. -/
theorem own_traffic_skips_iff {mark : UInt32} {dst : IpAddr}
    (returned : (setup std cfg ifName).2 = true) (early : Early kernel std cfg ifName)
    (few : slotCount std cfg family ≤ 100) (taken : RangesTaken std cfg)
    (present : hasFamily std cfg family = true) (safe : MarkSafe kernel cfg mark)
    (outside : OutsideTun std cfg family dst) (named : ifName ≠ "lo") :
    OwnTrafficSkips kernel std cfg ifName family mark ↔ table cfg ≠ mainTable
      ∧ ((∀ uid, uid ≠ noUid → UidExcluded std cfg uid)
        ∨ if cfg.includeInterface ≠ [] then "lo" ∉ cfg.includeInterface
          else "lo" ∈ cfg.excludeInterface) := by
  have route : ∀ (routes : UInt32 → Option Nat) (packet : Packet), familyOf packet.src = family →
      routeOf kernel routes packet (linuxTable kernel std cfg ifName family)
        = policyRoute kernel std cfg ifName routes packet family := fun routes packet source => by
    rw [linuxTable_eq returned taken, routeOf_present returned early few present source]
  constructor
  · intro skips
    have reached : ∀ uid, uid ≠ noUid → ¬ (table cfg = mainTable
        ∨ ¬ UidExcluded std cfg uid
          ∧ if cfg.includeInterface ≠ [] then "lo" ∈ cfg.includeInterface
            else "lo" ∉ cfg.excludeInterface) := by
      intro uid somebody either
      -- a query for DNS, so that `main` does not keep it, from a socket without an address
      have source : familyOf (unspecified family) = family := by cases family <;> rfl
      refine skips (tunOnly cfg) ⟨uid, mark, "lo", unspecified family, dst, some 53⟩ rfl somebody
        rfl source outside tunOnly_table ?_
      rw [route _ _ source, policyRoute]
      split
      · rfl
      · rename_i free
        rcases either with same | ⟨included, listed⟩
        · rw [mainRoute, ← same, tunOnly_table]
          rfl
        · refine absurd ⟨.inr ⟨included, ?_⟩, ?_⟩ free
          · split at listed
            · rename_i filters
              rw [if_pos filters]
              exact listed
            · rename_i open'
              rw [if_neg open']
              exact ⟨listed, .inr (.inr ⟨fun both => both.1 rfl, Ne.symm named,
                .inr (.inl rfl)⟩)⟩
          · rw [tunOnly_table]
            rfl
    refine ⟨fun same => reached 0 (by decide) (.inl same), ?_⟩
    by_contra exposed
    rw [not_or, not_forall] at exposed
    obtain ⟨⟨uid, free⟩, listed⟩ := exposed
    obtain ⟨somebody, included⟩ := Classical.not_imp.mp free
    refine reached uid somebody (.inr ⟨included, ?_⟩)
    split at listed
    · rename_i filters
      rw [if_pos filters]
      exact not_not.mp listed
    · rename_i open'
      rw [if_neg open']
      exact listed
  · rintro ⟨apart, kept⟩ routes packet marked somebody loopback source - -
    have free : ¬ Captured kernel std cfg ifName routes packet family := by
      rintro (unsafeMark | ⟨included, listed⟩)
      · exact unsafeMark (marked ▸ safe)
      · have stays := kept.resolve_left fun all => included (all packet.uid somebody)
        rw [loopback] at listed
        split at listed
        · rename_i filters
          rw [if_pos filters] at stays
          exact stays listed
        · rename_i open'
          rw [if_neg open'] at stays
          exact listed.1 stays
    rw [route routes packet source, policyRoute, if_neg fun both => free both.1]
    exact mainRoute_ne apart

/-- A configuration with a mark. -/
def markedConfig : TunInboundConfig :=
  { TunInboundConfig.minimal "tun-in" ["198.18.0.1/16"] with soMark := some 0x1234 }

/-- A connection that carries the mark is routed back into the TUN. -/
theorem own_traffic_skips_iff_marked :
    ¬ OwnTrafficSkips plainKernel sampleRuleText markedConfig "tun0" .v4 0x1234 := by
  have returned : (setup sampleRuleText markedConfig "tun0").2 = true := by decide +kernel
  have early : Early plainKernel sampleRuleText markedConfig "tun0" := by
    intro family present
    cases family with
    | v4 => decide +kernel
    | v6 => exact absurd present (by decide +kernel)
  have safe : MarkSafe plainKernel markedConfig 0x1234 :=
    ⟨fun mark effective => by cases effective; rfl, nofun⟩
  have outside : OutsideTun sampleRuleText markedConfig .v4 (.v4 (.new 8 8 8 8)) :=
    ⟨rfl, by decide +kernel⟩
  have none : buildExcludedUidRanges sampleRuleText markedConfig = [] := by decide +kernel
  have taken : RangesTaken sampleRuleText markedConfig := by
    intro range member
    rw [none] at member
    cases member
  rw [own_traffic_skips_iff returned early (by decide +kernel) taken (by decide +kernel) safe
    outside (by decide)]
  rintro ⟨-, all | listed⟩
  · obtain ⟨range, member, -⟩ := all 0 (by decide)
    rw [none] at member
    cases member
  · cases listed

/-! ### Excluded addresses -/

section Excluding

variable (std : StdText) (cfg : TunInboundConfig)

/-- `parse_excluded_v4`, `parse_excluded_v6`. -/
def excludedPrefixes : Family → List IpPrefix
  | .v4 => (parseExcludedV4 std cfg).map fun (ip, pl) => (.v4 ip, pl)
  | .v6 => (parseExcludedV6 std cfg).map fun (ip, pl) => (.v6 ip, pl)

/-- The routes that `add_routes_to_table` adds. -/
def addedRoutes : Family → Checked Empty (List IpPrefix)
  | .v4 => do return (← finalRouteV4 std cfg).map fun (ip, pl) => (.v4 ip, pl)
  | .v6 => do return (← finalRouteV6 std cfg).map fun (ip, pl) => (.v6 ip, pl)

/-- The length of the longest prefix that contains an address. -/
def longestPrefix (prefixes : List IpPrefix) (addr : IpAddr) : Option Nat :=
  ((prefixes.filter (inPrefix · addr)).map fun net => net.2.toNat).max?

/-- The TUN table has the routes that `add_routes_to_table` added. -/
def TableHolds (family : Family) (routes : UInt32 → Option Nat) (addr : IpAddr) : Prop :=
  ∃ added, addedRoutes std cfg family = .ok added ∧ routes (table cfg) = longestPrefix added addr

end Excluding

section Halved

variable {size : Nat} {excludes out : List (Subnet size)}

/-- **What the halving of a prefix pushes**: nothing, the prefix, or what its halves push. -/
theorem splitSubtract_cases {levels : Nat} {net : Octets size} {pl : UInt8}
    (split : splitSubtract excludes levels net pl = .ok out) :
    out = [] ∨ (out = [(net, pl)]
        ∧ (levels = 0 ∨ (excludes.any fun (eNet, ePl) => intersects eNet ePl net pl) = false))
      ∨ ∃ rest right lower upper, levels = rest + 1
        ∧ splitSubtract excludes rest net (pl + 1) = .ok lower
        ∧ splitSubtract excludes rest right (pl + 1) = .ok upper ∧ out = lower ++ upper := by
  rw [splitSubtract.eq_def] at split
  obtain ⟨within, -, later⟩ := Checked.bind_eq_ok.mp split
  cases within with
  | true =>
      cases later
      exact .inl rfl
  | false =>
      rw [if_neg Bool.false_ne_true] at later
      cases levels with
      | zero =>
          cases later
          exact .inr (.inl ⟨rfl, .inl rfl⟩)
      | succ rest =>
          dsimp only at later
          split at later
          · rename_i apart
            cases later
            exact .inr (.inl ⟨rfl, .inr ((Bool.not_eq_true' _).mp apart)⟩)
          · obtain ⟨bit, -, later⟩ := Checked.bind_eq_ok.mp later
            obtain ⟨right, -, later⟩ := Checked.bind_eq_ok.mp later
            obtain ⟨lower, lowerDone, later⟩ := Checked.bind_eq_ok.mp later
            obtain ⟨upper, upperDone, later⟩ := Checked.bind_eq_ok.mp later
            cases later
            exact .inr (.inr ⟨rest, right, lower, upper, rfl, lowerDone, upperDone, rfl⟩)

/-- Halving makes no prefix shorter. -/
theorem le_of_splitSubtract (small : 8 * size < 256) {levels : Nat} {net : Octets size} {pl : UInt8}
    (depth : pl.toNat + levels = 8 * size)
    (split : splitSubtract excludes levels net pl = .ok out) :
    ∀ subnet ∈ out, pl.toNat ≤ subnet.2.toNat := by
  induction levels generalizing net pl out with
  | zero =>
      obtain rfl | ⟨rfl, -⟩ | ⟨rest, -, -, -, impossible, -⟩ := splitSubtract_cases split
      · exact nofun
      · intro subnet member
        rw [List.mem_singleton.mp member]
      · cases impossible
  | succ levels ih =>
      obtain rfl | ⟨rfl, -⟩ | ⟨rest, right, lower, upper, same, low, high, rfl⟩ :=
        splitSubtract_cases split
      · exact nofun
      · intro subnet member
        rw [List.mem_singleton.mp member]
      · cases same
        have child : (pl + 1).toNat = pl.toNat + 1 := by
          rw [UInt8.toNat_add, UInt8.toNat_one]
          omega
        intro subnet member
        have longer : (pl + 1).toNat ≤ subnet.2.toNat :=
          (List.mem_append.mp member).elim (ih (by omega) low subnet) (ih (by omega) high subnet)
        omega

/-- **What is left of the default route is specific**: every exclude meets it, so it is halved or
gone. -/
theorem specific_of_splitSubtract (small : 8 * size < 256) (positive : 0 < size)
    (some : excludes ≠ []) (split : splitSubtract excludes (8 * size) (.ofNat size 0) 0 = .ok out) :
    ∀ subnet ∈ out, 0 < subnet.2.toNat := by
  have meets : (excludes.any fun (eNet, ePl) => intersects eNet ePl (.ofNat size 0) 0) = true := by
    obtain ⟨⟨eNet, ePl⟩, rest, rfl⟩ := List.exists_cons_of_ne_nil some
    refine List.any_eq_true.mpr ⟨_, List.mem_cons_self, ?_⟩
    have whole : prefixMask size 0 = 0 := if_pos rfl
    dsimp only [intersects]
    split
    · rename_i zero
      have none : ePl = 0 := UInt8.le_antisymm zero (UInt8.zero_le)
      rw [none, whole, Nat.and_zero, Nat.and_zero]
      rfl
    · rw [whole, Nat.and_zero, Nat.and_zero]
      rfl
  obtain rfl | ⟨rfl, none | apart⟩ | ⟨rest, right, lower, upper, same, low, high, rfl⟩ :=
    splitSubtract_cases split
  · exact nofun
  · omega
  · rw [meets] at apart
    cases apart
  · have depth : (0 + 1 : UInt8).toNat + rest = 8 * size := by
      show 1 + rest = _
      omega
    intro subnet member
    have longer : (0 + 1 : UInt8).toNat ≤ subnet.2.toNat :=
      (List.mem_append.mp member).elim (le_of_splitSubtract small depth low subnet)
        (le_of_splitSubtract small depth high subnet)
    exact longer

/-- **The default route less some excludes**: specific routes, to what is not excluded. -/
theorem finalRoute_default (small : 8 * size < 256) (positive : 0 < size) (valid : Valid excludes)
    (nonempty : excludes ≠ []) (done : finalRoute [(.ofNat size 0, 0)] excludes = .ok out) :
    (∀ subnet ∈ out, 0 < subnet.2.toNat)
      ∧ ∀ addr, Denotes out addr ↔ ¬ Denotes excludes addr := by
  have default' : Valid [((.ofNat size 0, 0) : Subnet size)] := fun subnet member => by
    rw [List.mem_singleton.mp member]
    exact Nat.zero_le _
  have zero : (Octets.ofNat size 0).toNat = 0 := toNat_ofNat_of_lt (Nat.two_pow_pos _)
  rw [finalRoute, List.isEmpty_eq_false_iff.mpr nonempty, if_neg Bool.false_ne_true] at done
  constructor
  · obtain ⟨here, split, later⟩ := Checked.bind_eq_ok.mp done
    cases later
    rw [List.append_nil]
    exact specific_of_splitSubtract small positive nonempty split
  · obtain ⟨-, out', done', spec⟩ | ⟨-, panics⟩ := splitSubtractAll_spec small valid default'
    · cases done.symm.trans done'
      intro addr
      rw [spec, List.exists_mem_cons_iff]
      have held : Holds ((.ofNat size 0, 0) : Subnet size) addr := by
        show (Octets.ofNat size 0).toNat / 2 ^ (8 * size - 0) = addr.toNat / 2 ^ (8 * size - 0)
        rw [zero, Nat.zero_div, Nat.sub_zero, Nat.div_eq_of_lt (toNat_lt_two_pow addr)]
      have kept : ¬ Loses excludes (.ofNat size 0, 0) addr := by
        rintro ⟨-, level, -, -, low, -⟩
        dsimp only at low
        rw [zero, hostPart, Nat.zero_mod] at low
        exact Nat.not_lt.mpr low (blockSize_pos _ _)
      constructor
      · rintro (⟨-, apart, -⟩ | ⟨subnet, impossible, -⟩)
        · exact apart
        · cases impossible
      · exact fun apart => .inl ⟨held, apart, kept⟩
    · cases done.symm.trans panics

/-- The longest prefix among such routes. -/
theorem longestPrefix_of_default {mk : Octets size → IpAddr}
    (reads : ∀ net pl addr, inPrefix (mk net, pl) (mk addr) = decide (Holds (net, pl) addr))
    (specific : ∀ subnet ∈ out, 0 < subnet.2.toNat) {addr : Octets size}
    (denotes : Denotes out addr ↔ ¬ Denotes excludes addr) :
    (longestPrefix (out.map fun (ip, pl) => (mk ip, pl)) (mk addr) = none
        ∧ ∃ exclude ∈ excludes.map fun (ip, pl) => (mk ip, pl), inPrefix exclude (mk addr) = true)
      ∨ ∃ length, longestPrefix (out.map fun (ip, pl) => (mk ip, pl)) (mk addr) = some length
        ∧ 0 < length
        ∧ ∀ exclude ∈ excludes.map fun (ip, pl) => (mk ip, pl),
          inPrefix exclude (mk addr) = false := by
  have among : ∀ (subnets : List (Subnet size)) (net : IpPrefix),
      net ∈ subnets.map (fun (ip, pl) => (mk ip, pl)) ∧ inPrefix net (mk addr) = true
        ↔ ∃ subnet ∈ subnets, Holds subnet addr ∧ net = (mk subnet.1, subnet.2) := by
    intro subnets net
    constructor
    · rintro ⟨member, inside⟩
      obtain ⟨⟨ip, pl⟩, listed, rfl⟩ := List.mem_map.mp member
      rw [reads] at inside
      exact ⟨(ip, pl), listed, of_decide_eq_true inside, rfl⟩
    · rintro ⟨⟨ip, pl⟩, listed, held, rfl⟩
      refine ⟨List.mem_map.mpr ⟨_, listed, rfl⟩, ?_⟩
      rw [reads]
      exact decide_eq_true held
  by_cases excluded : Denotes excludes addr
  · left
    constructor
    · rw [longestPrefix, List.max?_eq_none_iff, List.map_eq_nil_iff, List.filter_eq_nil_iff]
      intro net member inside
      obtain ⟨subnet, listed, held, -⟩ := (among out net).mp ⟨member, inside⟩
      exact denotes.mp ⟨subnet, listed, held⟩ excluded
    · obtain ⟨subnet, listed, held⟩ := excluded
      exact ⟨_, (among excludes _).mpr ⟨subnet, listed, held, rfl⟩⟩
  · right
    obtain ⟨subnet, listed, held⟩ := denotes.mpr excluded
    have there := (among out _).mpr ⟨subnet, listed, held, rfl⟩
    cases longest : longestPrefix (out.map fun (ip, pl) => (mk ip, pl)) (mk addr) with
    | none =>
        rw [longestPrefix, List.max?_eq_none_iff, List.map_eq_nil_iff,
          List.filter_eq_nil_iff] at longest
        exact absurd there.2 (longest _ there.1)
    | some length =>
        refine ⟨length, rfl, ?_, fun exclude member => ?_⟩
        · obtain ⟨net, found, rfl⟩ := List.mem_map.mp (List.max?_mem longest)
          obtain ⟨subnet', listed', -, rfl⟩ := (among out net).mp (List.mem_filter.mp found)
          exact specific subnet' listed'
        · refine Bool.eq_false_iff.mpr fun inside => ?_
          obtain ⟨subnet', listed', held', -⟩ := (among excludes exclude).mp ⟨member, inside⟩
          exact excluded ⟨subnet', listed', held'⟩

end Halved

/-- **What the TUN table holds** when there are excludes and no list of routes: a specific route
for every address that is not excluded, and none for the others. -/
theorem longestPrefix_added {added : List IpPrefix} {addr : IpAddr}
    (all : cfg.routeAddress = []) (nonempty : excludedPrefixes std cfg family ≠ [])
    (done : addedRoutes std cfg family = .ok added) (here : familyOf addr = family) :
    (longestPrefix added addr = none
        ∧ ∃ exclude ∈ excludedPrefixes std cfg family, inPrefix exclude addr = true)
      ∨ ∃ length, longestPrefix added addr = some length ∧ 0 < length
        ∧ ∀ exclude ∈ excludedPrefixes std cfg family, inPrefix exclude addr = false := by
  cases family with
  | v4 =>
      obtain ⟨out, routed, later⟩ := Checked.bind_eq_ok.mp done
      cases later
      cases addr with
      | v6 ip => cases here
      | v4 ip =>
          rw [finalRouteV4, buildRouteTargetsV4, if_neg (not_not.mpr all)] at routed
          obtain ⟨specific, denotes⟩ := finalRoute_default (by decide) (by decide)
            (fun _ member => prefixesV4_valid std member)
            (fun empty => nonempty (by rw [excludedPrefixes, parseExcludedV4, empty]; rfl)) routed
          exact longestPrefix_of_default (fun _ _ _ => rfl) specific (denotes ip)
  | v6 =>
      obtain ⟨out, routed, later⟩ := Checked.bind_eq_ok.mp done
      cases later
      cases addr with
      | v4 ip => cases here
      | v6 ip =>
          rw [finalRouteV6, buildRouteTargetsV6, if_neg (not_not.mpr all)] at routed
          obtain ⟨specific, denotes⟩ := finalRoute_default (by decide) (by decide)
            (fun _ member => prefixesV6_valid std member)
            (fun empty => nonempty (by rw [excludedPrefixes, parseExcludedV6, empty]; rfl)) routed
          exact longestPrefix_of_default (fun _ _ _ => rfl) specific (denotes ip)

/-- The interface filters let a packet through. -/
def InterfaceAllowed (cfg : TunInboundConfig) (iif : String) : Prop :=
  if cfg.includeInterface ≠ [] then iif ∈ cfg.includeInterface else iif ∉ cfg.excludeInterface

/-- **With excludes the destination decides.** For every configuration that excludes addresses and
lists no routes, and whose rules fit in before the anchor: a packet that neither its UID nor its
interface keeps out takes the TUN table exactly when its destination is not excluded, whatever its
mark and its source are, and whatever `main` holds. -/
theorem excluding_captures (returned : (setup std cfg ifName).2 = true)
    (early : Early kernel std cfg ifName) (few : slotCount std cfg family ≤ 100)
    (present : hasFamily std cfg family = true) (apart : table cfg ≠ mainTable)
    (all : cfg.routeAddress = []) (nonempty : excludedPrefixes std cfg family ≠ [])
    (source : familyOf packet.src = family) (target : familyOf packet.dst = family)
    (holds : TableHolds std cfg family routes packet.dst)
    (included : ¬ UidExcluded std cfg packet.uid) (allowed : InterfaceAllowed cfg packet.iif) :
    routeOf kernel routes packet (setupTable kernel std cfg ifName family)
        = some (.table (table cfg))
      ↔ ∀ exclude ∈ excludedPrefixes std cfg family, inPrefix exclude packet.dst = false := by
  obtain ⟨added, done, same⟩ := holds
  rw [routeOf_present returned early few present source, policyRoute]
  obtain ⟨none, exclude, member, inside⟩ | ⟨length, longest, positive, free⟩ :=
    longestPrefix_added all nonempty done target
  · rw [if_neg (fun both => by rw [same, none] at both; cases both.2)]
    refine iff_of_false (mainRoute_ne apart) fun free => ?_
    cases inside.symm.trans (free exclude member)
  · have specific : Specific routes (table cfg) := ⟨length, same.trans longest, positive⟩
    have captured : Captured kernel std cfg ifName routes packet family := by
      refine .inr ⟨included, ?_⟩
      unfold InterfaceAllowed at allowed
      split
      · rename_i listed
        rwa [if_pos listed] at allowed
      · rename_i open'
        rw [if_neg open'] at allowed
        exact ⟨allowed, .inr (.inl specific)⟩
    rw [if_pos ⟨captured, specific.isSome⟩]
    exact iff_of_true rfl free

/-- How the standard library reads the strings of the following configuration. -/
def sampleExcludeText : StdText where
  parseIpAddr text :=
    if text = "198.18.0.1" then some (.v4 (.new 198 18 0 1))
    else if text = "10.0.0.0" then some (.v4 (.new 10 0 0 0))
    else none
  parseU8 text := if text = "16" then some 16 else if text = "8" then some 8 else none
  parseU32 _ := none

/-- The configuration with a mark, less a private network. -/
def excludedAddressConfig : TunInboundConfig :=
  { markedConfig with routeExcludeAddress := ["10.0.0.0/8"] }

/-- A marked packet to the local network. -/
def localPacket : Packet :=
  ⟨0, 0x1234, "lo", .v4 (.new 192 168 1 2), .v4 (.new 192 168 1 1), some 443⟩

theorem excluding_captures_sample : ∃ routes : UInt32 → Option Nat,
    routeOf plainKernel routes localPacket
        (setupTable plainKernel sampleExcludeText excludedAddressConfig "tun0" .v4)
      = some (.table (table excludedAddressConfig)) := by
  have returned : (setup sampleExcludeText excludedAddressConfig "tun0").2 = true := by
    decide +kernel
  have early : Early plainKernel sampleExcludeText excludedAddressConfig "tun0" := by
    intro family present
    cases family with
    | v4 => decide +kernel
    | v6 => exact absurd present (by decide +kernel)
  have none : buildExcludedUidRanges sampleExcludeText excludedAddressConfig = [] := by
    decide +kernel
  have excluded : excludedPrefixes sampleExcludeText excludedAddressConfig .v4
      = [(.v4 (.new 10 0 0 0), 8)] := by
    decide +kernel
  obtain ⟨added, done⟩ : ∃ added,
      addedRoutes sampleExcludeText excludedAddressConfig .v4 = .ok added := by
    have some : (addedRoutes sampleExcludeText excludedAddressConfig .v4).toOption.isSome
        = true := by
      decide +kernel
    cases done : addedRoutes sampleExcludeText excludedAddressConfig .v4 with
    | ok added => exact ⟨added, rfl⟩
    | error fault =>
        rw [done] at some
        cases some
  have source : familyOf localPacket.src = .v4 := rfl
  have target : familyOf localPacket.dst = .v4 := rfl
  refine ⟨fun _ => longestPrefix added localPacket.dst, ?_⟩
  refine (excluding_captures returned early (by decide +kernel) (by decide +kernel) (by decide) rfl
    (by rw [excluded]; exact nofun) source target ⟨added, done, rfl⟩ ?_ nofun).mpr ?_
  · rintro ⟨range, member, -⟩
    rw [none] at member
    cases member
  · rw [excluded]
    decide +kernel

end RsTun.Linux
