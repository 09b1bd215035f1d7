/-
**The routes that Windows gets.**

`setup` adds routes to the TUN, with the metric 0, and then a route for each excluded prefix, with
the default gateway as its next hop. Windows takes the route of the longest prefix, and of those the
one with the least sum of its metric and that of its interface. A call can fail, and then `netsh`
adds the route, or fails as well.

* `addExcludeRoutes_interface` — the routes of the exclusions are on the interface of the TUN too.
* `TakesTun.append` — more routes on that interface keep no address off it.
* **`exclusions_take_tun`** — so an exclusion never keeps an address off the TUN, and leads there
  what no route of the system is better for.
-/

import Mathlib.Data.List.MinMax
import Mathlib.Data.Prod.Lex
import RsTun.Config.TunInboundConfig
import RsTun.Library.Prefix

namespace RsTun.Windows

open Library Library.Prefix

/-- A prefix `(dest, pl)`, which may have host bits. -/
abbrev Subnet (size : Nat) := Octets size × UInt8

/-- `MIB_IPFORWARD_ROW2`, as `build_route_row` fills it, or a route of `netsh`; an interface is
known by its index. -/
structure Row (size : Nat) where
  interface : Nat
  destination : Subnet size
  nextHop : Octets size
  metric : Nat
  deriving DecidableEq

/-- A family: its prefixes among texts, its addresses, the next address, and the default route. -/
structure Family (size : Nat) where
  prefixes : StdText → List String → List (Subnet size)
  select : IpAddr → Option (Octets size)
  next : Octets size → Option (Octets size)
  defaultRoute : Subnet size

/-- `next_v4`. -/
def nextV4 (ip : Ipv4Addr) : Option Ipv4Addr :=
  if ip.toNat = 2 ^ 32 - 1 then none else some (.ofNat 4 (ip.toNat + 1))

/-- IPv4. -/
def v4 : Family 4 where
  prefixes := prefixesV4
  select addr := match addr with
    | .v4 ip => some ip
    | .v6 _ => none
  next := nextV4
  defaultRoute := (.ofNat 4 0, 0)

/-- IPv6: the next address wraps around. -/
def v6 : Family 16 where
  prefixes := prefixesV6
  select addr := match addr with
    | .v4 _ => none
    | .v6 ip => some ip
  next ip := some (.ofNat 16 (ip.toNat + 1))
  defaultRoute := (.ofNat 16 0, 0)

/-- The interface of the TUN by its LUID and index, if they are known, and the calls that can fail:
`CreateIpForwardEntry2` and `netsh interface add route`. -/
structure Calls (size : Nat) where
  known : Bool
  create : Row size → Bool
  netsh : Row size → Bool

section Setup

variable {size : Nat} (family : Family size) (std : StdText) (cfg : TunInboundConfig)
  (calls : Calls size) (tun : Nat)

/-- `tun_routes_v4`, `tun_routes_v6`. -/
def tunRoutes : List (Subnet size) :=
  if cfg.routeAddress ≠ [] then family.prefixes std cfg.routeAddress else [family.defaultRoute]

/-- `exclude_routes_v4`, `exclude_routes_v6`. -/
def excludeRoutes : List (Subnet size) := family.prefixes std cfg.routeExcludeAddress

/-- `server_addr_v4`, `server_addr_v6`. -/
def serverAddr : Option (Octets size) :=
  cfg.address.findSome? fun text => do
    let (ip, _) ← parseAddrPrefix std text
    family.next (← family.select ip)

/-- A route by `CreateIpForwardEntry2`, or else by `netsh`. -/
def addRoute (row fallback : Row size) : List (Row size) :=
  if calls.known && calls.create row then [row]
  else if calls.netsh fallback then [fallback] else []

/-- `add_auto_routes`, for a family that has an address. -/
def addAutoRoutes : List (Row size) :=
  let gw := (serverAddr family std cfg).getD (.ofNat size 0)
  (tunRoutes family std cfg).flatMap fun cidr =>
    addRoute calls ⟨tun, cidr, gw, 0⟩ ⟨tun, cidr, .ofNat size 0, 0⟩

/-- `add_exclude_routes`, for a family that has an address. -/
def addExcludeRoutes (gwPhys : Option (Octets size)) : List (Row size) :=
  if cfg.routeExcludeAddress = [] then []
  else match gwPhys with
    | some gw => (excludeRoutes family std cfg).flatMap fun cidr =>
        addRoute calls ⟨tun, cidr, gw, 0⟩ ⟨tun, cidr, gw, 0⟩
    | none => []

end Setup

/-! ### The route of an address -/

section Route

variable {size : Nat}

/-- The address lies in the prefix of the row. -/
def Row.Covers (row : Row size) (addr : Octets size) : Prop :=
  SameBlock (8 * size) row.destination.2.toNat row.destination.1.toNat addr.toNat

instance (row : Row size) (addr : Octets size) : Decidable (row.Covers addr) :=
  inferInstanceAs (Decidable (SameBlock _ _ _ _))

/-- The longer prefix goes first, then the lesser sum of the metrics. -/
def Row.rank (interfaceMetric : Nat → Nat) (row : Row size) : Nat ×ₗ Natᵒᵈ :=
  toLex (row.destination.2.toNat, .toDual (row.metric + interfaceMetric row.interface))

/-- The route that an address takes. -/
def route (interfaceMetric : Nat → Nat) (rows : List (Row size)) (addr : Octets size) :
    Option (Row size) :=
  (rows.filter (·.Covers addr)).argmax (·.rank interfaceMetric)

/-- The address takes a route on the interface. -/
def TakesTun (interfaceMetric : Nat → Nat) (tun : Nat) (rows : List (Row size))
    (addr : Octets size) : Prop :=
  ∃ row, route interfaceMetric rows addr = some row ∧ row.interface = tun

instance (interfaceMetric : Nat → Nat) (tun : Nat) (rows : List (Row size)) (addr : Octets size) :
    Decidable (TakesTun interfaceMetric tun rows addr) :=
  match found : route interfaceMetric rows addr with
  | none => isFalse fun takes => by
      obtain ⟨row, same, -⟩ := takes
      cases found.symm.trans same
  | some row => decidable_of_iff (row.interface = tun) ⟨fun on => ⟨row, found, on⟩, fun takes => by
      obtain ⟨other, same, on⟩ := takes
      cases found.symm.trans same
      exact on⟩

variable {family : Family size} {std : StdText} {cfg : TunInboundConfig} {calls : Calls size}
  {tun : Nat} {interfaceMetric : Nat → Nat} {rows more : List (Row size)} {row : Row size}
  {addr : Octets size}

/-- **One more route**: it is taken if it covers the address and is better than the others. -/
theorem route_concat (covers : row.Covers addr) : route interfaceMetric (rows ++ [row]) addr
    = match route interfaceMetric rows addr with
      | none => some row
      | some best =>
          if best.rank interfaceMetric < row.rank interfaceMetric then some row else some best := by
  have one : [row].filter (·.Covers addr) = [row] :=
    List.filter_cons_of_pos (decide_eq_true covers)
  rw [route, List.filter_append, one, List.argmax_concat]
  unfold route
  cases (rows.filter (·.Covers addr)).argmax (·.rank interfaceMetric) with
  | none => rfl
  | some best => rfl

theorem route_concat_of_not (apart : ¬ row.Covers addr) :
    route interfaceMetric (rows ++ [row]) addr = route interfaceMetric rows addr := by
  rw [route, List.filter_append, List.filter_cons_of_neg (by simpa using apart), List.filter_nil,
    List.append_nil]
  rfl

/-- **More routes on the interface** keep no address off it. -/
theorem TakesTun.append (takes : TakesTun interfaceMetric tun rows addr)
    (on : ∀ row ∈ more, row.interface = tun) :
    TakesTun interfaceMetric tun (rows ++ more) addr := by
  induction more generalizing rows with
  | nil => rwa [List.append_nil]
  | cons row rest ih =>
      obtain ⟨here, on⟩ := List.forall_mem_cons.mp on
      rw [List.append_cons]
      refine ih ?_ on
      by_cases covers : row.Covers addr
      · obtain ⟨best, found, there⟩ := takes
        rw [TakesTun, route_concat covers, found]
        dsimp only
        split
        · exact ⟨row, rfl, here⟩
        · exact ⟨best, rfl, there⟩
      · rwa [TakesTun, route_concat_of_not covers]

theorem addRoute_interface {fallback : Row size} (on : row.interface = tun)
    (on' : fallback.interface = tun) : ∀ added ∈ addRoute calls row fallback,
      added.interface = tun := by
  intro added member
  unfold addRoute at member
  split at member
  · rw [List.mem_singleton.mp member, on]
  · split at member
    · rw [List.mem_singleton.mp member, on']
    · cases member

/-- **The routes of the exclusions** are on the interface of the TUN. -/
theorem addExcludeRoutes_interface {gwPhys : Option (Octets size)} :
    ∀ row ∈ addExcludeRoutes family std cfg calls tun gwPhys, row.interface = tun := by
  intro row member
  unfold addExcludeRoutes at member
  split at member
  · cases member
  · split at member
    · obtain ⟨cidr, -, added⟩ := List.mem_flatMap.mp member
      exact addRoute_interface rfl rfl row added
    · cases member

end Route

/-- **Exclusions take the TUN.** Whatever routes the system has and whatever calls fail: an address
that takes the TUN without the routes of the exclusions takes it with them, and so does one that
such a route covers and that no other route is as good for. -/
theorem exclusions_take_tun (size : Nat) (family : Family size) (std : StdText)
    (cfg : TunInboundConfig) (calls : Calls size) (tun : Nat) (gwPhys : Option (Octets size))
    (interfaceMetric : Nat → Nat) (system : List (Row size)) (addr : Octets size)
    (either : TakesTun interfaceMetric tun (system ++ addAutoRoutes family std cfg calls tun) addr
      ∨ ∃ row ∈ addExcludeRoutes family std cfg calls tun gwPhys, row.Covers addr
        ∧ ∀ other ∈ system, other.Covers addr →
          other.rank interfaceMetric < row.rank interfaceMetric) :
    TakesTun interfaceMetric tun (system ++ addAutoRoutes family std cfg calls tun
      ++ addExcludeRoutes family std cfg calls tun gwPhys) addr := by
  have auto : ∀ row ∈ addAutoRoutes family std cfg calls tun, row.interface = tun := by
    intro row member
    obtain ⟨cidr, -, added⟩ := List.mem_flatMap.mp member
    exact @addRoute_interface size calls tun ⟨tun, cidr, _, 0⟩ ⟨tun, cidr, _, 0⟩ rfl rfl row added
  rcases either with takes | ⟨row, member, covers, better⟩
  · exact takes.append addExcludeRoutes_interface
  · have listed : row ∈ (system ++ addAutoRoutes family std cfg calls tun
        ++ addExcludeRoutes family std cfg calls tun gwPhys).filter (·.Covers addr) :=
      List.mem_filter.mpr ⟨List.mem_append_right _ member, decide_eq_true covers⟩
    cases found : route interfaceMetric (system ++ addAutoRoutes family std cfg calls tun
        ++ addExcludeRoutes family std cfg calls tun gwPhys) addr with
    | none =>
        rw [List.argmax_eq_none.mp found] at listed
        cases listed
    | some best =>
        refine ⟨best, found, ?_⟩
        obtain ⟨there, here⟩ := List.mem_filter.mp (List.argmax_mem (Option.mem_def.mpr found))
        rcases List.mem_append.mp there with there | excluded
        · rcases List.mem_append.mp there with plain | automatic
          · have most := List.le_of_mem_argmax listed (Option.mem_def.mpr found)
            exact absurd (better best plain (of_decide_eq_true here)) (not_lt.mpr most)
          · exact auto best automatic
        · exact addExcludeRoutes_interface best excluded

/-- Parsers that know the texts of the sample. -/
def sampleExclusionText : StdText where
  parseIpAddr text := if text = "172.19.0.1" then some (.v4 (.new 172 19 0 1))
    else if text = "10.0.0.0" then some (.v4 (.new 10 0 0 0)) else none
  parseU8 text := if text = "30" then some 30 else if text = "8" then some 8 else none
  parseU32 _ := none

/-- A TUN that leaves a private network out. -/
def sampleExclusion : TunInboundConfig :=
  { TunInboundConfig.minimal "tun" ["172.19.0.1/30"] with routeExcludeAddress := ["10.0.0.0/8"] }

/-- Calls that all succeed. -/
def sampleCalls : Calls 4 := ⟨true, fun _ => true, fun _ => true⟩

theorem exclusions_take_tun_sample :
    TakesTun (fun interface => if interface = 17 then 0 else 25) 17
      ([⟨3, (.ofNat 4 0, 0), Ipv4Addr.new 192 168 1 1, 0⟩]
        ++ addAutoRoutes v4 sampleExclusionText sampleExclusion sampleCalls 17
        ++ addExcludeRoutes v4 sampleExclusionText sampleExclusion sampleCalls 17
          (some (Ipv4Addr.new 192 168 1 1)))
      (Ipv4Addr.new 10 1 2 3) :=
  exclusions_take_tun 4 v4 sampleExclusionText sampleExclusion sampleCalls 17
    (some (Ipv4Addr.new 192 168 1 1))
    (fun interface => if interface = 17 then 0 else 25)
    [⟨3, (.ofNat 4 0, 0), Ipv4Addr.new 192 168 1 1, 0⟩] (Ipv4Addr.new 10 1 2 3)
    (.inl (by decide +kernel))

end RsTun.Windows
