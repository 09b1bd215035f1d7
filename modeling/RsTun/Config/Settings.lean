/-
**What the engine reads off a configuration.**

`TunInbound::run` and the `setup` of the platforms parse the lists of a configuration when they
start. `settings` collects what they get: everything they do depends on a configuration through it.

* `foldl_loopbacks` — the loop over `loopback_address` keeps the first occurrence of each address.
* `prefixesV4_printed`, `prefixesV6_printed` — what the engine reads in a list of prefixes that was
  printed.
-/

import RsTun.Config.Merged
import RsTun.Config.Options
import RsTun.Linux.Routes

namespace RsTun

open Library

/-- `DEFAULT_UDP_TIMEOUT_SECS`. -/
def defaultUdpTimeoutSecs : UInt64 := 300

/-- The stack that is dispatched to, by the tests on `cfg.stack`. -/
def stackChoice (stack : String) : StackKind :=
  if stack = "gvisor" ∨ stack = "mixed" then
    if stack = "gvisor" then .gvisor else .mixed
  else .system

/-- The IPv4 address of an address. -/
def IpAddr.toV4 : IpAddr → Option Ipv4Addr
  | .v4 ip => some ip
  | .v6 _ => none

/-- The IPv6 address of an address. -/
def IpAddr.toV6 : IpAddr → Option Ipv6Addr
  | .v4 _ => none
  | .v6 ip => some ip

section Loopback

variable {Addr : Type} [DecidableEq Addr]

/-- A text of `loopback_address`, as an address of one family. -/
def readLoopback (std : StdText) (family : IpAddr → Option Addr) (text : String) : Option Addr :=
  (parseIp std text).bind family

/-- The loop over `loopback_address`, for one family. -/
def loopbacks (std : StdText) (family : IpAddr → Option Addr) (texts : List String) : List Addr :=
  texts.foldl (fun found text =>
    match readLoopback std family text with
    | some a => if found.contains a then found else found ++ [a]
    | none => found) []

/-- The loopback addresses of a family, or its default. -/
def loopbacksOr (std : StdText) (family : IpAddr → Option Addr) (default : Addr)
    (texts : List String) : List Addr :=
  let found := loopbacks std family texts
  if found.isEmpty then [default] else found

theorem foldl_loopbacks {std : StdText} {family : IpAddr → Option Addr} {texts : List String}
    {found : List Addr} :
    texts.foldl (fun found text =>
      match readLoopback std family text with
      | some a => if found.contains a then found else found ++ [a]
      | none => found) found
      = found ++ Distinct.firstsFrom found (texts.filterMap (readLoopback std family)) := by
  induction texts generalizing found with
  | nil => exact (List.append_nil found).symm
  | cons text rest ih =>
      rw [List.foldl_cons, ih]
      cases read : readLoopback std family text with
      | none => rw [List.filterMap_cons_none read]
      | some a =>
          rw [List.filterMap_cons_some read, Distinct.firstsFrom]
          by_cases known : a ∈ found
          · simp only [List.contains_iff_mem.mpr known, if_pos known, if_true]
          · have new : found.contains a = false := by
              rw [← Bool.not_eq_true, List.contains_iff_mem]
              exact known
            simp only [new, Bool.false_eq_true, if_false, if_neg known, List.append_assoc,
              List.singleton_append]

/-- The loop keeps the first occurrence of each address. -/
theorem loopbacksOr_eq {std : StdText} {family : IpAddr → Option Addr} {default : Addr}
    {texts : List String} :
    loopbacksOr std family default texts
      = Distinct.orDefault default
        (Distinct.firstsFrom [] (texts.filterMap (readLoopback std family))) := by
  rw [loopbacksOr, loopbacks, foldl_loopbacks, List.nil_append, Distinct.orDefault]
  simp only [List.isEmpty_iff]

end Loopback

/-- `DEFAULT_INET4_LOOPBACK`. -/
def defaultInet4Loopback : Ipv4Addr := ⟨[127, 0, 0, 1], rfl⟩

/-- `DEFAULT_INET6_LOOPBACK`. -/
def defaultInet6Loopback : Ipv6Addr := ⟨[0, 0, 0, 0, 0, 0, 0, 0, 0, 0, 0, 0, 0, 0, 0, 1], rfl⟩

/-- What the engine gets from a configuration. -/
structure Settings where
  tag : String
  interfaceName : Option String
  mtu : UInt32
  inet4Prefixes : List (Ipv4Addr × UInt8)
  inet6Prefixes : List (Ipv6Addr × UInt8)
  autoRoute : Bool
  iproute2TableIndex : UInt32
  iproute2RuleIndex : UInt32
  soMark : Option UInt32
  strictRoute : Bool
  stack : StackKind
  includeInterface : List String
  excludeInterface : List String
  includeUids : List UidRange
  excludeUids : List UidRange
  routeTargetsV4 : List (Ipv4Addr × UInt8)
  routeTargetsV6 : List (Ipv6Addr × UInt8)
  excludedV4 : List (Ipv4Addr × UInt8)
  excludedV6 : List (Ipv6Addr × UInt8)
  inet4Loopback : List Ipv4Addr
  inet6Loopback : List Ipv6Addr
  udpTimeout : UInt64
  tcpMss : Option UInt16
  includeAndroidUser : List Int32
  includePackage : List String
  excludePackage : List String
  overrideAndroidVpn : Bool
  autoRedirect : Bool
  autoRedirectInputMark : UInt32
  autoRedirectOutputMark : UInt32
  deriving DecidableEq

/-- The configuration as the engine reads it. -/
def settings (std : StdText) (cfg : TunInboundConfig) : Settings where
  tag := cfg.tag
  interfaceName := cfg.interfaceName
  mtu := cfg.mtu
  inet4Prefixes := prefixesV4 std cfg.address
  inet6Prefixes := prefixesV6 std cfg.address
  autoRoute := cfg.autoRoute
  iproute2TableIndex := cfg.iproute2TableIndex
  iproute2RuleIndex := cfg.iproute2RuleIndex
  soMark := cfg.soMark
  strictRoute := cfg.strictRoute
  stack := stackChoice cfg.stack
  includeInterface := cfg.includeInterface
  excludeInterface := cfg.excludeInterface
  includeUids := mergeUidListAndRanges std cfg.includeUid cfg.includeUidRange
  excludeUids := mergeUidListAndRanges std cfg.excludeUid cfg.excludeUidRange
  routeTargetsV4 := Linux.buildRouteTargetsV4 std cfg
  routeTargetsV6 := Linux.buildRouteTargetsV6 std cfg
  excludedV4 := Linux.parseExcludedV4 std cfg
  excludedV6 := Linux.parseExcludedV6 std cfg
  inet4Loopback := loopbacksOr std IpAddr.toV4 defaultInet4Loopback cfg.loopbackAddress
  inet6Loopback := loopbacksOr std IpAddr.toV6 defaultInet6Loopback cfg.loopbackAddress
  udpTimeout := if cfg.udpTimeout = 0 then defaultUdpTimeoutSecs else cfg.udpTimeout
  tcpMss := cfg.tcpMss
  includeAndroidUser := cfg.includeAndroidUser
  includePackage := cfg.includePackage
  excludePackage := cfg.excludePackage
  overrideAndroidVpn := cfg.overrideAndroidVpn
  autoRedirect := cfg.autoRedirect
  autoRedirectInputMark := cfg.autoRedirectInputMark
  autoRedirectOutputMark := cfg.autoRedirectOutputMark

/-! ### The lists of a configuration, printed -/

section Printed

variable {std : StdText} {print : StdPrint}

/-- The first half of a list split by a test, then the other half. -/
theorem filterMap_split {Item Value : Type} {items : List Item} {keep : Item → Bool}
    {read : Item → Option Value}
    (one : (∀ item, keep item = false → read item = none)
      ∨ ∀ item, keep item = true → read item = none) :
    (items.filter keep ++ items.filter (!keep ·)).filterMap read = items.filterMap read := by
  induction items with
  | nil => rfl
  | cons item rest ih =>
      rw [List.filterMap_append] at ih ⊢
      cases kept : keep item with
      | true =>
          rw [List.filter_cons_of_pos kept, List.filter_cons_of_neg (by simp [kept])]
          cases found : read item with
          | none => rw [List.filterMap_cons_none found, List.filterMap_cons_none found, ih]
          | some value =>
              rw [List.filterMap_cons_some found, List.filterMap_cons_some found,
                List.cons_append, ih]
      | false =>
          rw [List.filter_cons_of_neg (by simp [kept]), List.filter_cons_of_pos (by simp [kept])]
          cases found : read item with
          | none => rw [List.filterMap_cons_none found, List.filterMap_cons_none found, ih]
          | some value =>
              -- only the other half is read, so that nothing stands before the item
              rcases one with other | other
              · rw [other item kept] at found
                cases found
              · have nothing : (rest.filter keep).filterMap read = [] :=
                  List.filterMap_eq_nil_iff.mpr fun member inside =>
                    other member (List.mem_filter.mp inside).2
                rw [nothing, List.nil_append] at ih ⊢
                rw [List.filterMap_cons_some found, List.filterMap_cons_some found, ih]

/-- The bound that the engine puts on the length of a prefix. -/
def checkLength (addrPrefix : AddrPrefix) : Option AddrPrefix :=
  if addrPrefix.2.toNat > addrPrefix.1.maxLen then none else some addrPrefix

/-- The prefix, if it is of IPv4 and its length is one. -/
def readV4 (addrPrefix : AddrPrefix) : Option (Ipv4Addr × UInt8) :=
  match checkLength addrPrefix with
  | some (.v4 ip, pl) => some (ip, pl)
  | _ => none

/-- The prefix, if it is of IPv6 and its length is one. -/
def readV6 (addrPrefix : AddrPrefix) : Option (Ipv6Addr × UInt8) :=
  match checkLength addrPrefix with
  | some (.v6 ip, pl) => some (ip, pl)
  | _ => none

theorem prefixesV4_eq (texts : List String) :
    prefixesV4 std texts = (texts.filterMap (Options.parsePrefix std)).filterMap readV4 := by
  rw [List.filterMap_filterMap, prefixesV4]
  congr 1
  funext text
  rw [parseAddrPrefix_eq]
  cases Options.parsePrefix std text <;> rfl

theorem prefixesV6_eq (texts : List String) :
    prefixesV6 std texts = (texts.filterMap (Options.parsePrefix std)).filterMap readV6 := by
  rw [List.filterMap_filterMap, prefixesV6]
  congr 1
  funext text
  rw [parseAddrPrefix_eq]
  cases Options.parsePrefix std text <;> rfl

/-- The prefixes that are parsed, IPv4 first, as they are printed. -/
def printedPrefixes (std : StdText) (print : StdPrint) (texts : List String) : List String :=
  let prefixes := texts.filterMap (Options.parsePrefix std)
  (prefixes.filter (·.1.isIpv4) ++ prefixes.filter (!·.1.isIpv4)).map (printPrefix print)

theorem parsePrefix_printedPrefixes (inverse : Inverse std print) (texts : List String) :
    (printedPrefixes std print texts).filterMap (Options.parsePrefix std)
      = (texts.filterMap (Options.parsePrefix std)).filter (·.1.isIpv4)
        ++ (texts.filterMap (Options.parsePrefix std)).filter (!·.1.isIpv4) := by
  rw [printedPrefixes, List.filterMap_map]
  have back : Options.parsePrefix std ∘ printPrefix print = some :=
    funext (parsePrefix_printPrefix inverse)
  rw [back, List.filterMap_some]

/-- **Printing keeps the IPv4 prefixes**, in their order. -/
theorem prefixesV4_printed (inverse : Inverse std print) (texts : List String) :
    prefixesV4 std (printedPrefixes std print texts) = prefixesV4 std texts := by
  rw [prefixesV4_eq, prefixesV4_eq, parsePrefix_printedPrefixes inverse]
  refine filterMap_split (Or.inl fun addrPrefix other => ?_)
  obtain ⟨ip | ip, pl⟩ := addrPrefix
  · cases other
  · rw [readV4, checkLength]
    split <;> simp_all

/-- **Printing keeps the IPv6 prefixes**, in their order. -/
theorem prefixesV6_printed (inverse : Inverse std print) (texts : List String) :
    prefixesV6 std (printedPrefixes std print texts) = prefixesV6 std texts := by
  rw [prefixesV6_eq, prefixesV6_eq, parsePrefix_printedPrefixes inverse]
  refine filterMap_split (Or.inr fun addrPrefix other => ?_)
  obtain ⟨ip | ip, pl⟩ := addrPrefix
  · rw [readV6, checkLength]
    split <;> simp_all
  · cases other

end Printed

end RsTun
