/-
**The run-time options, from a configuration and back.**

`to_options` parses the texts of a configuration with parsers of its own; `to_config` prints them
again. `Display` of the standard library for addresses and numbers is a parameter (`StdPrint`), with
what is documented of it and of `FromStr` in `Inverse`.

* `parsePrefix_printPrefix`, `parseUidRange_printUidRange` — what is printed is parsed back.
* `parseAddrPrefix_eq`, `parseUidRange_eq` — where the parsers of the engine differ from these.
-/

import RsTun.Config.UidRanges

namespace RsTun

/-- `IpAddr::is_ipv4`. -/
def IpAddr.isIpv4 : IpAddr → Bool
  | .v4 _ => true
  | .v6 _ => false

/-- `Prefix`: an address and the length of its prefix, whatever the length. -/
abbrev AddrPrefix := IpAddr × UInt8

/-- `StackKind`. -/
inductive StackKind where
  | system
  | gvisor
  | mixed
  deriving DecidableEq

/-- `StackKind::as_str`. -/
def StackKind.asStr : StackKind → String
  | .system => "system"
  | .gvisor => "gvisor"
  | .mixed => "mixed"

/-- `StackKind::parse`. -/
def StackKind.parse (text : String) : Option StackKind :=
  if text = "" ∨ text = "system" then some .system
  else if text = "gvisor" then some .gvisor
  else if text = "mixed" then some .mixed
  else none

/-- `Options`; the timeout is in seconds. -/
structure Options where
  name : Option String
  inet4Address : List AddrPrefix
  inet6Address : List AddrPrefix
  mtu : UInt32
  gso : Bool
  autoRoute : Bool
  inet4Gateway : Option IpAddr
  inet6Gateway : Option IpAddr
  dnsServers : List IpAddr
  iproute2TableIndex : UInt32
  iproute2RuleIndex : UInt32
  inet4LoopbackAddress : List IpAddr
  inet6LoopbackAddress : List IpAddr
  strictRoute : Bool
  inet4RouteAddress : List AddrPrefix
  inet6RouteAddress : List AddrPrefix
  inet4RouteExcludeAddress : List AddrPrefix
  inet6RouteExcludeAddress : List AddrPrefix
  includeInterface : List String
  excludeInterface : List String
  includeUid : List UidRange
  excludeUid : List UidRange
  includeAndroidUser : List Int32
  includePackage : List String
  excludePackage : List String
  tcpMss : Option UInt16
  udpTimeout : UInt64
  stack : StackKind
  autoRedirect : Bool
  autoRedirectInputMark : UInt32
  autoRedirectOutputMark : UInt32
  deriving DecidableEq

/-! ### From a configuration -/

section Parse

variable (std : StdText)

/-- `parse_prefix` of the options. -/
def Options.parsePrefix (text : String) : Option AddrPrefix := do
  let (addr, plen) ← splitOnce text '/'
  return (← std.parseIpAddr addr, ← std.parseU8 plen)

/-- `parse_uid_range` of the options. -/
def Options.parseUidRange (text : String) : Option UidRange :=
  match splitOnce text ':' with
  | some (a, b) => do return (← std.parseU32 a, ← std.parseU32 b)
  | none => do
    let v ← std.parseU32 text
    return (v, v)

/-- The UIDs and ranges of a configuration, in their order. -/
def Options.uids (uids : List UInt32) (ranges : List String) : List UidRange :=
  uids.map (fun u => (u, u)) ++ ranges.filterMap (Options.parseUidRange std)

/-- `TunInboundConfig::to_options`. -/
def TunInboundConfig.toOptions (c : TunInboundConfig) : Options :=
  let address := c.address.filterMap (Options.parsePrefix std)
  let loopback := c.loopbackAddress.filterMap std.parseIpAddr
  let route := c.routeAddress.filterMap (Options.parsePrefix std)
  let exclude := c.routeExcludeAddress.filterMap (Options.parsePrefix std)
  { name := c.interfaceName
    inet4Address := address.filter (·.1.isIpv4)
    inet6Address := address.filter (!·.1.isIpv4)
    mtu := c.mtu
    gso := true
    autoRoute := c.autoRoute
    inet4Gateway := none
    inet6Gateway := none
    dnsServers := []
    iproute2TableIndex := c.iproute2TableIndex
    iproute2RuleIndex := c.iproute2RuleIndex
    inet4LoopbackAddress := loopback.filter (·.isIpv4)
    inet6LoopbackAddress := loopback.filter (!·.isIpv4)
    strictRoute := c.strictRoute
    inet4RouteAddress := route.filter (·.1.isIpv4)
    inet6RouteAddress := route.filter (!·.1.isIpv4)
    inet4RouteExcludeAddress := exclude.filter (·.1.isIpv4)
    inet6RouteExcludeAddress := exclude.filter (!·.1.isIpv4)
    includeInterface := c.includeInterface
    excludeInterface := c.excludeInterface
    includeUid := Options.uids std c.includeUid c.includeUidRange
    excludeUid := Options.uids std c.excludeUid c.excludeUidRange
    includeAndroidUser := c.includeAndroidUser
    includePackage := c.includePackage
    excludePackage := c.excludePackage
    tcpMss := c.tcpMss
    udpTimeout := if c.udpTimeout = 0 then 300 else c.udpTimeout
    stack := (StackKind.parse c.stack).getD .system
    autoRedirect := c.autoRedirect
    autoRedirectInputMark := c.autoRedirectInputMark
    autoRedirectOutputMark := c.autoRedirectOutputMark }

end Parse

/-! ### Back to a configuration -/

/-- `Display` of the standard library, for what `to_config` prints. -/
structure StdPrint where
  showIpAddr : IpAddr → String
  showU8 : UInt8 → String
  showU32 : UInt32 → String

section Print

variable (print : StdPrint)

/-- `prefix_to_string`. -/
def printPrefix (addrPrefix : AddrPrefix) : String :=
  print.showIpAddr addrPrefix.1 ++ "/" ++ print.showU8 addrPrefix.2

/-- `format!("{a}:{b}")`. -/
def printUidRange (range : UidRange) : String :=
  print.showU32 range.1 ++ ":" ++ print.showU32 range.2

/-- `Options::to_config`. -/
def Options.toConfig (o : Options) (tag : String) : TunInboundConfig where
  tag := tag
  interfaceName := o.name
  mtu := o.mtu
  address := (o.inet4Address ++ o.inet6Address).map (printPrefix print)
  autoRoute := o.autoRoute
  iproute2TableIndex := o.iproute2TableIndex
  iproute2RuleIndex := o.iproute2RuleIndex
  soMark := none
  strictRoute := o.strictRoute
  stack := o.stack.asStr
  includeInterface := o.includeInterface
  excludeInterface := o.excludeInterface
  includeUid := []
  excludeUid := []
  includeUidRange := o.includeUid.map (printUidRange print)
  excludeUidRange := o.excludeUid.map (printUidRange print)
  routeAddress := (o.inet4RouteAddress ++ o.inet6RouteAddress).map (printPrefix print)
  routeExcludeAddress :=
    (o.inet4RouteExcludeAddress ++ o.inet6RouteExcludeAddress).map (printPrefix print)
  loopbackAddress := (o.inet4LoopbackAddress ++ o.inet6LoopbackAddress).map print.showIpAddr
  udpTimeout := o.udpTimeout
  tcpMss := o.tcpMss
  includeAndroidUser := o.includeAndroidUser
  includePackage := o.includePackage
  excludePackage := o.excludePackage
  overrideAndroidVpn := false
  autoRedirect := o.autoRedirect
  autoRedirectInputMark := o.autoRedirectInputMark
  autoRedirectOutputMark := o.autoRedirectOutputMark

end Print

/-- What is documented of parsing and printing: they are inverse, a number is printed in digits, an
address without a slash, and neither is parsed with whitespace around it. -/
structure Inverse (std : StdText) (print : StdPrint) : Prop where
  parse_showIpAddr : ∀ ip, std.parseIpAddr (print.showIpAddr ip) = some ip
  parse_showU8 : ∀ number, std.parseU8 (print.showU8 number) = some number
  parse_showU32 : ∀ number, std.parseU32 (print.showU32 number) = some number
  slash_showIpAddr : ∀ ip, '/' ∉ (print.showIpAddr ip).toList
  digits_showU32 : ∀ number, ∀ char ∈ (print.showU32 number).toList, char.isDigit
  trim_ipAddr : ∀ text ip, std.parseIpAddr text = some ip → trim text = text
  trim_u32 : ∀ text number, std.parseU32 text = some number → trim text = text

/-! ### What is printed is parsed back -/

/-- The first separator of a printed pair is the one that was printed. -/
theorem splitOnce_append {first second : String} {separator : Char}
    (absent : separator ∉ first.toList) :
    splitOnce (first ++ .ofList [separator] ++ second) separator = some (first, second) := by
  have before : ∀ char ∈ first.toList, decide (char ≠ separator) = true := by
    intro char member
    rw [decide_eq_true_eq]
    rintro rfl
    exact absent member
  have text : (first ++ .ofList [separator] ++ second).toList
      = first.toList ++ separator :: second.toList := by
    simp
  rw [splitOnce, text, List.dropWhile_append_of_pos before, List.takeWhile_append_of_pos before]
  simp

section Inverse

variable {std : StdText} {print : StdPrint}

theorem parsePrefix_printPrefix (inverse : Inverse std print) (addrPrefix : AddrPrefix) :
    Options.parsePrefix std (printPrefix print addrPrefix) = some addrPrefix := by
  have split := @splitOnce_append (print.showIpAddr addrPrefix.1) (print.showU8 addrPrefix.2) '/'
    (inverse.slash_showIpAddr _)
  rw [Options.parsePrefix, printPrefix]
  show (splitOnce _ '/' >>= _) = _
  rw [show ("/" : String) = .ofList ['/'] from rfl, split]
  simp only [Option.bind_eq_bind, Option.bind_some, inverse.parse_showIpAddr, inverse.parse_showU8]
  rfl

/-- `parse_addr_prefix` is `parse_prefix` with a bound on the length. -/
theorem parseAddrPrefix_eq (text : String) :
    parseAddrPrefix std text = (Options.parsePrefix std text).bind fun addrPrefix =>
      if addrPrefix.2.toNat > addrPrefix.1.maxLen then none else some addrPrefix := by
  simp only [parseAddrPrefix, Options.parsePrefix, Option.bind_eq_bind]
  cases splitOnce text '/' with
  | none => rfl
  | some parts =>
      simp only [Option.bind_some]
      cases std.parseIpAddr parts.1 with
      | none => rfl
      | some ip =>
          simp only [Option.bind_some]
          cases std.parseU8 parts.2 with
          | none => rfl
          | some prefixLen => rfl

/-- `parse_uid_range` of the engine on two numbers without whitespace around them. -/
theorem parseUidRange_eq (inverse : Inverse std print) {text : String} {parts : String × String}
    {range : UidRange} (split : splitOnce text ':' = some parts)
    (parsed : Options.parseUidRange std text = some range) :
    parseUidRange std text = if range.1 > range.2 then none else some range := by
  simp only [Options.parseUidRange, split, Option.bind_eq_bind, Option.bind_eq_some_iff] at parsed
  obtain ⟨start, first, stop, second, parsed⟩ := parsed
  cases parsed
  simp only [parseUidRange, split, Option.bind_eq_bind, Option.bind_some,
    inverse.trim_u32 _ _ first, inverse.trim_u32 _ _ second, first, second]
  rfl

theorem splitOnce_printUidRange (inverse : Inverse std print) (range : UidRange) :
    splitOnce (printUidRange print range) ':'
      = some (print.showU32 range.1, print.showU32 range.2) := by
  refine splitOnce_append fun member => ?_
  have digit := inverse.digits_showU32 _ _ member
  cases digit

theorem parseUidRange_printUidRange (inverse : Inverse std print) (range : UidRange) :
    Options.parseUidRange std (printUidRange print range) = some range := by
  simp only [Options.parseUidRange, splitOnce_printUidRange inverse, Option.bind_eq_bind,
    Option.bind_some, inverse.parse_showU32]
  rfl

end Inverse

end RsTun
