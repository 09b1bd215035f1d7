/-
**The configuration of the inbound, and the parsers that the engine reads it with.**

`FromStr` of the standard library for addresses and numbers is a parameter (`StdText`); how the
engine takes a string apart before it asks the standard library is in `parseAddrPrefix`, `parseIp`
and `parseUidRange`.

* `parseAddrPrefix_valid` — a prefix that the engine accepts is no longer than its address.
-/

import RsTun.Net.Addr

namespace RsTun

/-- `TunInboundConfig`. -/
structure TunInboundConfig where
  tag : String
  interfaceName : Option String
  mtu : UInt32
  address : List String
  autoRoute : Bool
  iproute2TableIndex : UInt32
  iproute2RuleIndex : UInt32
  soMark : Option UInt32
  strictRoute : Bool
  stack : String
  includeInterface : List String
  excludeInterface : List String
  includeUid : List UInt32
  excludeUid : List UInt32
  includeUidRange : List String
  excludeUidRange : List String
  routeAddress : List String
  routeExcludeAddress : List String
  loopbackAddress : List String
  udpTimeout : UInt64
  tcpMss : Option UInt16
  includeAndroidUser : List Int32
  includePackage : List String
  excludePackage : List String
  overrideAndroidVpn : Bool
  autoRedirect : Bool
  autoRedirectInputMark : UInt32
  autoRedirectOutputMark : UInt32
  deriving DecidableEq

/-- A configuration that gives a tag and addresses only; the rest are the defaults. -/
def TunInboundConfig.minimal (tag : String) (address : List String) : TunInboundConfig where
  tag := tag
  interfaceName := none
  mtu := 9000
  address := address
  autoRoute := false
  iproute2TableIndex := 2022
  iproute2RuleIndex := 9000
  soMark := none
  strictRoute := false
  stack := "system"
  includeInterface := []
  excludeInterface := []
  includeUid := []
  excludeUid := []
  includeUidRange := []
  excludeUidRange := []
  routeAddress := []
  routeExcludeAddress := []
  loopbackAddress := []
  udpTimeout := 0
  tcpMss := none
  includeAndroidUser := []
  includePackage := []
  excludePackage := []
  overrideAndroidVpn := false
  autoRedirect := false
  autoRedirectInputMark := 0x2022
  autoRedirectOutputMark := 0x3022

/-- `str::parse` of the standard library, for what a configuration holds as text. -/
structure StdText where
  parseIpAddr : String → Option IpAddr
  parseU8 : String → Option UInt8
  parseU32 : String → Option UInt32

/-- `str::split_once`. -/
def splitOnce (text : String) (separator : Char) : Option (String × String) :=
  match text.toList.dropWhile (· ≠ separator) with
  | [] => none
  | _ :: after => some (.ofList (text.toList.takeWhile (· ≠ separator)), .ofList after)

/-- `char::is_whitespace`: the property White_Space of Unicode. -/
def isWhitespace (char : Char) : Bool :=
  let code := char.toNat
  (0x09 ≤ code && code ≤ 0x0d) || code == 0x20 || code == 0x85 || code == 0xa0 || code == 0x1680
    || (0x2000 ≤ code && code ≤ 0x200a) || code == 0x2028 || code == 0x2029 || code == 0x202f
    || code == 0x205f || code == 0x3000

/-- `str::trim`. -/
def trim (text : String) : String :=
  .ofList ((text.toList.dropWhile isWhitespace).reverse.dropWhile isWhitespace).reverse

variable (std : StdText)

/-- The longest prefix of an address. -/
def IpAddr.maxLen : IpAddr → Nat
  | .v4 _ => 32
  | .v6 _ => 128

/-- `parse_addr_prefix`. -/
def parseAddrPrefix (text : String) : Option (IpAddr × UInt8) := do
  let (ipStr, lenStr) ← splitOnce text '/'
  let ip ← std.parseIpAddr ipStr
  let prefixLen ← std.parseU8 lenStr
  if prefixLen.toNat > ip.maxLen then none else return (ip, prefixLen)

/-- `parse_ip`. -/
def parseIp (text : String) : Option IpAddr := std.parseIpAddr (trim text)

/-- `parse_uid_range`. -/
def parseUidRange (text : String) : Option (UInt32 × UInt32) := do
  let (startStr, endStr) ← splitOnce text ':'
  let start ← std.parseU32 (trim startStr)
  let stop ← std.parseU32 (trim endStr)
  if start > stop then none else return (start, stop)

/-- A prefix that the engine accepts is no longer than its address. -/
theorem parseAddrPrefix_valid {text : String} {ip : IpAddr} {prefixLen : UInt8}
    (parsed : parseAddrPrefix std text = some (ip, prefixLen)) : prefixLen.toNat ≤ ip.maxLen := by
  simp only [parseAddrPrefix, Option.bind_eq_bind, Option.bind_eq_some_iff] at parsed
  obtain ⟨⟨ipStr, lenStr⟩, -, found, -, length, -, parsed⟩ := parsed
  split at parsed
  · cases parsed
  · rename_i fits
    cases parsed
    exact Nat.le_of_not_lt fits

/-- The IPv4 prefixes of a list of strings. -/
def prefixesV4 (texts : List String) : List (Ipv4Addr × UInt8) :=
  texts.filterMap fun text =>
    match parseAddrPrefix std text with
    | some (.v4 ip, pl) => some (ip, pl)
    | _ => none

/-- The IPv6 prefixes of a list of strings. -/
def prefixesV6 (texts : List String) : List (Ipv6Addr × UInt8) :=
  texts.filterMap fun text =>
    match parseAddrPrefix std text with
    | some (.v6 ip, pl) => some (ip, pl)
    | _ => none

theorem prefixesV4_valid {texts : List String} {subnet : Ipv4Addr × UInt8}
    (member : subnet ∈ prefixesV4 std texts) : subnet.2.toNat ≤ 32 := by
  obtain ⟨text, -, found⟩ := List.mem_filterMap.mp member
  split at found
  · rename_i ip pl parsed
    cases found
    exact parseAddrPrefix_valid std parsed
  · cases found

theorem prefixesV6_valid {texts : List String} {subnet : Ipv6Addr × UInt8}
    (member : subnet ∈ prefixesV6 std texts) : subnet.2.toNat ≤ 128 := by
  obtain ⟨text, -, found⟩ := List.mem_filterMap.mp member
  split at found
  · rename_i ip pl parsed
    cases found
    exact parseAddrPrefix_valid std parsed
  · cases found

end RsTun
