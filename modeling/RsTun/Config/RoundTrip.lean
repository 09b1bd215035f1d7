/-
**A configuration, through the options and back.**

* `stackChoice_asStr`, `routeTargets_printed`, `uids_printed` — what the engine reads in the
  fields that `to_config` prints.
* `Kept` — what a configuration must look like for nothing to be lost.
* **`settings_toConfig_iff`** — the engine runs the same on the configuration that comes back if and
  only if it does.
-/

import RsTun.Config.Settings
import RsTun.Config.Standard

namespace RsTun

open Library

section Lists

variable (std : StdText)

/-- Where `to_options` does not parse a loopback address because of whitespace around it, the next
new address that it parses is the same; or no address of the family is parsed, and all are the
default. -/
def LoopbackKept {Addr : Type} [DecidableEq Addr] (family : IpAddr → Option Addr) (default : Addr)
    (texts : List String) : Prop :=
  let untrimmed := fun text => (std.parseIpAddr text).bind family
  Distinct.MadeUpLater (readLoopback std family) untrimmed [] texts
    ∨ (texts.filterMap untrimmed = []
      ∧ ∀ addr ∈ texts.filterMap (readLoopback std family), addr = default)

/-- The text is two numbers around a colon, whatever whitespace is around them, and the UID lies
between the two. -/
def RangeHas (text : String) (uid : UInt32) : Prop :=
  ∃ first second low high, splitOnce text ':' = some (first, second)
    ∧ std.parseU32 (trim first) = some low ∧ std.parseU32 (trim second) = some high
    ∧ low ≤ uid ∧ uid ≤ high

/-- There is whitespace around what stands before the colon or behind it. -/
def SpacedRange (text : String) : Prop :=
  ∃ first second, splitOnce text ':' = some (first, second)
    ∧ (trim first ≠ first ∨ trim second ≠ second)

/-- The text is the UID alone. -/
def SingleUid (text : String) (uid : UInt32) : Prop :=
  splitOnce text ':' = none ∧ std.parseU32 text = some uid

/-- The UIDs of a range with whitespace around a number, which only the engine parses, and single
UIDs, which only `to_options` parses, are given in another way. -/
structure UidsKept (uids : List UInt32) (texts : List String) : Prop where
  spaced : ∀ text ∈ texts, SpacedRange text → ∀ uid, RangeHas std text uid →
    uid ∈ uids
      ∨ ∃ other ∈ texts, RangeHas std other uid ∧ ¬ SpacedRange other ∨ SingleUid std other uid
  single : ∀ text ∈ texts, ∀ uid, SingleUid std text uid →
    uid ∈ uids ∨ ∃ other ∈ texts, RangeHas std other uid

/-- Nothing that the engine reads is lost on the way. -/
structure Kept (c : TunInboundConfig) : Prop where
  soMark : c.soMark = none
  overrideAndroidVpn : c.overrideAndroidVpn = false
  route : c.routeAddress = [] ∨ c.routeAddress.filterMap (Options.parsePrefix std) ≠ []
  loopbackV4 : LoopbackKept std IpAddr.toV4 defaultInet4Loopback c.loopbackAddress
  loopbackV6 : LoopbackKept std IpAddr.toV6 defaultInet6Loopback c.loopbackAddress
  includeUids : UidsKept std c.includeUid c.includeUidRange
  excludeUids : UidsKept std c.excludeUid c.excludeUidRange

end Lists

/-- `to_options` and `to_config`. -/
def TunInboundConfig.back (std : StdText) (print : StdPrint) (c : TunInboundConfig) :
    TunInboundConfig :=
  (c.toOptions std).toConfig print c.tag

variable {std : StdText} {print : StdPrint}

/-! ### The fields one by one -/

/-- The stack that the options name is the one that the engine would choose. -/
theorem stackChoice_asStr (stack : String) :
    stackChoice ((StackKind.parse stack).getD .system).asStr = stackChoice stack := by
  rw [StackKind.parse, stackChoice, stackChoice]
  by_cases system : stack = "" ∨ stack = "system"
  · rw [if_pos system]
    rcases system with rfl | rfl <;> decide
  · rw [if_neg system]
    by_cases gvisor : stack = "gvisor"
    · rw [if_pos gvisor, gvisor]
      decide
    · rw [if_neg gvisor]
      by_cases mixed : stack = "mixed"
      · rw [if_pos mixed, mixed]
        decide
      · rw [if_neg mixed, if_neg (not_or.mpr ⟨gvisor, mixed⟩)]
        decide

theorem udpTimeout_twice (timeout : UInt64) :
    (if (if timeout = 0 then (300 : UInt64) else timeout) = 0 then defaultUdpTimeoutSecs
      else if timeout = 0 then 300 else timeout)
      = if timeout = 0 then defaultUdpTimeoutSecs else timeout := by
  by_cases default : timeout = 0
  · simp only [if_pos default]
    decide
  · simp only [if_neg default]

section Routes

variable {c : TunInboundConfig}

theorem printedPrefixes_eq_nil_iff {texts : List String} :
    printedPrefixes std print texts = [] ↔ texts.filterMap (Options.parsePrefix std) = [] := by
  simp only [printedPrefixes, List.map_eq_nil_iff, List.append_eq_nil_iff, List.filter_eq_nil_iff,
    List.eq_nil_iff_forall_not_mem (l := texts.filterMap (Options.parsePrefix std))]
  constructor
  · rintro ⟨v4, v6⟩ addrPrefix member
    cases family : addrPrefix.1.isIpv4 with
    | true => exact v4 addrPrefix member family
    | false => exact v6 addrPrefix member (by rw [family]; rfl)
  · intro none
    exact ⟨fun addrPrefix member => absurd member (none addrPrefix),
      fun addrPrefix member => absurd member (none addrPrefix)⟩

/-- **The route targets survive** exactly when a route that is configured is parsed: else the engine
takes the default route, which nobody configured. -/
theorem routeTargets_printed (inverse : Inverse std print) :
    (Linux.buildRouteTargetsV4 std (c.back std print) = Linux.buildRouteTargetsV4 std c
        ∧ Linux.buildRouteTargetsV6 std (c.back std print) = Linux.buildRouteTargetsV6 std c)
      ↔ c.routeAddress = [] ∨ c.routeAddress.filterMap (Options.parsePrefix std) ≠ [] := by
  have printed : (c.back std print).routeAddress = printedPrefixes std print c.routeAddress := rfl
  rw [Linux.buildRouteTargetsV4, Linux.buildRouteTargetsV4, Linux.buildRouteTargetsV6,
    Linux.buildRouteTargetsV6, printed, prefixesV4_printed inverse, prefixesV6_printed inverse]
  by_cases given : c.routeAddress = []
  · have nothing : printedPrefixes std print c.routeAddress = [] := by
      rw [given]
      rfl
    rw [if_neg (not_not.mpr nothing), if_neg (not_not.mpr given), if_neg (not_not.mpr nothing),
      if_neg (not_not.mpr given)]
    exact ⟨fun _ => Or.inl given, fun _ => ⟨rfl, rfl⟩⟩
  · rw [if_pos given, if_pos given]
    by_cases parsed : c.routeAddress.filterMap (Options.parsePrefix std) = []
    · have nothing := (@printedPrefixes_eq_nil_iff std print _).mpr parsed
      have nothing' : prefixesV4 std c.routeAddress = [] := by
        rw [prefixesV4_eq, parsed]
        rfl
      simp only [nothing, nothing', given, parsed, ne_eq, not_true_eq_false, if_false, or_self,
        iff_false]
      exact fun same => List.cons_ne_nil _ _ same.1
    · have something := mt (@printedPrefixes_eq_nil_iff std print _).mp parsed
      rw [if_pos something, if_pos something]
      exact ⟨fun _ => Or.inr parsed, fun _ => ⟨rfl, rfl⟩⟩

end Routes

/-! ### Loopback addresses -/

section Loopback

variable {Addr : Type} [DecidableEq Addr]

/-- **The loopback addresses survive** exactly when those with whitespace around them do not
matter. -/
theorem loopbacks_printed (inverse : Inverse std print) {family : IpAddr → Option Addr}
    {default : Addr} {texts : List String}
    (one : (∀ ip, ip.isIpv4 = false → family ip = none)
      ∨ ∀ ip, ip.isIpv4 = true → family ip = none) :
    loopbacksOr std family default (((texts.filterMap std.parseIpAddr).filter (·.isIpv4)
        ++ (texts.filterMap std.parseIpAddr).filter (!·.isIpv4)).map print.showIpAddr)
      = loopbacksOr std family default texts
      ↔ LoopbackKept std family default texts := by
  have back : readLoopback std family ∘ print.showIpAddr = family := by
    funext ip
    have parsed := inverse.parse_showIpAddr ip
    show (parseIp std (print.showIpAddr ip)).bind family = family ip
    rw [parseIp, inverse.trim_ipAddr _ _ parsed, parsed, Option.bind_some]
  have agree : ∀ text addr, (std.parseIpAddr text).bind family = some addr →
      readLoopback std family text = some addr := by
    intro text addr found
    obtain ⟨ip, parsed, -⟩ := Option.bind_eq_some_iff.mp found
    rw [readLoopback, parseIp, inverse.trim_ipAddr _ _ parsed]
    exact found
  rw [loopbacksOr_eq, loopbacksOr_eq, List.filterMap_map, back, filterMap_split one,
    List.filterMap_filterMap, eq_comm, Distinct.orDefault_filterMap_iff agree]
  exact Iff.rfl

end Loopback

/-! ### UIDs -/

section Uids

variable {uids : List UInt32} {texts : List String} {uid : UInt32}

theorem holds_singles : Holds (uids.map fun u => (u, u)) uid ↔ uid ∈ uids := by
  constructor
  · rintro ⟨range, member, low, high⟩
    obtain ⟨other, present, rfl⟩ := List.mem_map.mp member
    rw [UInt32.le_antisymm high low]
    exact present
  · exact fun member => ⟨_, List.mem_map_of_mem member, UInt32.le_refl _, UInt32.le_refl _⟩

/-- The engine drops a printed range that is the wrong way round; it has no UIDs. -/
theorem holds_printed (inverse : Inverse std print) (ranges : List UidRange) :
    Holds (uidRanges std [] (ranges.map (printUidRange print))) uid ↔ Holds ranges uid := by
  have back : parseUidRange std ∘ printUidRange print
      = fun range => if range.1 > range.2 then none else some range :=
    funext fun range => parseUidRange_eq inverse (splitOnce_printUidRange inverse range)
      (parseUidRange_printUidRange inverse range)
  rw [uidRanges, List.map_nil, List.nil_append, List.filterMap_map, back]
  constructor
  · rintro ⟨range, member, inside⟩
    obtain ⟨range', member', kept⟩ := List.mem_filterMap.mp member
    split at kept
    · cases kept
    · cases kept
      exact ⟨range, member', inside⟩
  · rintro ⟨range, member, low, high⟩
    have ordered : ¬ range.1 > range.2 := UInt32.not_lt.mpr (UInt32.le_trans low high)
    exact ⟨range, List.mem_filterMap.mpr ⟨range, member, if_neg ordered⟩, low, high⟩

/-- The UIDs of a text, as the engine parses it. -/
theorem mem_parseUidRange_iff {text : String} :
    (∃ range, parseUidRange std text = some range ∧ range.1 ≤ uid ∧ uid ≤ range.2)
      ↔ RangeHas std text uid := by
  constructor
  · rintro ⟨range, parsed, low, high⟩
    simp only [parseUidRange, Option.bind_eq_bind, Option.bind_eq_some_iff] at parsed
    obtain ⟨⟨first, second⟩, split, start, before, stop, behind, ordered⟩ := parsed
    split at ordered
    · cases ordered
    · cases ordered
      exact ⟨first, second, start, stop, split, before, behind, low, high⟩
  · rintro ⟨first, second, low, high, split, before, behind, above, below⟩
    have ordered : ¬ low > high := UInt32.not_lt.mpr (UInt32.le_trans above below)
    refine ⟨(low, high), ?_, above, below⟩
    simp only [parseUidRange, split, Option.bind_eq_bind, Option.bind_some, before, behind,
      if_neg ordered]
    rfl

/-- The UIDs of a text, as `to_options` parses it. -/
theorem mem_options_parseUidRange_iff (inverse : Inverse std print) {text : String} :
    (∃ range, Options.parseUidRange std text = some range ∧ range.1 ≤ uid ∧ uid ≤ range.2)
      ↔ RangeHas std text uid ∧ ¬ SpacedRange text ∨ SingleUid std text uid := by
  cases split : splitOnce text ':' with
  | none =>
      have noRange : ¬ RangeHas std text uid := by
        rintro ⟨first, second, _, _, parts, -⟩
        cases split.symm.trans parts
      rw [or_iff_right fun range => noRange range.1]
      simp only [Options.parseUidRange, split, Option.bind_eq_bind, Option.bind_eq_some_iff]
      constructor
      · rintro ⟨range, ⟨only, read, same⟩, low, high⟩
        cases same
        exact ⟨split, UInt32.le_antisymm high low ▸ read⟩
      · exact fun single => ⟨(uid, uid), ⟨uid, single.2, rfl⟩, UInt32.le_refl _, UInt32.le_refl _⟩
  | some parts =>
      obtain ⟨first, second⟩ := parts
      have noSingle : ¬ SingleUid std text uid := by
        rintro ⟨alone, -⟩
        cases split.symm.trans alone
      rw [or_iff_left noSingle]
      simp only [Options.parseUidRange, split, Option.bind_eq_bind, Option.bind_eq_some_iff]
      constructor
      · rintro ⟨range, ⟨start, before, stop, behind, same⟩, low, high⟩
        cases same
        have plain := inverse.trim_u32 _ _ before
        have plain' := inverse.trim_u32 _ _ behind
        refine ⟨⟨first, second, start, stop, split, by rw [plain, before], by rw [plain', behind],
          low, high⟩, ?_⟩
        rintro ⟨first', second', parts, spaced⟩
        cases split.symm.trans parts
        exact spaced.elim (absurd plain) (absurd plain')
      · rintro ⟨⟨first', second', low, high, parts, before, behind, above, below⟩, plain⟩
        cases split.symm.trans parts
        have trimmed : trim first = first ∧ trim second = second := by
          by_contra spaced
          exact plain ⟨first, second, split, not_and_or.mp spaced⟩
        rw [trimmed.1] at before
        rw [trimmed.2] at behind
        exact ⟨(low, high), ⟨low, before, high, behind, rfl⟩, above, below⟩

theorem holds_filterMap {parse : String → Option UidRange} : Holds (texts.filterMap parse) uid
    ↔ ∃ text ∈ texts, ∃ range, parse text = some range ∧ range.1 ≤ uid ∧ uid ≤ range.2 := by
  constructor
  · rintro ⟨range, member, within⟩
    obtain ⟨text, there, parsed⟩ := List.mem_filterMap.mp member
    exact ⟨text, there, range, parsed, within⟩
  · rintro ⟨text, there, range, parsed, within⟩
    exact ⟨range, List.mem_filterMap.mpr ⟨text, there, parsed⟩, within⟩

/-- **The UIDs survive** exactly when those of texts that only one parser reads do not matter. -/
theorem uids_printed (inverse : Inverse std print) :
    mergeUidListAndRanges std [] ((Options.uids std uids texts).map (printUidRange print))
        = mergeUidListAndRanges std uids texts
      ↔ UidsKept std uids texts := by
  rw [mergeUidListAndRanges_eq_iff]
  simp only [holds_printed inverse]
  simp only [Options.uids, uidRanges, holds_append, holds_singles, holds_filterMap,
    mem_parseUidRange_iff, mem_options_parseUidRange_iff inverse]
  constructor
  · intro same
    exact ⟨fun text member _ uid range => (same uid).mpr (Or.inr ⟨text, member, range⟩),
      fun text member uid single => (same uid).mp (Or.inr ⟨text, member, Or.inr single⟩)⟩
  · intro kept uid
    constructor
    · rintro (member | ⟨text, there, ⟨range, -⟩ | single⟩)
      · exact Or.inl member
      · exact Or.inr ⟨text, there, range⟩
      · exact kept.single text there uid single
    · rintro (member | ⟨text, there, range⟩)
      · exact Or.inl member
      · by_cases spaced : SpacedRange text
        · exact kept.spaced text there spaced uid range
        · exact Or.inr ⟨text, there, Or.inl ⟨range, spaced⟩⟩

end Uids

theorem toV4_of_not_isIpv4 (ip : IpAddr) (other : ip.isIpv4 = false) : ip.toV4 = none := by
  cases ip with
  | v4 _ => cases other
  | v6 _ => rfl

theorem toV6_of_isIpv4 (ip : IpAddr) (other : ip.isIpv4 = true) : ip.toV6 = none := by
  cases ip with
  | v4 _ => rfl
  | v6 _ => cases other

/-! ### The whole configuration -/

variable {c : TunInboundConfig}

/-- **The engine runs the same on the configuration that comes back** if and only if nothing is
lost. -/
theorem settings_toConfig_iff (inverse : Inverse std print) :
    settings std ((c.toOptions std).toConfig print c.tag) = settings std c ↔ Kept std c := by
  show settings std (c.back std print) = settings std c ↔ _
  have loopbackV4 := @loopbacks_printed std print Ipv4Addr _ inverse IpAddr.toV4
    defaultInet4Loopback c.loopbackAddress (Or.inl toV4_of_not_isIpv4)
  have loopbackV6 := @loopbacks_printed std print Ipv6Addr _ inverse IpAddr.toV6
    defaultInet6Loopback c.loopbackAddress (Or.inr toV6_of_isIpv4)
  constructor
  · intro same
    have soMark : none = c.soMark := congrArg Settings.soMark same
    have override : false = c.overrideAndroidVpn := congrArg Settings.overrideAndroidVpn same
    exact {
      soMark := soMark.symm
      overrideAndroidVpn := override.symm
      route := (routeTargets_printed inverse).mp
        ⟨congrArg Settings.routeTargetsV4 same, congrArg Settings.routeTargetsV6 same⟩
      loopbackV4 := loopbackV4.mp (congrArg Settings.inet4Loopback same)
      loopbackV6 := loopbackV6.mp (congrArg Settings.inet6Loopback same)
      includeUids := (uids_printed inverse).mp (congrArg Settings.includeUids same)
      excludeUids := (uids_printed inverse).mp (congrArg Settings.excludeUids same) }
  · intro kept
    have routes := (routeTargets_printed inverse).mpr kept.route
    rw [settings, settings]
    congr 1
    · exact prefixesV4_printed inverse c.address
    · exact prefixesV6_printed inverse c.address
    · exact kept.soMark.symm
    · exact stackChoice_asStr c.stack
    · exact (uids_printed inverse).mpr kept.includeUids
    · exact (uids_printed inverse).mpr kept.excludeUids
    · exact routes.1
    · exact routes.2
    · exact prefixesV4_printed inverse c.routeExcludeAddress
    · exact prefixesV6_printed inverse c.routeExcludeAddress
    · exact loopbackV4.mpr kept.loopbackV4
    · exact loopbackV6.mpr kept.loopbackV6
    · exact udpTimeout_twice c.udpTimeout
    · exact kept.overrideAndroidVpn.symm

theorem settings_toConfig_iff_standard :
    settings Standard.fromStr (((TunInboundConfig.minimal "tun-in" ["198.18.0.1/16"]).toOptions
        Standard.fromStr).toConfig Standard.display "tun-in")
        = settings Standard.fromStr (TunInboundConfig.minimal "tun-in" ["198.18.0.1/16"])
      ↔ Kept Standard.fromStr (TunInboundConfig.minimal "tun-in" ["198.18.0.1/16"]) :=
  @settings_toConfig_iff _ _ (TunInboundConfig.minimal "tun-in" ["198.18.0.1/16"])
    Standard.standard_inverse

/-- A configuration with a mark for the sockets of the process. -/
def markedConfig : TunInboundConfig :=
  { TunInboundConfig.minimal "tun-in" ["198.18.0.1/16"] with soMark := some 0x1234 }

/-- **The mark is lost**: the options have no field for it. -/
theorem so_mark_lost : settings Standard.fromStr
      ((markedConfig.toOptions Standard.fromStr).toConfig Standard.display markedConfig.tag)
    ≠ settings Standard.fromStr markedConfig := by
  intro same
  have marks : none = some (0x1234 : UInt32) := congrArg Settings.soMark same
  cases marks

end RsTun
