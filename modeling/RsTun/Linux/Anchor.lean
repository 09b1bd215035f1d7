/-
**The anchor behind all rules.**

`goto` jumps to the anchor at `nop_prio`, a hundred above the rule index. The counters `p4` and `p6`
do not look at it.

* `length_setupSlots` — how many priorities a configuration takes.
* **`anchor_last_iff`** — every rule stands before the anchor exactly when each family takes at most
  a hundred priorities.
-/

import RsTun.Linux.Rules

namespace RsTun.Linux

variable {std : StdText} {cfg : TunInboundConfig} {ifName : String}

/-- Every rule with a priority, the anchor apart, stands before the anchor, so that each `goto`
jumps ahead over all of them. -/
def AnchorLast (nopPrio : Nat) (st : Installed) : Prop :=
  ∀ family, ∀ rule ∈ st.rules family, rule.priority < nopPrio
    ∧ ∀ target, rule.body.action = .goto target →
      rule.priority < target ∧ ∀ other ∈ st.rules family, other.priority < target

/-- How many priorities a family takes. -/
def slotCount (std : StdText) (cfg : TunInboundConfig) (family : Family) : Nat :=
  if hasFamily std cfg family then
    (if (effectiveSoMark cfg).isSome then 1 else 0) + (buildExcludedUidRanges std cfg).length
      + (if cfg.includeInterface ≠ [] then cfg.includeInterface.length + 1
        else cfg.excludeInterface.length)
      + 2 * (parseAddresses std cfg family).length + 5
  else if cfg.strictRoute then 1 else 0

theorem length_addressSlots {family : Family} {body : IpPrefix → RuleBody}
    (quiet : .panic ∉ perAddress std cfg family body) :
    (addressSlots std cfg family body).length = (parseAddresses std cfg family).length := by
  unfold perAddress at quiet
  unfold addressSlots
  generalize parseAddresses std cfg family = addresses at quiet ⊢
  induction addresses with
  | nil => rfl
  | cons address rest ih =>
      rw [List.flatMap_cons, List.mem_append, not_or] at quiet
      rw [List.flatMap_cons, List.length_append, ih quiet.2, List.length_cons, Nat.add_comm]
      congr 1
      cases networked : networkOf address with
      | ok net => rfl
      | error fault =>
          rw [networked] at quiet
          exact absurd List.mem_cons_self quiet.1

/-- Rules for the addresses of a family do not panic when those for its subnets do not. -/
theorem quiet_perAddress {family : Family} {body : IpPrefix → RuleBody}
    (quiet : .panic ∉ slotCommands std cfg ifName) : .panic ∉ perAddress std cfg family body := by
  intro member
  obtain ⟨address, member, stuck⟩ := List.mem_flatMap.mp member
  refine quiet ?_
  have subnets : .panic ∈ subnetCommands std cfg := by
    have here : .panic ∈ perAddress std cfg family (subnetRule cfg) := by
      refine List.mem_flatMap.mpr ⟨address, member, ?_⟩
      split at stuck
      · cases stuck with
        | tail _ impossible => cases impossible
      · exact List.mem_cons_self
    cases family with
    | v4 => exact List.mem_append_left _ here
    | v6 => exact List.mem_append_right _ here
  simp only [slotCommands, List.mem_append]
  exact .inl (.inl (.inl (.inl (.inr subnets))))

/-- **The number of priorities** that a `setup` without a panic takes. -/
theorem length_setupSlots {family : Family} (quiet : .panic ∉ slotCommands std cfg ifName) :
    (setupSlots std cfg ifName family).length = slotCount std cfg family := by
  have marks : (markSlots cfg).length = if (effectiveSoMark cfg).isSome then 1 else 0 := by
    unfold markSlots
    cases effectiveSoMark cfg <;> rfl
  have interfaces : (interfaceSlots cfg).length = if cfg.includeInterface ≠ [] then
      cfg.includeInterface.length + 1 else cfg.excludeInterface.length := by
    unfold interfaceSlots
    split
    · rw [List.length_append, List.length_map, List.length_singleton]
    · rw [List.length_map]
  have locals : (localSlots std cfg ifName family).length
      = 3 + (parseAddresses std cfg family).length := by
    cases family with
    | v4 =>
        rw [localSlots, List.length_append, length_addressSlots (quiet_perAddress quiet)]
        rfl
    | v6 =>
        rw [localSlots, List.length_append, List.length_append,
          length_addressSlots (quiet_perAddress quiet)]
        simp only [List.length_cons, List.length_nil]
        omega
  rw [setupSlots_eq quiet, slotCount]
  split
  · simp only [laterSlots, List.length_append, marks, interfaces, locals, uidSlots, List.length_map,
      length_addressSlots (quiet_perAddress quiet), List.length_cons, List.length_nil]
    omega
  · split <;> rfl

/-- The rules stand before the anchor exactly when they take at most a hundred priorities. -/
theorem anchorLast_iff_few (fits : SumsFit std cfg ifName) :
    AnchorLast (nopPrio cfg) (setup std cfg ifName).1
      ↔ ∀ family, (setupSlots std cfg ifName family).length ≤ 100 := by
  have members : ∀ family rule, rule ∈ (setup std cfg ifName).1.rules family
      ↔ ∃ index bodies, (setupSlots std cfg ifName family)[index]? = some bodies
        ∧ rule.priority = prioBase cfg + index ∧ rule.body ∈ bodies := by
    intro family rule
    rw [(setup_rules fits).1, mem_numberFrom]
  constructor
  · intro last family
    refine Nat.le_of_not_lt fun more => ?_
    -- the rule at the hundredth slot has the priority of the anchor
    have found := List.getElem?_eq_getElem more
    have filled := (setupSlots_planned (List.mem_of_getElem? found)).1
    obtain ⟨body, member⟩ := List.exists_mem_of_length_pos filled
    have below := (last family ⟨prioBase cfg + 100, body⟩
      ((members family _).mpr ⟨100, _, found, rfl, member⟩)).1
    exact absurd below (Nat.lt_irrefl _)
  · intro few family
    have below : ∀ rule ∈ (setup std cfg ifName).1.rules family, rule.priority < nopPrio cfg := by
      intro rule member
      obtain ⟨index, bodies, found, priority, -⟩ := (members family rule).mp member
      have inside := (List.getElem?_eq_some_iff.mp found).1
      have bound := few family
      rw [priority, nopPrio]
      omega
    intro rule member
    refine ⟨below rule member, fun target jumps => ?_⟩
    obtain ⟨index, bodies, found, -, inside⟩ := (members family rule).mp member
    have forward : target = nopPrio cfg := by
      rcases ((setupSlots_planned (List.mem_of_getElem? found)).2.2 rule.body inside).action with
        ⟨suppress, planned⟩ | planned | planned | ⟨planned, -⟩
      · rw [planned] at jumps
        cases jumps
      · rw [planned] at jumps
        cases jumps
      · rw [planned] at jumps
        cases jumps
        rfl
      · rw [planned] at jumps
        cases jumps
    rw [forward]
    exact ⟨below rule member, below⟩

/-- **Every rule stands before the anchor** exactly when each family takes at most a hundred
priorities; and how many a `setup` takes that returns. -/
theorem anchor_last_iff (fits : SumsFit std cfg ifName) :
    (AnchorLast (nopPrio cfg) (setup std cfg ifName).1
      ↔ ∀ family, (setupSlots std cfg ifName family).length ≤ 100)
    ∧ ((setup std cfg ifName).2 = true →
      ∀ family, (setupSlots std cfg ifName family).length = slotCount std cfg family) :=
  ⟨anchorLast_iff_few fits, fun returned _ =>
    length_setupSlots ((@setup_rules std cfg ifName .v4
      (sumsFit_of_returned returned)).2.2.2.mp returned)⟩

/-- A configuration that excludes so many UIDs, no two of them neighbours. -/
def uidsConfig (count : Nat) : TunInboundConfig :=
  { TunInboundConfig.minimal "tun-in" ["198.18.0.1/16"] with
    excludeUid := (List.range count).map fun index => .ofNat (2 * index) }

theorem sumsFit_uidsConfig : SumsFit sampleRuleText (uidsConfig 94) "tun0" := by
  have quiet : .panic ∉ slotCommands sampleRuleText (uidsConfig 94) "tun0" := by decide +kernel
  refine ⟨by decide +kernel, fun family => ?_⟩
  rw [length_setupSlots quiet]
  cases family with
  | v4 => decide +kernel
  | v6 => decide +kernel

theorem anchor_last_iff_uids :
    SumsFit sampleRuleText (uidsConfig 94) "tun0"
    ∧ (AnchorLast (nopPrio (uidsConfig 94)) (setup sampleRuleText (uidsConfig 94) "tun0").1
        ↔ ∀ family, (setupSlots sampleRuleText (uidsConfig 94) "tun0" family).length ≤ 100)
    ∧ ((setup sampleRuleText (uidsConfig 94) "tun0").2 = true →
      ∀ family, (setupSlots sampleRuleText (uidsConfig 94) "tun0" family).length
        = slotCount sampleRuleText (uidsConfig 94) family) :=
  ⟨sumsFit_uidsConfig, anchor_last_iff sumsFit_uidsConfig⟩

/-- **With 94 excluded UIDs** the last rule has the priority of the anchor. -/
theorem rule_at_anchor :
    ¬ AnchorLast (nopPrio (uidsConfig 94)) (setup sampleRuleText (uidsConfig 94) "tun0").1 := by
  rw [anchorLast_iff_few sumsFit_uidsConfig]
  intro few
  have quiet : .panic ∉ slotCommands sampleRuleText (uidsConfig 94) "tun0" := by decide +kernel
  have count := few .v4
  rw [length_setupSlots quiet] at count
  exact absurd count (by decide +kernel)

end RsTun.Linux
