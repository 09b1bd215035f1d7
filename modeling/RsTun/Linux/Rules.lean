/-
**The policy rules that `setup` installs.**

`setup` runs `ip rule add` for one rule after the other; `p4` and `p6` are the priorities of the
next IPv4 and IPv6 rule. Its commands are a list here (`setupCommands`), in the order of the source,
and `install` runs them with the two counters. A panic (a sum of `u32` that does not fit, the mask
of a prefix of length 0) ends the run; the rules that were added stay.

* `install_rules` — the rules of one family are its slots, numbered from the rule index on, and the
  anchor.
* `setupSlots_eq` — the slots of a family, group by group.
-/

import RsTun.Config.UidRanges
import RsTun.Linux.Routes

namespace RsTun.Linux

open Library Library.Prefix

/-- The two families of addresses, each with its own table of rules. -/
inductive Family where
  | v4
  | v6
  deriving DecidableEq

/-- An address and a prefix length. -/
abbrev IpPrefix := IpAddr × UInt8

/-- What a packet has to be for a rule to apply: `not`, `fwmark`, `uidrange`, `iif`, `to`, `from`
and `dport` of `ip rule`. -/
structure Selector where
  inverted : Bool := false
  fwmark : Option UInt32 := none
  uidrange : Option UidRange := none
  iif : Option String := none
  dst : Option IpPrefix := none
  src : Option IpPrefix := none
  dport : Option UInt16 := none
  deriving DecidableEq

/-- What a rule does: `lookup` with its `suppress_prefixlength`, `goto`, `type unreachable`. -/
inductive Action where
  | lookup (table : UInt32) (suppressPrefixlength : Option Nat)
  | goto (target : Nat)
  | unreachable
  deriving DecidableEq

/-- A rule without its priority. -/
structure RuleBody where
  selector : Selector
  action : Action
  deriving DecidableEq

/-- A rule in a table of the kernel. -/
structure Rule where
  priority : Nat
  body : RuleBody
  deriving DecidableEq

/-- The table `main`. -/
def mainTable : UInt32 := 254

/-- `ip rule add priority <nop_prio>`: a rule for which no action is given looks up `main`. -/
def anchor (nopPrio : Nat) : Rule := ⟨nopPrio, {}, .lookup mainTable none⟩

/-- What `setup` does, as far as rules go. -/
inductive Command where
  /-- Rules at the next priority of the family, which is then recorded and counted up. -/
  | slot (family : Family) (bodies : List RuleBody)
  /-- The rule at `nop_prio`, which is recorded. -/
  | anchor (family : Family)
  /-- A rule without a priority, for which a placeholder may be recorded. -/
  | unnumbered (family : Family) (body : RuleBody) (placeholder : Bool)
  | panic
  deriving DecidableEq

section Setup

variable (std : StdText) (cfg : TunInboundConfig) (ifName : String)

/-- `inet4` and `inet6` of `parse_addresses`. -/
def parseAddresses : Family → List IpPrefix
  | .v4 => (prefixesV4 std cfg.address).map fun (ip, pl) => (.v4 ip, pl)
  | .v6 => (prefixesV6 std cfg.address).map fun (ip, pl) => (.v6 ip, pl)

/-- `has_v4`, `has_v6`. -/
def hasFamily (family : Family) : Bool := !(parseAddresses std cfg family).isEmpty

/-- `v4_network`, `v6_network`. -/
def networkOf : IpPrefix → Checked Empty IpPrefix
  | (.v4 ip, pl) => do return (.v4 (← network ip pl), pl)
  | (.v6 ip, pl) => do return (.v6 (← network ip pl), pl)

/-- `table`. -/
def table : UInt32 := cfg.iproute2TableIndex

/-- `prio_base`. -/
def prioBase : Nat := cfg.iproute2RuleIndex.toNat

/-- `nop_prio`. -/
def nopPrio : Nat := prioBase cfg + 100

/-- `if has_v4 { .. } if has_v6 { .. }`. -/
def perFamily (commands : Family → List Command) : List Command :=
  (if hasFamily std cfg .v4 then commands .v4 else [])
    ++ (if hasFamily std cfg .v6 then commands .v6 else [])

/-- `add_routes_to_table`: no rule, but the sets of routes are computed here. -/
def routeCommands : List Command :=
  (if hasFamily std cfg .v4 && (finalRouteV4 std cfg).toOption.isNone then [.panic] else [])
    ++ (if hasFamily std cfg .v6 && (finalRouteV6 std cfg).toOption.isNone then [.panic] else [])

/-- `effective_so_mark`. -/
def effectiveSoMark : Option UInt32 :=
  cfg.soMark.or (if cfg.autoRedirect then some cfg.autoRedirectOutputMark else none)

/-- `not fwmark <mark> lookup <table>`. -/
def fwmarkRule (mark : UInt32) : RuleBody :=
  ⟨{ inverted := true, fwmark := some mark }, .lookup (table cfg) none⟩

/-- 1. What does not carry the mark goes to the TUN table. -/
def fwmarkCommands : List Command :=
  match effectiveSoMark cfg with
  | none => []
  | some mark => perFamily std cfg fun family => [.slot family [fwmarkRule cfg mark]]

/-- `uidrange <lo>-<hi> goto <nop_prio>`. -/
def uidRule (range : UidRange) : RuleBody :=
  ⟨{ uidrange := some range }, .goto (nopPrio cfg)⟩

/-- 2. The excluded UIDs. -/
def uidCommands : List Command :=
  (buildExcludedUidRanges std cfg).flatMap fun range =>
    perFamily std cfg fun family => [.slot family [uidRule cfg range]]

/-- `iif <iface> lookup <table>`. -/
def interfaceRule (iface : String) : RuleBody :=
  ⟨{ iif := some iface }, .lookup (table cfg) none⟩

/-- `goto <nop_prio>`. -/
def skipRule : RuleBody := ⟨{}, .goto (nopPrio cfg)⟩

/-- `iif <iface> goto <nop_prio>`. -/
def skipInterfaceRule (iface : String) : RuleBody := ⟨{ iif := some iface }, .goto (nopPrio cfg)⟩

/-- The interface filter. -/
def interfaceCommands : List Command :=
  if cfg.includeInterface ≠ [] then
    (cfg.includeInterface.flatMap fun iface =>
      perFamily std cfg fun family => [.slot family [interfaceRule cfg iface]])
    ++ perFamily std cfg fun family => [.slot family [skipRule cfg]]
  else
    cfg.excludeInterface.flatMap fun iface =>
      perFamily std cfg fun family => [.slot family [skipInterfaceRule cfg iface]]

/-- 3. `strict_route`: a family without addresses is `type unreachable`. -/
def strictRouteCommands : List Command :=
  if cfg.strictRoute then
    (if !hasFamily std cfg .v4 then [.slot .v4 [⟨{}, .unreachable⟩]] else [])
      ++ (if !hasFamily std cfg .v6 then [.slot .v6 [⟨{}, .unreachable⟩]] else [])
  else []

/-- One rule for each address of a family, with the network of the address. -/
def perAddress (family : Family) (body : IpPrefix → RuleBody) : List Command :=
  (parseAddresses std cfg family).flatMap fun address =>
    match networkOf address with
    | .ok net => [.slot family [body net]]
    | .error _ => [.panic]

/-- `to <net>/<pl> lookup <table>`. -/
def subnetRule (net : IpPrefix) : RuleBody := ⟨{ dst := some net }, .lookup (table cfg) none⟩

/-- 4. The subnets of the TUN. -/
def subnetCommands : List Command :=
  perAddress std cfg .v4 (subnetRule cfg) ++ perAddress std cfg .v6 (subnetRule cfg)

/-- `lookup <table> suppress_prefixlength 0`. -/
def suppressRule : RuleBody := ⟨{}, .lookup (table cfg) (some 0)⟩

/-- 5. `suppress_prefixlength 0`. -/
def suppressCommands : List Command :=
  perFamily std cfg fun family => [.slot family [suppressRule cfg]]

/-- `not dport 53 lookup main suppress_prefixlength 0`. -/
def dnsRule : RuleBody :=
  ⟨{ inverted := true, dport := some 53 }, .lookup mainTable (some 0)⟩

/-- 6. The hijacking of DNS. -/
def dnsCommands : List Command :=
  perFamily std cfg fun family => [.slot family [dnsRule]]

/-- `not iif lo lookup <table>`. -/
def forwardedRule : RuleBody :=
  ⟨{ inverted := true, iif := some "lo" }, .lookup (table cfg) none⟩

/-- `iif lo from <net>/<pl> lookup <table>`. -/
def sourceRule (net : IpPrefix) : RuleBody :=
  ⟨{ iif := some "lo", src := some net }, .lookup (table cfg) none⟩

/-- `iif lo from <net>/<pl> goto <nop_prio>`. -/
def skipSourceRule (net : IpPrefix) : RuleBody :=
  ⟨{ iif := some "lo", src := some net }, .goto (nopPrio cfg)⟩

/-- `lookup <table>`. -/
def defaultRule : RuleBody := ⟨{}, .lookup (table cfg) none⟩

/-- 7 and 8 for IPv4. -/
def localCommandsV4 : List Command :=
  if hasFamily std cfg .v4 then
    [.slot .v4 [skipInterfaceRule cfg ifName], .slot .v4 [forwardedRule cfg],
      .slot .v4 [sourceRule cfg (.v4 (.ofNat 4 0), 32)]]
    ++ perAddress std cfg .v4 (sourceRule cfg)
  else []

/-- 7 and 8 for IPv6; the rules for `::/1` and `8000::/1` have one priority. -/
def localCommandsV6 : List Command :=
  if hasFamily std cfg .v6 then
    [.slot .v6 [skipInterfaceRule cfg ifName],
      .slot .v6 [skipSourceRule cfg (.v6 (.ofNat 16 0), 1),
        skipSourceRule cfg (.v6 (.ofNat 16 (2 ^ 127)), 1)]]
    ++ perAddress std cfg .v6 (sourceRule cfg) ++ [.slot .v6 [defaultRule cfg]]
  else []

/-- 9. The anchor. -/
def anchorCommands : List Command := perFamily std cfg fun family => [.anchor family]

/-- `fwmark <input_mark> lookup <table>`. -/
def redirectRule : RuleBody :=
  ⟨{ fwmark := some cfg.autoRedirectInputMark }, .lookup (table cfg) none⟩

/-- `auto_redirect`: the rules that the kernel gives a priority. -/
def redirectCommands : List Command :=
  if cfg.autoRedirect then
    perFamily std cfg fun family => [.unnumbered family (redirectRule cfg) (family == .v4)]
  else []

/-- The rules with a priority of their own, in the order of `setup`. -/
def slotCommands : List Command :=
  routeCommands std cfg ++ fwmarkCommands std cfg ++ uidCommands std cfg
    ++ interfaceCommands std cfg ++ strictRouteCommands std cfg ++ subnetCommands std cfg
    ++ suppressCommands std cfg ++ dnsCommands std cfg ++ localCommandsV4 std cfg ifName
    ++ localCommandsV6 std cfg ifName

/-- All of `setup`. -/
def setupCommands : List Command :=
  slotCommands std cfg ifName ++ anchorCommands std cfg ++ redirectCommands std cfg

end Setup

/-- The counters, the rules that were added (at the counters, at `nop_prio`, without a priority),
and `rule_priorities`. -/
structure Installed where
  next : Family → Nat
  rules : Family → List Rule
  anchors : Family → List Rule
  unnumbered : Family → List RuleBody
  rulePriorities : List Nat

/-- One command; whether `setup` goes on. -/
def step (nopPrio : Nat) : Command → Installed → Installed × Bool
  | .slot family bodies, st =>
    ({ st with
        next := Function.update st.next family (st.next family + 1)
        rules := Function.update st.rules family
          (st.rules family ++ bodies.map (Rule.mk (st.next family)))
        rulePriorities := st.rulePriorities ++ [st.next family] },
      decide (st.next family + 1 < 2 ^ 32))
  | .anchor family, st =>
    ({ st with
        anchors := Function.update st.anchors family (st.anchors family ++ [anchor nopPrio])
        rulePriorities := st.rulePriorities ++ [nopPrio] }, true)
  | .unnumbered family body placeholder, st =>
    ({ st with
        unnumbered := Function.update st.unnumbered family (st.unnumbered family ++ [body])
        rulePriorities := st.rulePriorities ++ if placeholder then [0] else [] }, true)
  | .panic, st => (st, false)

/-- The commands one after the other; whether the end was reached. -/
def install (nopPrio : Nat) : List Command → Installed → Installed × Bool
  | [], st => (st, true)
  | command :: rest, st =>
    match step nopPrio command st with
    | (st', true) => install nopPrio rest st'
    | (st', false) => (st', false)

/-- `setup`: what it added, and whether it returned its state. -/
def setup (std : StdText) (cfg : TunInboundConfig) (ifName : String) : Installed × Bool :=
  let start : Installed := ⟨fun _ => prioBase cfg, fun _ => [], fun _ => [], fun _ => [], []⟩
  if nopPrio cfg < 2 ^ 32 then install (nopPrio cfg) (setupCommands std cfg ifName) start
  else (start, false)

/-! ### What a run installs -/

/-- The slots of a family, up to the panic. -/
def slots (family : Family) : List Command → List (List RuleBody)
  | [] => []
  | .slot other bodies :: rest =>
    if other = family then bodies :: slots family rest else slots family rest
  | .panic :: _ => []
  | _ :: rest => slots family rest

/-- Slots at consecutive priorities. -/
def numberFrom : Nat → List (List RuleBody) → List Rule
  | _, [] => []
  | priority, bodies :: rest =>
    bodies.map (Rule.mk priority) ++ numberFrom (priority + 1) rest

theorem mem_numberFrom {rule : Rule} {priority : Nat} {bodies : List (List RuleBody)} :
    rule ∈ numberFrom priority bodies ↔ ∃ index here, bodies[index]? = some here
      ∧ rule.priority = priority + index ∧ rule.body ∈ here := by
  induction bodies generalizing priority with
  | nil => simp [numberFrom]
  | cons first rest ih =>
      rw [numberFrom, List.mem_append, ih, List.mem_map]
      constructor
      · rintro (⟨body, member, rfl⟩ | ⟨index, here, found, same, member⟩)
        · exact ⟨0, first, rfl, rfl, member⟩
        · exact ⟨index + 1, here, found, by omega, member⟩
      · rintro ⟨index, here, found, same, member⟩
        cases index with
        | zero =>
            cases found
            exact .inl ⟨rule.body, member, congrArg (Rule.mk · rule.body) same.symm⟩
        | succ index => exact .inr ⟨index, here, found, by omega, member⟩

theorem numberFrom_append {priority : Nat} {first second : List (List RuleBody)} :
    numberFrom priority (first ++ second)
      = numberFrom priority first ++ numberFrom (priority + first.length) second := by
  induction first generalizing priority with
  | nil => rfl
  | cons here rest ih =>
      rw [List.cons_append, numberFrom, numberFrom, ih, List.append_assoc, List.length_cons,
        show priority + 1 + rest.length = priority + (rest.length + 1) by omega]

/-- What the rules of a family do: they look up the TUN table, or `main` without its default routes,
or go to the anchor; and in a family without addresses they are unreachable. A rule that asks for a
mark is negated, and one that asks for UIDs has an excluded range. -/
structure Planned (std : StdText) (cfg : TunInboundConfig) (family : Family) (body : RuleBody) :
    Prop where
  action : (∃ suppress, body.action = .lookup (table cfg) suppress)
    ∨ body.action = .lookup mainTable (some 0)
    ∨ body.action = .goto (nopPrio cfg)
    ∨ (body.action = .unreachable ∧ hasFamily std cfg family = false)
  mark : body.selector.fwmark = none ∨ body.selector.inverted = true
  uids : ∀ range, body.selector.uidrange = some range → range ∈ buildExcludedUidRanges std cfg

/-- A command that adds a rule or two at the next priority, or panics. -/
def Command.Numbered (std : StdText) (cfg : TunInboundConfig) : Command → Prop
  | .slot family bodies =>
    0 < bodies.length ∧ bodies.length ≤ 2 ∧ ∀ body ∈ bodies, Planned std cfg family body
  | .panic => True
  | _ => False

theorem install_slot {nop : Nat} {other : Family} {bodies : List RuleBody} {rest : List Command}
    {st : Installed} (room : st.next other + 1 < 2 ^ 32) :
    install nop (.slot other bodies :: rest) st
      = install nop rest (step nop (.slot other bodies) st).1 := by
  simp only [install, step, room, decide_true]

theorem slots_slot_self {family : Family} {bodies : List RuleBody} {rest : List Command} :
    slots family (.slot family bodies :: rest) = bodies :: slots family rest := if_pos rfl

theorem slots_slot_ne {family other : Family} {bodies : List RuleBody} {rest : List Command}
    (different : other ≠ family) : slots family (.slot other bodies :: rest) = slots family rest :=
  if_neg different

/-- **The rules of a family** are its slots, numbered from the counter on. -/
theorem install_rules {std : StdText} {cfg : TunInboundConfig} {nop : Nat}
    {commands : List Command} {st : Installed} {family : Family}
    (numbered : ∀ command ∈ commands, command.Numbered std cfg)
    (fits : ∀ other, st.next other + (slots other commands).length < 2 ^ 32) :
    (install nop commands st).1.rules family
        = st.rules family ++ numberFrom (st.next family) (slots family commands)
      ∧ (install nop commands st).1.next family
        = st.next family + (slots family commands).length
      ∧ (install nop commands st).1.anchors family = st.anchors family
      ∧ (install nop commands st).1.unnumbered family = st.unnumbered family
      ∧ ((install nop commands st).2 = true ↔ .panic ∉ commands) := by
  induction commands generalizing st with
  | nil => simp [install, slots, numberFrom]
  | cons command rest ih =>
      obtain ⟨here, behind⟩ := List.forall_mem_cons.mp numbered
      cases command with
      | slot other bodies =>
          have room : st.next other + 1 < 2 ^ 32 := by
            have total := fits other
            rw [slots_slot_self, List.length_cons] at total
            omega
          have fits' : ∀ another, (step nop (.slot other bodies) st).1.next another
              + (slots another rest).length < 2 ^ 32 := by
            intro another
            have total := fits another
            by_cases same : other = another
            · subst same
              rw [slots_slot_self, List.length_cons] at total
              simp only [step, Function.update_self]
              omega
            · rw [slots_slot_ne same] at total
              simpa only [step, Function.update_of_ne (Ne.symm same)] using total
          obtain ⟨rules, next, anchors, unnumbered, returned⟩ := ih behind fits'
          rw [install_slot room]
          refine ⟨?_, ?_, anchors, unnumbered, ?_⟩
          · rw [rules]
            by_cases same : other = family
            · subst same
              simp only [step, Function.update_self, slots_slot_self, numberFrom,
                List.append_assoc]
            · simp only [step, Function.update_of_ne (Ne.symm same), slots_slot_ne same]
          · rw [next]
            by_cases same : other = family
            · subst same
              simp only [step, Function.update_self, slots_slot_self, List.length_cons]
              omega
            · simp only [step, Function.update_of_ne (Ne.symm same), slots_slot_ne same]
          · rw [returned, List.mem_cons, not_or]
            exact ⟨fun gone => ⟨nofun, gone⟩, fun both => both.2⟩
      | anchor other => exact here.elim
      | unnumbered other body placeholder => exact here.elim
      | panic => simp [install, step, slots, numberFrom]

theorem install_append {nop : Nat} {first second : List Command} {st : Installed} :
    install nop (first ++ second) st
      = if (install nop first st).2 then install nop second (install nop first st).1
        else install nop first st := by
  induction first generalizing st with
  | nil => rfl
  | cons command rest ih =>
      rw [List.cons_append, install, install]
      generalize step nop command st = result
      obtain ⟨st', goesOn⟩ := result
      cases goesOn with
      | true => exact ih
      | false => rfl

/-- A run that reaches its end met no panic, and its sums fit. -/
theorem fits_of_install {nop : Nat} {commands : List Command} {st : Installed}
    (start : ∀ family, st.next family < 2 ^ 32) (returned : (install nop commands st).2 = true)
    (family : Family) : st.next family + (slots family commands).length < 2 ^ 32 := by
  induction commands generalizing st with
  | nil => exact start family
  | cons command rest ih =>
      cases command with
      | slot other bodies =>
          by_cases room : st.next other + 1 < 2 ^ 32
          · rw [install_slot room] at returned
            have start' : ∀ another,
                (step nop (.slot other bodies) st).1.next another < 2 ^ 32 := by
              intro another
              by_cases same : other = another
              · subst same
                simpa only [step, Function.update_self] using room
              · simpa only [step, Function.update_of_ne (Ne.symm same)] using start another
            have total := ih start' returned
            by_cases same : other = family
            · subst same
              simp only [step, Function.update_self] at total
              rw [slots_slot_self, List.length_cons]
              omega
            · simp only [step, Function.update_of_ne (Ne.symm same)] at total
              rwa [slots_slot_ne same]
          · simp only [install, step, room, decide_false, Bool.false_eq_true] at returned
      | anchor other => exact @ih (step nop (.anchor other) st).1 start returned
      | unnumbered other body placeholder =>
          exact @ih (step nop (.unnumbered other body placeholder) st).1 start returned
      | panic => exact absurd returned Bool.false_ne_true

/-! ### The slots of `setup`, group by group -/

theorem slots_append {family : Family} {first second : List Command} (quiet : .panic ∉ first) :
    slots family (first ++ second) = slots family first ++ slots family second := by
  induction first with
  | nil => rfl
  | cons command rest ih =>
      have quiet' : .panic ∉ rest := fun member => quiet (List.mem_cons_of_mem _ member)
      cases command with
      | slot other bodies =>
          by_cases same : other = family
          · subst same
            rw [List.cons_append, slots_slot_self, slots_slot_self, ih quiet', List.cons_append]
          · rw [List.cons_append, slots_slot_ne same, slots_slot_ne same, ih quiet']
      | anchor other => exact ih quiet'
      | unnumbered other body placeholder => exact ih quiet'
      | panic => exact absurd List.mem_cons_self quiet

theorem slots_flatMap {Item : Type} {family : Family} {items : List Item}
    {commands : Item → List Command} (quiet : .panic ∉ items.flatMap commands) :
    slots family (items.flatMap commands)
      = items.flatMap fun item => slots family (commands item) := by
  induction items with
  | nil => rfl
  | cons item rest ih =>
      rw [List.flatMap_cons, List.mem_append, not_or] at quiet
      rw [List.flatMap_cons, List.flatMap_cons, slots_append quiet.1, ih quiet.2]

section Groups

variable {std : StdText} {cfg : TunInboundConfig} {ifName : String} {family : Family}

theorem slots_perFamily {bodies : Family → List RuleBody} :
    slots family (perFamily std cfg fun family => [.slot family (bodies family)])
      = if hasFamily std cfg family then [bodies family] else [] := by
  unfold perFamily
  cases family with
  | v4 => cases hasFamily std cfg .v4 <;> cases hasFamily std cfg .v6 <;> rfl
  | v6 => cases hasFamily std cfg .v4 <;> cases hasFamily std cfg .v6 <;> rfl

theorem quiet_perFamily {bodies : Family → List RuleBody} :
    .panic ∉ perFamily std cfg fun family => [.slot family (bodies family)] := by
  unfold perFamily
  cases hasFamily std cfg .v4 <;> cases hasFamily std cfg .v6 <;> simp

/-- The slots of `perAddress`. -/
def addressSlots (std : StdText) (cfg : TunInboundConfig) (family : Family)
    (body : IpPrefix → RuleBody) : List (List RuleBody) :=
  (parseAddresses std cfg family).flatMap fun address =>
    match networkOf address with
    | .ok net => [[body net]]
    | .error _ => []

theorem slots_perAddress_self {body : IpPrefix → RuleBody}
    (quiet : .panic ∉ perAddress std cfg family body) :
    slots family (perAddress std cfg family body) = addressSlots std cfg family body := by
  rw [perAddress, slots_flatMap quiet, addressSlots]
  congr 1
  funext address
  split
  · exact slots_slot_self
  · rfl

theorem slots_perAddress_ne {other : Family} {body : IpPrefix → RuleBody}
    (quiet : .panic ∉ perAddress std cfg other body) (different : other ≠ family) :
    slots family (perAddress std cfg other body) = [] := by
  rw [perAddress, slots_flatMap quiet, List.flatMap_eq_nil_iff]
  intro address member
  split
  · exact slots_slot_ne different
  · rfl

/-- The slot of `fwmarkCommands`. -/
def markSlots (cfg : TunInboundConfig) : List (List RuleBody) :=
  match effectiveSoMark cfg with
  | none => []
  | some mark => [[fwmarkRule cfg mark]]

/-- The slots of `uidCommands`. -/
def uidSlots (std : StdText) (cfg : TunInboundConfig) : List (List RuleBody) :=
  (buildExcludedUidRanges std cfg).map fun range => [uidRule cfg range]

/-- The slots of `interfaceCommands`. -/
def interfaceSlots (cfg : TunInboundConfig) : List (List RuleBody) :=
  if cfg.includeInterface ≠ [] then
    (cfg.includeInterface.map fun iface => [interfaceRule cfg iface]) ++ [[skipRule cfg]]
  else cfg.excludeInterface.map fun iface => [skipInterfaceRule cfg iface]

/-- The slots of `localCommandsV4` and `localCommandsV6`. -/
def localSlots (std : StdText) (cfg : TunInboundConfig) (ifName : String) :
    Family → List (List RuleBody)
  | .v4 => [[skipInterfaceRule cfg ifName], [forwardedRule cfg],
      [sourceRule cfg (.v4 (.ofNat 4 0), 32)]] ++ addressSlots std cfg .v4 (sourceRule cfg)
  | .v6 => [[skipInterfaceRule cfg ifName],
      [skipSourceRule cfg (.v6 (.ofNat 16 0), 1),
        skipSourceRule cfg (.v6 (.ofNat 16 (2 ^ 127)), 1)]]
      ++ addressSlots std cfg .v6 (sourceRule cfg) ++ [[defaultRule cfg]]

/-- What comes behind the rules for the mark and the UIDs. -/
def laterSlots (std : StdText) (cfg : TunInboundConfig) (ifName : String) (family : Family) :
    List (List RuleBody) :=
  interfaceSlots cfg ++ addressSlots std cfg family (subnetRule cfg)
    ++ [[suppressRule cfg], [dnsRule]] ++ localSlots std cfg ifName family

/-- The slots that `setup` fills. -/
def setupSlots (std : StdText) (cfg : TunInboundConfig) (ifName : String) (family : Family) :
    List (List RuleBody) :=
  slots family (slotCommands std cfg ifName)

theorem slots_fwmarkCommands : slots family (fwmarkCommands std cfg)
    = if hasFamily std cfg family then markSlots cfg else [] := by
  rw [fwmarkCommands, markSlots]
  split
  · exact (ite_self _).symm
  · exact slots_perFamily

theorem quiet_loop {Item : Type} {items : List Item} {body : Item → RuleBody} :
    .panic ∉ items.flatMap fun item =>
      perFamily std cfg fun family => [.slot family [body item]] := by
  intro member
  obtain ⟨item, -, member⟩ := List.mem_flatMap.mp member
  exact quiet_perFamily member

/-- A loop with one rule for each item. -/
theorem slots_loop {Item : Type} {items : List Item} {body : Item → RuleBody} :
    slots family (items.flatMap fun item =>
        perFamily std cfg fun family => [.slot family [body item]])
      = if hasFamily std cfg family then items.map fun item => [body item] else [] := by
  rw [slots_flatMap quiet_loop]
  simp only [slots_perFamily]
  cases hasFamily std cfg family with
  | true => exact List.map_eq_flatMap.symm
  | false => simp

theorem slots_uidCommands : slots family (uidCommands std cfg)
    = if hasFamily std cfg family then uidSlots std cfg else [] := slots_loop

theorem slots_interfaceCommands : slots family (interfaceCommands std cfg)
    = if hasFamily std cfg family then interfaceSlots cfg else [] := by
  unfold interfaceCommands interfaceSlots
  by_cases listed : cfg.includeInterface ≠ []
  · rw [if_pos listed, if_pos listed, slots_append quiet_loop, slots_loop, slots_perFamily]
    cases hasFamily std cfg family <;> rfl
  · rw [if_neg listed, if_neg listed]
    exact slots_loop

theorem slots_strictRouteCommands : slots family (strictRouteCommands std cfg)
    = if cfg.strictRoute && !hasFamily std cfg family then [[⟨{}, .unreachable⟩]] else [] := by
  unfold strictRouteCommands
  cases family with
  | v4 => cases cfg.strictRoute <;> cases hasFamily std cfg .v4
      <;> cases hasFamily std cfg .v6 <;> rfl
  | v6 => cases cfg.strictRoute <;> cases hasFamily std cfg .v4
      <;> cases hasFamily std cfg .v6 <;> rfl

theorem addressSlots_eq_nil {body : IpPrefix → RuleBody}
    (absent : hasFamily std cfg family = false) :
    addressSlots std cfg family body = [] := by
  have empty : parseAddresses std cfg family = [] := by
    simpa [hasFamily] using absent
  rw [addressSlots, empty, List.flatMap_nil]

theorem slots_subnetCommands (quiet : .panic ∉ subnetCommands std cfg) :
    slots family (subnetCommands std cfg) = addressSlots std cfg family (subnetRule cfg) := by
  rw [subnetCommands, List.mem_append, not_or] at quiet
  rw [subnetCommands, slots_append quiet.1]
  cases family with
  | v4 =>
      rw [slots_perAddress_self quiet.1, slots_perAddress_ne quiet.2 (by decide), List.append_nil]
  | v6 =>
      rw [slots_perAddress_self quiet.2, slots_perAddress_ne quiet.1 (by decide), List.nil_append]

theorem slots_localCommandsV4 (quiet : .panic ∉ localCommandsV4 std cfg ifName) :
    slots .v4 (localCommandsV4 std cfg ifName)
        = (if hasFamily std cfg .v4 then localSlots std cfg ifName .v4 else [])
      ∧ slots .v6 (localCommandsV4 std cfg ifName) = [] := by
  unfold localCommandsV4 at quiet ⊢
  cases here : hasFamily std cfg .v4 with
  | false => exact ⟨rfl, rfl⟩
  | true =>
      rw [here, if_pos rfl, List.mem_append, not_or] at quiet
      rw [if_pos rfl, if_pos rfl]
      constructor
      · rw [slots_append quiet.1, slots_perAddress_self quiet.2]
        rfl
      · rw [slots_append quiet.1, slots_perAddress_ne quiet.2 (by decide)]
        rfl

theorem slots_localCommandsV6 (quiet : .panic ∉ localCommandsV6 std cfg ifName) :
    slots .v6 (localCommandsV6 std cfg ifName)
        = (if hasFamily std cfg .v6 then localSlots std cfg ifName .v6 else [])
      ∧ slots .v4 (localCommandsV6 std cfg ifName) = [] := by
  unfold localCommandsV6 at quiet ⊢
  cases here : hasFamily std cfg .v6 with
  | false => exact ⟨rfl, rfl⟩
  | true =>
      rw [here, if_pos rfl, List.mem_append, List.mem_append, not_or, not_or] at quiet
      rw [if_pos rfl, if_pos rfl]
      constructor
      · rw [List.append_assoc, slots_append quiet.1.1, slots_append quiet.1.2,
          slots_perAddress_self quiet.1.2]
        rfl
      · rw [List.append_assoc, slots_append quiet.1.1, slots_append quiet.1.2,
          slots_perAddress_ne quiet.1.2 (by decide)]
        rfl

theorem slots_routeCommands : slots family (routeCommands std cfg) = [] := by
  unfold routeCommands
  split <;> split <;> rfl

/-- **The slots of a family**: the mark, the excluded UIDs, and the others; or the rule of
`strict_route`. -/
theorem setupSlots_eq (quiet : .panic ∉ slotCommands std cfg ifName) :
    setupSlots std cfg ifName family = if hasFamily std cfg family
      then markSlots cfg ++ uidSlots std cfg ++ laterSlots std cfg ifName family
      else if cfg.strictRoute then [[⟨{}, .unreachable⟩]] else [] := by
  simp only [slotCommands, List.mem_append, not_or] at quiet
  obtain ⟨⟨⟨⟨⟨⟨⟨⟨⟨routes, marks⟩, uids⟩, interfaces⟩, strict⟩, subnets⟩, suppress⟩, dns⟩, local4⟩,
    local6⟩ := quiet
  have locals : slots family (localCommandsV4 std cfg ifName)
      ++ slots family (localCommandsV6 std cfg ifName)
      = if hasFamily std cfg family then localSlots std cfg ifName family else [] := by
    cases family with
    | v4 => rw [(slots_localCommandsV4 local4).1, (slots_localCommandsV6 local6).2, List.append_nil]
    | v6 => rw [(slots_localCommandsV4 local4).2, (slots_localCommandsV6 local6).1, List.nil_append]
  have groups : setupSlots std cfg ifName family
      = slots family (routeCommands std cfg) ++ slots family (fwmarkCommands std cfg)
        ++ slots family (uidCommands std cfg) ++ slots family (interfaceCommands std cfg)
        ++ slots family (strictRouteCommands std cfg) ++ slots family (subnetCommands std cfg)
        ++ slots family (suppressCommands std cfg) ++ slots family (dnsCommands std cfg)
        ++ (slots family (localCommandsV4 std cfg ifName)
          ++ slots family (localCommandsV6 std cfg ifName)) := by
    simp only [setupSlots, slotCommands, List.append_assoc]
    rw [slots_append routes, slots_append marks, slots_append uids, slots_append interfaces,
      slots_append strict, slots_append subnets, slots_append suppress, slots_append dns,
      slots_append local4]
  rw [groups, locals, slots_routeCommands, slots_fwmarkCommands, slots_uidCommands,
    slots_interfaceCommands, slots_strictRouteCommands, slots_subnetCommands subnets,
    suppressCommands, dnsCommands, slots_perFamily, slots_perFamily]
  cases here : hasFamily std cfg family with
  | true =>
      simp only [if_true, Bool.not_true, Bool.and_false, Bool.false_eq_true, if_false,
        List.nil_append, List.append_nil, List.append_assoc, laterSlots, List.cons_append]
  | false =>
      rw [addressSlots_eq_nil here]
      simp only [Bool.false_eq_true, if_false, Bool.not_false, Bool.and_true, List.nil_append,
        List.append_nil]

/-! ### What `setup` installs -/

/-- The sums of the rule index do not overflow. -/
def SumsFit (std : StdText) (cfg : TunInboundConfig) (ifName : String) : Prop :=
  nopPrio cfg < 2 ^ 32
    ∧ ∀ family, prioBase cfg + (setupSlots std cfg ifName family).length < 2 ^ 32

/-- The end of `setup`: the anchors, and the rules without a priority. -/
theorem install_tail {nop : Nat} {st : Installed} :
    (install nop (anchorCommands std cfg ++ redirectCommands std cfg) st).2 = true
      ∧ (install nop (anchorCommands std cfg ++ redirectCommands std cfg) st).1.rules family
        = st.rules family
      ∧ (install nop (anchorCommands std cfg ++ redirectCommands std cfg) st).1.anchors family
        = st.anchors family ++ (if hasFamily std cfg family then [anchor nop] else [])
      ∧ (install nop (anchorCommands std cfg ++ redirectCommands std cfg) st).1.unnumbered family
        = st.unnumbered family
          ++ (if cfg.autoRedirect && hasFamily std cfg family then [redirectRule cfg] else []) := by
  unfold anchorCommands redirectCommands perFamily
  cases family with
  | v4 =>
      cases cfg.autoRedirect <;> cases hasFamily std cfg .v4 <;> cases hasFamily std cfg .v6 <;>
        simp [install, step, Function.update]
  | v6 =>
      cases cfg.autoRedirect <;> cases hasFamily std cfg .v4 <;> cases hasFamily std cfg .v6 <;>
        simp [install, step, Function.update]

theorem planned_lookup {suppress : Option Nat} {selector : Selector}
    (unmarked : selector.fwmark = none) (open' : selector.uidrange = none) :
    Planned std cfg family ⟨selector, .lookup (table cfg) suppress⟩ :=
  ⟨.inl ⟨suppress, rfl⟩, .inl unmarked, fun _ some => nomatch open'.symm.trans some⟩

theorem planned_goto {selector : Selector} (unmarked : selector.fwmark = none)
    (open' : selector.uidrange = none) : Planned std cfg family ⟨selector, .goto (nopPrio cfg)⟩ :=
  ⟨.inr (.inr (.inl rfl)), .inl unmarked, fun _ some => nomatch open'.symm.trans some⟩

theorem planned_uidRule {range : UidRange} (member : range ∈ buildExcludedUidRanges std cfg) :
    Planned std cfg family (uidRule cfg range) :=
  ⟨.inr (.inr (.inl rfl)), .inl rfl, fun _ same => Option.some.inj same ▸ member⟩

theorem numbered_single {body : RuleBody} (planned : Planned std cfg family body) :
    (Command.slot family [body]).Numbered std cfg :=
  ⟨Nat.one_pos, by norm_num, fun other member => List.mem_singleton.mp member ▸ planned⟩

theorem numbered_perFamily {body : Family → RuleBody}
    (planned : ∀ family, Planned std cfg family (body family)) :
    ∀ command ∈ perFamily std cfg fun family => [.slot family [body family]],
      command.Numbered std cfg := by
  intro command member
  rcases List.mem_append.mp member with here | here
  · split at here
    · rw [List.mem_singleton.mp here]
      exact numbered_single (planned .v4)
    · cases here
  · split at here
    · rw [List.mem_singleton.mp here]
      exact numbered_single (planned .v6)
    · cases here

theorem numbered_loop {Item : Type} {items : List Item} {body : Item → RuleBody}
    (planned : ∀ item ∈ items, ∀ family, Planned std cfg family (body item)) :
    ∀ command ∈ items.flatMap fun item =>
      perFamily std cfg fun family => [.slot family [body item]], command.Numbered std cfg := by
  intro command member
  obtain ⟨item, listed, member⟩ := List.mem_flatMap.mp member
  exact numbered_perFamily (planned item listed) command member

theorem numbered_perAddress {body : IpPrefix → RuleBody}
    (planned : ∀ net, Planned std cfg family (body net)) :
    ∀ command ∈ perAddress std cfg family body, command.Numbered std cfg := by
  intro command member
  obtain ⟨address, -, member⟩ := List.mem_flatMap.mp member
  split at member
  · rw [List.mem_singleton.mp member]
    exact numbered_single (planned _)
  · rw [List.mem_singleton.mp member]
    exact trivial

theorem numbered_strictRouteCommands :
    ∀ command ∈ strictRouteCommands std cfg, command.Numbered std cfg := by
  have closed : ∀ family, (if !hasFamily std cfg family then
      [Command.slot family [⟨{}, .unreachable⟩]] else []).Forall (Command.Numbered std cfg) := by
    intro family
    cases absent : hasFamily std cfg family with
    | true => exact trivial
    | false => exact numbered_single ⟨.inr (.inr (.inr ⟨rfl, absent⟩)), .inl rfl, nofun⟩
  unfold strictRouteCommands
  split
  · exact List.forall_mem_append.mpr
      ⟨List.forall_iff_forall_mem.mp (closed .v4), List.forall_iff_forall_mem.mp (closed .v6)⟩
  · exact fun command member => absurd member List.not_mem_nil

theorem numbered_localCommandsV4 :
    ∀ command ∈ localCommandsV4 std cfg ifName, command.Numbered std cfg := by
  unfold localCommandsV4
  split
  · refine List.forall_mem_append.mpr ⟨?_, numbered_perAddress fun _ => planned_lookup rfl rfl⟩
    simp only [List.forall_mem_cons]
    exact ⟨numbered_single (planned_goto rfl rfl), numbered_single (planned_lookup rfl rfl),
      numbered_single (planned_lookup rfl rfl),
      fun command member => absurd member List.not_mem_nil⟩
  · exact fun command member => absurd member List.not_mem_nil

theorem numbered_localCommandsV6 :
    ∀ command ∈ localCommandsV6 std cfg ifName, command.Numbered std cfg := by
  unfold localCommandsV6
  split
  · simp only [List.forall_mem_append, List.forall_mem_cons]
    have halves : ∀ net other, (Command.slot .v6 [skipSourceRule cfg net,
        skipSourceRule cfg other]).Numbered std cfg := by
      intro net other
      refine ⟨by norm_num, by norm_num, ?_⟩
      simp only [List.forall_mem_cons]
      exact ⟨planned_goto rfl rfl, planned_goto rfl rfl,
        fun body member => absurd member List.not_mem_nil⟩
    exact ⟨⟨⟨numbered_single (planned_goto rfl rfl), halves _ _,
      fun command member => absurd member List.not_mem_nil⟩,
      numbered_perAddress fun _ => planned_lookup rfl rfl⟩,
      numbered_single (planned_lookup rfl rfl),
      fun command member => absurd member List.not_mem_nil⟩
  · exact fun command member => absurd member List.not_mem_nil

theorem numbered_slotCommands :
    ∀ command ∈ slotCommands std cfg ifName, command.Numbered std cfg := by
  simp only [slotCommands, List.forall_mem_append]
  refine ⟨⟨⟨⟨⟨⟨⟨⟨⟨?_, ?_⟩, numbered_loop fun _ member _ => planned_uidRule member⟩, ?_⟩,
    numbered_strictRouteCommands⟩, ?_⟩, numbered_perFamily fun _ => planned_lookup rfl rfl⟩,
    numbered_perFamily fun _ => ⟨.inr (.inl rfl), .inl rfl, nofun⟩⟩, numbered_localCommandsV4⟩,
    numbered_localCommandsV6⟩
  · unfold routeCommands
    split <;> split <;> simp [Command.Numbered]
  · unfold fwmarkCommands
    split
    · exact fun command member => absurd member List.not_mem_nil
    · exact numbered_perFamily fun _ => ⟨.inl ⟨none, rfl⟩, .inr rfl, nofun⟩
  · unfold interfaceCommands
    split
    · exact List.forall_mem_append.mpr ⟨numbered_loop fun _ _ _ => planned_lookup rfl rfl,
        numbered_perFamily fun _ => planned_goto rfl rfl⟩
    · exact numbered_loop fun _ _ _ => planned_goto rfl rfl
  · exact List.forall_mem_append.mpr ⟨numbered_perAddress fun _ => planned_lookup rfl rfl,
      numbered_perAddress fun _ => planned_lookup rfl rfl⟩

theorem mem_slots {commands : List Command} {bodies : List RuleBody}
    (member : bodies ∈ slots family commands) : .slot family bodies ∈ commands := by
  induction commands with
  | nil => cases member
  | cons command rest ih =>
      cases command with
      | slot other bodies' =>
          by_cases same : other = family
          · subst same
            rw [slots_slot_self] at member
            rcases List.mem_cons.mp member with rfl | member
            · exact List.mem_cons_self
            · exact List.mem_cons_of_mem _ (ih member)
          · rw [slots_slot_ne same] at member
            exact List.mem_cons_of_mem _ (ih member)
      | anchor other => exact List.mem_cons_of_mem _ (ih member)
      | unnumbered other body placeholder => exact List.mem_cons_of_mem _ (ih member)
      | panic => cases member

/-- **A slot of `setup`** holds a rule or two, as planned. -/
theorem setupSlots_planned {bodies : List RuleBody}
    (member : bodies ∈ setupSlots std cfg ifName family) :
    0 < bodies.length ∧ bodies.length ≤ 2 ∧ ∀ body ∈ bodies, Planned std cfg family body :=
  numbered_slotCommands _ (mem_slots member)

/-- **What `setup` adds for a family**: its slots, from the rule index on; and when it returns, the
anchor and the rule without a priority. -/
theorem setup_rules (fits : SumsFit std cfg ifName) :
    (setup std cfg ifName).1.rules family
        = numberFrom (prioBase cfg) (setupSlots std cfg ifName family)
      ∧ (setup std cfg ifName).1.anchors family
        = (if (setup std cfg ifName).2 && hasFamily std cfg family
          then [anchor (nopPrio cfg)] else [])
      ∧ (setup std cfg ifName).1.unnumbered family
        = (if (setup std cfg ifName).2 && (cfg.autoRedirect && hasFamily std cfg family)
          then [redirectRule cfg] else [])
      ∧ ((setup std cfg ifName).2 = true ↔ .panic ∉ slotCommands std cfg ifName) := by
  have run := @install_rules std cfg (nopPrio cfg) (slotCommands std cfg ifName)
    ⟨fun _ => prioBase cfg, fun _ => [], fun _ => [], fun _ => [], []⟩ family
    numbered_slotCommands fits.2
  obtain ⟨rules, -, anchors, unnumbered, returned⟩ := run
  rw [setup, if_pos fits.1, setupCommands, List.append_assoc, install_append]
  generalize install (nopPrio cfg) (slotCommands std cfg ifName)
    ⟨fun _ => prioBase cfg, fun _ => [], fun _ => [], fun _ => [], []⟩ = first
    at rules anchors unnumbered returned ⊢
  obtain ⟨st, goesOn⟩ := first
  cases goesOn with
  | true =>
      obtain ⟨finished, rules', anchors', unnumbered'⟩ :=
        @install_tail std cfg family (nopPrio cfg) st
      rw [if_pos rfl, rules', anchors', unnumbered', finished, rules, anchors, unnumbered]
      exact ⟨List.nil_append _, rfl, rfl, ⟨fun _ => returned.mp rfl, fun _ => rfl⟩⟩
  | false =>
      rw [if_neg Bool.false_ne_true, rules, anchors, unnumbered]
      exact ⟨List.nil_append _, rfl, rfl, returned⟩

/-- A `setup` that returns met no overflow. -/
theorem sumsFit_of_returned (returned : (setup std cfg ifName).2 = true) :
    SumsFit std cfg ifName := by
  rw [setup] at returned
  split at returned
  · rename_i fits
    refine ⟨fits, fun family => ?_⟩
    rw [setupCommands, List.append_assoc, install_append] at returned
    split at returned
    · rename_i finished
      refine fits_of_install (fun _ => ?_) finished family
      exact lt_trans (Nat.lt_add_of_pos_right (by norm_num)) fits
    · rename_i stopped
      exact absurd returned stopped
  · exact absurd returned Bool.false_ne_true

end Groups

/-- How the standard library reads the strings of the configurations in the examples. -/
def sampleRuleText : StdText where
  parseIpAddr text :=
    if text = "198.18.0.1" then some (.v4 ⟨[198, 18, 0, 1], rfl⟩) else none
  parseU8 text := if text = "16" then some 16 else none
  parseU32 _ := none

end RsTun.Linux
