/-
**What the policy rules mean.**

The rules that `setup` installs, one group behind the other, are a policy: which packets are to take
the TUN table. The rest takes `main`, over the anchor or by a route of `main` that is more specific
than the default route.

* `Captured` — the policy.
* `setupTable_eq` — the table of a family is a block of rules that jump to the anchor, and the
  anchor.
* **`routeOf_setup`** — the route of every packet is the one of the policy, whatever the tables
  hold.
-/

import RsTun.Linux.Exclusion

namespace RsTun.Linux

open Library Library.Prefix Library.RuleTable

open scoped Classical

/-! ### The policy -/

section Policy

variable (kernel : Kernel) (std : StdText) (cfg : TunInboundConfig) (ifName : String)
  (routes : UInt32 → Option Nat) (packet : Packet) (family : Family)

/-- The address lies in a subnet of the TUN. -/
def InTun (addr : IpAddr) : Prop :=
  ∃ subnet ∈ parseAddresses std cfg family, inPrefix subnet addr = true

/-- A table has a route for the packet that is not a default route. -/
def Specific (id : UInt32) : Prop := ∃ length, routes id = some length ∧ 0 < length

/-- What is left to the last rules: packets from elsewhere, and the local ones that have no source
yet; of IPv4 also those with a source in a subnet of the TUN. -/
def CapturedSource : Prop :=
  packet.iif ≠ "lo" ∨ packet.src = unspecified family
    ∨ family = .v4 ∧ InTun std cfg .v4 packet.src

/-- **The packets that are to take the TUN table**: those with a mark that is not let through; and
unless the UID is excluded, those from a listed interface, or if none is listed, those from other
interfaces than the excluded ones that are bound for a subnet of the TUN, have a specific route
there, or are not kept in `main` by a specific route (DNS never is) and come from where the last
rules want them. -/
def Captured : Prop :=
  ¬ MarkSafe kernel cfg packet.mark
    ∨ ¬ UidExcluded std cfg packet.uid
      ∧ if cfg.includeInterface ≠ [] then packet.iif ∈ cfg.includeInterface
        else packet.iif ∉ cfg.excludeInterface
          ∧ (InTun std cfg family packet.dst ∨ Specific routes (table cfg)
            ∨ ¬ (packet.dport ≠ some 53 ∧ Specific routes mainTable) ∧ packet.iif ≠ ifName
              ∧ CapturedSource std cfg packet family)

/-- The route of `main`. -/
def mainRoute : Option Route := (routes mainTable).map fun _ => .table mainTable

/-- Where the policy sends a packet: to the TUN table if it is captured and has a route there. -/
noncomputable def policyRoute : Option Route :=
  if Captured kernel std cfg ifName routes packet family ∧ (routes (table cfg)).isSome = true then
    some (.table (table cfg))
  else mainRoute routes

end Policy

variable {std : StdText} {cfg : TunInboundConfig} {ifName : String} {kernel : Kernel}
  {routes : UInt32 → Option Nat} {packet : Packet} {family : Family} {rule : Rule}

/-! ### The table as a list -/

/-- Rules that are new, in order, and jump ahead are added behind the others. -/
theorem foldl_addRule_eq {rules table : List Rule}
    (ordered : (table ++ rules).Pairwise fun first second =>
      first.priority ≤ second.priority ∧ first ≠ second)
    (forward : ∀ rule ∈ rules, rule.backward = false) :
    rules.foldl addRule table = table ++ rules := by
  induction rules generalizing table with
  | nil => exact (List.append_nil _).symm
  | cons rule rest ih =>
      obtain ⟨here, forward⟩ := List.forall_mem_cons.mp forward
      have before : ∀ other ∈ table, other.priority ≤ rule.priority ∧ other ≠ rule :=
        fun other member =>
          (List.pairwise_append.mp ordered).2.2 other member rule List.mem_cons_self
      have fresh : rule ∉ table := fun member => (before rule member).2 rfl
      have added : addRule table rule = table ++ [rule] := by
        rw [addRule, here, decide_eq_false fresh, Bool.or_false, if_neg Bool.false_ne_true]
        exact insert_last fun other member => (before other member).1
      rw [List.foldl_cons, added, ih _ forward, List.append_assoc, List.singleton_append]
      rw [List.append_assoc, List.singleton_append]
      exact ordered

/-- Slots at consecutive priorities are in order. -/
theorem numberFrom_pairwise {priority : Nat} {slots : List (List RuleBody)}
    (distinct : ∀ bodies ∈ slots, bodies.Nodup) :
    (numberFrom priority slots).Pairwise fun first second =>
      first.priority ≤ second.priority ∧ first ≠ second := by
  induction slots generalizing priority with
  | nil => exact List.Pairwise.nil
  | cons bodies rest ih =>
      obtain ⟨here, distinct⟩ := List.forall_mem_cons.mp distinct
      rw [numberFrom, List.pairwise_append]
      refine ⟨?_, ih distinct, fun first member second later => ?_⟩
      · rw [List.pairwise_map]
        exact here.imp fun {first second} apart =>
          ⟨Nat.le_refl _, fun same => apart (congrArg Rule.body same)⟩
      · obtain ⟨body, -, rfl⟩ := List.mem_map.mp member
        obtain ⟨index, -, -, behind, -⟩ := mem_numberFrom.mp later
        refine ⟨?_, fun same => ?_⟩
        · dsimp only
          omega
        · rw [← same] at behind
          dsimp only at behind
          omega

/-- No slot has a rule twice. -/
theorem setupSlots_nodup (returned : (setup std cfg ifName).2 = true)
    (present : hasFamily std cfg family = true) {bodies : List RuleBody}
    (member : bodies ∈ setupSlots std cfg ifName family) : bodies.Nodup := by
  have quiet := (@setup_rules std cfg ifName family
    (sumsFit_of_returned returned)).2.2.2.mp returned
  have addresses : ∀ {mk : IpPrefix → RuleBody} {bodies : List RuleBody},
      bodies ∈ addressSlots std cfg family mk → bodies.Nodup := by
    intro mk bodies member
    obtain ⟨address, -, member⟩ := List.mem_flatMap.mp member
    split at member
    · rw [List.mem_singleton.mp member]
      exact List.nodup_singleton _
    · cases member
  have loop : ∀ {Item : Type} {items : List Item} {mk : Item → RuleBody} {bodies : List RuleBody},
      bodies ∈ items.map (fun item => [mk item]) → bodies.Nodup := by
    intro Item items mk bodies member
    obtain ⟨item, -, rfl⟩ := List.mem_map.mp member
    exact List.nodup_singleton _
  rw [setupSlots_eq quiet, if_pos present, List.mem_append, List.mem_append, laterSlots,
    List.mem_append, List.mem_append, List.mem_append] at member
  rcases member with (marks | uids) | ((interfaces | subnets) | pair) | locals
  · unfold markSlots at marks
    split at marks
    · cases marks
    · rw [List.mem_singleton.mp marks]
      exact List.nodup_singleton _
  · exact loop uids
  · unfold interfaceSlots at interfaces
    split at interfaces
    · rcases List.mem_append.mp interfaces with listed | skip
      · exact loop listed
      · rw [List.mem_singleton.mp skip]
        exact List.nodup_singleton _
    · exact loop interfaces
  · exact addresses subnets
  · rcases List.mem_cons.mp pair with rfl | pair
    · exact List.nodup_singleton _
    · rw [List.mem_singleton.mp pair]
      exact List.nodup_singleton _
  · cases family with
    | v4 =>
        rcases List.mem_append.mp locals with fixed | sources
        · simp only [List.mem_cons, List.not_mem_nil, or_false] at fixed
          rcases fixed with rfl | rfl | rfl <;> exact List.nodup_singleton _
        · exact addresses sources
    | v6 =>
        rcases List.mem_append.mp locals with fixed | last
        · rcases List.mem_append.mp fixed with fixed | sources
          · simp only [List.mem_cons, List.not_mem_nil, or_false] at fixed
            rcases fixed with rfl | rfl
            · exact List.nodup_singleton _
            · -- the two halves of the IPv6 addresses
              refine List.nodup_cons.mpr ⟨fun same => ?_, List.nodup_singleton _⟩
              have apart : ((.v6 (.ofNat 16 0), 1) : IpPrefix)
                  ≠ (.v6 (.ofNat 16 (2 ^ 127)), 1) := by
                decide +kernel
              have nets := congrArg (fun body : RuleBody => body.selector.src)
                (List.mem_singleton.mp same)
              exact apart (Option.some.inj nets)
          · exact addresses sources
        · rw [List.mem_singleton.mp last]
          exact List.nodup_singleton _

/-- **The numbered rules are the table**: with at most a hundred of them, the anchor comes last. -/
theorem numberedTable_eq (returned : (setup std cfg ifName).2 = true)
    (present : hasFamily std cfg family = true)
    (few : (setupSlots std cfg ifName family).length ≤ 100) :
    numberedTable (setup std cfg ifName).1 family []
      = numberFrom (prioBase cfg) (setupSlots std cfg ifName family) ++ [anchor (nopPrio cfg)] := by
  have spec := @setup_rules std cfg ifName family (sumsFit_of_returned returned)
  have anchors := spec.2.1
  rw [returned, present, Bool.and_self, if_pos rfl] at anchors
  have low : ∀ rule ∈ numberFrom (prioBase cfg) (setupSlots std cfg ifName family),
      rule.priority < nopPrio cfg := by
    intro rule member
    obtain ⟨index, bodies, found, priority, -⟩ := mem_numberFrom.mp member
    have inside := (List.getElem?_eq_some_iff.mp found).1
    rw [nopPrio]
    omega
  rw [numberedTable, spec.1, anchors]
  refine (foldl_addRule_eq ?_ fun rule member => ?_).trans (List.nil_append _)
  · rw [List.nil_append, List.pairwise_append]
    refine ⟨numberFrom_pairwise fun bodies => setupSlots_nodup returned present,
      List.pairwise_singleton _ _, fun first member second last => ?_⟩
    rw [List.mem_singleton.mp last]
    have before := low first member
    exact ⟨Nat.le_of_lt before, fun same => Nat.lt_irrefl _ (same ▸ before)⟩
  · rcases List.mem_append.mp member with numbered | last
    · have before := low rule numbered
      obtain ⟨index, bodies, found, -, inside⟩ := mem_numberFrom.mp numbered
      have planned := (setupSlots_planned (List.mem_of_getElem? found)).2.2 _ inside
      rcases planned.action with ⟨suppress, action⟩ | action | action | ⟨action, -⟩
      · rw [Rule.backward, action]
      · rw [Rule.backward, action]
      · rw [Rule.backward, action]
        exact decide_eq_false (Nat.not_le.mpr before)
      · rw [Rule.backward, action]
    · rw [List.mem_singleton.mp last]
      rfl

/-! ### What groups of rules decide -/

section Groups

variable (kernel routes packet)

/-- What a rule decides does not depend on its priority. -/
def bodyVerdict (body : RuleBody) : Verdict Route := verdict kernel routes packet ⟨0, body⟩

/-- What the rules of some slots decide. -/
def groupVerdict (slots : List (List RuleBody)) : Verdict Route :=
  firstVerdict (bodyVerdict kernel routes packet) slots.flatten

variable {kernel routes packet}

theorem firstVerdict_numberFrom {priority : Nat} {slots : List (List RuleBody)} :
    firstVerdict (verdict kernel routes packet) (numberFrom priority slots)
      = groupVerdict kernel routes packet slots := by
  induction slots generalizing priority with
  | nil => rfl
  | cons bodies rest ih =>
      rw [numberFrom, firstVerdict_append, ih, groupVerdict, groupVerdict, List.flatten_cons,
        firstVerdict_append, firstVerdict_map]
      rfl

theorem groupVerdict_append {first second : List (List RuleBody)} :
    groupVerdict kernel routes packet (first ++ second)
      = (groupVerdict kernel routes packet first).orElse
        (groupVerdict kernel routes packet second) := by
  rw [groupVerdict, List.flatten_append, firstVerdict_append]
  rfl

/-- What a lookup in a table decides. -/
def lookedUp (routes : UInt32 → Option Nat) (id : UInt32) : Verdict Route :=
  if (routes id).isSome = true then .stop (.table id) else .pass

theorem bodyVerdict_lookup {selector : Selector} {id : UInt32} {applies : Prop}
    (selects : selector.applies kernel packet = true ↔ applies) :
    (bodyVerdict kernel routes packet ⟨selector, .lookup id none⟩).IsWhen (lookedUp routes id)
      applies := by
  refine Verdict.IsWhen.congr ⟨fun holds => ?_, fun fails => ?_⟩ selects
  · rw [bodyVerdict, verdict, if_pos holds, lookedUp]
    dsimp only
    cases routes id <;> rfl
  · rw [bodyVerdict, verdict, if_neg fails]

theorem bodyVerdict_suppress {selector : Selector} {id : UInt32} {applies : Prop}
    (selects : selector.applies kernel packet = true ↔ applies) :
    (bodyVerdict kernel routes packet ⟨selector, .lookup id (some 0)⟩).IsWhen (.stop (.table id))
      (applies ∧ Specific routes id) := by
  refine Verdict.IsWhen.congr ⟨fun holds => ?_, fun fails => ?_⟩ (and_congr_left' selects)
  · obtain ⟨length, found, positive⟩ := holds.2
    rw [bodyVerdict, verdict, if_pos holds.1]
    dsimp only
    rw [found]
    exact if_neg fun suppressed =>
      Nat.ne_of_gt positive (Nat.le_zero.mp (of_decide_eq_true suppressed))
  · rw [bodyVerdict, verdict]
    by_cases holds : selector.applies kernel packet = true
    · rw [if_pos holds]
      dsimp only
      cases found : routes id with
      | none => rfl
      | some length =>
          have zero : length = 0 := by
            by_contra other
            exact fails ⟨holds, length, found, Nat.pos_of_ne_zero other⟩
          rw [zero]
          rfl
    · rw [if_neg holds]

theorem bodyVerdict_goto {selector : Selector} {target : Nat} {applies : Prop}
    (selects : selector.applies kernel packet = true ↔ applies) :
    (bodyVerdict kernel routes packet ⟨selector, .goto target⟩).IsWhen (.jump target) applies :=
  Verdict.isWhen_ite.congr selects

/-- A slot with one rule. -/
theorem groupVerdict_single {body : RuleBody} :
    groupVerdict kernel routes packet [[body]] = bodyVerdict kernel routes packet body := by
  rw [groupVerdict, List.flatten_singleton, firstVerdict_singleton]

/-- One rule for each item of a list. -/
theorem groupVerdict_loop {Item : Type} {items : List Item} {body : Item → RuleBody}
    {applies : Item → Prop} {decided : Verdict Route}
    (alike : ∀ item ∈ items,
      (bodyVerdict kernel routes packet (body item)).IsWhen decided (applies item)) :
    (groupVerdict kernel routes packet (items.map fun item => [body item])).IsWhen decided
      (∃ item ∈ items, applies item) := by
  rw [groupVerdict, ← List.flatMap_def, ← List.map_eq_flatMap, firstVerdict_map]
  exact firstVerdict_alike alike

theorem groupVerdict_marks : (groupVerdict kernel routes packet (markSlots cfg)).IsWhen
    (lookedUp routes (table cfg))
    (∃ mark, effectiveSoMark cfg = some mark ∧ kernel.matchesMark mark packet.mark = false) := by
  unfold markSlots
  cases effectiveSoMark cfg with
  | none => exact ⟨nofun, fun _ => rfl⟩
  | some mark =>
      rw [groupVerdict_single, fwmarkRule]
      refine bodyVerdict_lookup ?_
      simp [Selector.applies]

theorem groupVerdict_uids : (groupVerdict kernel routes packet (uidSlots std cfg)).IsWhen
    (.jump (nopPrio cfg)) (UidExcluded std cfg packet.uid) := by
  refine groupVerdict_loop fun range _ => bodyVerdict_goto ?_
  simp [Selector.applies]

/-- The rules for a list of interfaces. -/
theorem groupVerdict_interfaces {ifaces : List String} {body : String → RuleBody}
    {decided : Verdict Route} (alike : ∀ iface,
      (bodyVerdict kernel routes packet (body iface)).IsWhen decided (iface = packet.iif)) :
    (groupVerdict kernel routes packet (ifaces.map fun iface => [body iface])).IsWhen decided
      (packet.iif ∈ ifaces) :=
  (groupVerdict_loop fun iface _ => alike iface).congr
    ⟨fun ⟨_, member, same⟩ => same ▸ member, fun member => ⟨_, member, rfl⟩⟩

/-- The network of an address contains the same addresses. -/
theorem inPrefix_networkOf {address net : IpPrefix}
    (member : address ∈ parseAddresses std cfg family) (networked : networkOf address = .ok net)
    (addr : IpAddr) : inPrefix net addr = inPrefix address addr := by
  have same : ∀ {size : Nat} {ip net other : Octets size} {pl : UInt8}, pl.toNat ≤ 8 * size →
      network ip pl = .ok net → (Holds (net, pl) other ↔ Holds (ip, pl) other) := by
    intro size ip net other pl valid done
    have inside := holds_of_network valid done
    exact ⟨fun held => (SameBlock.symm inside).trans held, fun held => inside.trans held⟩
  cases family with
  | v4 =>
      obtain ⟨⟨ip, pl⟩, listed, rfl⟩ := List.mem_map.mp member
      obtain ⟨net', done, later⟩ := Checked.bind_eq_ok.mp networked
      cases later
      cases addr with
      | v4 other => exact decide_eq_decide.mpr (same (prefixesV4_valid std listed) done)
      | v6 other => rfl
  | v6 =>
      obtain ⟨⟨ip, pl⟩, listed, rfl⟩ := List.mem_map.mp member
      obtain ⟨net', done, later⟩ := Checked.bind_eq_ok.mp networked
      cases later
      cases addr with
      | v4 other => rfl
      | v6 other => exact decide_eq_decide.mpr (same (prefixesV6_valid std listed) done)

/-- The rules for the networks of the TUN. -/
theorem groupVerdict_networks {body : IpPrefix → RuleBody} {applies : IpPrefix → Prop}
    {decided : Verdict Route}
    (alike : ∀ net, (bodyVerdict kernel routes packet (body net)).IsWhen decided (applies net)) :
    (groupVerdict kernel routes packet (addressSlots std cfg family body)).IsWhen decided
      (∃ address ∈ parseAddresses std cfg family, ∃ net, networkOf address = .ok net
        ∧ applies net) := by
  have rules : ∀ rule ∈ (addressSlots std cfg family body).flatten,
      (bodyVerdict kernel routes packet rule).IsWhen decided
        (∃ address ∈ parseAddresses std cfg family, ∃ net, networkOf address = .ok net
          ∧ rule = body net ∧ applies net) := by
    intro rule member
    obtain ⟨slot, listed, inside⟩ := List.mem_flatten.mp member
    obtain ⟨address, there, listed⟩ := List.mem_flatMap.mp listed
    cases done : networkOf address with
    | error fault =>
        rw [done] at listed
        cases listed
    | ok net =>
        rw [done] at listed
        rw [List.mem_singleton.mp listed] at inside
        obtain rfl := List.mem_singleton.mp inside
        constructor
        · rintro ⟨-, -, net', -, same, holds⟩
          rw [same]
          exact (alike net').decides holds
        · exact fun none => (alike net).passes fun holds =>
            none ⟨address, there, net, done, rfl, holds⟩
  refine (firstVerdict_alike rules).congr ⟨?_, ?_⟩
  · rintro ⟨rule, -, address, member, net, done, -, holds⟩
    exact ⟨address, member, net, done, holds⟩
  · rintro ⟨address, member, net, done, holds⟩
    refine ⟨body net, ?_, address, member, net, done, rfl, holds⟩
    refine List.mem_flatten.mpr ⟨[body net], List.mem_flatMap.mpr ⟨address, member, ?_⟩,
      List.mem_singleton_self _⟩
    rw [done]
    exact List.mem_singleton_self _

/-- Rules that ask for an address in them. -/
theorem groupVerdict_addresses (quiet : .panic ∉ slotCommands std cfg ifName)
    {body : IpPrefix → RuleBody} {guard : Prop} {addr : IpAddr} {decided : Verdict Route}
    (alike : ∀ net, (bodyVerdict kernel routes packet (body net)).IsWhen decided
      (guard ∧ inPrefix net addr = true)) :
    (groupVerdict kernel routes packet (addressSlots std cfg family body)).IsWhen decided
      (guard ∧ InTun std cfg family addr) := by
  have quiet' : .panic ∉ perAddress std cfg family body := quiet_perAddress quiet
  refine (groupVerdict_networks alike).congr ⟨?_, ?_⟩
  · rintro ⟨address, member, net, done, holds, inside⟩
    exact ⟨holds, address, member, inPrefix_networkOf member done addr ▸ inside⟩
  · rintro ⟨holds, address, member, inside⟩
    cases done : networkOf address with
    | error fault =>
        refine absurd (List.mem_flatMap.mpr ⟨address, member, ?_⟩) quiet'
        rw [done]
        exact List.mem_cons_self
    | ok net =>
        exact ⟨address, member, net, done, holds, inPrefix_networkOf member done addr ▸ inside⟩

/-! ### The policy of a table -/

/-- Every IPv6 address lies in `::/1` or in `8000::/1`. -/
theorem inPrefix_halves (ip : Ipv6Addr) :
    inPrefix (.v6 (.ofNat 16 0), 1) (.v6 ip) = true
      ∨ inPrefix (.v6 (.ofNat 16 (2 ^ 127)), 1) (.v6 ip) = true := by
  have bound : ip.toNat < 2 ^ (127 + 1) := toNat_lt_two_pow ip
  have lower : (Octets.ofNat 16 0).toNat = 0 := toNat_ofNat_of_lt (Nat.two_pow_pos _)
  have upper : (Octets.ofNat 16 (2 ^ 127)).toNat = 2 ^ 127 :=
    toNat_ofNat_of_lt (Nat.pow_lt_pow_right (by decide) (by decide))
  generalize half : 2 ^ 127 = size at upper
  rw [pow_succ, half] at bound
  have positive : 0 < size := half ▸ Nat.two_pow_pos 127
  rcases Nat.lt_or_ge ip.toNat size with low | high
  · refine .inl (decide_eq_true ?_)
    show (Octets.ofNat 16 0).toNat / 2 ^ 127 = ip.toNat / 2 ^ 127
    rw [half, lower, Nat.div_eq_of_lt low, Nat.zero_div]
  · refine .inr (decide_eq_true ?_)
    show (Octets.ofNat 16 size).toNat / 2 ^ 127 = ip.toNat / 2 ^ 127
    rw [half, upper, Nat.div_self positive]
    exact (Nat.div_eq_of_lt_le (by omega) (by omega)).symm

/-- What a verdict leads to when the anchor comes last. -/
def routeBy (routes : UInt32 → Option Nat) : Verdict Route → Option Route
  | .stop route => some route
  | _ => mainRoute routes

theorem groupVerdict_cons {bodies : List RuleBody} {slots : List (List RuleBody)} :
    groupVerdict kernel routes packet (bodies :: slots)
      = (groupVerdict kernel routes packet [bodies]).orElse
        (groupVerdict kernel routes packet slots) :=
  @groupVerdict_append kernel routes packet [bodies] slots

/-- The rule of `auto_redirect` is not among the numbered ones. -/
theorem redirectRule_absent (returned : (setup std cfg ifName).2 = true)
    (present : hasFamily std cfg family = true)
    (member : rule ∈ numberedTable (setup std cfg ifName).1 family []) :
    rule.body ≠ redirectRule cfg := by
  intro same
  rcases (mem_numberedTable returned present).mp member with ⟨numbered, -⟩ | rfl
  · rw [(@setup_rules std cfg ifName family (sumsFit_of_returned returned)).1,
      mem_numberFrom] at numbered
    obtain ⟨index, bodies, found, -, inside⟩ := numbered
    have marked := ((setupSlots_planned (List.mem_of_getElem? found)).2.2 _ inside).mark
    rw [same] at marked
    rcases marked with none | inverted
    · cases none
    · cases inverted
  · have marks := congrArg (fun body : RuleBody => body.selector.fwmark) same
    cases marks

/-- With `auto_redirect` the first slot is the rule for the mark. -/
theorem setupSlots_redirected (returned : (setup std cfg ifName).2 = true)
    (present : hasFamily std cfg family = true) (redirected : cfg.autoRedirect = true) :
    ∃ mark rest, setupSlots std cfg ifName family = [fwmarkRule cfg mark] :: rest := by
  have quiet := (@setup_rules std cfg ifName family
    (sumsFit_of_returned returned)).2.2.2.mp returned
  obtain ⟨mark, marks⟩ : ∃ mark, markSlots cfg = [[fwmarkRule cfg mark]] := by
    unfold markSlots effectiveSoMark
    rw [redirected, if_pos rfl]
    cases cfg.soMark with
    | none => exact ⟨_, rfl⟩
    | some mark => exact ⟨_, rfl⟩
  rw [setupSlots_eq quiet, if_pos present, marks]
  exact ⟨mark, _, rfl⟩

/-- **The table is a block and the anchor**: the numbered rules, and the rule of `auto_redirect`
next to the rule for the mark. -/
theorem setupTable_eq (returned : (setup std cfg ifName).2 = true)
    (present : hasFamily std cfg family = true) (early : Early kernel std cfg ifName)
    (few : (setupSlots std cfg ifName family).length ≤ 100) :
    ∃ (block : List Rule) (redirect : Verdict Route),
      setupTable kernel std cfg ifName family = block ++ [anchor (nopPrio cfg)]
      ∧ (∀ rule ∈ block, rule.priority < nopPrio cfg)
      ∧ redirect.IsWhen (lookedUp routes (table cfg))
        (cfg.autoRedirect = true ∧ kernel.matchesMark cfg.autoRedirectInputMark packet.mark = true)
      ∧ firstVerdict (verdict kernel routes packet) block
        = redirect.orElse (groupVerdict kernel routes packet (setupSlots std cfg ifName family))
      := by
  have spec := @setup_rules std cfg ifName family (sumsFit_of_returned returned)
  have unnumbered := spec.2.2.1
  rw [returned, present, Bool.and_true, Bool.true_and] at unnumbered
  have numbered := numberedTable_eq returned present few
  have low : ∀ rule ∈ numberFrom (prioBase cfg) (setupSlots std cfg ifName family),
      rule.priority < nopPrio cfg := by
    intro rule member
    obtain ⟨index, bodies, found, priority, -⟩ := mem_numberFrom.mp member
    have inside := (List.getElem?_eq_some_iff.mp found).1
    rw [nopPrio]
    omega
  cases redirected : cfg.autoRedirect with
  | false =>
      rw [redirected, if_neg Bool.false_ne_true] at unnumbered
      refine ⟨_, .pass, ?_, low, ⟨fun both => absurd both.1 Bool.false_ne_true,
        fun _ => rfl⟩, ?_⟩
      · rw [setupTable, tableAfter, unnumbered, List.foldl_nil, numbered]
      · rw [firstVerdict_numberFrom, Verdict.pass_orElse]
  | true =>
      rw [redirected, if_pos rfl] at unnumbered
      obtain ⟨mark, rest, slots⟩ := setupSlots_redirected returned present redirected
      have place := early family present
      have when' : (verdict kernel routes packet
          ⟨kernel.assign (numberedTable (setup std cfg ifName).1 family []),
            redirectRule cfg⟩).IsWhen (lookedUp routes (table cfg))
          (kernel.matchesMark cfg.autoRedirectInputMark packet.mark = true) :=
        bodyVerdict_lookup (by simp [Selector.applies])
      have when'' : (bodyVerdict kernel routes packet (fwmarkRule cfg mark)).IsWhen
          (lookedUp routes (table cfg)) (kernel.matchesMark mark packet.mark = false) :=
        bodyVerdict_lookup (by simp [Selector.applies])
      have absent : (⟨kernel.assign (numberedTable (setup std cfg ifName).1 family []),
          redirectRule cfg⟩ : Rule) ∉ numberedTable (setup std cfg ifName).1 family [] :=
        fun member => redirectRule_absent returned present member rfl
      have inserted : setupTable kernel std cfg ifName family
          = RuleTable.insert Rule.priority
            ⟨kernel.assign (numberedTable (setup std cfg ifName).1 family []), redirectRule cfg⟩
            (numberedTable (setup std cfg ifName).1 family []) := by
        rw [setupTable, tableAfter, unnumbered, List.foldl_cons, List.foldl_nil, addUnnumbered,
          addRule, decide_eq_false absent]
        rfl
      rw [numbered] at inserted when' place
      generalize kernel.assign _ = assigned at inserted when' place
      rw [slots, numberFrom, List.map_singleton, List.singleton_append,
        List.cons_append] at inserted
      rw [slots, numberFrom, List.map_singleton, List.singleton_append] at low
      have high : ∀ rule ∈ numberFrom (prioBase cfg + 1) rest ++ [anchor (nopPrio cfg)],
          prioBase cfg < rule.priority := by
        intro rule member
        rcases List.mem_append.mp member with later | last
        · obtain ⟨index, -, -, priority, -⟩ := mem_numberFrom.mp later
          omega
        · rw [List.mem_singleton.mp last]
          show prioBase cfg < nopPrio cfg
          rw [nopPrio]
          omega
      have fits : assigned < nopPrio cfg := by
        rw [nopPrio]
        omega
      obtain ⟨first, low⟩ := List.forall_mem_cons.mp low
      rw [slots, groupVerdict_cons, groupVerdict_single]
      refine ⟨if assigned < prioBase cfg then
          ⟨assigned, redirectRule cfg⟩ :: ⟨prioBase cfg, fwmarkRule cfg mark⟩
            :: numberFrom (prioBase cfg + 1) rest
        else ⟨prioBase cfg, fwmarkRule cfg mark⟩ :: ⟨assigned, redirectRule cfg⟩
            :: numberFrom (prioBase cfg + 1) rest,
        verdict kernel routes packet ⟨assigned, redirectRule cfg⟩, ?_, ?_,
        when'.congr ⟨fun marked => ⟨rfl, marked⟩, fun both => both.2⟩, ?_⟩
      · rw [inserted]
        split
        · rename_i before
          rw [insert_first]
          · rfl
          · intro other member
            rcases List.mem_cons.mp member with rfl | member
            · exact before
            · exact Nat.lt_trans before (high other member)
        · rename_i behind
          rw [RuleTable.insert, if_neg behind, insert_first]
          · rfl
          · exact fun other member => Nat.lt_of_le_of_lt place (high other member)
      · split <;> simp only [List.forall_mem_cons]
        · exact ⟨fits, first, low⟩
        · exact ⟨first, fits, low⟩
      · split
        · rw [firstVerdict, firstVerdict, firstVerdict_numberFrom]
          rfl
        · rw [firstVerdict, firstVerdict, firstVerdict_numberFrom]
          exact (when'.orElse_comm when'').symm

/-- The anchor alone. -/
theorem evaluate_anchor {skip : Nat} (reached : skip ≤ nopPrio cfg) :
    evaluate Rule.priority (verdict kernel routes packet) skip [anchor (nopPrio cfg)]
      = mainRoute routes := by
  have here : ¬ (anchor (nopPrio cfg)).priority < skip := Nat.not_lt.mpr reached
  rw [evaluate, if_neg here, mainRoute]
  cases found : routes mainTable with
  | none =>
      rw [verdict_anchor_none found]
      rfl
  | some length =>
      rw [verdict_anchor found]
      rfl

/-- **The route of a packet** is the one that the slots lead to, behind the rule of
`auto_redirect`. -/
theorem routeOf_eq (returned : (setup std cfg ifName).2 = true)
    (present : hasFamily std cfg family = true) (early : Early kernel std cfg ifName)
    (few : (setupSlots std cfg ifName family).length ≤ 100) :
    ∃ redirect : Verdict Route, redirect.IsWhen (lookedUp routes (table cfg))
        (cfg.autoRedirect = true ∧ kernel.matchesMark cfg.autoRedirectInputMark packet.mark = true)
      ∧ routeOf kernel routes packet (setupTable kernel std cfg ifName family)
        = routeBy routes
          (redirect.orElse (groupVerdict kernel routes packet (setupSlots std cfg ifName family)))
      := by
  obtain ⟨block, redirect, shape, low, when', decided⟩ :=
    @setupTable_eq std cfg ifName kernel routes packet family returned present early few
  have target : ∀ rule ∈ block, ∀ target, verdict kernel routes packet rule = .jump target →
      target = nopPrio cfg := by
    intro rule member target jumps
    refine target_of_jump returned present early (?_ : rule ∈ _) jumps
    rw [shape]
    exact List.mem_append_left _ member
  have positive : 0 < nopPrio cfg := by
    rw [nopPrio]
    omega
  refine ⟨redirect, when', ?_⟩
  rw [routeOf, shape, evaluate_block (fun _ _ => Nat.zero_le _)
    (fun rule member => Nat.le_pred_of_lt (low rule member)) (fun rule member other jumps => by
      rw [target rule member other jumps]
      exact Nat.pred_lt_of_lt positive), decided]
  cases said : redirect.orElse
      (groupVerdict kernel routes packet (setupSlots std cfg ifName family)) with
  | pass => exact evaluate_anchor (Nat.zero_le _)
  | jump other =>
      obtain ⟨rule, member, jumps⟩ := exists_of_firstVerdict (decided.trans said)
        fun same => by cases same
      rw [target rule member other jumps]
      exact evaluate_anchor (Nat.le_refl _)
  | stop route => rfl

section Steps

variable {first rest : Verdict Route} {applies : Prop}

theorem routeBy_lookedUp {id : UInt32} (when' : first.IsWhen (lookedUp routes id) applies) :
    routeBy routes (first.orElse rest)
      = if applies ∧ (routes id).isSome = true then some (.table id) else routeBy routes rest := by
  by_cases holds : applies
  · rw [when'.decides holds, lookedUp]
    by_cases found : (routes id).isSome = true
    · rw [if_pos found, if_pos ⟨holds, found⟩]
      rfl
    · rw [if_neg found, if_neg fun both => found both.2, Verdict.pass_orElse]
  · rw [when'.passes holds, if_neg fun both => holds both.1, Verdict.pass_orElse]

/-- A verdict that nothing comes behind. -/
theorem routeBy_lookedUp_last {id : UInt32} (when' : first.IsWhen (lookedUp routes id) applies) :
    routeBy routes first
      = if applies ∧ (routes id).isSome = true then some (.table id) else mainRoute routes := by
  rw [← @Verdict.orElse_pass _ first, routeBy_lookedUp when']
  rfl

theorem routeBy_jump {target : Nat} (when' : first.IsWhen (.jump target) applies) :
    routeBy routes (first.orElse rest)
      = if applies then mainRoute routes else routeBy routes rest := by
  by_cases holds : applies
  · rw [when'.decides holds, if_pos holds]
    rfl
  · rw [when'.passes holds, if_neg holds, Verdict.pass_orElse]

theorem routeBy_stop {route : Route} (when' : first.IsWhen (.stop route) applies) :
    routeBy routes (first.orElse rest) = if applies then some route else routeBy routes rest := by
  by_cases holds : applies
  · rw [when'.decides holds, if_pos holds]
    rfl
  · rw [when'.passes holds, if_neg holds, Verdict.pass_orElse]

end Steps

/-! ### The groups together -/

/-- The rule for a mark and that of `auto_redirect` together. -/
theorem verdict_marks {redirect : Verdict Route}
    (when' : redirect.IsWhen (lookedUp routes (table cfg)) (cfg.autoRedirect = true
      ∧ kernel.matchesMark cfg.autoRedirectInputMark packet.mark = true)) :
    (redirect.orElse (groupVerdict kernel routes packet (markSlots cfg))).IsWhen
      (lookedUp routes (table cfg)) (¬ MarkSafe kernel cfg packet.mark) := by
  refine (when'.orElse groupVerdict_marks).congr ⟨?_, fun unsafeMark => ?_⟩
  · rintro (⟨redirected, marked⟩ | ⟨mark, effective, missing⟩) safe
    · exact Bool.false_ne_true ((safe.notRedirected redirected).symm.trans marked)
    · exact Bool.false_ne_true (missing.symm.trans (safe.carried mark effective))
  · by_contra neither
    refine unsafeMark ⟨fun mark effective => ?_, fun redirected => ?_⟩
    · by_contra missing
      exact neither (.inr ⟨mark, effective, Bool.eq_false_iff.mpr missing⟩)
    · exact Bool.eq_false_iff.mpr fun marked => neither (.inl ⟨redirected, marked⟩)

/-- `0.0.0.0/32` is one address. -/
theorem inPrefix_unspecified (addr : IpAddr) :
    inPrefix (.v4 (.ofNat 4 0), 32) addr = true ↔ addr = .v4 (.ofNat 4 0) := by
  cases addr with
  | v4 ip =>
      have zero : (Octets.ofNat 4 0).toNat = 0 := toNat_ofNat_of_lt (Nat.two_pow_pos _)
      have block : inPrefix (.v4 (.ofNat 4 0), 32) (.v4 ip) = true
          ↔ (Octets.ofNat 4 0).toNat / 1 = ip.toNat / 1 := decide_eq_true_iff
      rw [block, Nat.div_one, Nat.div_one, IpAddr.v4.injEq]
      exact ⟨fun same => Octets.toNat_injective same.symm, fun same => same ▸ rfl⟩
  | v6 ip => exact ⟨nofun, nofun⟩

theorem skipSource_applies (net : IpPrefix) :
    (skipSourceRule cfg net).selector.applies kernel packet = true
      ↔ packet.iif = "lo" ∧ fromPrefix net packet.src = true := by
  simp only [skipSourceRule, Selector.applies, Option.all_none, Option.all_some, Bool.true_and,
    Bool.and_true, Bool.bne_false, Bool.and_eq_true, beq_iff_eq]
  exact and_congr_left' eq_comm

/-- What comes behind the interfaces, for a packet of the family. -/
theorem route_locals (quiet : .panic ∉ slotCommands std cfg ifName)
    (source : familyOf packet.src = family) :
    routeBy routes (groupVerdict kernel routes packet (localSlots std cfg ifName family))
      = if (packet.iif ≠ ifName ∧ CapturedSource std cfg packet family)
          ∧ (routes (table cfg)).isSome = true then some (.table (table cfg))
        else mainRoute routes := by
  have fromTun : (groupVerdict kernel routes packet [[skipInterfaceRule cfg ifName]]).IsWhen
      (.jump (nopPrio cfg)) (packet.iif = ifName) := by
    rw [groupVerdict_single]
    refine bodyVerdict_goto ?_
    simp only [Selector.applies, Option.all_none, Option.all_some, Bool.true_and, Bool.and_true,
      Bool.bne_false, beq_iff_eq]
    exact eq_comm
  have sourced : ∀ net, (bodyVerdict kernel routes packet (sourceRule cfg net)).IsWhen
      (lookedUp routes (table cfg)) (packet.iif = "lo" ∧ fromPrefix net packet.src = true) :=
    fun net => bodyVerdict_lookup (by
      simp only [Selector.applies, Option.all_none, Option.all_some, Bool.true_and, Bool.and_true,
        Bool.bne_false, Bool.and_eq_true, beq_iff_eq]
      exact and_congr_left' eq_comm)
  cases family with
  | v4 =>
      have forwarded : (groupVerdict kernel routes packet [[forwardedRule cfg]]).IsWhen
          (lookedUp routes (table cfg)) (packet.iif ≠ "lo") := by
        rw [groupVerdict_single]
        refine bodyVerdict_lookup ?_
        simp only [Selector.applies, Option.all_none, Option.all_some, Bool.true_and, Bool.and_true,
          Bool.bne_true, Bool.not_eq_true', beq_eq_false_iff_ne]
        exact ne_comm
      have known : packet.src ≠ unspecified .v6 := by
        intro same
        rw [same] at source
        cases source
      simp only [fromPrefix_eq known] at sourced
      have unbound : (groupVerdict kernel routes packet
          [[sourceRule cfg (.v4 (.ofNat 4 0), 32)]]).IsWhen (lookedUp routes (table cfg))
          (packet.iif = "lo" ∧ packet.src = unspecified .v4) := by
        rw [groupVerdict_single]
        exact (sourced _).congr (and_congr_right' (inPrefix_unspecified packet.src))
      have sources : (groupVerdict kernel routes packet
          (addressSlots std cfg .v4 (sourceRule cfg))).IsWhen (lookedUp routes (table cfg))
          (packet.iif = "lo" ∧ InTun std cfg .v4 packet.src) :=
        groupVerdict_addresses quiet sourced
      have slots : localSlots std cfg ifName .v4 = [[skipInterfaceRule cfg ifName]]
          ++ ([[forwardedRule cfg]] ++ ([[sourceRule cfg (.v4 (.ofNat 4 0), 32)]]
            ++ addressSlots std cfg .v4 (sourceRule cfg))) := rfl
      rw [slots, groupVerdict_append, groupVerdict_append, groupVerdict_append,
        routeBy_jump fromTun, routeBy_lookedUp forwarded, routeBy_lookedUp unbound,
        routeBy_lookedUp_last sources]
      unfold CapturedSource
      grind
  | v6 =>
      obtain ⟨ip, here⟩ : ∃ ip, packet.src = .v6 ip := by
        cases src : packet.src with
        | v4 ip =>
            rw [src] at source
            cases source
        | v6 ip => exact ⟨ip, rfl⟩
      have halves : (groupVerdict kernel routes packet
          [[skipSourceRule cfg (.v6 (.ofNat 16 0), 1),
            skipSourceRule cfg (.v6 (.ofNat 16 (2 ^ 127)), 1)]]).IsWhen (.jump (nopPrio cfg))
          (packet.iif = "lo" ∧ packet.src ≠ unspecified .v6) := by
        have first : (bodyVerdict kernel routes packet
            (skipSourceRule cfg (.v6 (.ofNat 16 0), 1))).IsWhen (.jump (nopPrio cfg))
            (packet.iif = "lo" ∧ fromPrefix (.v6 (.ofNat 16 0), 1) packet.src = true) :=
          bodyVerdict_goto (@skipSource_applies cfg kernel packet _)
        have second : (bodyVerdict kernel routes packet
            (skipSourceRule cfg (.v6 (.ofNat 16 (2 ^ 127)), 1))).IsWhen (.jump (nopPrio cfg))
            (packet.iif = "lo" ∧ fromPrefix (.v6 (.ofNat 16 (2 ^ 127)), 1) packet.src = true) :=
          bodyVerdict_goto (@skipSource_applies cfg kernel packet _)
        rw [groupVerdict, List.flatten_singleton, firstVerdict, firstVerdict_singleton]
        refine (first.orElse second).congr ⟨?_, ?_⟩
        · rintro (⟨loopback, inside⟩ | ⟨loopback, inside⟩)
          all_goals
            refine ⟨loopback, fun unbound => ?_⟩
            rw [unbound, fromPrefix_unspecified (by decide)] at inside
            cases inside
        · rintro ⟨loopback, known⟩
          rw [fromPrefix_eq known, fromPrefix_eq known, here]
          exact (inPrefix_halves ip).imp (fun low => ⟨loopback, low⟩) fun high => ⟨loopback, high⟩
      have default' : (groupVerdict kernel routes packet [[defaultRule cfg]]).IsWhen
          (lookedUp routes (table cfg)) True := by
        rw [groupVerdict_single]
        exact bodyVerdict_lookup (iff_true_intro rfl)
      -- the last rule leads where these lead
      obtain ⟨_, sources⟩ : ∃ applies, (groupVerdict kernel routes packet
          (addressSlots std cfg .v6 (sourceRule cfg))).IsWhen (lookedUp routes (table cfg))
          applies := ⟨_, groupVerdict_networks sourced⟩
      have slots : localSlots std cfg ifName .v6 = [[skipInterfaceRule cfg ifName]]
          ++ ([[skipSourceRule cfg (.v6 (.ofNat 16 0), 1),
              skipSourceRule cfg (.v6 (.ofNat 16 (2 ^ 127)), 1)]]
            ++ (addressSlots std cfg .v6 (sourceRule cfg) ++ [[defaultRule cfg]])) := by
        rw [localSlots, List.append_assoc]
        rfl
      rw [slots, groupVerdict_append, groupVerdict_append, groupVerdict_append,
        routeBy_jump fromTun, routeBy_jump halves,
        routeBy_lookedUp sources, routeBy_lookedUp_last default']
      unfold CapturedSource
      grind

theorem Specific.isSome {id : UInt32} (specific : Specific routes id) :
    (routes id).isSome = true := by
  obtain ⟨length, found, -⟩ := specific
  rw [found]
  rfl

theorem Specific.mainRoute (specific : Specific routes mainTable) :
    mainRoute routes = some (.table mainTable) := by
  obtain ⟨length, found, -⟩ := specific
  rw [Linux.mainRoute, found]
  rfl

/-- The interfaces, and what comes behind them. -/
theorem route_later (quiet : .panic ∉ slotCommands std cfg ifName)
    (source : familyOf packet.src = family) :
    routeBy routes (groupVerdict kernel routes packet (laterSlots std cfg ifName family))
      = if (if cfg.includeInterface ≠ [] then packet.iif ∈ cfg.includeInterface
          else packet.iif ∉ cfg.excludeInterface
            ∧ (InTun std cfg family packet.dst ∨ Specific routes (table cfg)
              ∨ ¬ (packet.dport ≠ some 53 ∧ Specific routes mainTable) ∧ packet.iif ≠ ifName
                ∧ CapturedSource std cfg packet family))
          ∧ (routes (table cfg)).isSome = true then some (.table (table cfg))
        else mainRoute routes := by
  have subnets : (groupVerdict kernel routes packet
      (addressSlots std cfg family (subnetRule cfg))).IsWhen (lookedUp routes (table cfg))
      (True ∧ InTun std cfg family packet.dst) :=
    groupVerdict_addresses quiet fun net => bodyVerdict_lookup (by
      simp only [Selector.applies, Option.all_none, Option.all_some, Bool.true_and, Bool.and_true,
        Bool.bne_false, true_and])
  have suppress : (groupVerdict kernel routes packet [[suppressRule cfg]]).IsWhen
      (.stop (.table (table cfg))) (True ∧ Specific routes (table cfg)) := by
    rw [groupVerdict_single]
    exact bodyVerdict_suppress (iff_true_intro rfl)
  have dns : (groupVerdict kernel routes packet [[dnsRule]]).IsWhen
      (.stop (.table mainTable)) (packet.dport ≠ some 53 ∧ Specific routes mainTable) := by
    rw [groupVerdict_single]
    refine bodyVerdict_suppress ?_
    simp only [Selector.applies, Option.all_none, Option.all_some, Bool.true_and, Bool.bne_true,
      Bool.not_eq_true', beq_eq_false_iff_ne, ne_eq]
  have rest := @route_locals std cfg ifName kernel routes packet family quiet source
  have slots : laterSlots std cfg ifName family = interfaceSlots cfg
      ++ (addressSlots std cfg family (subnetRule cfg)
        ++ ([[suppressRule cfg]] ++ ([[dnsRule]] ++ localSlots std cfg ifName family))) := by
    rw [laterSlots, List.append_assoc, List.append_assoc]
    rfl
  have behind : routeBy routes (groupVerdict kernel routes packet
      (addressSlots std cfg family (subnetRule cfg)
        ++ ([[suppressRule cfg]] ++ ([[dnsRule]] ++ localSlots std cfg ifName family))))
      = if (InTun std cfg family packet.dst ∨ Specific routes (table cfg)
            ∨ ¬ (packet.dport ≠ some 53 ∧ Specific routes mainTable) ∧ packet.iif ≠ ifName
              ∧ CapturedSource std cfg packet family)
          ∧ (routes (table cfg)).isSome = true then some (.table (table cfg))
        else mainRoute routes := by
    rw [groupVerdict_append, groupVerdict_append, groupVerdict_append, routeBy_lookedUp subnets,
      routeBy_stop suppress, routeBy_stop dns, rest]
    have specific := @Specific.isSome routes (table cfg)
    have main := @Specific.mainRoute routes
    grind
  rw [slots, groupVerdict_append]
  by_cases listed : cfg.includeInterface ≠ []
  · have included : (groupVerdict kernel routes packet
        (cfg.includeInterface.map fun iface => [interfaceRule cfg iface])).IsWhen
        (lookedUp routes (table cfg)) (packet.iif ∈ cfg.includeInterface) :=
      groupVerdict_interfaces fun iface => bodyVerdict_lookup (by
        simp only [Selector.applies, Option.all_none, Option.all_some, Bool.true_and, Bool.and_true,
          Bool.bne_false, beq_iff_eq])
    have skip : (groupVerdict kernel routes packet [[skipRule cfg]]).IsWhen
        (.jump (nopPrio cfg)) True := by
      rw [groupVerdict_single]
      exact bodyVerdict_goto (iff_true_intro rfl)
    rw [interfaceSlots, if_pos listed, groupVerdict_append, Verdict.orElse_assoc,
      routeBy_lookedUp included, routeBy_jump skip]
    simp only [if_pos listed]
    grind
  · have excluded : (groupVerdict kernel routes packet
        (cfg.excludeInterface.map fun iface => [skipInterfaceRule cfg iface])).IsWhen
        (.jump (nopPrio cfg)) (packet.iif ∈ cfg.excludeInterface) :=
      groupVerdict_interfaces fun iface => bodyVerdict_goto (by
        simp only [Selector.applies, Option.all_none, Option.all_some, Bool.true_and, Bool.and_true,
          Bool.bne_false, beq_iff_eq])
    rw [interfaceSlots, if_neg listed, routeBy_jump excluded, behind]
    simp only [if_neg listed]
    grind

/-- **The route in a family that has addresses** is that of the policy. -/
theorem routeOf_present (returned : (setup std cfg ifName).2 = true)
    (early : Early kernel std cfg ifName) (few : slotCount std cfg family ≤ 100)
    (present : hasFamily std cfg family = true) (source : familyOf packet.src = family) :
    routeOf kernel routes packet (setupTable kernel std cfg ifName family)
      = policyRoute kernel std cfg ifName routes packet family := by
  have quiet := (@setup_rules std cfg ifName family
    (sumsFit_of_returned returned)).2.2.2.mp returned
  rw [← length_setupSlots quiet] at few
  obtain ⟨redirect, when', route⟩ :=
    @routeOf_eq std cfg ifName kernel routes packet family returned present early few
  rw [route, setupSlots_eq quiet, if_pos present, List.append_assoc, groupVerdict_append,
    groupVerdict_append, ← Verdict.orElse_assoc, routeBy_lookedUp (verdict_marks when'),
    routeBy_jump groupVerdict_uids, route_later quiet source, policyRoute]
  unfold Captured
  grind

/-- In one without addresses nothing is routed, under `strict_route` expressly. -/
theorem routeOf_unserved (returned : (setup std cfg ifName).2 = true)
    (absent : hasFamily std cfg family = false) :
    routeOf kernel routes packet (setupTable kernel std cfg ifName family)
      = if cfg.strictRoute = true then some .unreachable else none := by
  have spec := @setup_rules std cfg ifName family (sumsFit_of_returned returned)
  have quiet := spec.2.2.2.mp returned
  have anchors := spec.2.1
  have unnumbered := spec.2.2.1
  rw [absent, Bool.and_false, if_neg Bool.false_ne_true] at anchors
  rw [absent, Bool.and_false, Bool.and_false, if_neg Bool.false_ne_true] at unnumbered
  rw [setupTable, tableAfter, unnumbered, List.foldl_nil, numberedTable, anchors, List.append_nil,
    spec.1, setupSlots_eq quiet, if_neg (ne_true_of_eq_false absent)]
  cases cfg.strictRoute with
  | true => rfl
  | false => rfl

/-- **`setup` means its policy.** Whatever the routing tables hold, the kernel's search through the
rules of a family that has addresses ends where the policy sends the packet, when the family takes
at most a hundred priorities and no excluded range reaches -1; and in a family without addresses
nothing is routed, under `strict_route` expressly. -/
theorem routeOf_setup (returned : (setup std cfg ifName).2 = true)
    (early : Early kernel std cfg ifName) (few : slotCount std cfg family ≤ 100)
    (taken : RangesTaken std cfg) (source : familyOf packet.src = family) :
    routeOf kernel routes packet (linuxTable kernel std cfg ifName family)
      = if hasFamily std cfg family = true then
          policyRoute kernel std cfg ifName routes packet family
        else if cfg.strictRoute = true then some .unreachable else none := by
  rw [linuxTable_eq returned taken]
  cases present : hasFamily std cfg family with
  | true => rw [if_pos rfl, routeOf_present returned early few present source]
  | false => rw [if_neg Bool.false_ne_true, routeOf_unserved returned present]

end Groups

/-- A query for DNS from a socket that is not bound. -/
def queryPacket : Packet := ⟨0, 0, "lo", .v4 (.ofNat 4 0), .v4 (.new 8 8 8 8), some 53⟩

theorem routeOf_setup_sample :
    routeOf plainKernel (fun _ => some 0) queryPacket
        (linuxTable plainKernel sampleRuleText (excludingConfig none) "tun0" .v4)
      = some (.table (table (excludingConfig none))) := by
  have returned : (setup sampleRuleText (excludingConfig none) "tun0").2 = true := by
    decide +kernel
  have early : Early plainKernel sampleRuleText (excludingConfig none) "tun0" := by
    intro family present
    cases family with
    | v4 => decide +kernel
    | v6 => exact absurd present (by decide +kernel)
  have present : hasFamily sampleRuleText (excludingConfig none) .v4 = true := by decide +kernel
  have source : familyOf queryPacket.src = .v4 := rfl
  have uids : buildExcludedUidRanges sampleRuleText (excludingConfig none) = [(1000, 1000)] := by
    decide +kernel
  have captured : Captured plainKernel sampleRuleText (excludingConfig none) "tun0"
      (fun _ => some 0) queryPacket .v4 := by
    refine .inr ⟨?_, ⟨nofun, .inr (.inr ⟨fun both => both.1 rfl, nofun, .inr (.inl rfl)⟩)⟩⟩
    rintro ⟨range, member, low, -⟩
    rw [uids] at member
    rw [List.mem_singleton.mp member] at low
    exact absurd low (by decide)
  have taken : RangesTaken sampleRuleText (excludingConfig none) := by
    intro range member
    rw [uids] at member
    rw [List.mem_singleton.mp member]
    decide
  rw [routeOf_setup returned early (by decide +kernel) taken source, if_pos present, policyRoute,
    if_pos ⟨captured, rfl⟩]

end RsTun.Linux
