/-
**Excluded UIDs and the TUN table.**

A packet of an excluded UID meets the rule for the mark, then the rule of its UID, which jumps to
the anchor; from there on only rules behind the anchor count.

* `routeOf_from_anchor` — with a mark that is let through, the search goes on at the anchor.
* **`excluded_uids_iff`** — excluded UIDs never take the route of the TUN table exactly when the
  mark of the packet is let through, the rules fit in before the anchor, and the TUN table is not
  `main`.
-/

import RsTun.Linux.Kernel

namespace RsTun.Linux

open Library Library.Prefix Library.RuleTable

variable {std : StdText} {cfg : TunInboundConfig} {ifName : String} {kernel : Kernel}
  {routes : UInt32 → Option Nat} {packet : Packet} {family : Family} {rule : Rule}

/-- The UID is in an excluded range. -/
def UidExcluded (std : StdText) (cfg : TunInboundConfig) (uid : UInt32) : Prop :=
  ∃ range ∈ buildExcludedUidRanges std cfg, range.1 ≤ uid ∧ uid ≤ range.2

/-- The family of an address. -/
def familyOf : IpAddr → Family
  | .v4 _ => .v4
  | .v6 _ => .v6

/-- An address of a family outside the subnets of the TUN. -/
def OutsideTun (std : StdText) (cfg : TunInboundConfig) (family : Family) (addr : IpAddr) : Prop :=
  familyOf addr = family
    ∧ ∀ subnet ∈ parseAddresses std cfg family, inPrefix subnet addr = false

/-- A mark that the rules for marks let through: it matches `effective_so_mark` if there is one, and
with `auto_redirect` it does not match `auto_redirect_input_mark`. -/
structure MarkSafe (kernel : Kernel) (cfg : TunInboundConfig) (mark : UInt32) : Prop where
  carried : ∀ soMark, effectiveSoMark cfg = some soMark → kernel.matchesMark soMark mark = true
  notRedirected : cfg.autoRedirect = true →
    kernel.matchesMark cfg.autoRedirectInputMark mark = false

/-! ### What each rule decides -/

theorem verdict_fwmarkRule_carried {mark : UInt32} {priority : Nat}
    (carried : kernel.matchesMark mark packet.mark = true) :
    verdict kernel routes packet ⟨priority, fwmarkRule cfg mark⟩ = .pass := by
  simp [verdict, fwmarkRule, Selector.applies, carried]

theorem verdict_fwmarkRule {mark : UInt32} {priority length : Nat}
    (missing : kernel.matchesMark mark packet.mark = false)
    (found : routes (table cfg) = some length) :
    verdict kernel routes packet ⟨priority, fwmarkRule cfg mark⟩ = .stop (.table (table cfg)) := by
  simp [verdict, fwmarkRule, Selector.applies, missing, found]

theorem verdict_uidRule_inside {range : UidRange} {priority : Nat} (low : range.1 ≤ packet.uid)
    (high : packet.uid ≤ range.2) :
    verdict kernel routes packet ⟨priority, uidRule cfg range⟩ = .jump (nopPrio cfg) := by
  simp [verdict, uidRule, Selector.applies, low, high]

theorem verdict_uidRule_outside {range : UidRange} {priority : Nat}
    (outside : ¬ (range.1 ≤ packet.uid ∧ packet.uid ≤ range.2)) :
    verdict kernel routes packet ⟨priority, uidRule cfg range⟩ = .pass := by
  simp [verdict, uidRule, Selector.applies, outside]

theorem verdict_redirectRule_other {priority : Nat}
    (other : kernel.matchesMark cfg.autoRedirectInputMark packet.mark = false) :
    verdict kernel routes packet ⟨priority, redirectRule cfg⟩ = .pass := by
  simp [verdict, redirectRule, Selector.applies, other]

theorem verdict_redirectRule {priority length : Nat}
    (marked : kernel.matchesMark cfg.autoRedirectInputMark packet.mark = true)
    (found : routes (table cfg) = some length) :
    verdict kernel routes packet ⟨priority, redirectRule cfg⟩ = .stop (.table (table cfg)) := by
  simp [verdict, redirectRule, Selector.applies, marked, found]

theorem verdict_anchor {priority length : Nat} (found : routes mainTable = some length) :
    verdict kernel routes packet (anchor priority) = .stop (.table mainTable) := by
  simp [verdict, anchor, Selector.applies, found]

theorem verdict_anchor_none {priority : Nat} (none : routes mainTable = none) :
    verdict kernel routes packet (anchor priority) = .pass := by
  simp [verdict, anchor, Selector.applies, none]

/-! ### The table after `setup` -/

section Table

variable (kernel)

/-- The rules of `setup` alone, where every range of UIDs makes a rule. -/
def setupTable (std : StdText) (cfg : TunInboundConfig) (ifName : String) (family : Family) :
    List Rule :=
  tableAfter kernel (setup std cfg ifName).1 family []

/-- The UID of nobody, -1. -/
def noUid : UInt32 := 4294967295

/-- A rule that Linux takes: it refuses a `uidrange` that ends at -1. -/
def RuleBody.isTaken (body : RuleBody) : Bool := body.selector.uidrange.all (·.2 != noUid)

/-- The rules of `setup` alone, without those that Linux refuses. -/
def linuxTable (std : StdText) (cfg : TunInboundConfig) (ifName : String) (family : Family) :
    List Rule :=
  let st := (setup std cfg ifName).1
  tableAfter kernel
    { st with rules := fun family => (st.rules family).filter fun rule => rule.body.isTaken } family
    []

theorem sorted_setupTable : Sorted Rule.priority (setupTable kernel std cfg ifName family) := by
  unfold setupTable tableAfter
  have start : Sorted Rule.priority (numberedTable (setup std cfg ifName).1 family []) :=
    sorted_foldl_addRule List.Pairwise.nil
  generalize (setup std cfg ifName).1.unnumbered family = bodies
  generalize numberedTable (setup std cfg ifName).1 family [] = first at start ⊢
  induction bodies generalizing first with
  | nil => exact start
  | cons body rest ih => exact ih _ (sorted_addRule start)

variable {kernel}

/-- No excluded range reaches -1. -/
def RangesTaken (std : StdText) (cfg : TunInboundConfig) : Prop :=
  ∀ range ∈ buildExcludedUidRanges std cfg, range.2 ≠ noUid

/-- Then Linux refuses none of the rules. -/
theorem linuxTable_eq (returned : (setup std cfg ifName).2 = true) (taken : RangesTaken std cfg) :
    linuxTable kernel std cfg ifName family = setupTable kernel std cfg ifName family := by
  have kept : ((setup std cfg ifName).1.rules family).filter (fun rule => rule.body.isTaken)
      = (setup std cfg ifName).1.rules family := by
    refine List.filter_eq_self.mpr fun rule member => ?_
    rw [(@setup_rules std cfg ifName family (sumsFit_of_returned returned)).1,
      mem_numberFrom] at member
    obtain ⟨index, bodies, found, -, inside⟩ := member
    have planned := (setupSlots_planned (List.mem_of_getElem? found)).2.2 _ inside
    rw [RuleBody.isTaken]
    cases asked : rule.body.selector.uidrange with
    | none => rfl
    | some range => exact bne_iff_ne.mpr (taken range (planned.uids range asked))
  rw [linuxTable, setupTable, tableAfter, tableAfter, numberedTable, numberedTable]
  dsimp only
  rw [kept]

theorem mem_numberedTable (returned : (setup std cfg ifName).2 = true)
    (present : hasFamily std cfg family = true) :
    rule ∈ numberedTable (setup std cfg ifName).1 family []
      ↔ (rule ∈ (setup std cfg ifName).1.rules family ∧ rule.backward = false)
        ∨ rule = anchor (nopPrio cfg) := by
  have anchors := (@setup_rules std cfg ifName family (sumsFit_of_returned returned)).2.1
  rw [returned, present, Bool.and_self, if_pos rfl] at anchors
  rw [numberedTable, mem_foldl_addRule, anchors, List.mem_append, List.mem_singleton]
  constructor
  · rintro (impossible | ⟨numbered | rfl, forward⟩)
    · cases impossible
    · exact .inl ⟨numbered, forward⟩
    · exact .inr rfl
  · rintro (⟨numbered, forward⟩ | rfl)
    · exact .inr ⟨.inl numbered, forward⟩
    · exact .inr ⟨.inr rfl, rfl⟩

/-- The rules with a priority, by group: the mark, the excluded UIDs, and what comes behind. -/
theorem numbered_cases (returned : (setup std cfg ifName).2 = true)
    (present : hasFamily std cfg family = true) :
    rule ∈ (setup std cfg ifName).1.rules family
      ↔ rule ∈ numberFrom (prioBase cfg) (markSlots cfg)
        ∨ rule ∈ numberFrom (prioBase cfg + (markSlots cfg).length) (uidSlots std cfg)
        ∨ rule ∈ numberFrom
          (prioBase cfg + ((markSlots cfg).length + (buildExcludedUidRanges std cfg).length))
          (laterSlots std cfg ifName family) := by
  have spec := @setup_rules std cfg ifName family (sumsFit_of_returned returned)
  rw [spec.1, setupSlots_eq (spec.2.2.2.mp returned), if_pos present, numberFrom_append,
    numberFrom_append, List.mem_append, List.mem_append, or_assoc, List.length_append, uidSlots,
    List.length_map]

theorem mem_setupTable (returned : (setup std cfg ifName).2 = true)
    (present : hasFamily std cfg family = true) :
    rule ∈ setupTable kernel std cfg ifName family
      ↔ rule ∈ numberedTable (setup std cfg ifName).1 family []
        ∨ (cfg.autoRedirect = true ∧ rule
          = ⟨kernel.assign (numberedTable (setup std cfg ifName).1 family []),
            redirectRule cfg⟩) := by
  have spec := @setup_rules std cfg ifName family (sumsFit_of_returned returned)
  have unnumbered := spec.2.2.1
  rw [returned, present, Bool.and_true, Bool.true_and] at unnumbered
  rw [setupTable, tableAfter, unnumbered]
  cases redirected : cfg.autoRedirect with
  | false => simp
  | true =>
      rw [if_pos rfl, List.foldl_cons, List.foldl_nil]
      rw [addUnnumbered, mem_addRule]
      simp [Rule.backward, redirectRule]

theorem mem_markRules {priority : Nat} : rule ∈ numberFrom priority (markSlots cfg)
    ↔ ∃ mark, effectiveSoMark cfg = some mark ∧ rule = ⟨priority, fwmarkRule cfg mark⟩ := by
  unfold markSlots
  cases effectiveSoMark cfg with
  | none => simp [numberFrom]
  | some mark => simp [numberFrom]

theorem mem_uidRules {priority : Nat} : rule ∈ numberFrom priority (uidSlots std cfg)
    ↔ ∃ (index : Nat) (range : UidRange), (buildExcludedUidRanges std cfg)[index]? = some range
      ∧ rule = ⟨priority + index, uidRule cfg range⟩ := by
  rw [mem_numberFrom]
  constructor
  · rintro ⟨index, bodies, found, same, inside⟩
    rw [uidSlots, List.getElem?_map, Option.map_eq_some_iff] at found
    obtain ⟨range, found, rfl⟩ := found
    obtain ⟨priority', body⟩ := rule
    refine ⟨index, range, found, ?_⟩
    rw [Rule.mk.injEq]
    exact ⟨same, List.mem_singleton.mp inside⟩
  · rintro ⟨index, range, found, rfl⟩
    refine ⟨index, [uidRule cfg range], ?_, rfl, List.mem_singleton_self _⟩
    rw [uidSlots, List.getElem?_map, found, Option.map_some]

/-- Where the kernel puts a rule without a priority: not behind the first rule of `setup`. -/
def Early (kernel : Kernel) (std : StdText) (cfg : TunInboundConfig) (ifName : String) : Prop :=
  ∀ family, hasFamily std cfg family = true →
    kernel.assign (numberedTable (setup std cfg ifName).1 family []) ≤ prioBase cfg

/-- **What the table holds**: the rule for the mark, the rules of the UIDs that are ahead of the
anchor, what comes behind, the anchor, and the rule of `auto_redirect`. -/
theorem setupTable_cases (returned : (setup std cfg ifName).2 = true)
    (present : hasFamily std cfg family = true) (early : Early kernel std cfg ifName)
    (member : rule ∈ setupTable kernel std cfg ifName family) :
    (∃ mark, effectiveSoMark cfg = some mark ∧ rule = ⟨prioBase cfg, fwmarkRule cfg mark⟩)
    ∨ (∃ (index : Nat) (range : UidRange), (buildExcludedUidRanges std cfg)[index]? = some range
      ∧ rule = ⟨prioBase cfg + (markSlots cfg).length + index, uidRule cfg range⟩
      ∧ (markSlots cfg).length + index < 100)
    ∨ (prioBase cfg + ((markSlots cfg).length + (buildExcludedUidRanges std cfg).length)
        ≤ rule.priority ∧ Planned std cfg family rule.body ∧ rule.backward = false)
    ∨ rule = anchor (nopPrio cfg)
    ∨ (cfg.autoRedirect = true ∧ rule.body = redirectRule cfg ∧ rule.priority ≤ prioBase cfg) := by
  rcases (mem_setupTable returned present).mp member with numbered | ⟨redirected, rfl⟩
  · rcases (mem_numberedTable returned present).mp numbered with ⟨numbered, forward⟩ | rfl
    · rcases (numbered_cases returned present).mp numbered with marks | uids | later
      · exact .inl (mem_markRules.mp marks)
      · obtain ⟨index, range, found, rfl⟩ := mem_uidRules.mp uids
        refine .inr (.inl ⟨index, range, found, rfl, ?_⟩)
        simp only [Rule.backward, uidRule, nopPrio, decide_eq_false_iff_not] at forward
        omega
      · refine .inr (.inr (.inl ⟨?_, ?_, forward⟩))
        · obtain ⟨index, bodies, -, priority, -⟩ := mem_numberFrom.mp later
          omega
        · rw [(@setup_rules std cfg ifName family (sumsFit_of_returned returned)).1,
            mem_numberFrom] at numbered
          obtain ⟨index, bodies, found, -, inside⟩ := numbered
          exact (setupSlots_planned (List.mem_of_getElem? found)).2.2 _ inside
    · exact .inr (.inr (.inr (.inl rfl)))
  · exact .inr (.inr (.inr (.inr ⟨redirected, rfl, early family present⟩)))

/-- Ahead of the anchor and of what comes behind the UIDs, rules pass, or jump for the UID. -/
theorem verdict_of_safe (returned : (setup std cfg ifName).2 = true)
    (present : hasFamily std cfg family = true) (early : Early kernel std cfg ifName)
    (safe : MarkSafe kernel cfg packet.mark)
    (member : rule ∈ setupTable kernel std cfg ifName family)
    (below : rule.priority < nopPrio cfg)
    (ahead : rule.priority
      < prioBase cfg + ((markSlots cfg).length + (buildExcludedUidRanges std cfg).length)) :
    verdict kernel routes packet rule = .pass
      ∨ (verdict kernel routes packet rule = .jump (nopPrio cfg)
        ∧ ∃ (index : Nat) (range : UidRange), (buildExcludedUidRanges std cfg)[index]? = some range
          ∧ range.1 ≤ packet.uid ∧ packet.uid ≤ range.2
          ∧ (markSlots cfg).length + index < 100) := by
  rcases setupTable_cases returned present early member with ⟨mark, effective, rfl⟩
    | ⟨index, range, found, rfl, few⟩ | ⟨behind, -⟩ | rfl | ⟨redirected, body, -⟩
  · exact .inl (verdict_fwmarkRule_carried (safe.carried mark effective))
  · by_cases inside : range.1 ≤ packet.uid ∧ packet.uid ≤ range.2
    · exact .inr ⟨verdict_uidRule_inside inside.1 inside.2,
        index, range, found, inside.1, inside.2, few⟩
    · exact .inl (verdict_uidRule_outside inside)
  · exact absurd ahead (Nat.not_lt.mpr behind)
  · exact absurd below (Nat.lt_irrefl _)
  · obtain ⟨priority, body'⟩ := rule
    cases body
    exact .inl (verdict_redirectRule_other (safe.notRedirected redirected))

/-- **With a mark that is let through**, the search of a packet of an excluded UID goes on at the
anchor. -/
theorem routeOf_from_anchor (returned : (setup std cfg ifName).2 = true)
    (present : hasFamily std cfg family = true) (early : Early kernel std cfg ifName)
    (safe : MarkSafe kernel cfg packet.mark) (excluded : UidExcluded std cfg packet.uid) :
    routeOf kernel routes packet (setupTable kernel std cfg ifName family)
      = evaluate Rule.priority (verdict kernel routes packet) (nopPrio cfg)
        (setupTable kernel std cfg ifName family) := by
  by_cases jumps : ∃ (index : Nat) (range : UidRange),
      (buildExcludedUidRanges std cfg)[index]? = some range
        ∧ range.1 ≤ packet.uid ∧ packet.uid ≤ range.2 ∧ (markSlots cfg).length + index < 100
  · obtain ⟨index, range, found, low, high, few⟩ := jumps
    have inside := (List.getElem?_eq_some_iff.mp found).1
    have member : (⟨prioBase cfg + (markSlots cfg).length + index, uidRule cfg range⟩ : Rule)
        ∈ setupTable kernel std cfg ifName family := by
      refine (mem_setupTable returned present).mpr (.inl ?_)
      refine (mem_numberedTable returned present).mpr (.inl ⟨?_, ?_⟩)
      · exact (numbered_cases returned present).mpr
          (.inr (.inl (mem_uidRules.mpr ⟨index, range, found, rfl⟩)))
      · simp only [Rule.backward, uidRule, nopPrio, decide_eq_false_iff_not]
        omega
    refine evaluate_jumps (sorted_setupTable kernel) member (Nat.zero_le _) ?_
      (verdict_uidRule_inside low high) fun rule there _ le => ?_
    · dsimp only [nopPrio]
      omega
    · dsimp only at le
      have below : rule.priority < nopPrio cfg := by
        rw [nopPrio]
        omega
      rcases @verdict_of_safe std cfg ifName kernel routes packet family rule returned present
        early safe there below (by omega) with pass | ⟨jump, -⟩
      · exact .inl pass
      · exact .inr jump
  · refine evaluate_skip (Nat.zero_le _) fun rule there _ below => ?_
    -- the rule of the UID lies behind the anchor, and so does all that comes behind it
    obtain ⟨range, listed, low, high⟩ := excluded
    obtain ⟨index, found⟩ := List.getElem?_of_mem listed
    have inside := (List.getElem?_eq_some_iff.mp found).1
    have many : 100 ≤ (markSlots cfg).length + index := by
      refine Nat.le_of_not_lt fun few => jumps ⟨index, range, found, low, high, few⟩
    have ahead : rule.priority
        < prioBase cfg + ((markSlots cfg).length + (buildExcludedUidRanges std cfg).length) := by
      rw [nopPrio] at below
      omega
    rcases @verdict_of_safe std cfg ifName kernel routes packet family rule returned present
      early safe there below ahead with pass | ⟨-, jump⟩
    · exact pass
    · exact absurd jump jumps

end Table

/-! ### The anchor and behind it -/

theorem networkOf_contains {address net : IpPrefix}
    (member : address ∈ parseAddresses std cfg family) (networked : networkOf address = .ok net) :
    inPrefix net address.1 = true := by
  cases family with
  | v4 =>
      obtain ⟨⟨ip, pl⟩, listed, rfl⟩ := List.mem_map.mp member
      have valid := prefixesV4_valid std listed
      simp only [networkOf, bind, Except.bind] at networked
      split at networked
      · cases networked
      · rename_i network' done
        cases networked
        exact decide_eq_true (holds_of_network valid done)
  | v6 =>
      obtain ⟨⟨ip, pl⟩, listed, rfl⟩ := List.mem_map.mp member
      have valid := prefixesV6_valid std listed
      simp only [networkOf, bind, Except.bind] at networked
      split at networked
      · cases networked
      · rename_i network' done
        cases networked
        exact decide_eq_true (holds_of_network valid done)

/-- The last slot sends packets from some address to the TUN table. -/
theorem last_slot (returned : (setup std cfg ifName).2 = true)
    (present : hasFamily std cfg family = true) : ∃ (src : IpAddr) (body : RuleBody),
      (setupSlots std cfg ifName family).getLast? = some [body]
      ∧ body.action = .lookup (table cfg) none
      ∧ ∀ packet : Packet, packet.iif = "lo" → packet.src = src →
        body.selector.applies kernel packet = true := by
  have quiet := (@setup_rules std cfg ifName family
    (sumsFit_of_returned returned)).2.2.2.mp returned
  rw [setupSlots_eq quiet, if_pos present, laterSlots]
  have some : parseAddresses std cfg family ≠ [] := by
    simpa [hasFamily] using present
  cases family with
  | v6 =>
      refine ⟨.v6 (.ofNat 16 0), defaultRule cfg, ?_, rfl, fun packet _ _ => rfl⟩
      rw [localSlots, ← List.append_assoc, ← List.append_assoc, List.getLast?_concat]
  | v4 =>
      -- the rule for the last address
      obtain ⟨before, address, split⟩ : ∃ before address,
          parseAddresses std cfg .v4 = before ++ [address] :=
        ⟨_, _, (List.dropLast_append_getLast some).symm⟩
      cases networked : networkOf address with
      | error fault =>
          refine absurd ?_ (@quiet_perAddress std cfg ifName .v4 (sourceRule cfg) quiet)
          refine List.mem_flatMap.mpr ⟨address, ?_, ?_⟩
          · rw [split]
            exact List.mem_append_right _ List.mem_cons_self
          · rw [networked]
            exact List.mem_cons_self
      | ok net =>
          obtain ⟨earlier, slots⟩ : ∃ earlier,
              addressSlots std cfg .v4 (sourceRule cfg) = earlier ++ [[sourceRule cfg net]] := by
            rw [addressSlots, split, List.flatMap_append, List.flatMap_singleton, networked]
            exact ⟨_, rfl⟩
          refine ⟨address.1, sourceRule cfg net, ?_, rfl, fun packet loopback from' => ?_⟩
          · rw [localSlots, slots, ← List.append_assoc, ← List.append_assoc, ← List.append_assoc,
              List.getLast?_concat]
          · have listed : address ∈ parseAddresses std cfg .v4 :=
              split ▸ List.mem_append_right _ List.mem_cons_self
            have contains := networkOf_contains listed networked
            have known : address.1 ≠ unspecified .v6 := by
              obtain ⟨_, -, rfl⟩ := List.mem_map.mp listed
              intro same
              cases same
            simp [sourceRule, Selector.applies, loopback, from', fromPrefix_eq known, contains]

/-! ### Excluded UIDs -/

/-- A family without addresses has no rule that leads to the TUN table. -/
theorem routeOf_absent (returned : (setup std cfg ifName).2 = true)
    (absent : hasFamily std cfg family = false) {id : UInt32} :
    routeOf kernel routes packet (setupTable kernel std cfg ifName family) ≠ some (.table id) := by
  have spec := @setup_rules std cfg ifName family (sumsFit_of_returned returned)
  have anchors := spec.2.1
  have unnumbered := spec.2.2.1
  rw [absent, Bool.and_false, if_neg Bool.false_ne_true] at anchors
  rw [absent, Bool.and_false, Bool.and_false, if_neg Bool.false_ne_true] at unnumbered
  have closed : ∀ rule ∈ setupTable kernel std cfg ifName family,
      rule.body = ⟨{}, .unreachable⟩ := by
    intro rule member
    rw [setupTable, tableAfter, unnumbered, List.foldl_nil, numberedTable, anchors,
      List.append_nil, mem_foldl_addRule, spec.1, setupSlots_eq (spec.2.2.2.mp returned),
      if_neg (by rw [absent]; exact Bool.false_ne_true)] at member
    rcases member with impossible | ⟨numbered, -⟩
    · cases impossible
    · obtain ⟨index, bodies, found, -, inside⟩ := mem_numberFrom.mp numbered
      have listed := List.mem_of_getElem? found
      split at listed
      · rw [List.mem_singleton.mp listed] at inside
        exact List.mem_singleton.mp inside
      · cases listed
  refine evaluate_ne (fun rule member _ => ?_) (fun rule member target => ?_) (le_refl 0)
  · rw [verdict, closed rule member]
    split <;> exact nofun
  · rw [verdict, closed rule member]
    split <;> exact nofun

theorem action_of_jump {target : Nat} (jumps : verdict kernel routes packet rule = .jump target) :
    rule.body.action = .goto target := by
  unfold verdict at jumps
  split at jumps
  · split at jumps
    · split at jumps
      · cases jumps
      · split at jumps <;> cases jumps
    · rename_i target' action
      cases jumps
      exact action
    · cases jumps
  · cases jumps

/-- Every `goto` of `setup` jumps to the anchor. -/
theorem target_of_jump {target : Nat} (returned : (setup std cfg ifName).2 = true)
    (present : hasFamily std cfg family = true) (early : Early kernel std cfg ifName)
    (member : rule ∈ setupTable kernel std cfg ifName family)
    (jumps : verdict kernel routes packet rule = .jump target) : target = nopPrio cfg := by
  have action := action_of_jump jumps
  rcases setupTable_cases returned present early member with ⟨mark, -, rfl⟩
    | ⟨index, range, -, rfl, -⟩ | ⟨-, planned, -⟩ | rfl | ⟨-, body, -⟩
  · cases action
  · cases action
    rfl
  · rcases planned.action with ⟨suppress, planned⟩ | planned | planned | ⟨planned, -⟩ <;>
      rw [planned] at action <;> cases action
    rfl
  · cases action
  · rw [body] at action
    cases action

/-- **An excluded UID is safe** when the mark is let through, and the rules fit in before an anchor
that is not the TUN table. -/
theorem routeOf_safe (returned : (setup std cfg ifName).2 = true)
    (present : hasFamily std cfg family = true) (early : Early kernel std cfg ifName)
    (safe : MarkSafe kernel cfg packet.mark) (excluded : UidExcluded std cfg packet.uid)
    (few : (setupSlots std cfg ifName family).length ≤ 100) (apart : table cfg ≠ mainTable) :
    routeOf kernel routes packet (setupTable kernel std cfg ifName family)
      ≠ some (.table (table cfg)) := by
  rw [routeOf_from_anchor returned present early safe excluded]
  have numbered : ∀ rule ∈ setupTable kernel std cfg ifName family, nopPrio cfg ≤ rule.priority →
      rule = anchor (nopPrio cfg) := by
    intro rule member behind
    rcases (mem_setupTable returned present).mp member with numbered | ⟨-, rfl⟩
    · rcases (mem_numberedTable returned present).mp numbered with ⟨numbered, -⟩ | same
      · rw [(@setup_rules std cfg ifName family (sumsFit_of_returned returned)).1,
          mem_numberFrom] at numbered
        obtain ⟨index, bodies, found, priority, -⟩ := numbered
        have inside := (List.getElem?_eq_some_iff.mp found).1
        rw [nopPrio] at behind
        omega
      · exact same
    · have first := early family present
      dsimp only [nopPrio] at behind
      omega
  refine evaluate_ne (fun rule member behind => ?_) (fun rule member target jumps => ?_) (le_refl _)
  · rw [numbered rule member behind]
    cases found : routes mainTable with
    | none =>
        rw [verdict_anchor_none found]
        intro same
        cases same
    | some length =>
        rw [verdict_anchor found]
        intro same
        injection same with same
        injection same with same
        exact apart same.symm
  · exact Nat.le_of_eq (target_of_jump returned present early member jumps).symm

/-- The routes of a packet for which only the TUN table has one, the default route. -/
def tunOnly (cfg : TunInboundConfig) : UInt32 → Option Nat :=
  fun id => if id = table cfg then some 0 else none

theorem tunOnly_table : tunOnly cfg (table cfg) = some 0 := if_pos rfl

/-- A packet with another mark takes the TUN table at once. -/
theorem routeOf_marked (returned : (setup std cfg ifName).2 = true)
    (present : hasFamily std cfg family = true) (early : Early kernel std cfg ifName)
    (unsafeMark : ¬ MarkSafe kernel cfg packet.mark) :
    routeOf kernel (tunOnly cfg) packet (setupTable kernel std cfg ifName family)
      = some (.table (table cfg)) := by
  -- at the rule index and ahead of it are the rules for marks alone
  have first : ∀ rule ∈ setupTable kernel std cfg ifName family, rule.priority ≤ prioBase cfg →
      effectiveSoMark cfg ≠ none →
      (∃ mark, effectiveSoMark cfg = some mark ∧ rule = ⟨prioBase cfg, fwmarkRule cfg mark⟩)
      ∨ (cfg.autoRedirect = true ∧ rule.body = redirectRule cfg) := by
    intro rule member low marked
    have one : (markSlots cfg).length = 1 := by
      unfold markSlots
      cases effective : effectiveSoMark cfg with
      | none => exact absurd effective marked
      | some mark => rfl
    rcases setupTable_cases returned present early member with mark
      | ⟨index, range, -, rfl, -⟩ | ⟨behind, -⟩ | rfl | ⟨redirected, body, -⟩
    · exact .inl mark
    · dsimp only at low
      omega
    · omega
    · dsimp only [anchor, nopPrio] at low
      omega
    · exact .inr ⟨redirected, body⟩
  have redirect : ∀ rule : Rule, rule.body = redirectRule cfg →
      verdict kernel (tunOnly cfg) packet rule = .pass
        ∨ verdict kernel (tunOnly cfg) packet rule = .stop (.table (table cfg)) := by
    rintro ⟨priority, body⟩ same
    cases same
    cases marked : kernel.matchesMark cfg.autoRedirectInputMark packet.mark with
    | false => exact .inl (verdict_redirectRule_other marked)
    | true => exact .inr (verdict_redirectRule marked tunOnly_table)
  by_cases carried : ∀ soMark, effectiveSoMark cfg = some soMark →
      kernel.matchesMark soMark packet.mark = true
  · -- the rule of `auto_redirect` applies
    have redirected : cfg.autoRedirect = true
        ∧ kernel.matchesMark cfg.autoRedirectInputMark packet.mark = true := by
      by_contra none
      refine unsafeMark ⟨carried, fun redirected => ?_⟩
      exact Bool.eq_false_iff.mpr fun marked => none ⟨redirected, marked⟩
    have marked : effectiveSoMark cfg ≠ none := by
      unfold effectiveSoMark
      rw [redirected.1, if_pos rfl]
      cases cfg.soMark <;> exact nofun
    have member := (@mem_setupTable std cfg ifName kernel family
      ⟨kernel.assign (numberedTable (setup std cfg ifName).1 family []), redirectRule cfg⟩
      returned present).mpr (.inr ⟨redirected.1, rfl⟩)
    refine evaluate_stops (sorted_setupTable kernel) member (Nat.zero_le _)
      (verdict_redirectRule redirected.2 tunOnly_table) fun rule there _ low => ?_
    rcases first rule there (le_trans low (early family present)) marked with ⟨mark, effective, rfl⟩
      | ⟨-, body⟩
    · exact .inl (verdict_fwmarkRule_carried (carried mark effective))
    · exact redirect rule body
  · -- the rule for the mark applies
    simp only [not_forall, Bool.not_eq_true] at carried
    obtain ⟨mark, effective, missing⟩ := carried
    have marked : effectiveSoMark cfg ≠ none := by
      rw [effective]
      exact nofun
    have member : (⟨prioBase cfg, fwmarkRule cfg mark⟩ : Rule)
        ∈ setupTable kernel std cfg ifName family := by
      refine (mem_setupTable returned present).mpr (.inl ?_)
      refine (mem_numberedTable returned present).mpr (.inl ⟨?_, rfl⟩)
      exact (numbered_cases returned present).mpr (.inl (mem_markRules.mpr ⟨mark, effective, rfl⟩))
    refine evaluate_stops (sorted_setupTable kernel) member (Nat.zero_le _)
      (verdict_fwmarkRule missing tunOnly_table) fun rule there _ low => ?_
    rcases first rule there low marked with ⟨mark', effective', rfl⟩ | ⟨-, body⟩
    · rw [effective] at effective'
      cases effective'
      exact .inr (verdict_fwmarkRule missing tunOnly_table)
    · exact redirect rule body

/-- At the anchor and behind it, rules pass or lead to the TUN table when only that has a route. -/
theorem verdict_behind (returned : (setup std cfg ifName).2 = true)
    (present : hasFamily std cfg family = true) (early : Early kernel std cfg ifName)
    (member : rule ∈ setupTable kernel std cfg ifName family)
    (behind : nopPrio cfg ≤ rule.priority) :
    verdict kernel (tunOnly cfg) packet rule = .pass
      ∨ verdict kernel (tunOnly cfg) packet rule = .stop (.table (table cfg)) := by
  have looked : ∀ id suppress, rule.body.action = .lookup id suppress →
      verdict kernel (tunOnly cfg) packet rule = .pass
        ∨ verdict kernel (tunOnly cfg) packet rule = .stop (.table (table cfg)) := by
    intro id suppress action
    unfold verdict
    rw [action]
    dsimp only
    split
    · by_cases same : id = table cfg
      · rw [same, tunOnly_table]
        dsimp only
        split
        · exact .inl rfl
        · exact .inr rfl
      · rw [tunOnly, if_neg same]
        exact .inl rfl
    · exact .inl rfl
  rcases setupTable_cases returned present early member with ⟨mark, -, rfl⟩
    | ⟨index, range, -, rfl, few⟩ | ⟨-, planned, forward⟩ | rfl | ⟨-, body, -⟩
  · exact looked _ _ rfl
  · dsimp only [nopPrio] at behind
    omega
  · rcases planned.action with ⟨suppress, action⟩ | action | action | ⟨-, absent⟩
    · exact looked _ _ action
    · exact looked _ _ action
    · rw [Rule.backward, action, decide_eq_false_iff_not] at forward
      exact absurd behind forward
    · rw [present] at absent
      cases absent
  · exact looked _ _ rfl
  · exact looked _ _ (by rw [body]; rfl)

/-- **Behind the anchor** the search of a packet from the TUN ends at the TUN table, when a rule
lies there or the anchor itself looks it up. -/
theorem routeOf_overflowing (returned : (setup std cfg ifName).2 = true)
    (present : hasFamily std cfg family = true) (early : Early kernel std cfg ifName)
    {body : RuleBody} (last : (setupSlots std cfg ifName family).getLast? = some [body])
    (action : body.action = .lookup (table cfg) none)
    (applies : body.selector.applies kernel packet = true)
    (safe : MarkSafe kernel cfg packet.mark) (excluded : UidExcluded std cfg packet.uid)
    (overflowing : 100 < (setupSlots std cfg ifName family).length ∨ table cfg = mainTable) :
    routeOf kernel (tunOnly cfg) packet (setupTable kernel std cfg ifName family)
      = some (.table (table cfg)) := by
  rw [routeOf_from_anchor returned present early safe excluded]
  have goal : ∃ rule ∈ setupTable kernel std cfg ifName family, nopPrio cfg ≤ rule.priority
      ∧ verdict kernel (tunOnly cfg) packet rule = .stop (.table (table cfg)) := by
    rcases overflowing with more | same
    · refine ⟨⟨prioBase cfg + ((setupSlots std cfg ifName family).length - 1), body⟩, ?_, ?_, ?_⟩
      · refine (mem_setupTable returned present).mpr (.inl ?_)
        refine (mem_numberedTable returned present).mpr (.inl ⟨?_, ?_⟩)
        · rw [(@setup_rules std cfg ifName family (sumsFit_of_returned returned)).1, mem_numberFrom]
          rw [List.getLast?_eq_getElem?] at last
          exact ⟨_, _, last, rfl, List.mem_singleton_self _⟩
        · rw [Rule.backward, action]
      · dsimp only [nopPrio]
        omega
      · rw [verdict, applies, if_pos rfl, action]
        dsimp only
        rw [tunOnly_table]
        rfl
    · refine ⟨anchor (nopPrio cfg), ?_, le_refl _, ?_⟩
      · refine (mem_setupTable returned present).mpr (.inl ?_)
        exact (mem_numberedTable returned present).mpr (.inr rfl)
      · rw [verdict_anchor (same ▸ tunOnly_table), same]
  obtain ⟨rule, member, behind, decided⟩ := goal
  exact evaluate_stops (sorted_setupTable kernel) member behind decided
    fun other there reached _ => verdict_behind returned present early there reached

/-- **No packet of an excluded UID** with the given mark, generated here and bound for an address
outside the subnets of the TUN, takes the route of the TUN table, which holds a default route. -/
def SkipsTun (kernel : Kernel) (std : StdText) (cfg : TunInboundConfig) (ifName : String)
    (mark : UInt32) : Prop :=
  ∀ (family : Family) (routes : UInt32 → Option Nat) (packet : Packet), packet.mark = mark →
    packet.iif = "lo" → UidExcluded std cfg packet.uid → OutsideTun std cfg family packet.dst →
    routes (table cfg) ≠ none →
    routeOf kernel routes packet (setupTable kernel std cfg ifName family)
      ≠ some (.table (table cfg))

/-- There are packets to protect: the family has addresses, UIDs are excluded, and the subnets of
the TUN are not everything. -/
def Exposed (std : StdText) (cfg : TunInboundConfig) (family : Family) : Prop :=
  hasFamily std cfg family = true ∧ buildExcludedUidRanges std cfg ≠ []
    ∧ ∃ addr, OutsideTun std cfg family addr

/-- **Excluded UIDs skip the TUN** exactly when the mark is let through, the family takes at most a
hundred priorities, and the TUN table is not `main`. Every excluded range makes a rule here: that
Linux refuses the rule of a range up to 4294967295 (`linuxTable`) is left out. -/
theorem excluded_uids_iff {mark : UInt32} (returned : (setup std cfg ifName).2 = true)
    (early : Early kernel std cfg ifName) :
    SkipsTun kernel std cfg ifName mark ↔ ∀ family, Exposed std cfg family →
      MarkSafe kernel cfg mark ∧ slotCount std cfg family ≤ 100 ∧ table cfg ≠ mainTable := by
  have quiet := (@setup_rules std cfg ifName .v4 (sumsFit_of_returned returned)).2.2.2.mp returned
  constructor
  · rintro skips family ⟨present, nonempty, dst, outside⟩
    obtain ⟨range, rest, listed⟩ := List.exists_cons_of_ne_nil nonempty
    have member : range ∈ buildExcludedUidRanges std cfg := listed ▸ List.mem_cons_self
    have excluded : UidExcluded std cfg range.1 :=
      ⟨range, member, UInt32.le_refl _, buildExcludedUidRanges_valid range member⟩
    obtain ⟨src, body, last, action, applies⟩ :=
      @last_slot std cfg ifName kernel family returned present
    have found : tunOnly cfg (table cfg) ≠ none := by
      rw [tunOnly_table]
      exact nofun
    have never := skips family (tunOnly cfg) ⟨range.1, mark, "lo", src, dst, none⟩ rfl rfl excluded
      outside found
    have safe : MarkSafe kernel cfg mark := by
      by_contra unsafeMark
      exact never (routeOf_marked returned present early unsafeMark)
    rw [← length_setupSlots quiet]
    have fits : ¬ (100 < (setupSlots std cfg ifName family).length ∨ table cfg = mainTable) := by
      intro overflowing
      exact never (routeOf_overflowing returned present early last action (applies _ rfl rfl) safe
        excluded overflowing)
    rw [not_or, Nat.not_lt] at fits
    exact ⟨safe, fits.1, fits.2⟩
  · intro conditions family routes packet marked loopback excluded outside found
    cases present : hasFamily std cfg family with
    | false => exact routeOf_absent returned present
    | true =>
        have nonempty : buildExcludedUidRanges std cfg ≠ [] := by
          obtain ⟨range, member, -⟩ := excluded
          exact List.ne_nil_of_mem member
        obtain ⟨safe, few, apart⟩ := conditions family ⟨present, nonempty, packet.dst, outside⟩
        rw [← length_setupSlots quiet] at few
        exact routeOf_safe returned present early (marked ▸ safe) excluded few apart

/-- A configuration that excludes UID 1000. -/
def excludingConfig (soMark : Option UInt32) : TunInboundConfig :=
  { TunInboundConfig.minimal "tun-in" ["198.18.0.1/16"] with
    excludeUid := [1000], soMark := soMark }

theorem excluded_uids_iff_unmarked :
    (setup sampleRuleText (excludingConfig none) "tun0").2 = true
    ∧ Early plainKernel sampleRuleText (excludingConfig none) "tun0"
    ∧ (SkipsTun plainKernel sampleRuleText (excludingConfig none) "tun0" 0 ↔ ∀ family,
      Exposed sampleRuleText (excludingConfig none) family →
        MarkSafe plainKernel (excludingConfig none) 0
        ∧ slotCount sampleRuleText (excludingConfig none) family ≤ 100
        ∧ table (excludingConfig none) ≠ mainTable) := by
  have returned : (setup sampleRuleText (excludingConfig none) "tun0").2 = true := by
    decide +kernel
  have early : Early plainKernel sampleRuleText (excludingConfig none) "tun0" := by
    intro family present
    cases family with
    | v4 => decide +kernel
    | v6 => exact absurd present (by decide +kernel)
  exact ⟨returned, early, excluded_uids_iff returned early⟩

/-- **With `so_mark` set** a packet of the excluded UID 1000 without the mark takes the TUN table.
-/
theorem excluded_uid_takes_tun :
    ¬ SkipsTun plainKernel sampleRuleText (excludingConfig (some 0x1234)) "tun0" 0 := by
  intro skips
  refine skips .v4 (fun _ => some 0)
    ⟨1000, 0, "lo", .v4 ⟨[192, 168, 1, 2], rfl⟩, .v4 ⟨[8, 8, 8, 8], rfl⟩, some 443⟩ rfl rfl
    ⟨(1000, 1000), ?_, ?_⟩ ⟨rfl, ?_⟩ nofun ?_
  · decide +kernel
  · decide +kernel
  · decide +kernel
  · decide +kernel

end RsTun.Linux
