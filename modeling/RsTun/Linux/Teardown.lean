/-
**`teardown` after `setup`.**

`setup` records the priority of every slot in `rule_priorities`, and 0 for a rule without a
priority. `teardown` deletes three times at each recorded priority other than 0, in both families,
and then the first rule that `rule del fwmark` finds.

* `install_recorded` — what is recorded are the priorities of the rules, and the placeholder.
* `teardown_eq` — what the deletions by priority leave.
* **`teardown_undoes_iff`** — every rule of `setup` goes exactly when those with the priority 0, and
  that of `auto_redirect`, are what `rule del fwmark` finds first.
-/

import RsTun.Library.Distinct
import RsTun.Linux.Kernel

namespace RsTun.Linux

open Library Library.RuleTable

/-- `ip rule del priority <priority>`, three times. -/
def deletePriority (table : List Rule) (priority : Nat) : List Rule :=
  removeTimes (fun rule => rule.priority == priority) 3 table

/-- The deletions at the recorded priorities: sorted, once each, without the placeholder. -/
def deleteRecorded (rulePriorities : List Nat) (table : List Rule) : List Rule :=
  let priorities := (rulePriorities.insertionSort (· ≤ ·)).destutter (· ≠ ·)
  priorities.foldl
    (fun table priority => if priority = 0 then table else deletePriority table priority) table

/-- The deletions when no priority is recorded: from the rule index to the larger of the number that
the state file has for the family (`stateFile`, when it can be read) and `nop_prio`. -/
def deleteFallback (cfg : TunInboundConfig) (stateFile : Option (List Nat)) (family : Family)
    (table : List Rule) : List Rule :=
  let last :=
    match stateFile, family with
    | some (p4 :: _ :: _), .v4 => p4
    | some (_ :: p6 :: _), .v6 => p6
    | _, _ => prioBase cfg + 120
  (List.range' (prioBase cfg)
    (max last (nopPrio cfg) + 1 - prioBase cfg)).foldl deletePriority table

/-- `cleanup_nftables_redirect`, as far as rules go. -/
def cleanupNftablesRedirect (kernel : Kernel) (cfg : TunInboundConfig) (rules : List Rule) :
    List Rule :=
  rules.eraseP fun rule => kernel.selects cfg.autoRedirectInputMark (table cfg) rule.body

/-- `teardown`, on the table of a family. -/
def teardown (kernel : Kernel) (cfg : TunInboundConfig) (stateFile : Option (List Nat))
    (st : Installed) (family : Family) (rules : List Rule) : List Rule :=
  cleanupNftablesRedirect kernel cfg
    (if st.rulePriorities ≠ [] then deleteRecorded st.rulePriorities rules
      else deleteFallback cfg stateFile family rules)

/-! ### What is recorded -/

/-- The priorities of the rules are recorded, and nothing else but the placeholder. -/
structure Recorded (st : Installed) : Prop where
  all : ∀ family, ∀ rule ∈ st.rules family ++ st.anchors family,
    rule.priority ∈ st.rulePriorities
  only : ∀ priority ∈ st.rulePriorities, priority = 0
    ∨ ∃ family, ∃ rule ∈ st.rules family ++ st.anchors family, rule.priority = priority

/-- A slot is not empty. -/
def Command.Filled : Command → Prop
  | .slot _ bodies => bodies ≠ []
  | _ => True

/-- Rules of one priority are added, and it is recorded. -/
theorem Recorded.extend {st st' : Installed} {family : Family} {added : List Rule} {priority : Nat}
    (recorded : Recorded st) (some : added ≠ []) (same : ∀ rule ∈ added, rule.priority = priority)
    (members : ∀ other rule, rule ∈ st'.rules other ++ st'.anchors other
      ↔ rule ∈ st.rules other ++ st.anchors other ∨ (other = family ∧ rule ∈ added))
    (priorities : st'.rulePriorities = st.rulePriorities ++ [priority]) : Recorded st' := by
  refine ⟨fun other rule member => ?_, fun value member => ?_⟩
  · rw [priorities]
    rcases (members other rule).mp member with before | ⟨-, here⟩
    · exact List.mem_append_left _ (recorded.all other rule before)
    · exact List.mem_append_right _ (List.mem_singleton.mpr (same rule here))
  · rw [priorities] at member
    rcases List.mem_append.mp member with before | here
    · rcases recorded.only value before with placeholder | ⟨other, rule, there, at'⟩
      · exact .inl placeholder
      · exact .inr ⟨other, rule, (members other rule).mpr (.inl there), at'⟩
    · obtain ⟨rule, listed⟩ := List.exists_mem_of_ne_nil _ some
      refine .inr ⟨family, rule, (members family rule).mpr (.inr ⟨rfl, listed⟩), ?_⟩
      rw [same rule listed, List.mem_singleton.mp here]

/-- **Each command** records what it adds. -/
theorem step_recorded {nop : Nat} {command : Command} {st : Installed} (filled : command.Filled)
    (recorded : Recorded st) : Recorded (step nop command st).1 := by
  cases command with
  | panic => exact recorded
  | unnumbered family body placeholder =>
      refine ⟨fun other rule member => List.mem_append_left _ (recorded.all other rule member),
        fun priority member => ?_⟩
      rcases List.mem_append.mp member with before | here
      · exact recorded.only priority before
      · left
        split at here
        · exact List.mem_singleton.mp here
        · cases here
  | anchor family =>
      refine @Recorded.extend _ _ family _ nop recorded (List.cons_ne_nil (anchor nop) [])
        (fun rule member => List.mem_singleton.mp member ▸ rfl) (fun other rule => ?_) rfl
      by_cases same : other = family
      · subst same
        simp only [step, Function.update_self, List.mem_append, true_and, or_assoc]
      · simp only [step, Function.update_of_ne same, same, false_and, or_false]
  | slot family bodies =>
      have some : bodies.map (Rule.mk (st.next family)) ≠ [] :=
        fun empty => filled (List.map_eq_nil_iff.mp empty)
      refine @Recorded.extend _ _ family _ _ recorded some (fun rule member => ?_)
        (fun other rule => ?_) rfl
      · obtain ⟨body, -, rfl⟩ := List.mem_map.mp member
        rfl
      · by_cases same : other = family
        · subst same
          simp only [step, Function.update_self, List.mem_append, true_and, or_assoc]
          exact or_congr_right or_comm
        · simp only [step, Function.update_of_ne same, same, false_and, or_false]

/-- A run of commands records what it adds. -/
theorem install_recorded {nop : Nat} {commands : List Command} {st : Installed}
    (filled : ∀ command ∈ commands, command.Filled) (recorded : Recorded st) :
    Recorded (install nop commands st).1 := by
  induction commands generalizing st with
  | nil => exact recorded
  | cons command rest ih =>
      obtain ⟨here, behind⟩ := List.forall_mem_cons.mp filled
      have next := @step_recorded nop command st here recorded
      rw [install]
      generalize step nop command st = result at next ⊢
      obtain ⟨st', goesOn⟩ := result
      cases goesOn with
      | true => exact ih behind next
      | false => exact next

variable {std : StdText} {cfg : TunInboundConfig} {ifName : String} {kernel : Kernel}
  {family : Family} {rule : Rule}

theorem filled_setupCommands : ∀ command ∈ setupCommands std cfg ifName, command.Filled := by
  simp only [setupCommands, List.forall_mem_append]
  refine ⟨⟨fun command member => ?_, ?_⟩, ?_⟩
  · have numbered := numbered_slotCommands command member
    cases command with
    | slot family bodies => exact List.ne_nil_of_length_pos numbered.1
    | anchor family => trivial
    | unnumbered family body placeholder => trivial
    | panic => trivial
  · unfold anchorCommands perFamily
    cases hasFamily std cfg .v4 <;> cases hasFamily std cfg .v6 <;> simp [Command.Filled]
  · unfold redirectCommands perFamily
    cases cfg.autoRedirect <;> cases hasFamily std cfg .v4 <;> cases hasFamily std cfg .v6 <;>
      simp [Command.Filled]

/-- **`rule_priorities`** holds the priorities of the rules of `setup`, and the placeholder. -/
theorem setup_recorded : Recorded (setup std cfg ifName).1 := by
  have start : Recorded ⟨fun _ => prioBase cfg, fun _ => [], fun _ => [], fun _ => [], []⟩ :=
    ⟨fun _ _ member => absurd member List.not_mem_nil,
      fun _ member => absurd member List.not_mem_nil⟩
  rw [setup]
  split
  · exact install_recorded filled_setupCommands start
  · exact start

/-! ### What the deletions leave -/

/-- Sorting and removing repetitions keeps the values. -/
theorem mem_sorted_dedup {value : Nat} {values : List Nat} :
    value ∈ (values.insertionSort (· ≤ ·)).destutter (· ≠ ·) ↔ value ∈ values :=
  Distinct.mem_destutter_ne.trans (List.mem_insertionSort (· ≤ ·))

/-- The rules that the deletions by priority do not reach. -/
def remaining (rulePriorities : List Nat) (table : List Rule) : List Rule :=
  table.filter fun rule => decide (rule.priority = 0 ∨ rule.priority ∉ rulePriorities)

theorem deleteEach_eq {priorities : List Nat} {table : List Rule}
    (few : ∀ priority ∈ priorities, priority ≠ 0 →
      table.countP (fun rule => rule.priority == priority) ≤ 3) :
    priorities.foldl
      (fun table priority => if priority = 0 then table else deletePriority table priority) table
      = remaining priorities table := by
  induction priorities generalizing table with
  | nil =>
      refine (List.filter_eq_self.mpr fun rule member => ?_).symm
      exact decide_eq_true (.inr List.not_mem_nil)
  | cons priority rest ih =>
      obtain ⟨here, behind⟩ := List.forall_mem_cons.mp few
      rw [List.foldl_cons]
      by_cases zero : priority = 0
      · rw [if_pos zero, ih behind]
        refine List.filter_congr fun rule _ => ?_
        rw [decide_eq_decide, List.mem_cons, zero]
        tauto
      · have gone : deletePriority table priority
            = table.filter fun rule => !(rule.priority == priority) :=
          removeTimes_eq_filter (here zero)
        rw [if_neg zero, gone, ih]
        · rw [remaining, remaining, List.filter_filter]
          refine List.filter_congr fun rule _ => ?_
          rw [Bool.eq_iff_iff, Bool.and_eq_true, decide_eq_true_iff, decide_eq_true_iff,
            Bool.not_eq_true', beq_eq_false_iff_ne, List.mem_cons]
          constructor
          · rintro ⟨free, different⟩
            exact free.imp_right fun absent => fun either => either.elim different absent
          · rintro (null | absent)
            · exact ⟨.inl null, fun same => zero (same ▸ null)⟩
            · exact ⟨.inr fun member => absent (.inr member), fun same => absent (.inl same)⟩
        · intro other member nonzero
          exact le_trans (List.Sublist.countP_le List.filter_sublist) (behind other member nonzero)

/-- **The deletions by priority** leave the rest, when no priority has more than three rules. -/
theorem deleteRecorded_eq {rulePriorities : List Nat} {table : List Rule}
    (few : ∀ priority ∈ rulePriorities, priority ≠ 0 →
      table.countP (fun rule => rule.priority == priority) ≤ 3) :
    deleteRecorded rulePriorities table = remaining rulePriorities table := by
  rw [deleteRecorded, deleteEach_eq fun priority member => few priority
    (mem_sorted_dedup.mp member)]
  refine List.filter_congr fun rule _ => ?_
  rw [decide_eq_decide, mem_sorted_dedup]

/-! ### At most three rules a priority -/

theorem countP_addRule_le {table : List Rule} {found : Rule → Bool} :
    (addRule table rule).countP found ≤ table.countP found + [rule].countP found := by
  unfold addRule
  split
  · exact Nat.le_add_right _ _
  · rw [perm_insert.countP_eq, ← List.singleton_append, List.countP_append, Nat.add_comm]

theorem countP_foldl_addRule_le {table rules : List Rule} {found : Rule → Bool} :
    (rules.foldl addRule table).countP found ≤ table.countP found + rules.countP found := by
  induction rules generalizing table with
  | nil => exact le_refl _
  | cons first rest ih =>
      have here := @countP_addRule_le first table found
      have behind := @ih (addRule table first)
      rw [List.foldl_cons, ← List.singleton_append, List.countP_append]
      omega

/-- Slots of two rules give a priority at most two. -/
theorem countP_numberFrom_le {start priority : Nat} {slots : List (List RuleBody)}
    (pairs : ∀ bodies ∈ slots, bodies.length ≤ 2) :
    (numberFrom start slots).countP (fun rule => rule.priority == priority) ≤ 2 := by
  induction slots generalizing start with
  | nil => exact Nat.zero_le _
  | cons bodies rest ih =>
      obtain ⟨here, behind⟩ := List.forall_mem_cons.mp pairs
      rw [numberFrom, List.countP_append]
      by_cases same : start = priority
      · have later : (numberFrom (start + 1) rest).countP (fun rule => rule.priority == priority)
            = 0 := by
          refine List.countP_eq_zero.mpr fun rule member => ?_
          obtain ⟨index, bodies, -, at', -⟩ := mem_numberFrom.mp member
          rw [beq_iff_eq, at']
          omega
        have first : (bodies.map (Rule.mk start)).countP (fun rule => rule.priority == priority)
            ≤ (bodies.map (Rule.mk start)).length := List.countP_le_length
        rw [List.length_map] at first
        omega
      · have none : (bodies.map (Rule.mk start)).countP (fun rule => rule.priority == priority)
            = 0 := by
          refine List.countP_eq_zero.mpr fun rule member => ?_
          obtain ⟨body, -, rfl⟩ := List.mem_map.mp member
          rwa [beq_iff_eq]
        rw [none, Nat.zero_add]
        exact ih behind

/-- The initial tables have no rule at a priority that `setup` uses. -/
def Free (st : Installed) (initial : Family → List Rule) : Prop :=
  ∀ family, ∀ rule ∈ initial family, ∀ other, ∀ added ∈ st.rules other ++ st.anchors other,
    rule.priority ≠ added.priority

/-- The kernel does not put a rule without a priority behind the first rule of `setup`. -/
def EarlyOn (kernel : Kernel) (std : StdText) (cfg : TunInboundConfig) (ifName : String)
    (initial : Family → List Rule) : Prop :=
  ∀ family, hasFamily std cfg family = true →
    kernel.assign (numberedTable (setup std cfg ifName).1 family (initial family)) ≤ prioBase cfg

theorem countP_tableAfter_le {initial : Family → List Rule} {priority : Nat}
    (returned : (setup std cfg ifName).2 = true) (free : Free (setup std cfg ifName).1 initial)
    (early : EarlyOn kernel std cfg ifName initial)
    (recorded : priority ∈ (setup std cfg ifName).1.rulePriorities) (nonzero : priority ≠ 0) :
    (tableAfter kernel (setup std cfg ifName).1 family (initial family)).countP
      (fun rule => rule.priority == priority) ≤ 3 := by
  have spec := @setup_rules std cfg ifName family (sumsFit_of_returned returned)
  obtain ⟨rules, anchors, unnumbered, -⟩ := spec
  have foreign : (initial family).countP (fun rule => rule.priority == priority) = 0 := by
    obtain ⟨other, added, member, same⟩ :=
      (setup_recorded.only priority recorded).resolve_left nonzero
    refine List.countP_eq_zero.mpr fun rule there => ?_
    rw [beq_iff_eq, ← same]
    exact free family rule there other added member
  have slots : ((setup std cfg ifName).1.rules family).countP
      (fun rule => rule.priority == priority)
      ≤ 2 := by
    rw [rules]
    exact countP_numberFrom_le fun bodies member => (setupSlots_planned member).2.1
  have numbered := @countP_foldl_addRule_le (initial family)
    ((setup std cfg ifName).1.rules family ++ (setup std cfg ifName).1.anchors family)
    (fun rule => rule.priority == priority)
  rw [List.countP_append, foreign, Nat.zero_add] at numbered
  have one : ∀ rule : Rule, [rule].countP (fun rule => rule.priority == priority) ≤ 1 :=
    fun rule => List.countP_le_length
  have anchor' : ((setup std cfg ifName).1.anchors family).countP
      (fun rule => rule.priority == priority) ≤ if priority = nopPrio cfg then 1 else 0 := by
    rw [anchors]
    split
    · rw [List.countP_singleton]
      by_cases same : priority = nopPrio cfg
      · rw [if_pos same]
        exact Nat.le_trans (Nat.le_of_eq (List.countP_singleton ..).symm) (one _)
      · rw [if_neg same, if_neg]
        rw [beq_iff_eq]
        exact fun here => same here.symm
    · exact Nat.zero_le _
  rw [tableAfter, unnumbered]
  split
  · rename_i added
    have present : hasFamily std cfg family = true := by
      simp only [Bool.and_eq_true] at added
      exact added.2.2
    have redirect := @countP_addRule_le ⟨kernel.assign
        (numberedTable (setup std cfg ifName).1 family (initial family)), redirectRule cfg⟩
      (numberedTable (setup std cfg ifName).1 family (initial family))
      (fun rule => rule.priority == priority)
    rw [List.foldl_cons, List.foldl_nil, addUnnumbered]
    by_cases same : priority = nopPrio cfg
    · -- the rule without a priority does not have that of the anchor
      have apart : [(⟨kernel.assign (numberedTable (setup std cfg ifName).1 family
          (initial family)), redirectRule cfg⟩ : Rule)].countP
          (fun rule => rule.priority == priority) = 0 := by
        have first := early family present
        refine List.countP_eq_zero.mpr fun rule member => ?_
        rw [List.mem_singleton.mp member, beq_iff_eq, same, nopPrio]
        dsimp only
        omega
      rw [if_pos same] at anchor'
      rw [numberedTable] at redirect apart ⊢
      omega
    · have single := one ⟨kernel.assign (numberedTable (setup std cfg ifName).1 family
        (initial family)), redirectRule cfg⟩
      rw [if_neg same] at anchor'
      rw [numberedTable] at redirect single ⊢
      omega
  · rw [List.foldl_nil, numberedTable]
    split at anchor' <;> omega

/-! ### No rule is there twice -/

theorem count_addRule_le {table : List Rule} {added : Rule} (once : table.count rule ≤ 1) :
    (addRule table added).count rule ≤ 1 := by
  unfold addRule
  split
  · exact once
  · rename_i fresh
    rw [perm_insert.count_eq, List.count_cons]
    split
    · rename_i same
      simp only [Bool.or_eq_true, decide_eq_true_eq, not_or] at fresh
      rw [← beq_iff_eq.mp same, List.count_eq_zero.mpr fresh.2]
    · exact once

theorem count_tableAfter_le {st : Installed} {initial : List Rule} (once : initial.count rule ≤ 1) :
    (tableAfter kernel st family initial).count rule ≤ 1 := by
  have numbered : (numberedTable st family initial).count rule ≤ 1 :=
    @List.foldlRecOn _ _ (fun table => table.count rule ≤ 1) _ addRule initial once
      fun _ once _ _ => count_addRule_le once
  exact @List.foldlRecOn _ _ (fun table => table.count rule ≤ 1) _ (addUnnumbered kernel) _ numbered
    fun _ once _ _ => count_addRule_le once

/-! ### The rules of `setup` are gone -/

section Undo

variable (kernel) (std : StdText) (cfg : TunInboundConfig) (ifName : String)
  (initial : Family → List Rule)

/-- The table of a family after `setup`. -/
def afterSetup (family : Family) : List Rule :=
  tableAfter kernel (setup std cfg ifName).1 family (initial family)

/-- **Every rule that `setup` added is gone** after `teardown`. -/
def Undone (stateFile : Option (List Nat)) : Prop :=
  ∀ family, ∀ rule ∈ afterSetup kernel std cfg ifName initial family, rule ∉ initial family →
    rule ∉ teardown kernel cfg stateFile (setup std cfg ifName).1 family
      (afterSetup kernel std cfg ifName initial family)

/-- Among the rules that the deletions by priority leave, the first one that `rule del fwmark`
finds. -/
def FirstFound (family : Family) (rule : Rule) : Prop :=
  (remaining (setup std cfg ifName).1.rulePriorities
      (afterSetup kernel std cfg ifName initial family)).find?
    (fun rule => kernel.selects cfg.autoRedirectInputMark (table cfg) rule.body) = some rule

/-- What the deletions by priority do not reach, `rule del fwmark` finds: a rule with the priority
0, and the rule of `auto_redirect` if it did not get a priority that is recorded for others. -/
structure NothingLeft : Prop where
  numbered : ∀ family, ∀ rule ∈ (setup std cfg ifName).1.rules family, rule.priority = 0 →
    FirstFound kernel std cfg ifName initial family rule
  redirect : ∀ family, ∀ rule ∈ afterSetup kernel std cfg ifName initial family,
    rule ∉ numberedTable (setup std cfg ifName).1 family (initial family) →
    (rule.priority = 0 ∨ rule.priority ∉ (setup std cfg ifName).1.rulePriorities) →
    FirstFound kernel std cfg ifName initial family rule

end Undo

variable {initial : Family → List Rule}

/-- Without a recorded priority nothing was added. -/
theorem afterSetup_of_nil (returned : (setup std cfg ifName).2 = true)
    (nothing : (setup std cfg ifName).1.rulePriorities = []) :
    afterSetup kernel std cfg ifName initial family = initial family
      ∧ numberedTable (setup std cfg ifName).1 family (initial family) = initial family := by
  have spec := @setup_rules std cfg ifName family (sumsFit_of_returned returned)
  have none : (setup std cfg ifName).1.rules family ++ (setup std cfg ifName).1.anchors family
      = [] := by
    refine List.eq_nil_iff_forall_not_mem.mpr fun rule member => ?_
    have recorded := setup_recorded.all family rule member
    rw [nothing] at recorded
    cases recorded
  have absent : hasFamily std cfg family = false := by
    rw [Bool.eq_false_iff]
    intro present
    have anchors := spec.2.1
    rw [returned, present, Bool.and_self, if_pos rfl, (List.append_eq_nil_iff.mp none).2] at anchors
    cases anchors
  have unnumbered := spec.2.2.1
  rw [absent, Bool.and_false, Bool.and_false, if_neg Bool.false_ne_true] at unnumbered
  have table' : numberedTable (setup std cfg ifName).1 family (initial family)
      = initial family := by
    rw [numberedTable, none, List.foldl_nil]
  exact ⟨by rw [afterSetup, tableAfter, unnumbered, List.foldl_nil, table'], table'⟩

/-- A rule of `setup` with the priority 0 is in the table. -/
theorem mem_of_zero (returned : (setup std cfg ifName).2 = true)
    (member : rule ∈ (setup std cfg ifName).1.rules family) (zero : rule.priority = 0) :
    rule ∈ afterSetup kernel std cfg ifName initial family := by
  have rules := (@setup_rules std cfg ifName family (sumsFit_of_returned returned)).1
  have forward : rule.backward = false := by
    rw [rules, mem_numberFrom] at member
    obtain ⟨index, bodies, found, -, inside⟩ := member
    have planned := ((setupSlots_planned (List.mem_of_getElem? found)).2.2 _ inside).action
    rw [Rule.backward]
    rcases planned with ⟨suppress, action⟩ | action | action | ⟨action, -⟩ <;> rw [action]
    rw [zero, decide_eq_false_iff_not, nopPrio]
    omega
  refine mem_tableAfter ?_
  rw [numberedTable, mem_foldl_addRule]
  exact .inr ⟨List.mem_append_left _ member, forward⟩

/-- With a rule index other than 0, and no rule of the initial tables that `rule del fwmark` finds,
nothing is left. -/
theorem nothingLeft_of_nonzero (returned : (setup std cfg ifName).2 = true)
    (nonzero : cfg.iproute2RuleIndex ≠ 0)
    (own : kernel.selects cfg.autoRedirectInputMark (table cfg) (redirectRule cfg) = true)
    (foreign : ∀ family, ∀ rule ∈ initial family,
      kernel.selects cfg.autoRedirectInputMark (table cfg) rule.body = false) :
    NothingLeft kernel std cfg ifName initial := by
  have positive : prioBase cfg ≠ 0 := fun zero => nonzero (UInt32.toNat_inj.mp zero)
  refine ⟨fun family rule member zero => ?_, fun family rule member absent left => ?_⟩
  · rw [(@setup_rules std cfg ifName family (sumsFit_of_returned returned)).1,
      mem_numberFrom] at member
    obtain ⟨index, bodies, -, at', -⟩ := member
    omega
  · have spec := @setup_rules std cfg ifName family (sumsFit_of_returned returned)
    obtain ⟨rules, anchors, unnumbered, -⟩ := spec
    -- the one rule without a priority
    have alone : ∀ other ∈ afterSetup kernel std cfg ifName initial family,
        other ∉ numberedTable (setup std cfg ifName).1 family (initial family) →
        other = ⟨kernel.assign (numberedTable (setup std cfg ifName).1 family (initial family)),
          redirectRule cfg⟩ := by
      intro other there gone
      rw [afterSetup, tableAfter, unnumbered] at there
      split at there
      · rw [List.foldl_cons, List.foldl_nil, addUnnumbered] at there
        exact ((mem_addRule.mp there).resolve_left gone).1
      · exact absurd there gone
    have only : ∀ other ∈ remaining (setup std cfg ifName).1.rulePriorities
        (afterSetup kernel std cfg ifName initial family),
        kernel.selects cfg.autoRedirectInputMark (table cfg) other.body = true → other = rule := by
      intro other there selected
      obtain ⟨there, free⟩ := List.mem_filter.mp there
      rw [alone rule member absent]
      refine alone other there fun numbered => ?_
      rcases mem_foldl_addRule.mp numbered with listed | ⟨added, -⟩
      · rw [foreign family other listed] at selected
        cases selected
      · have zero := (of_decide_eq_true free).resolve_right
          (not_not.mpr (setup_recorded.all family other added))
        rw [rules, anchors, List.mem_append] at added
        rcases added with slot | anchored
        · obtain ⟨index, bodies, -, at', -⟩ := mem_numberFrom.mp slot
          omega
        · split at anchored
          · rw [List.mem_singleton.mp anchored] at zero
            simp [anchor, nopPrio] at zero
          · cases anchored
    have there : rule ∈ remaining (setup std cfg ifName).1.rulePriorities
        (afterSetup kernel std cfg ifName initial family) :=
      List.mem_filter.mpr ⟨member, decide_eq_true left⟩
    rw [FirstFound]
    cases found : (remaining (setup std cfg ifName).1.rulePriorities
        (afterSetup kernel std cfg ifName initial family)).find?
        fun rule => kernel.selects cfg.autoRedirectInputMark (table cfg) rule.body with
    | none =>
        have missed := List.find?_eq_none.mp found rule there
        rw [alone rule member absent] at missed
        exact absurd own missed
    | some other =>
        have selected := @List.find?_some _ (fun rule : Rule =>
          kernel.selects cfg.autoRedirectInputMark (table cfg) rule.body) _ _ found
        rw [only other (List.mem_of_find?_eq_some found) selected]

/-- **`teardown` undoes `setup`** exactly when `rule del fwmark` finds what the deletions by
priority do not reach. -/
theorem teardown_undoes_iff {stateFile : Option (List Nat)}
    (returned : (setup std cfg ifName).2 = true) (free : Free (setup std cfg ifName).1 initial)
    (early : EarlyOn kernel std cfg ifName initial) :
    Undone kernel std cfg ifName initial stateFile ↔ NothingLeft kernel std cfg ifName initial := by
  by_cases nothing : (setup std cfg ifName).1.rulePriorities = []
  · -- nothing was added
    refine ⟨fun _ => ⟨fun family rule member _ => ?_, fun family rule member absent _ => ?_⟩,
      fun _ family rule member foreign => ?_⟩
    · have recorded := setup_recorded.all family rule (List.mem_append_left _ member)
      rw [nothing] at recorded
      cases recorded
    · obtain ⟨same, same'⟩ :=
        @afterSetup_of_nil std cfg ifName kernel family initial returned nothing
      rw [same] at member
      rw [same'] at absent
      exact absurd member absent
    · rw [(afterSetup_of_nil returned nothing).1] at member
      exact absurd member foreign
  · have torn : ∀ family, teardown kernel cfg stateFile (setup std cfg ifName).1 family
        (afterSetup kernel std cfg ifName initial family)
        = (remaining (setup std cfg ifName).1.rulePriorities
          (afterSetup kernel std cfg ifName initial family)).eraseP
          fun rule => kernel.selects cfg.autoRedirectInputMark (table cfg) rule.body := by
      intro family
      rw [teardown, if_pos nothing, cleanupNftablesRedirect, deleteRecorded_eq]
      exact fun priority recorded nonzero =>
        countP_tableAfter_le returned free early recorded nonzero
    have found : ∀ family, ∀ rule ∈ afterSetup kernel std cfg ifName initial family,
        rule ∉ initial family →
        (rule.priority = 0 ∨ rule.priority ∉ (setup std cfg ifName).1.rulePriorities) →
        (rule ∉ teardown kernel cfg stateFile (setup std cfg ifName).1 family
          (afterSetup kernel std cfg ifName initial family)
          ↔ FirstFound kernel std cfg ifName initial family rule) := by
      intro family rule member foreign left
      rw [torn]
      refine not_mem_eraseP_iff (List.mem_filter.mpr ⟨member, decide_eq_true left⟩) ?_
      refine le_trans (List.filter_sublist.count_le rule) (count_tableAfter_le ?_)
      rw [List.count_eq_zero.mpr foreign]
      exact Nat.zero_le _
    constructor
    · intro undone
      refine ⟨fun family rule member zero => ?_, fun family rule member absent left => ?_⟩
      · have there : rule ∈ afterSetup kernel std cfg ifName initial family :=
          mem_of_zero returned member zero
        have foreign : rule ∉ initial family := fun listed =>
          free family rule listed family rule (List.mem_append_left _ member) rfl
        exact (found family rule there foreign (.inl zero)).mp (undone family rule there foreign)
      · have foreign : rule ∉ initial family := fun listed =>
          absent (mem_foldl_addRule.mpr (.inl listed))
        exact (found family rule member foreign left).mp (undone family rule member foreign)
    · intro nothingLeft family rule member foreign kept
      have left : rule.priority = 0
          ∨ rule.priority ∉ (setup std cfg ifName).1.rulePriorities := by
        rw [torn] at kept
        exact of_decide_eq_true (List.mem_filter.mp (List.mem_of_mem_eraseP kept)).2
      refine (found family rule member foreign left).mpr ?_ kept
      by_cases numbered : rule ∈ numberedTable (setup std cfg ifName).1 family (initial family)
      · obtain ⟨added, -⟩ := (mem_foldl_addRule.mp numbered).resolve_left foreign
        have zero := left.resolve_right (not_not.mpr (setup_recorded.all family rule added))
        refine nothingLeft.numbered family rule ?_ zero
        refine (List.mem_append.mp added).resolve_right fun anchored => ?_
        rw [(@setup_rules std cfg ifName family (sumsFit_of_returned returned)).2.1] at anchored
        split at anchored
        · rw [List.mem_singleton.mp anchored] at zero
          simp [anchor, nopPrio] at zero
        · cases anchored
      · exact nothingLeft.redirect family rule member numbered left

/-- A configuration with the given rule index. -/
def indexedConfig (index : UInt32) (autoRedirect : Bool) : TunInboundConfig :=
  { TunInboundConfig.minimal "tun-in" ["198.18.0.1/16"] with
    iproute2RuleIndex := index, autoRedirect := autoRedirect }

/-- The rules of a system for the tables `local`, `main` and `default`. -/
def systemRules : Family → List Rule
  | _ => [⟨0, {}, .lookup 255 none⟩, ⟨32766, {}, .lookup mainTable none⟩,
    ⟨32767, {}, .lookup 253 none⟩]

theorem teardown_undoes_iff_default :
    (setup sampleRuleText (indexedConfig 9000 true) "tun0").2 = true
    ∧ (Undone plainKernel sampleRuleText (indexedConfig 9000 true) "tun0" systemRules none
      ↔ NothingLeft plainKernel sampleRuleText (indexedConfig 9000 true) "tun0" systemRules) := by
  have returned : (setup sampleRuleText (indexedConfig 9000 true) "tun0").2 = true := by
    decide +kernel
  refine ⟨returned, teardown_undoes_iff returned ?_ ?_⟩
  · have apart : ∀ family other, ((systemRules family).all fun rule =>
        ((setup sampleRuleText (indexedConfig 9000 true) "tun0").1.rules other
          ++ (setup sampleRuleText (indexedConfig 9000 true) "tun0").1.anchors other).all
          fun added => rule.priority != added.priority) = true := by
      intro family other
      cases family <;> cases other <;> decide +kernel
    intro family rule member other added member'
    have different := List.all_eq_true.mp (List.all_eq_true.mp (apart family other) rule member)
      added member'
    exact bne_iff_ne.mp different
  · intro family present
    cases family with
    | v4 => decide +kernel
    | v6 => exact absurd present (by decide +kernel)

/-- **With the rule index 0** the first rule stays: its priority is the placeholder. -/
theorem rule_left_at_zero :
    Free (setup sampleRuleText (indexedConfig 0 false) "tun0").1
      (fun _ => [⟨32766, {}, .lookup mainTable none⟩])
    ∧ ¬ Undone plainKernel sampleRuleText (indexedConfig 0 false) "tun0"
      (fun _ => [⟨32766, {}, .lookup mainTable none⟩]) none := by
  constructor
  · have apart : ∀ other, ((setup sampleRuleText (indexedConfig 0 false) "tun0").1.rules other
        ++ (setup sampleRuleText (indexedConfig 0 false) "tun0").1.anchors other).all
        (fun added => added.priority != 32766) = true := by
      intro other
      cases other with
      | v4 => decide +kernel
      | v6 => decide +kernel
    intro family rule member other added member' same
    rw [List.mem_singleton.mp member] at same
    exact bne_iff_ne.mp (List.all_eq_true.mp (apart other) added member') same.symm
  · intro undone
    refine undone .v4 ⟨0, subnetRule (indexedConfig 0 false) (.v4 ⟨[198, 18, 0, 0], rfl⟩, 16)⟩
      ?_ ?_ ?_
    · decide +kernel
    · decide +kernel
    · decide +kernel

/-- A rule for the same mark and table in front of all others is deleted in place of that of
`auto_redirect`, which the kernel put at 8999. -/
example : ¬ Undone plainKernel sampleRuleText (indexedConfig 9000 true) "tun0"
    (fun _ => [⟨10, redirectRule (indexedConfig 9000 true)⟩, ⟨32766, {}, .lookup mainTable none⟩])
    none := by
  intro undone
  refine undone .v4 ⟨8999, redirectRule (indexedConfig 9000 true)⟩ ?_ ?_ ?_
  · decide +kernel
  · decide +kernel
  · decide +kernel

end RsTun.Linux
