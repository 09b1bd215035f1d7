/-
**Rules in the order of their priorities.**

A table holds rules in ascending priority, rules of one priority in the order in which they came. A
rule lets what it judges pass to the next rule, lets it jump ahead to a priority, or stops the
search with an outcome.

* `evaluate_stops`, `evaluate_jumps`, `evaluate_ne` — how a search ends, from what the rules up to a
  priority decide.
* `removeTimes_eq_filter` — removing a rule at a time, often enough, removes all.
* `not_mem_eraseP_iff` — the rule that a removal takes is the first one that is found.
* `evaluate_block` — a search through a block of rules that jump behind it, if at all.
-/

import Mathlib.Data.List.Count
import Mathlib.Order.Nat

namespace RsTun.Library

namespace RuleTable

variable {Rule Outcome : Type*} (priority : Rule → Nat)

/-- The rules stand in ascending priority. -/
def Sorted (table : List Rule) : Prop :=
  table.Pairwise fun first second => priority first ≤ priority second

/-- A rule comes behind those of the same priority. -/
def insert (rule : Rule) : List Rule → List Rule
  | [] => [rule]
  | first :: rest =>
    if priority rule < priority first then rule :: first :: rest else first :: insert rule rest

variable {priority} {rule : Rule} {table : List Rule}

theorem perm_insert : (insert priority rule table).Perm (rule :: table) := by
  induction table with
  | nil => exact List.Perm.refl _
  | cons first rest ih =>
      rw [insert]
      split
      · exact List.Perm.refl _
      · exact (ih.cons first).trans (List.Perm.swap rule first rest)

theorem mem_insert {other : Rule} :
    other ∈ insert priority rule table ↔ other = rule ∨ other ∈ table := by
  rw [perm_insert.mem_iff, List.mem_cons]

theorem sorted_insert (sorted : Sorted priority table) :
    Sorted priority (insert priority rule table) := by
  induction table with
  | nil => exact List.pairwise_singleton _ _
  | cons first rest ih =>
      obtain ⟨least, sorted'⟩ := List.pairwise_cons.mp sorted
      rw [insert]
      split
      · rename_i before
        refine List.pairwise_cons.mpr ⟨fun other member => ?_, sorted⟩
        rcases List.mem_cons.mp member with rfl | member
        · exact before.le
        · exact before.le.trans (least other member)
      · rename_i behind
        refine List.pairwise_cons.mpr ⟨fun other member => ?_, ih sorted'⟩
        rcases mem_insert.mp member with rfl | member
        · exact Nat.le_of_not_lt behind
        · exact least other member

/-! ### A search -/

/-- What a rule decides. -/
inductive Verdict (Outcome : Type*) where
  | pass
  | jump (target : Nat)
  | stop (outcome : Outcome)

/-- The search, from the rules of priority `skip` on. -/
def evaluate (priority : Rule → Nat) (verdict : Rule → Verdict Outcome) :
    Nat → List Rule → Option Outcome
  | _, [] => none
  | skip, rule :: rest =>
    if priority rule < skip then evaluate priority verdict skip rest
    else match verdict rule with
      | .pass => evaluate priority verdict skip rest
      | .jump target => evaluate priority verdict target rest
      | .stop outcome => some outcome

variable {verdict : Rule → Verdict Outcome} {skip bound : Nat} {outcome : Outcome} {goal : Rule}

/-- An outcome that no rule from a priority on decides is not reached from there. -/
theorem evaluate_ne (never : ∀ rule ∈ table, bound ≤ priority rule → verdict rule ≠ .stop outcome)
    (ahead : ∀ rule ∈ table, ∀ target, verdict rule = .jump target → bound ≤ target)
    (start : bound ≤ skip) : evaluate priority verdict skip table ≠ some outcome := by
  induction table generalizing skip with
  | nil => exact nofun
  | cons rule rest ih =>
      obtain ⟨here, never⟩ := List.forall_mem_cons.mp never
      obtain ⟨jump, ahead⟩ := List.forall_mem_cons.mp ahead
      rw [evaluate]
      split
      · exact ih never ahead start
      · rename_i reached
        split
        · exact ih never ahead start
        · rename_i target decided
          exact ih never ahead (jump target decided)
        · rename_i other decided
          rintro same
          cases same
          exact here (by omega) decided

/-- **The search stops** at a rule when those before it pass or stop alike. -/
theorem evaluate_stops (sorted : Sorted priority table) (member : goal ∈ table)
    (reached : skip ≤ priority goal) (decided : verdict goal = .stop outcome)
    (before : ∀ rule ∈ table, skip ≤ priority rule → priority rule ≤ priority goal →
      verdict rule = .pass ∨ verdict rule = .stop outcome) :
    evaluate priority verdict skip table = some outcome := by
  induction table with
  | nil => cases member
  | cons rule rest ih =>
      obtain ⟨least, sorted⟩ := List.pairwise_cons.mp sorted
      obtain ⟨here, before⟩ := List.forall_mem_cons.mp before
      rw [evaluate]
      rcases List.mem_cons.mp member with rfl | member
      · rw [if_neg (Nat.not_lt.mpr reached), decided]
      · split
        · exact ih sorted member before
        · rename_i reached'
          rcases here (Nat.le_of_not_lt reached') (least goal member) with pass | stop
          · rw [pass]
            exact ih sorted member before
          · rw [stop]

/-- Rules of a priority below the start do not count. -/
theorem evaluate_skip {target : Nat} (le : skip ≤ target)
    (below : ∀ rule ∈ table, skip ≤ priority rule → priority rule < target → verdict rule = .pass) :
    evaluate priority verdict skip table = evaluate priority verdict target table := by
  induction table with
  | nil => rfl
  | cons rule rest ih =>
      obtain ⟨here, below⟩ := List.forall_mem_cons.mp below
      rw [evaluate, evaluate]
      by_cases first : priority rule < skip
      · rw [if_pos first, if_pos (lt_of_lt_of_le first le)]
        exact ih below
      · rw [if_neg first]
        by_cases second : priority rule < target
        · rw [if_pos second, here (Nat.le_of_not_lt first) second]
          exact ih below
        · rw [if_neg second]
          split
          · exact ih below
          · rfl
          · rfl

/-- **The search jumps** at a rule when those before it pass or jump alike. -/
theorem evaluate_jumps {target : Nat} (sorted : Sorted priority table) (member : goal ∈ table)
    (reached : skip ≤ priority goal) (forward : priority goal < target)
    (decided : verdict goal = .jump target)
    (before : ∀ rule ∈ table, skip ≤ priority rule → priority rule ≤ priority goal →
      verdict rule = .pass ∨ verdict rule = .jump target) :
    evaluate priority verdict skip table = evaluate priority verdict target table := by
  induction table with
  | nil => cases member
  | cons rule rest ih =>
      obtain ⟨least, sorted⟩ := List.pairwise_cons.mp sorted
      obtain ⟨here, before⟩ := List.forall_mem_cons.mp before
      have low : priority rule ≤ priority goal := by
        rcases List.mem_cons.mp member with rfl | member
        · exact le_refl _
        · exact least goal member
      rw [evaluate, evaluate, if_pos (lt_of_le_of_lt low forward)]
      rcases List.mem_cons.mp member with rfl | member
      · rw [if_neg (Nat.not_lt.mpr reached), decided]
      · split
        · exact ih sorted member before
        · rename_i reached'
          rcases here (Nat.le_of_not_lt reached') low with pass | jump
          · rw [pass]
            exact ih sorted member before
          · rw [jump]

/-! ### Removing rules one at a time -/

/-- The first rule that is found is removed, so many times. -/
def removeTimes (found : Rule → Bool) : Nat → List Rule → List Rule
  | 0, table => table
  | times + 1, table => removeTimes found times (table.eraseP found)

variable {found : Rule → Bool}

/-- What one removal does. -/
theorem eraseP_spec (found : Rule → Bool) (table : List Rule) :
    (table.find? found = none ∧ table.eraseP found = table)
      ∨ ∃ first before after, table.find? found = some first ∧ found first = true
        ∧ (∀ rule ∈ before, found rule = false) ∧ table = before ++ first :: after
        ∧ table.eraseP found = before ++ after := by
  rcases List.exists_or_eq_self_of_eraseP found table with same | removed
  · refine .inl ⟨List.find?_eq_none.mpr ?_, same⟩
    exact List.eraseP_eq_self_iff.mp same
  · obtain ⟨first, before, after, none, here, split, result⟩ := removed
    have none' : ∀ rule ∈ before, found rule = false := fun rule member =>
      Bool.eq_false_iff.mpr (none rule member)
    refine .inr ⟨first, before, after, ?_, here, none', split, result⟩
    rw [split, List.find?_append, List.find?_eq_none.mpr none, Option.none_or,
      List.find?_cons_of_pos here]

/-- **Removed often enough**, all are gone and nothing else. -/
theorem removeTimes_eq_filter {times : Nat} (enough : table.countP found ≤ times) :
    removeTimes found times table = table.filter fun rule => !found rule := by
  induction times generalizing table with
  | zero =>
      have none := List.countP_eq_zero.mp (Nat.le_zero.mp enough)
      refine (List.filter_eq_self.mpr fun rule member => ?_).symm
      rw [Bool.eq_false_iff.mpr (none rule member), Bool.not_false]
  | succ times ih =>
      rw [removeTimes]
      rcases eraseP_spec found table with ⟨none, same⟩
          | ⟨first, before, after, -, here, -, split, result⟩
      · rw [same]
        refine ih (le_trans (Nat.le_of_eq (List.countP_eq_zero.mpr ?_)) (Nat.zero_le _))
        exact List.find?_eq_none.mp none
      · rw [split, List.countP_append, List.countP_cons_of_pos here] at enough
        rw [result, ih (by rw [List.countP_append]; omega), split, List.filter_append,
          List.filter_append, List.filter_cons_of_neg (by rw [here]; simp)]

/-- **The rule that a removal takes** is the first one that is found. -/
theorem not_mem_eraseP_iff [DecidableEq Rule] (member : rule ∈ table)
    (once : table.count rule ≤ 1) :
    rule ∉ table.eraseP found ↔ table.find? found = some rule := by
  rcases eraseP_spec found table with ⟨none, same⟩
      | ⟨first, before, after, some, -, -, split, result⟩
  · rw [same, none]
    exact ⟨fun gone => absurd member gone, nofun⟩
  · rw [result, some, Option.some_inj]
    rw [split] at member once
    constructor
    · intro gone
      rw [List.mem_append] at gone
      rcases List.mem_append.mp member with front | back
      · exact absurd (.inl front) gone
      · exact ((List.mem_cons.mp back).resolve_right fun after => gone (.inr after)).symm
    · rintro rfl
      rw [List.count_append, List.count_cons_self] at once
      rw [List.mem_append, not_or]
      exact ⟨List.count_eq_zero.mp (by omega), List.count_eq_zero.mp (by omega)⟩

/-! ### Blocks of rules -/

namespace Verdict

/-- What is passed on is for the second to decide. -/
def orElse : Verdict Outcome → Verdict Outcome → Verdict Outcome
  | .pass, second => second
  | first, _ => first

variable {first second third : Verdict Outcome}

@[simp] theorem pass_orElse : pass.orElse second = second := rfl

@[simp] theorem jump_orElse {target : Nat} : (jump target).orElse second = jump target := rfl

@[simp] theorem stop_orElse {outcome : Outcome} : (stop outcome).orElse second = stop outcome := rfl

@[simp] theorem orElse_pass : first.orElse .pass = first := by
  cases first <;> rfl

theorem orElse_assoc : (first.orElse second).orElse third = first.orElse (second.orElse third) := by
  cases first <;> rfl

/-- The verdict is the given one where something applies, and passes elsewhere. -/
structure IsWhen (said decided : Verdict Outcome) (applies : Prop) : Prop where
  decides : applies → said = decided
  passes : ¬ applies → said = .pass

variable {said decided : Verdict Outcome} {applies applies' : Prop}

theorem IsWhen.congr (when' : said.IsWhen decided applies) (same : applies ↔ applies') :
    said.IsWhen decided applies' :=
  ⟨fun holds => when'.decides (same.mpr holds), fun fails => when'.passes fun holds =>
    fails (same.mp holds)⟩

/-- Two verdicts alike, one behind the other. -/
theorem IsWhen.orElse (when' : first.IsWhen decided applies)
    (when'' : second.IsWhen decided applies') :
    (first.orElse second).IsWhen decided (applies ∨ applies') := by
  by_cases here : applies
  · refine ⟨fun _ => ?_, fun none => absurd (.inl here) none⟩
    rw [when'.decides here]
    by_cases there : applies'
    · rw [when''.decides there]
      cases decided <;> rfl
    · rw [when''.passes there, orElse_pass]
  · rw [when'.passes here, pass_orElse]
    exact when''.congr ⟨.inr, fun either => either.resolve_left here⟩

/-- Two verdicts alike may change places. -/
theorem IsWhen.orElse_comm (when' : first.IsWhen decided applies)
    (when'' : second.IsWhen decided applies') :
    first.orElse (second.orElse third) = second.orElse (first.orElse third) := by
  by_cases here : applies
  · rw [when'.decides here]
    by_cases there : applies'
    · rw [when''.decides there]
    · rw [when''.passes there, pass_orElse, pass_orElse]
  · rw [when'.passes here, pass_orElse, pass_orElse]

theorem isWhen_ite [Decidable applies] : (if applies then decided else .pass).IsWhen decided applies
    :=
  ⟨fun holds => if_pos holds, fun fails => if_neg fails⟩

end Verdict

/-- What a block of rules decides: the verdict of its first rule that does not pass. -/
def firstVerdict (verdict : Rule → Verdict Outcome) : List Rule → Verdict Outcome
  | [] => .pass
  | rule :: rest => (verdict rule).orElse (firstVerdict verdict rest)

variable {block rest : List Rule} {decided : Verdict Outcome}

@[simp] theorem firstVerdict_append {second : List Rule} : firstVerdict verdict (block ++ second)
    = (firstVerdict verdict block).orElse (firstVerdict verdict second) := by
  induction block with
  | nil => rfl
  | cons rule block ih =>
      rw [List.cons_append, firstVerdict, firstVerdict, ih, Verdict.orElse_assoc]

/-- A block of one rule. -/
@[simp] theorem firstVerdict_singleton : firstVerdict verdict [rule] = verdict rule :=
  Verdict.orElse_pass

theorem firstVerdict_map {Item : Type*} {toRule : Item → Rule} {items : List Item} :
    firstVerdict verdict (items.map toRule) = firstVerdict (fun item => verdict (toRule item)) items
      := by
  induction items with
  | nil => rfl
  | cons item items ih => rw [List.map_cons, firstVerdict, firstVerdict, ih]

/-- **A block of rules that decide alike** decides so if one of them applies. -/
theorem firstVerdict_alike {applies : Rule → Prop}
    (alike : ∀ rule ∈ block, (verdict rule).IsWhen decided (applies rule)) :
    (firstVerdict verdict block).IsWhen decided (∃ rule ∈ block, applies rule) := by
  induction block with
  | nil => exact ⟨nofun, fun _ => rfl⟩
  | cons rule block ih =>
      obtain ⟨here, alike⟩ := List.forall_mem_cons.mp alike
      have later := ih alike
      have cons_iff : (∃ other ∈ rule :: block, applies other)
          ↔ applies rule ∨ ∃ other ∈ block, applies other := by
        simp only [List.mem_cons, or_and_right, exists_or, exists_eq_left]
      refine Verdict.IsWhen.congr ?_ cons_iff.symm
      by_cases first : applies rule
      · refine ⟨fun _ => ?_, fun none => absurd (.inl first) none⟩
        rw [firstVerdict, here.decides first]
        by_cases further : ∃ other ∈ block, applies other
        · rw [later.decides further]
          cases decided <;> rfl
        · rw [later.passes further, Verdict.orElse_pass]
      · rw [firstVerdict, here.passes first, Verdict.pass_orElse]
        exact later.congr ⟨.inr, fun either => either.resolve_left first⟩

/-- What a block decides, one of its rules does. -/
theorem exists_of_firstVerdict (decides : firstVerdict verdict block = decided)
    (some : decided ≠ .pass) : ∃ rule ∈ block, verdict rule = decided := by
  induction block with
  | nil => exact absurd decides.symm some
  | cons rule block ih =>
      rw [firstVerdict] at decides
      cases said : verdict rule with
      | pass =>
          rw [said, Verdict.pass_orElse] at decides
          obtain ⟨other, member, same⟩ := ih decides
          exact ⟨other, List.mem_cons_of_mem _ member, same⟩
      | jump target =>
          rw [said, Verdict.jump_orElse] at decides
          exact ⟨rule, List.mem_cons_self, said.trans decides⟩
      | stop outcome =>
          rw [said, Verdict.stop_orElse] at decides
          exact ⟨rule, List.mem_cons_self, said.trans decides⟩

/-- A block below the start does not count. -/
theorem evaluate_below (below : ∀ rule ∈ block, priority rule < skip) :
    evaluate priority verdict skip (block ++ rest) = evaluate priority verdict skip rest := by
  induction block with
  | nil => rfl
  | cons rule block ih =>
      obtain ⟨here, below⟩ := List.forall_mem_cons.mp below
      rw [List.cons_append, evaluate, if_pos here, ih below]

/-- **A search through a block whose rules jump behind it**, if at all: the block decides, or passes
on to what is behind it. -/
theorem evaluate_block {last : Nat} (reached : ∀ rule ∈ block, skip ≤ priority rule)
    (inside : ∀ rule ∈ block, priority rule ≤ last)
    (ahead : ∀ rule ∈ block, ∀ target, verdict rule = .jump target → last < target) :
    evaluate priority verdict skip (block ++ rest)
      = match firstVerdict verdict block with
        | .pass => evaluate priority verdict skip rest
        | .jump target => evaluate priority verdict target rest
        | .stop outcome => some outcome := by
  induction block with
  | nil => rfl
  | cons rule block ih =>
      obtain ⟨here, reached⟩ := List.forall_mem_cons.mp reached
      obtain ⟨-, inside⟩ := List.forall_mem_cons.mp inside
      obtain ⟨jumps, ahead⟩ := List.forall_mem_cons.mp ahead
      rw [List.cons_append, evaluate, if_neg (Nat.not_lt.mpr here), firstVerdict]
      cases said : verdict rule with
      | pass => exact ih reached inside ahead
      | jump target =>
          exact evaluate_below fun other member =>
            Nat.lt_of_le_of_lt (inside other member) (jumps target said)
      | stop outcome => rfl

/-- A rule that no other has a higher priority than comes last. -/
theorem insert_last (highest : ∀ other ∈ table, priority other ≤ priority rule) :
    insert priority rule table = table ++ [rule] := by
  induction table with
  | nil => rfl
  | cons first rest ih =>
      obtain ⟨here, highest⟩ := List.forall_mem_cons.mp highest
      rw [insert, if_neg (Nat.not_lt.mpr here), ih highest, List.cons_append]

/-- A rule that every other has a higher priority than comes first. -/
theorem insert_first (lowest : ∀ other ∈ table, priority rule < priority other) :
    insert priority rule table = rule :: table := by
  cases table with
  | nil => rfl
  | cons first rest => rw [insert, if_pos (lowest first List.mem_cons_self)]

end RuleTable

end RsTun.Library
