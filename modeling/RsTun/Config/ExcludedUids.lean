/-
**The ranges of excluded UIDs.**

* `buildExcludedUidRangesChecked_eq` — no step of `u32` arithmetic overflows or underflows.
* `holds_subtractRanges`, `holds_complementFrom` — the UIDs that are left.
* **`buildExcludedUidRanges_exact`** — the ranges have the UIDs to be excluded, in order and apart.
-/

import RsTun.Config.Merged
import RsTun.Library.Checked

namespace RsTun

open Library Library.Intervals

/-! ### The arithmetic -/

/-- `uid - 1`. -/
def uidPred (uid : UInt32) : Checked Empty UInt32 :=
  if uid = 0 then .error .panicked else .ok (uid - 1)

/-- `uid + 1`. -/
def uidSucc (uid : UInt32) : Checked Empty UInt32 :=
  if uid = 0xffffffff then .error .panicked else .ok (uid + 1)

/-- A range that is pushed under a condition, which is when its end is computed. -/
def pushIf (held : Prop) [Decidable held] (range : Checked Empty UidRange) :
    Checked Empty (List UidRange) :=
  if held then range.map fun pushed => [pushed] else .ok []

/-- `subtractRange`, with its arithmetic checked. -/
def subtractRangeChecked (sub range : UidRange) : Checked Empty (List UidRange) :=
  let (lo, hi) := sub
  let (a, b) := range
  if hi < a ∨ lo > b then .ok [(a, b)]
  else do
    let before ← pushIf (a < lo) ((uidPred lo).map fun stop => (a, stop))
    let behind ← pushIf (b > hi) ((uidSucc hi).map fun start => (start, b))
    return before ++ behind

/-- `subtract_ranges`, with its arithmetic checked. -/
def subtractRangesChecked (base sub : List UidRange) : Checked Empty (List UidRange) :=
  sub.foldlM (fun result range => do
    return (← result.mapM (subtractRangeChecked range)).flatten) base

/-- The loop of `complement_ranges`, with its arithmetic checked. -/
def complementFromChecked (hi : UInt32) : UInt32 → List UidRange → Checked Empty (List UidRange)
  | cur, [] => .ok (if cur ≤ hi then [(cur, hi)] else [])
  | cur, (a, b) :: rest => do
    let before ← pushIf (cur < a) ((uidPred a).map fun stop => (cur, stop))
    let behind ← complementFromChecked hi (saturatingSucc b) rest
    return before ++ behind

/-- `build_excluded_uid_ranges`, with its arithmetic checked; `merge_ranges` only saturates. -/
def buildExcludedUidRangesChecked (std : StdText) (cfg : TunInboundConfig) :
    Checked Empty (List UidRange) :=
  let includeRanges := mergeUidListAndRanges std cfg.includeUid cfg.includeUidRange
  let excludeRanges := mergeUidListAndRanges std cfg.excludeUid cfg.excludeUidRange
  if includeRanges.isEmpty && excludeRanges.isEmpty then .ok []
  else if !includeRanges.isEmpty then do
    let left ← subtractRangesChecked includeRanges excludeRanges
    return mergeRanges (← complementFromChecked uidMax 0 left)
  else .ok (mergeRanges excludeRanges)

theorem uidPred_eq_ok {less uid : UInt32} (below : less < uid) : uidPred uid = .ok (uid - 1) :=
  if_neg fun zero => by
    rw [zero] at below
    exact UInt32.not_lt_zero below

theorem uidSucc_eq_ok {uid more : UInt32} (below : uid < more) : uidSucc uid = .ok (uid + 1) :=
  if_neg fun last => by
    rw [last, UInt32.lt_iff_toNat_lt] at below
    exact absurd more.toNat_lt (Nat.not_lt.mpr below)

theorem pushIf_eq_ok {held : Prop} [Decidable held] {range : Checked Empty UidRange}
    {pushed : UidRange} (computed : held → range = .ok pushed) :
    pushIf held range = .ok (if held then [pushed] else []) := by
  unfold pushIf
  split
  case isTrue here => rw [computed here, Except.map]
  case isFalse => rfl

theorem subtractRangeChecked_eq (sub range : UidRange) :
    subtractRangeChecked sub range = .ok (subtractRange sub range) := by
  have before : pushIf (range.1 < sub.1) ((uidPred sub.1).map fun stop => (range.1, stop))
      = .ok (if range.1 < sub.1 then [(range.1, sub.1 - 1)] else []) :=
    pushIf_eq_ok fun front => by rw [uidPred_eq_ok front, Except.map]
  have behind : pushIf (range.2 > sub.2) ((uidSucc sub.2).map fun start => (start, range.2))
      = .ok (if range.2 > sub.2 then [(sub.2 + 1, range.2)] else []) :=
    pushIf_eq_ok fun back => by rw [uidSucc_eq_ok back, Except.map]
  unfold subtractRangeChecked subtractRange
  dsimp only
  rw [before, behind]
  split
  case isTrue => rfl
  case isFalse => rfl

theorem subtractRangesChecked_eq (base sub : List UidRange) :
    subtractRangesChecked base sub = .ok (subtractRanges base sub) := by
  induction sub generalizing base with
  | nil => rfl
  | cons range rest ih =>
      have here : base.mapM (subtractRangeChecked range)
          = .ok (base.map (subtractRange range)) := by
        rw [show subtractRangeChecked range = fun other => .ok (subtractRange range other) from
          funext (subtractRangeChecked_eq range)]
        exact List.mapM_pure
      rw [subtractRangesChecked, List.foldlM_cons, here]
      exact ih _

theorem complementFromChecked_eq (hi : UInt32) (ranges : List UidRange) (cur : UInt32) :
    complementFromChecked hi cur ranges = .ok (complementFrom hi cur ranges) := by
  induction ranges generalizing cur with
  | nil => rfl
  | cons range rest ih =>
      have before : pushIf (cur < range.1) ((uidPred range.1).map fun stop => (cur, stop))
          = .ok (if cur < range.1 then [(cur, range.1 - 1)] else []) :=
        pushIf_eq_ok fun front => by rw [uidPred_eq_ok front, Except.map]
      rw [complementFromChecked, complementFrom, before, ih]
      rfl

/-- **No step overflows or underflows.** -/
theorem buildExcludedUidRangesChecked_eq (std : StdText) (cfg : TunInboundConfig) :
    buildExcludedUidRangesChecked std cfg = .ok (buildExcludedUidRanges std cfg) := by
  unfold buildExcludedUidRangesChecked buildExcludedUidRanges
  dsimp only
  split
  case isTrue => rfl
  case isFalse =>
    split
    case isTrue =>
      rw [subtractRangesChecked_eq]
      simp only [bind, Except.bind]
      rw [complementFromChecked_eq]
      rfl
    case isFalse => rfl

/-! ### What is left of the ranges -/

variable {ranges base sub : List UidRange} {uid : UInt32}

theorem toNat_pred {less uid : UInt32} (below : less < uid) :
    (uid - 1).toNat = uid.toNat - 1 := by
  rw [UInt32.lt_iff_toNat_lt] at below
  have positive : (1 : UInt32) ≤ uid := by
    rw [UInt32.le_iff_toNat_le, UInt32.toNat_one]
    omega
  rw [UInt32.toNat_sub_of_le _ _ positive, UInt32.toNat_one]

theorem toNat_succ {uid more : UInt32} (below : uid < more) :
    (uid + 1).toNat = uid.toNat + 1 := by
  rw [UInt32.lt_iff_toNat_lt] at below
  have bound := more.toNat_lt
  rw [UInt32.toNat_add, UInt32.toNat_one, Nat.mod_eq_of_lt (by omega)]

theorem holds_singleton {range : UidRange} :
    Holds [range] uid ↔ range.1.toNat ≤ uid.toNat ∧ uid.toNat ≤ range.2.toNat := by
  rw [holds_cons, UInt32.le_iff_toNat_le, UInt32.le_iff_toNat_le]
  exact or_iff_left fun ⟨_, member, _⟩ => absurd member List.not_mem_nil

/-- The part of a range before, or behind, another one. -/
theorem holds_ite {part : Prop} [Decidable part] {range : UidRange} :
    Holds (if part then [range] else []) uid
      ↔ part ∧ range.1.toNat ≤ uid.toNat ∧ uid.toNat ≤ range.2.toNat := by
  split
  case isTrue held => rw [holds_singleton, and_iff_right held]
  case isFalse failed =>
    exact iff_of_false (fun ⟨_, member, _⟩ => absurd member List.not_mem_nil) fun both =>
      failed both.1

theorem holds_subtractRange {sub range : UidRange} :
    Holds (subtractRange sub range) uid ↔ Holds [range] uid ∧ ¬ Holds [sub] uid := by
  rw [holds_singleton, holds_singleton, subtractRange]
  split
  case isTrue apart =>
    rw [holds_singleton]
    dsimp only
    simp only [UInt32.lt_iff_toNat_lt] at apart
    omega
  case isFalse meets =>
    rw [holds_append, holds_ite, holds_ite]
    simp only [UInt32.lt_iff_toNat_lt] at meets
    by_cases front : range.1 < sub.1
    · by_cases back : range.2 > sub.2
      · rw [toNat_pred front, toNat_succ back]
        simp only [gt_iff_lt, UInt32.lt_iff_toNat_lt] at front back ⊢
        omega
      · rw [toNat_pred front]
        simp only [gt_iff_lt, UInt32.lt_iff_toNat_lt] at front back ⊢
        omega
    · by_cases back : range.2 > sub.2
      · rw [toNat_succ back]
        simp only [gt_iff_lt, UInt32.lt_iff_toNat_lt] at front back ⊢
        omega
      · simp only [gt_iff_lt, UInt32.lt_iff_toNat_lt] at front back ⊢
        omega

theorem holds_flatMap {parts : UidRange → List UidRange} :
    Holds (ranges.flatMap parts) uid ↔ ∃ range ∈ ranges, Holds (parts range) uid := by
  constructor
  · rintro ⟨part, member, inside⟩
    obtain ⟨range, present, among⟩ := List.mem_flatMap.mp member
    exact ⟨range, present, part, among, inside⟩
  · rintro ⟨range, present, part, among, inside⟩
    exact ⟨part, List.mem_flatMap.mpr ⟨range, present, among⟩, inside⟩

/-- **Subtraction** leaves the UIDs of the base that are in no other range. -/
theorem holds_subtractRanges :
    Holds (subtractRanges base sub) uid ↔ Holds base uid ∧ ¬ Holds sub uid := by
  induction sub generalizing base with
  | nil => exact (and_iff_left fun ⟨_, member, _⟩ => absurd member List.not_mem_nil).symm
  | cons range rest ih =>
      have here : Holds (base.flatMap (subtractRange range)) uid
          ↔ Holds base uid ∧ ¬ Holds [range] uid := by
        simp only [holds_flatMap, holds_subtractRange]
        constructor
        · rintro ⟨other, present, inside, outside⟩
          exact ⟨⟨other, present, by rwa [holds_singleton, ← UInt32.le_iff_toNat_le,
            ← UInt32.le_iff_toNat_le] at inside⟩, outside⟩
        · rintro ⟨⟨other, present, inside⟩, outside⟩
          exact ⟨other, present, by rwa [holds_singleton, ← UInt32.le_iff_toNat_le,
            ← UInt32.le_iff_toNat_le], outside⟩
      have first : Holds (range :: rest) uid ↔ Holds [range] uid ∨ Holds rest uid := by
        rw [holds_cons, holds_singleton, UInt32.le_iff_toNat_le, UInt32.le_iff_toNat_le]
      show Holds (subtractRanges (base.flatMap (subtractRange range)) rest) uid ↔ _
      rw [ih, here, first, not_or, and_assoc]

/-! ### The order of the ranges -/

/-- The ranges are in order and do not meet. -/
def Increasing (ranges : List UidRange) : Prop :=
  ranges.Pairwise fun first second => first.2.toNat < second.1.toNat

/-- What is left of a range lies in it. -/
theorem subtractRange_within {sub range part : UidRange} (member : part ∈ subtractRange sub range) :
    range.1.toNat ≤ part.1.toNat ∧ part.2.toNat ≤ range.2.toNat := by
  rw [subtractRange] at member
  split at member
  case isTrue =>
    rw [List.mem_singleton.mp member]
    exact ⟨Nat.le_refl _, Nat.le_refl _⟩
  case isFalse meets =>
    simp only [UInt32.lt_iff_toNat_lt] at meets
    obtain front | behind := List.mem_append.mp member
    · split at front
      case isTrue before =>
        rw [List.mem_singleton.mp front, toNat_pred before]
        dsimp only
        omega
      case isFalse => cases front
    · split at behind
      case isTrue back =>
        rw [List.mem_singleton.mp behind, toNat_succ back]
        dsimp only
        omega
      case isFalse => cases behind

/-- No part of a range is empty. -/
theorem subtractRange_valid {sub range : UidRange} (valid : range.1 ≤ range.2) :
    ValidRanges (subtractRange sub range) := by
  intro part member
  rw [subtractRange] at member
  split at member
  case isTrue => rwa [List.mem_singleton.mp member]
  case isFalse =>
    obtain front | behind := List.mem_append.mp member
    · split at front
      case isTrue before =>
        rw [List.mem_singleton.mp front, UInt32.le_iff_toNat_le, toNat_pred before]
        rw [UInt32.lt_iff_toNat_lt] at before
        exact Nat.le_sub_one_of_lt before
      case isFalse => cases front
    · split at behind
      case isTrue back =>
        rw [List.mem_singleton.mp behind, UInt32.le_iff_toNat_le, toNat_succ back]
        rw [gt_iff_lt, UInt32.lt_iff_toNat_lt] at back
        exact back
      case isFalse => cases behind

theorem subtractRanges_valid (valid : ValidRanges base) :
    ValidRanges (subtractRanges base sub) := by
  induction sub generalizing base with
  | nil => exact valid
  | cons range rest ih =>
      refine ih fun part member => ?_
      obtain ⟨other, present, among⟩ := List.mem_flatMap.mp member
      exact subtractRange_valid (valid other present) part among

theorem increasing_subtractRange {sub : UidRange} (valid : sub.1 ≤ sub.2) (range : UidRange) :
    Increasing (subtractRange sub range) := by
  rw [subtractRange]
  split
  case isTrue => exact List.pairwise_singleton _ _
  case isFalse =>
    by_cases front : range.1 < sub.1
    · by_cases back : range.2 > sub.2
      · rw [if_pos front, if_pos back]
        refine List.pairwise_pair.mpr ?_
        rw [toNat_pred front, toNat_succ back]
        rw [UInt32.le_iff_toNat_le] at valid
        omega
      · rw [if_neg back, List.append_nil, if_pos front]
        exact List.pairwise_singleton _ _
    · rw [if_neg front, List.nil_append]
      split
      case isTrue => exact List.pairwise_singleton _ _
      case isFalse => exact List.Pairwise.nil

/-- Subtraction keeps the order. -/
theorem increasing_subtractRanges (increasing : Increasing base) (valid : ValidRanges sub) :
    Increasing (subtractRanges base sub) := by
  induction sub generalizing base with
  | nil => exact increasing
  | cons range rest ih =>
      obtain ⟨here, behind⟩ := List.forall_mem_cons.mp valid
      refine ih (List.pairwise_flatMap.mpr ⟨fun other _ => increasing_subtractRange here other,
        increasing.imp fun {first second} apart part among part' among' => ?_⟩) behind
      have one := (subtractRange_within among).2
      have other := (subtractRange_within among').1
      omega

/-- Separated ranges do not meet. -/
theorem increasing_of_separated (separated : Separated (ranges.map span)) : Increasing ranges :=
  (List.pairwise_map.mp separated.apart).imp fun ⟨_, above, below⟩ => Nat.lt_trans above below

/-! ### The complement -/

/-- Every range reaches the window from `lo` to `hi` or touches it, and none ends with the window at
the last number of all. -/
def NearWindow (lo hi : UInt32) (ranges : List UidRange) : Prop :=
  ∀ range ∈ ranges, lo.toNat ≤ range.2.toNat + 1 ∧ range.1.toNat ≤ hi.toNat + 1
    ∧ ¬ (range.2 = 0xffffffff ∧ hi = 0xffffffff)

instance (lo hi : UInt32) (ranges : List UidRange) : Decidable (NearWindow lo hi ranges) :=
  inferInstanceAs (Decidable (∀ _ ∈ _, _))

/-- The window behind the first range. -/
theorem NearWindow.behind {cur hi : UInt32} {range : UidRange} {rest : List UidRange}
    (near : NearWindow cur hi (range :: rest)) (increasing : Increasing (range :: rest))
    (valid : ValidRanges (range :: rest)) : NearWindow (saturatingSucc range.2) hi rest := by
  intro other member
  obtain ⟨-, fits, room⟩ := near other (List.mem_cons_of_mem _ member)
  have apart := (List.pairwise_cons.mp increasing).1 other member
  have here := valid other (List.mem_cons_of_mem _ member)
  rw [UInt32.le_iff_toNat_le] at here
  refine ⟨?_, fits, room⟩
  rw [toNat_saturatingSucc]
  omega

/-- **The complement** of ranges in order, from `cur` up to `hi`. -/
theorem holds_complementFrom {cur hi : UInt32} (increasing : Increasing ranges)
    (valid : ValidRanges ranges) (near : NearWindow cur hi ranges) :
    Holds (complementFrom hi cur ranges) uid
      ↔ cur.toNat ≤ uid.toNat ∧ uid.toNat ≤ hi.toNat ∧ ¬ Holds ranges uid := by
  induction ranges generalizing cur with
  | nil =>
      have never : ¬ Holds [] uid := fun ⟨_, member, _⟩ => absurd member List.not_mem_nil
      rw [complementFrom, holds_ite, UInt32.le_iff_toNat_le]
      dsimp only
      rw [and_iff_left never]
      omega
  | cons range rest ih =>
      obtain ⟨first, later⟩ := List.pairwise_cons.mp increasing
      obtain ⟨here, behind⟩ := List.forall_mem_cons.mp valid
      obtain ⟨start, fits, room⟩ := near range List.mem_cons_self
      have bound := range.2.toNat_lt
      have bound' := hi.toNat_lt
      rw [UInt32.le_iff_toNat_le] at here
      rw [← UInt32.toNat_inj, ← UInt32.toNat_inj,
        show (0xffffffff : UInt32).toNat = 2 ^ 32 - 1 from rfl] at room
      have outside : uid.toNat ≤ range.2.toNat → ¬ Holds rest uid := by
        rintro low ⟨other, member, inside, -⟩
        rw [UInt32.le_iff_toNat_le] at inside
        have apart := first other member
        omega
      have tail : Holds (complementFrom hi (saturatingSucc range.2) rest) uid
          ↔ min (range.2.toNat + 1) (2 ^ 32 - 1) ≤ uid.toNat ∧ uid.toNat ≤ hi.toNat
            ∧ ¬ Holds rest uid := by
        rw [← toNat_saturatingSucc]
        exact ih later behind (near.behind increasing valid)
      rw [complementFrom, holds_append, holds_ite, holds_cons, not_or, tail]
      have before : cur < range.1 ∧ cur.toNat ≤ uid.toNat ∧ uid.toNat ≤ (range.1 - 1).toNat
          ↔ cur.toNat ≤ uid.toNat ∧ uid.toNat < range.1.toNat := by
        by_cases front : cur < range.1
        · rw [toNat_pred front, and_iff_right front]
          rw [UInt32.lt_iff_toNat_lt] at front
          omega
        · rw [UInt32.lt_iff_toNat_lt] at front
          rw [UInt32.lt_iff_toNat_lt]
          omega
      rw [before, UInt32.le_iff_toNat_le, UInt32.le_iff_toNat_le]
      by_cases low : uid.toNat ≤ range.2.toNat
      · have free := outside low
        simp only [free, not_false_eq_true, and_true]
        omega
      · have later' : ¬ (cur.toNat ≤ uid.toNat ∧ uid.toNat < range.1.toNat) := by omega
        have beyond : min (range.2.toNat + 1) (2 ^ 32 - 1) ≤ uid.toNat := by omega
        have within : ¬ (range.1.toNat ≤ uid.toNat ∧ uid.toNat ≤ range.2.toNat) := by omega
        rw [or_iff_right later', and_iff_right beyond, and_iff_right within,
          and_iff_right (show cur.toNat ≤ uid.toNat by omega)]

/-- Up to `UID_MAX`, no range is out of reach. -/
theorem nearWindow_uidMax : NearWindow 0 uidMax ranges :=
  fun range _ => ⟨Nat.zero_le _, Nat.le_of_lt_succ range.1.toNat_lt,
    fun both => absurd both.2 (by decide)⟩

/-! ### The ranges to be excluded -/

theorem separated_mergeUidListAndRanges {std : StdText} {uids : List UInt32}
    {texts : List String} : Separated ((mergeUidListAndRanges std uids texts).map span) :=
  separated_mergeRanges fun range member =>
    uidRanges_valid range (mem_sortRanges.mp ((List.destutter_sublist _ _).mem member))

theorem holds_mergeUidListAndRanges {std : StdText} {uids : List UInt32} {texts : List String} :
    Holds (mergeUidListAndRanges std uids texts) uid ↔ Holds (uidRanges std uids texts) uid :=
  holds_mergeRanges.trans
    (holds_congr fun _ => Distinct.mem_destutter_ne.trans mem_sortRanges)

/-- Valid ranges that are not empty have a UID. -/
theorem exists_holds_iff (valid : ValidRanges ranges) :
    (∃ uid, Holds ranges uid) ↔ ranges ≠ [] := by
  constructor
  · rintro ⟨uid, range, member, -⟩
    exact List.ne_nil_of_mem member
  · intro some
    obtain ⟨range, member⟩ := List.exists_mem_of_ne_nil _ some
    exact ⟨range.1, range, member, UInt32.le_refl _, valid range member⟩

/-- **The UIDs to be excluded**: those that are not included, or are excluded, if some UID is
included, and else those that are excluded. -/
def ToExclude (std : StdText) (cfg : TunInboundConfig) (uid : UInt32) : Prop :=
  let included := Holds (uidRanges std cfg.includeUid cfg.includeUidRange)
  let excluded := Holds (uidRanges std cfg.excludeUid cfg.excludeUidRange)
  (∃ other, included other) ∧ ¬ (included uid ∧ ¬ excluded uid)
    ∨ (∀ other, ¬ included other) ∧ excluded uid

theorem separated_buildExcludedUidRanges (std : StdText) (cfg : TunInboundConfig) :
    Separated ((buildExcludedUidRanges std cfg).map span) := by
  unfold buildExcludedUidRanges
  dsimp only
  split
  case isTrue => exact ⟨List.forall_mem_nil _, List.Pairwise.nil⟩
  case isFalse =>
    split
    case isTrue => exact separated_mergeRanges complementFrom_valid
    case isFalse => exact separated_mergeRanges mergeUidListAndRanges_valid

theorem holds_buildExcludedUidRanges (std : StdText) (cfg : TunInboundConfig)
    (small : uid.toNat ≤ uidMax.toNat) :
    Holds (buildExcludedUidRanges std cfg) uid ↔ ToExclude std cfg uid := by
  have valid := @mergeUidListAndRanges_valid std cfg.includeUid cfg.includeUidRange
  have sub := @mergeUidListAndRanges_valid std cfg.excludeUid cfg.excludeUidRange
  have some := exists_holds_iff valid
  simp only [holds_mergeUidListAndRanges] at some
  unfold buildExcludedUidRanges ToExclude
  dsimp only
  by_cases absent : mergeUidListAndRanges std cfg.includeUid cfg.includeUidRange = []
  · have free := not_exists.mp (mt some.mp (not_not.mpr absent))
    have never : ¬ ∃ other, Holds (uidRanges std cfg.includeUid cfg.includeUidRange) other :=
      not_exists.mpr free
    rw [absent, List.isEmpty_nil, Bool.true_and, or_iff_right fun both => never both.1,
      and_iff_right free, ← holds_mergeUidListAndRanges]
    split
    case isTrue none =>
      rw [List.isEmpty_iff.mp none]
    case isFalse =>
      rw [if_neg (by decide), holds_mergeRanges]
  · have included := some.mpr absent
    have kept : (mergeUidListAndRanges std cfg.includeUid cfg.includeUidRange).isEmpty = false :=
      List.isEmpty_eq_false_iff.mpr absent
    have increasing := increasing_subtractRanges
      (increasing_of_separated (@separated_mergeUidListAndRanges std cfg.includeUid
        cfg.includeUidRange)) sub
    have whole : (0 : UInt32).toNat ≤ uid.toNat := Nat.zero_le _
    rw [kept, Bool.false_and, if_neg Bool.false_ne_true, if_pos Bool.not_false, holds_mergeRanges,
      complementRanges,
      holds_complementFrom increasing (subtractRanges_valid valid) nearWindow_uidMax,
      holds_subtractRanges, holds_mergeUidListAndRanges, holds_mergeUidListAndRanges,
      or_iff_left fun both => both.1 _ included.choose_spec, and_iff_right included,
      and_iff_right whole, and_iff_right small]

/-- **The ranges that are excluded**, whatever the lists are: no step of the arithmetic overflows or
underflows; the ranges are in order, with a UID of none between any two; and up to `u32::MAX - 1`
they have the UIDs to be excluded. -/
theorem buildExcludedUidRanges_exact (std : StdText) (cfg : TunInboundConfig) :
    buildExcludedUidRangesChecked std cfg = .ok (buildExcludedUidRanges std cfg)
      ∧ Separated ((buildExcludedUidRanges std cfg).map span)
      ∧ ∀ uid : UInt32, uid.toNat ≤ uidMax.toNat →
        (Holds (buildExcludedUidRanges std cfg) uid ↔ ToExclude std cfg uid) :=
  ⟨buildExcludedUidRangesChecked_eq std cfg, separated_buildExcludedUidRanges std cfg,
    fun _ small => holds_buildExcludedUidRanges std cfg small⟩

end RsTun
