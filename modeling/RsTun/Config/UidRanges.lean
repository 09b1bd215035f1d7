/-
**UID ranges: merged, subtracted, complemented.**

A range is a closed interval of UIDs. `sort_unstable` is a sort by both ends, for which stability
does not matter.

* `mergeUidListAndRanges_valid`, `buildExcludedUidRanges_valid` — no range is empty.
-/

import RsTun.Config.TunInboundConfig
import Mathlib.Data.List.Destutter
import Mathlib.Data.List.Sort

namespace RsTun

/-- A closed range of UIDs. -/
abbrev UidRange := UInt32 × UInt32

/-- The order of pairs. -/
def UidRange.le (first second : UidRange) : Bool :=
  first.1 < second.1 || (first.1 == second.1 && first.2 ≤ second.2)

/-- `sort_unstable`. -/
def sortRanges (ranges : List UidRange) : List UidRange := ranges.insertionSort (UidRange.le · ·)

/-- `saturating_add(1)`. -/
def saturatingSucc (uid : UInt32) : UInt32 := if uid = 0xffffffff then uid else uid + 1

/-- The loop of `merge_ranges`; `last` is the last range of `merged`. -/
def mergeInto (last : UidRange) : List UidRange → List UidRange
  | [] => [last]
  | (a, b) :: rest =>
    if a ≤ saturatingSucc last.2 then mergeInto (last.1, max last.2 b) rest
    else last :: mergeInto (a, b) rest

/-- `merge_ranges`. -/
def mergeRanges (ranges : List UidRange) : List UidRange :=
  match sortRanges ranges with
  | [] => []
  | first :: rest => mergeInto first rest

/-- `merge_uid_list_and_ranges`. -/
def mergeUidListAndRanges (std : StdText) (uids : List UInt32) (ranges : List String) :
    List UidRange :=
  let out := uids.map (fun uid => (uid, uid)) ++ ranges.filterMap (parseUidRange std)
  mergeRanges ((sortRanges out).destutter (· ≠ ·))

/-- What one range of `sub` leaves of one of the base, in `subtract_ranges`. -/
def subtractRange (sub range : UidRange) : List UidRange :=
  let (lo, hi) := sub
  let (a, b) := range
  if hi < a ∨ lo > b then [(a, b)]
  else (if a < lo then [(a, lo - 1)] else []) ++ (if b > hi then [(hi + 1, b)] else [])

/-- `subtract_ranges`. -/
def subtractRanges (base sub : List UidRange) : List UidRange :=
  sub.foldl (fun result range => result.flatMap (subtractRange range)) base

/-- The loop of `complement_ranges`, from `cur` on. -/
def complementFrom (hi : UInt32) : UInt32 → List UidRange → List UidRange
  | cur, [] => if cur ≤ hi then [(cur, hi)] else []
  | cur, (a, b) :: rest =>
    (if cur < a then [(cur, a - 1)] else []) ++ complementFrom hi (saturatingSucc b) rest

/-- `complement_ranges`. -/
def complementRanges (ranges : List UidRange) (lo hi : UInt32) : List UidRange :=
  complementFrom hi lo ranges

/-- `UID_MAX`. -/
def uidMax : UInt32 := 0xffffffff - 1

/-- `build_excluded_uid_ranges`. -/
def buildExcludedUidRanges (std : StdText) (cfg : TunInboundConfig) : List UidRange :=
  let includeRanges := mergeUidListAndRanges std cfg.includeUid cfg.includeUidRange
  let excludeRanges := mergeUidListAndRanges std cfg.excludeUid cfg.excludeUidRange
  if includeRanges.isEmpty && excludeRanges.isEmpty then []
  else if !includeRanges.isEmpty then
    mergeRanges (complementRanges (subtractRanges includeRanges excludeRanges) 0 uidMax)
  else mergeRanges excludeRanges

/-! ### No range is empty -/

/-- Every range has a UID. -/
def ValidRanges (ranges : List UidRange) : Prop := ∀ range ∈ ranges, range.1 ≤ range.2

theorem mergeInto_valid {last : UidRange} {ranges : List UidRange} (valid : last.1 ≤ last.2)
    (valid' : ValidRanges ranges) : ValidRanges (mergeInto last ranges) := by
  induction ranges generalizing last with
  | nil =>
      intro range member
      rw [mergeInto, List.mem_singleton] at member
      rw [member]
      exact valid
  | cons next rest ih =>
      obtain ⟨here, behind⟩ := List.forall_mem_cons.mp valid'
      rw [mergeInto]
      split
      · refine ih (UInt32.le_trans valid ?_) behind
        show last.2 ≤ if last.2 ≤ next.2 then next.2 else last.2
        split
        · assumption
        · exact UInt32.le_refl _
      · exact List.forall_mem_cons.mpr ⟨valid, ih here behind⟩

theorem mergeRanges_valid {ranges : List UidRange} (valid : ValidRanges ranges) :
    ValidRanges (mergeRanges ranges) := by
  have sorted : ValidRanges (sortRanges ranges) := fun range member =>
    valid range ((List.perm_insertionSort _ _).mem_iff.mp member)
  rw [mergeRanges]
  split
  · exact fun range member => absurd member List.not_mem_nil
  · rename_i first rest same
    rw [same] at sorted
    obtain ⟨here, behind⟩ := List.forall_mem_cons.mp sorted
    exact mergeInto_valid here behind

theorem parseUidRange_valid {std : StdText} {text : String} {range : UidRange}
    (parsed : parseUidRange std text = some range) : range.1 ≤ range.2 := by
  simp only [parseUidRange, Option.bind_eq_bind, Option.bind_eq_some_iff] at parsed
  obtain ⟨⟨startStr, endStr⟩, -, start, -, stop, -, parsed⟩ := parsed
  split at parsed
  · cases parsed
  · rename_i ordered
    cases parsed
    exact UInt32.not_lt.mp ordered

/-- The single UIDs and the ranges that are parsed. -/
theorem parsed_valid {std : StdText} {uids : List UInt32} {texts : List String} :
    ValidRanges (uids.map (fun uid => (uid, uid)) ++ texts.filterMap (parseUidRange std)) := by
  intro range member
  rcases List.mem_append.mp member with single | parsed
  · obtain ⟨uid, -, rfl⟩ := List.mem_map.mp single
    exact UInt32.le_refl _
  · obtain ⟨text, -, parsed⟩ := List.mem_filterMap.mp parsed
    exact parseUidRange_valid parsed

theorem mergeUidListAndRanges_valid {std : StdText} {uids : List UInt32} {ranges : List String} :
    ValidRanges (mergeUidListAndRanges std uids ranges) := by
  apply mergeRanges_valid
  intro range member
  exact parsed_valid range
    ((List.perm_insertionSort _ _).mem_iff.mp ((List.destutter_sublist _ _).mem member))

theorem complementFrom_valid {hi cur : UInt32} {ranges : List UidRange} :
    ValidRanges (complementFrom hi cur ranges) := by
  induction ranges generalizing cur with
  | nil =>
      rw [complementFrom]
      split
      · rename_i ordered
        intro range member
        rw [List.mem_singleton.mp member]
        exact ordered
      · exact fun range member => absurd member List.not_mem_nil
  | cons next rest ih =>
      rw [complementFrom]
      intro range member
      rcases List.mem_append.mp member with front | behind
      · split at front
        · rename_i before
          rw [List.mem_singleton.mp front]
          show cur ≤ next.1 - 1
          have positive : (1 : UInt32) ≤ next.1 := by
            rw [UInt32.le_iff_toNat_le, UInt32.toNat_one]
            rw [UInt32.lt_iff_toNat_lt] at before
            omega
          rw [UInt32.lt_iff_toNat_lt] at before
          rw [UInt32.le_iff_toNat_le, UInt32.toNat_sub_of_le _ _ positive, UInt32.toNat_one]
          omega
        · cases front
      · exact ih range behind

theorem buildExcludedUidRanges_valid {std : StdText} {cfg : TunInboundConfig} :
    ValidRanges (buildExcludedUidRanges std cfg) := by
  unfold buildExcludedUidRanges
  extract_lets includeRanges excludeRanges
  split
  · exact fun range member => absurd member List.not_mem_nil
  · split
    · exact mergeRanges_valid complementFrom_valid
    · exact mergeRanges_valid mergeUidListAndRanges_valid

end RsTun
