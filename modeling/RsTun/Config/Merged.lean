/-
**Merged ranges are the canonical form of a set of UIDs.**

* `holds_mergeRanges` — merging keeps the UIDs.
* `separated_mergeRanges` — merged ranges are in order, with a UID of none between any two.
* **`mergeRanges_eq_iff`** — two lists of ranges are merged to the same if and only if they have the
  same UIDs.
-/

import RsTun.Config.UidRanges
import RsTun.Library.Distinct
import RsTun.Library.Intervals

namespace RsTun

open Library Library.Intervals

/-- A UID lies in one of the ranges. -/
def Holds (ranges : List UidRange) (uid : UInt32) : Prop :=
  ∃ range ∈ ranges, range.1 ≤ uid ∧ uid ≤ range.2

/-- A range as an interval of numbers. -/
def span (range : UidRange) : Nat × Nat := (range.1.toNat, range.2.toNat)

theorem span_injective : Function.Injective span := fun _ _ same =>
  Prod.ext (UInt32.toNat_inj.mp (congrArg Prod.fst same))
    (UInt32.toNat_inj.mp (congrArg Prod.snd same))

theorem holds_cons {first : UidRange} {rest : List UidRange} {uid : UInt32} :
    Holds (first :: rest) uid ↔ first.1 ≤ uid ∧ uid ≤ first.2 ∨ Holds rest uid := by
  rw [Holds, List.exists_mem_cons_iff]
  exact Iff.rfl

theorem holds_append {ranges ranges' : List UidRange} {uid : UInt32} :
    Holds (ranges ++ ranges') uid ↔ Holds ranges uid ∨ Holds ranges' uid := by
  simp only [Holds, List.mem_append, or_and_right, exists_or]

theorem holds_congr {ranges ranges' : List UidRange} {uid : UInt32}
    (same : ∀ range, range ∈ ranges ↔ range ∈ ranges') : Holds ranges uid ↔ Holds ranges' uid := by
  simp only [Holds, same]

theorem covers_map_span {ranges : List UidRange} {point : Nat} :
    Covers (ranges.map span) point ↔ ∃ uid : UInt32, uid.toNat = point ∧ Holds ranges uid := by
  constructor
  · rintro ⟨interval, member, low, high⟩
    obtain ⟨range, present, rfl⟩ := List.mem_map.mp member
    have small : point < 2 ^ 32 := lt_of_le_of_lt high range.2.toNat_lt
    refine ⟨.ofNat point, UInt32.toNat_ofNat_of_lt' small, range, present, ?_, ?_⟩
    · rw [UInt32.le_iff_toNat_le, UInt32.toNat_ofNat_of_lt' small]
      exact low
    · rw [UInt32.le_iff_toNat_le, UInt32.toNat_ofNat_of_lt' small]
      exact high
  · rintro ⟨uid, rfl, range, member, low, high⟩
    exact ⟨span range, List.mem_map_of_mem member, UInt32.le_iff_toNat_le.mp low,
      UInt32.le_iff_toNat_le.mp high⟩

/-! ### One merge -/

theorem toNat_saturatingSucc (uid : UInt32) :
    (saturatingSucc uid).toNat = min (uid.toNat + 1) (2 ^ 32 - 1) := by
  rw [saturatingSucc]
  split
  · rename_i last
    rw [last]
    rfl
  · rename_i different
    have below : uid.toNat ≠ 2 ^ 32 - 1 := fun same => different (UInt32.toNat_inj.mp same)
    have bound := uid.toNat_lt
    rw [UInt32.toNat_add, UInt32.toNat_one, Nat.mod_eq_of_lt (by omega)]
    omega

theorem toNat_max (first second : UInt32) :
    (max first second).toNat = max first.toNat second.toNat := by
  show (if first ≤ second then second else first).toNat = _
  split
  · rename_i ordered
    rw [UInt32.le_iff_toNat_le] at ordered
    omega
  · rename_i ordered
    rw [UInt32.le_iff_toNat_le] at ordered
    omega

/-- The ranges are in the order of their first UIDs. -/
def Ordered (ranges : List UidRange) : Prop :=
  ranges.Pairwise fun first second => first.1.toNat ≤ second.1.toNat

variable {last : UidRange} {ranges ranges' : List UidRange} {uid : UInt32}

/-- Joining the first two ranges leaves them in order. -/
theorem ordered_join {next : UidRange} {rest : List UidRange} (stop : UInt32)
    (ordered : Ordered (last :: next :: rest)) : Ordered ((last.1, stop) :: rest) := by
  obtain ⟨first, later⟩ := List.pairwise_cons.mp ordered
  exact List.pairwise_cons.mpr ⟨fun range member => first range (List.mem_cons_of_mem _ member),
    (List.pairwise_cons.mp later).2⟩

theorem holds_mergeInto (ordered : Ordered (last :: ranges)) :
    Holds (mergeInto last ranges) uid ↔ Holds (last :: ranges) uid := by
  induction ranges generalizing last with
  | nil => rw [mergeInto]
  | cons next rest ih =>
      obtain ⟨first, later⟩ := List.pairwise_cons.mp ordered
      rw [mergeInto]
      split
      · rename_i touching
        have start := first next List.mem_cons_self
        rw [ih (ordered_join _ ordered), holds_cons, holds_cons, holds_cons, ← or_assoc]
        refine or_congr_left ?_
        simp only [UInt32.le_iff_toNat_le, toNat_max, toNat_saturatingSucc] at touching ⊢
        omega
      · rw [holds_cons, ih later, @holds_cons last]

theorem separated_mergeInto (valid : ValidRanges (last :: ranges))
    (ordered : Ordered (last :: ranges)) : Separated ((mergeInto last ranges).map span) := by
  have validMerged : ValidRanges (mergeInto last ranges) :=
    mergeInto_valid (List.forall_mem_cons.mp valid).1 (List.forall_mem_cons.mp valid).2
  refine ⟨fun interval member => ?_, ?_⟩
  · obtain ⟨range, present, rfl⟩ := List.mem_map.mp member
    exact UInt32.le_iff_toNat_le.mp (validMerged range present)
  · induction ranges generalizing last with
    | nil => exact List.pairwise_singleton _ _
    | cons next rest ih =>
        obtain ⟨first, later⟩ := List.pairwise_cons.mp ordered
        obtain ⟨here, behind⟩ := List.forall_mem_cons.mp valid
        rw [mergeInto] at validMerged ⊢
        split at validMerged
        · rename_i touching
          rw [if_pos touching]
          refine ih (List.forall_mem_cons.mpr ⟨?_, (List.forall_mem_cons.mp behind).2⟩)
            (ordered_join _ ordered) validMerged
          show last.1 ≤ max last.2 next.2
          rw [UInt32.le_iff_toNat_le] at here ⊢
          rw [toNat_max]
          omega
        · rename_i apart
          rw [if_neg apart, List.map_cons, List.pairwise_cons]
          refine ⟨fun interval member => ?_,
            ih behind later (List.forall_mem_cons.mp validMerged).2⟩
          obtain ⟨range, present, rfl⟩ := List.mem_map.mp member
          -- the range starts within one of those that are still to come
          have valid' := (List.forall_mem_cons.mp validMerged).2 range present
          obtain ⟨range', member', low, -⟩ :=
            (holds_mergeInto later).mp ⟨range, present, UInt32.le_refl _, valid'⟩
          have start : next.1.toNat ≤ range'.1.toNat := by
            rcases List.mem_cons.mp member' with rfl | behind'
            · exact le_refl _
            · exact (List.pairwise_cons.mp later).1 range' behind'
          have bound := next.1.toNat_lt
          rw [UInt32.le_iff_toNat_le, toNat_saturatingSucc] at apart
          rw [UInt32.le_iff_toNat_le] at low
          refine ⟨last.2.toNat + 1, Nat.lt_succ_self _, ?_⟩
          show last.2.toNat + 1 < range.1.toNat
          omega

/-! ### The merge of a list -/

theorem ordered_sortRanges : Ordered (sortRanges ranges) := by
  have total : Std.Total fun first second : UidRange => UidRange.le first second = true := by
    refine ⟨fun first second => ?_⟩
    simp only [UidRange.le, Bool.or_eq_true, Bool.and_eq_true, decide_eq_true_eq, beq_iff_eq,
      UInt32.lt_iff_toNat_lt, UInt32.le_iff_toNat_le, ← UInt32.toNat_inj]
    omega
  have trans : IsTrans UidRange fun first second => UidRange.le first second = true := by
    refine ⟨fun first second third => ?_⟩
    simp only [UidRange.le, Bool.or_eq_true, Bool.and_eq_true, decide_eq_true_eq, beq_iff_eq,
      UInt32.lt_iff_toNat_lt, UInt32.le_iff_toNat_le, ← UInt32.toNat_inj]
    omega
  refine (List.pairwise_insertionSort _ ranges).imp fun {first second} ordered => ?_
  simp only [UidRange.le, Bool.or_eq_true, Bool.and_eq_true, decide_eq_true_eq, beq_iff_eq,
    UInt32.lt_iff_toNat_lt, ← UInt32.toNat_inj] at ordered
  omega

theorem mem_sortRanges {range : UidRange} : range ∈ sortRanges ranges ↔ range ∈ ranges :=
  (List.perm_insertionSort _ _).mem_iff

/-- Merging keeps the UIDs. -/
theorem holds_mergeRanges : Holds (mergeRanges ranges) uid ↔ Holds ranges uid := by
  have sorted := @ordered_sortRanges ranges
  rw [mergeRanges, ← holds_congr (fun range => @mem_sortRanges ranges range)]
  cases same : sortRanges ranges with
  | nil => rfl
  | cons first rest =>
      rw [same] at sorted
      exact holds_mergeInto sorted

theorem separated_mergeRanges (valid : ValidRanges ranges) :
    Separated ((mergeRanges ranges).map span) := by
  have sorted := @ordered_sortRanges ranges
  have valid' : ValidRanges (sortRanges ranges) := fun range member =>
    valid range (mem_sortRanges.mp member)
  rw [mergeRanges]
  cases same : sortRanges ranges with
  | nil => exact ⟨List.forall_mem_nil _, List.Pairwise.nil⟩
  | cons first rest =>
      rw [same] at sorted valid'
      exact separated_mergeInto valid' sorted

/-- **Two lists of ranges are merged to the same** if and only if they have the same UIDs. -/
theorem mergeRanges_eq_iff (valid : ValidRanges ranges) (valid' : ValidRanges ranges') :
    mergeRanges ranges = mergeRanges ranges' ↔ ∀ uid, Holds ranges uid ↔ Holds ranges' uid := by
  constructor
  · intro same uid
    rw [← holds_mergeRanges, same, holds_mergeRanges]
  · intro same
    apply List.map_injective_iff.mpr span_injective
    refine separated_unique (separated_mergeRanges valid) (separated_mergeRanges valid') ?_
    intro point
    simp only [covers_map_span, holds_mergeRanges, same]

/-- The ranges that are merged: single UIDs, and those that can be parsed. -/
def uidRanges (std : StdText) (uids : List UInt32) (texts : List String) : List UidRange :=
  uids.map (fun uid => (uid, uid)) ++ texts.filterMap (parseUidRange std)

theorem uidRanges_valid {std : StdText} {uids : List UInt32} {texts : List String} :
    ValidRanges (uidRanges std uids texts) := parsed_valid

/-- **UIDs and ranges are merged to the same** if and only if they have the same UIDs. -/
theorem mergeUidListAndRanges_eq_iff {std : StdText} {uids uids' : List UInt32}
    {texts texts' : List String} :
    mergeUidListAndRanges std uids texts = mergeUidListAndRanges std uids' texts'
      ↔ ∀ uid, Holds (uidRanges std uids texts) uid ↔ Holds (uidRanges std uids' texts') uid := by
  have kept : ∀ (ranges : List UidRange) range,
      range ∈ (sortRanges ranges).destutter (· ≠ ·) ↔ range ∈ ranges := fun ranges range =>
    Distinct.mem_destutter_ne.trans mem_sortRanges
  have valid : ∀ uids texts,
      ValidRanges ((sortRanges (uidRanges std uids texts)).destutter (· ≠ ·)) :=
    fun uids texts range member => uidRanges_valid range ((kept _ range).mp member)
  rw [mergeUidListAndRanges, mergeUidListAndRanges]
  show mergeRanges ((sortRanges (uidRanges std uids texts)).destutter (· ≠ ·))
    = mergeRanges ((sortRanges (uidRanges std uids' texts')).destutter (· ≠ ·)) ↔ _
  rw [mergeRanges_eq_iff (valid uids texts) (valid uids' texts')]
  simp only [holds_congr (kept _)]

end RsTun
