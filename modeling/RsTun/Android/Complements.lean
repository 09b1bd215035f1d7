/-
**The three copies of `complement_ranges`.**

Each keeps a place behind the ranges it has passed. It never asks whether a range lies in the
window: a range in front of the window takes the place back in front of `lo`, a gap in front of a
range behind the window is pushed up to that range, and behind a range that ends with `u32::MAX` the
saturated place is that UID itself. Android's copy stops at the end of the window.

* `merged_iff_separated` — what `merge_ranges` returns.
* `complementLoop_eq_complementFrom` — where no range starts past the window, stopping early changes
  nothing.
* **`allComplement_iff`** — all three return the complement if and only if every range reaches the
  window or touches it, and none ends with it at `u32::MAX`.
-/

import RsTun.Android.UidExclusions

namespace RsTun

open Library Library.Intervals

/-- `complement_ranges` of `platform/linux.rs`, with its arithmetic checked. -/
def complementRangesChecked (ranges : List UidRange) (lo hi : UInt32) :
    Checked Empty (List UidRange) :=
  complementFromChecked hi lo ranges

/-- `complement_ranges` of `tun/mod.rs`, word for word that of Linux. -/
def Tun.complementRanges (ranges : List UidRange) (lo hi : UInt32) :
    Checked Empty (List UidRange) :=
  complementFromChecked hi lo ranges

/-! ### What `merge_ranges` returns -/

/-- Ranges as `merge_ranges` returns them. -/
def Merged (ranges : List UidRange) : Prop :=
  ∃ input, ValidRanges input ∧ mergeRanges input = ranges

theorem validRanges_of_separated {ranges : List UidRange}
    (separated : Separated (ranges.map span)) : ValidRanges ranges := fun range member =>
  UInt32.le_iff_toNat_le.mpr (separated.valid (span range) (List.mem_map_of_mem member))

/-- These are the ranges in order, with a UID of none between any two. -/
theorem merged_iff_separated {ranges : List UidRange} :
    Merged ranges ↔ Separated (ranges.map span) := by
  constructor
  · rintro ⟨input, valid, rfl⟩
    exact separated_mergeRanges valid
  · intro separated
    have valid := validRanges_of_separated separated
    refine ⟨ranges, valid, List.map_injective_iff.mpr span_injective ?_⟩
    refine separated_unique (separated_mergeRanges valid) separated fun point => ?_
    simp only [covers_map_span, holds_mergeRanges]

section Window

variable {ranges rest : List UidRange} {range : UidRange} {lo hi cur : UInt32}

/-- The next range starts behind the place that the last one leads to. -/
theorem saturatingSucc_lt_of_separated (separated : Separated ((range :: rest).map span))
    {next : UidRange} (member : next ∈ rest) : saturatingSucc range.2 < next.1 := by
  have apart := (List.pairwise_cons.mp separated.apart).1 (span next) (List.mem_map_of_mem member)
  obtain ⟨gap, above, below⟩ := apart
  have bound := next.1.toNat_lt
  rw [UInt32.lt_iff_toNat_lt, toNat_saturatingSucc]
  dsimp only [span] at above below
  omega

/-! ### The order of the complement -/

/-- Nothing is pushed in front of the place. -/
theorem complementFrom_start (increasing : Increasing ranges) (valid : ValidRanges ranges)
    (near : NearWindow cur hi ranges) :
    ∀ pushed ∈ complementFrom hi cur ranges, cur.toNat ≤ pushed.1.toNat := by
  induction ranges generalizing cur with
  | nil =>
      intro pushed member
      rw [complementFrom] at member
      split at member
      · rw [List.mem_singleton.mp member]
      · cases member
  | cons range rest ih =>
      intro pushed member
      rw [complementFrom] at member
      obtain front | behind := List.mem_append.mp member
      · split at front
        · rw [List.mem_singleton.mp front]
        · cases front
      · have later := ih (List.pairwise_cons.mp increasing).2 (List.forall_mem_cons.mp valid).2
          (near.behind increasing valid) pushed behind
        have reach := (near range List.mem_cons_self).1
        have bound := cur.toNat_lt
        rw [toNat_saturatingSucc] at later
        omega

/-- What is pushed is in order and does not meet. -/
theorem increasing_complementFrom (increasing : Increasing ranges) (valid : ValidRanges ranges)
    (near : NearWindow cur hi ranges) : Increasing (complementFrom hi cur ranges) := by
  induction ranges generalizing cur with
  | nil =>
      rw [complementFrom]
      split
      · exact List.pairwise_singleton _ _
      · exact List.Pairwise.nil
  | cons range rest ih =>
      have increasing' := (List.pairwise_cons.mp increasing).2
      obtain ⟨here, valid'⟩ := List.forall_mem_cons.mp valid
      have near' := near.behind increasing valid
      rw [complementFrom]
      refine List.pairwise_append.mpr ⟨?_, ih increasing' valid' near', ?_⟩
      · split
        · exact List.pairwise_singleton _ _
        · exact List.Pairwise.nil
      · intro before front pushed behind
        split at front
        case isFalse => cases front
        case isTrue less =>
          have start := complementFrom_start increasing' valid' near' pushed behind
          have bound := range.2.toNat_lt
          rw [List.mem_singleton.mp front, toNat_pred less]
          rw [UInt32.lt_iff_toNat_lt] at less
          rw [UInt32.le_iff_toNat_le] at here
          rw [toNat_saturatingSucc] at start
          omega

/-! ### What is pushed out of the window -/

/-- The place itself is pushed when there is room. -/
theorem holds_complementFrom_place (room : cur ≤ hi) (front : ∀ next ∈ ranges, cur < next.1) :
    Holds (complementFrom hi cur ranges) cur := by
  cases ranges with
  | nil =>
      rw [complementFrom, if_pos room]
      exact ⟨_, List.mem_singleton_self _, UInt32.le_refl _, room⟩
  | cons range rest =>
      have less := front range List.mem_cons_self
      rw [complementFrom, if_pos less]
      refine ⟨_, List.mem_append_left _ (List.mem_singleton_self _), UInt32.le_refl _, ?_⟩
      rw [UInt32.le_iff_toNat_le, toNat_pred less]
      rw [UInt32.lt_iff_toNat_lt] at less
      exact Nat.le_sub_one_of_lt less

/-- The UID in front of a range is pushed. -/
theorem holds_complementFrom_before (separated : Separated (ranges.map span))
    (member : range ∈ ranges) (less : cur < range.1) :
    Holds (complementFrom hi cur ranges) (range.1 - 1) := by
  induction ranges generalizing cur with
  | nil => cases member
  | cons first rest ih =>
      rw [complementFrom, holds_append]
      rcases List.mem_cons.mp member with rfl | later
      · left
        rw [if_pos less]
        refine ⟨_, List.mem_singleton_self _, ?_, UInt32.le_refl _⟩
        rw [UInt32.le_iff_toNat_le, toNat_pred less]
        rw [UInt32.lt_iff_toNat_lt] at less
        exact Nat.le_sub_one_of_lt less
      · exact .inr (ih separated.tail later (saturatingSucc_lt_of_separated separated later))

/-- The place that a range leads to is pushed when there is room. -/
theorem holds_complementFrom_behind (separated : Separated (ranges.map span))
    (member : range ∈ ranges) (room : saturatingSucc range.2 ≤ hi) :
    Holds (complementFrom hi cur ranges) (saturatingSucc range.2) := by
  induction ranges generalizing cur with
  | nil => cases member
  | cons first rest ih =>
      rw [complementFrom, holds_append]
      right
      rcases List.mem_cons.mp member with rfl | later
      · exact holds_complementFrom_place room fun next =>
          saturatingSucc_lt_of_separated separated
      · exact ih separated.tail later

/-! ### Stopping early -/

/-- **Android's loop** does what the others do when no range starts past the window: behind a range
that ends it there is none. -/
theorem complementLoop_eq_complementFrom (separated : Separated (ranges.map span))
    (fits : ∀ range ∈ ranges, range.1.toNat ≤ hi.toNat + 1) :
    Android.complementLoop hi cur ranges = .ok (complementFrom hi cur ranges) := by
  induction ranges generalizing cur with
  | nil => rfl
  | cons range rest ih =>
      obtain ⟨-, fits'⟩ := List.forall_mem_cons.mp fits
      have before : pushIf (cur < range.1) ((uidPred range.1).map fun last => (cur, last))
          = .ok (if cur < range.1 then [(cur, range.1 - 1)] else []) :=
        pushIf_eq_ok fun front => by rw [uidPred_eq_ok front, Except.map]
      unfold Android.complementLoop
      rw [complementFrom, before]
      by_cases stops : saturatingSucc range.2 > hi
      · have none : rest = [] := by
          refine List.eq_nil_iff_forall_not_mem.mpr fun next member => ?_
          have behind := saturatingSucc_lt_of_separated separated member
          have start := fits' next member
          rw [gt_iff_lt, UInt32.lt_iff_toNat_lt] at stops
          rw [UInt32.lt_iff_toNat_lt] at behind
          omega
        simp only [none, bind, Checked.ok_bind, if_pos stops]
        rfl
      · simp only [bind, Checked.ok_bind, if_neg stops, ih separated.tail fits']
        rfl

/-! ### When the three are complements -/

/-- The ranges are in order, do not meet, and have the UIDs of the window that lie in none of the
others. -/
structure Complementary (ranges : List UidRange) (lo hi : UInt32) (result : List UidRange) :
    Prop where
  valid : ValidRanges result
  increasing : Increasing result
  holds : ∀ uid : UInt32, Holds result uid ↔ (lo ≤ uid ∧ uid ≤ hi) ∧ ¬ Holds ranges uid

/-- A call returns the complement. -/
def Complements (call : Checked Empty (List UidRange)) (ranges : List UidRange)
    (lo hi : UInt32) : Prop :=
  ∃ result, call = .ok result ∧ Complementary ranges lo hi result

/-- All three copies return the complement, and so the same UIDs. -/
structure AllComplement (ranges : List UidRange) (lo hi : UInt32) : Prop where
  linux : Complements (complementRangesChecked ranges lo hi) ranges lo hi
  android : Complements (Android.complementRanges ranges lo hi) ranges lo hi
  tun : Complements (Tun.complementRanges ranges lo hi) ranges lo hi
  agree : ∀ one other third, complementRangesChecked ranges lo hi = .ok one →
    Android.complementRanges ranges lo hi = .ok other →
    Tun.complementRanges ranges lo hi = .ok third →
    ∀ uid, (Holds one uid ↔ Holds other uid) ∧ (Holds other uid ↔ Holds third uid)

theorem complementRangesChecked_eq (ranges : List UidRange) (lo hi : UInt32) :
    complementRangesChecked ranges lo hi = .ok (complementFrom hi lo ranges) :=
  complementFromChecked_eq hi ranges lo

/-- Android's copy of an empty list is the whole window. -/
theorem android_complementRanges_eq (separated : Separated (ranges.map span)) (ordered : lo ≤ hi)
    (near : NearWindow lo hi ranges) :
    Android.complementRanges ranges lo hi = .ok (complementFrom hi lo ranges) := by
  unfold Android.complementRanges
  split
  case isTrue empty =>
    rw [empty, complementFrom, if_pos ordered]
  case isFalse =>
    exact complementLoop_eq_complementFrom separated fun range member => (near range member).2.1

theorem complementary_complementFrom (separated : Separated (ranges.map span))
    (near : NearWindow lo hi ranges) :
    Complementary ranges lo hi (complementFrom hi lo ranges) := by
  have increasing := increasing_of_separated separated
  have valid := validRanges_of_separated separated
  refine ⟨complementFrom_valid, increasing_complementFrom increasing valid near, fun uid => ?_⟩
  rw [holds_complementFrom increasing valid near, UInt32.le_iff_toNat_le, UInt32.le_iff_toNat_le,
    and_assoc]

/-- The loop without the early stop returns the complement only near the window. -/
theorem nearWindow_of_complementary (separated : Separated (ranges.map span)) (ordered : lo ≤ hi)
    (exact : Complementary ranges lo hi (complementFrom hi lo ranges)) :
    NearWindow lo hi ranges := by
  intro range member
  have valid := validRanges_of_separated separated range member
  have window := hi.toNat_lt
  rw [UInt32.le_iff_toNat_le] at ordered
  refine ⟨Nat.le_of_not_lt fun early => ?_, Nat.le_of_not_lt fun late => ?_, ?_⟩
  · -- the UID behind a range in front of the window
    have next : (saturatingSucc range.2).toNat = range.2.toNat + 1 := by
      rw [toNat_saturatingSucc]
      omega
    have room : saturatingSucc range.2 ≤ hi := by
      rw [UInt32.le_iff_toNat_le, next]
      omega
    have inside := ((exact.holds _).mp
      (holds_complementFrom_behind separated member room)).1.1
    rw [UInt32.le_iff_toNat_le, next] at inside
    omega
  · -- the UID in front of a range behind the window
    have less : lo < range.1 := by
      rw [UInt32.lt_iff_toNat_lt]
      omega
    have inside := ((exact.holds _).mp
      (holds_complementFrom_before separated member less)).1.2
    rw [UInt32.le_iff_toNat_le, toNat_pred less] at inside
    omega
  · -- the last UID of all, which the place does not get past
    rintro ⟨last, whole⟩
    have stays : saturatingSucc range.2 = range.2 := by
      rw [last]
      rfl
    have room : saturatingSucc range.2 ≤ hi := by
      rw [stays, last, whole]
      exact UInt32.le_refl _
    have outside := ((exact.holds _).mp
      (holds_complementFrom_behind separated member room)).2
    rw [stays] at outside
    exact outside ⟨range, member, valid, UInt32.le_refl _⟩

/-- **The three return the complement** of merged ranges in a window if and only if every range
reaches the window or touches it, and none ends with it at `u32::MAX`. -/
theorem allComplement_iff (merged : Merged ranges) (ordered : lo ≤ hi) :
    AllComplement ranges lo hi ↔ NearWindow lo hi ranges := by
  have separated := merged_iff_separated.mp merged
  have linux := complementRangesChecked_eq ranges lo hi
  constructor
  · intro all
    obtain ⟨result, returned, exact⟩ := all.linux
    cases linux.symm.trans returned
    exact nearWindow_of_complementary separated ordered exact
  · intro near
    have android := android_complementRanges_eq separated ordered near
    have complementary := complementary_complementFrom separated near
    have tun : Tun.complementRanges ranges lo hi = .ok (complementFrom hi lo ranges) := linux
    refine ⟨⟨_, linux, complementary⟩, ⟨_, android, complementary⟩, ⟨_, tun, complementary⟩, ?_⟩
    rw [linux, android, tun]
    rintro one other third ⟨⟩ ⟨⟩ ⟨⟩ uid
    exact ⟨Iff.rfl, Iff.rfl⟩

theorem allComplement_iff_sample : AllComplement [(10, 20), (40, 50)] 15 41 :=
  (allComplement_iff (merged_iff_separated.mpr
    ⟨by decide, List.pairwise_pair.mpr ⟨30, by decide, by decide⟩⟩) (by decide)).mpr
    (List.forall_mem_cons.mpr ⟨by decide, List.forall_mem_singleton.mpr (by decide)⟩)

/-- **A range behind the window**, that of user 11 alone: the three return UIDs up to it. -/
theorem complement_past_window :
    Merged [(1100000, 1199999)]
      ∧ complementRangesChecked [(1100000, 1199999)] 0 Android.userEnd = .ok [(0, 1099999)]
      ∧ Android.complementRanges [(1100000, 1199999)] 0 Android.userEnd = .ok [(0, 1099999)]
      ∧ Tun.complementRanges [(1100000, 1199999)] 0 Android.userEnd = .ok [(0, 1099999)]
      ∧ ¬ AllComplement [(1100000, 1199999)] 0 Android.userEnd := by
  have separated : Separated ([(1100000, 1199999)].map span) :=
    ⟨List.forall_mem_singleton.mpr (by decide), List.pairwise_singleton _ _⟩
  refine ⟨merged_iff_separated.mpr separated, by decide, by decide, by decide, fun all => ?_⟩
  obtain ⟨result, returned, exact⟩ := all.android
  cases (show Android.complementRanges [(1100000, 1199999)] 0 Android.userEnd
    = .ok [(0, 1099999)] by decide).symm.trans returned
  have inside := ((exact.holds 1000000).mp ⟨_, List.mem_singleton_self _, by decide, by decide⟩).1.2
  exact absurd inside (by decide)

end Window

end RsTun
