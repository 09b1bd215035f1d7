/-
**Sets as lists of closed intervals.**

* `Covers` — a point lies in one of the intervals.
* `Separated` — the intervals are in order, with a point between any two of them.
* `covers_interval_iff` — separated intervals cover an interval only with one of them.
* **`separated_unique`** — a set has one list of separated intervals.
-/

import Mathlib.Data.List.Basic
import Mathlib.Order.Lattice

namespace RsTun.Library.Intervals

universe u

variable {Point : Type u} [LinearOrder Point]

/-- A point lies in one of the intervals. -/
def Covers (ranges : List (Point × Point)) (point : Point) : Prop :=
  ∃ range ∈ ranges, range.1 ≤ point ∧ point ≤ range.2

/-- No interval is empty, and between any two there is a point of neither. -/
structure Separated (ranges : List (Point × Point)) : Prop where
  valid : ∀ range ∈ ranges, range.1 ≤ range.2
  apart : ranges.Pairwise fun first second => ∃ gap, first.2 < gap ∧ gap < second.1

variable {first first' : Point × Point} {rest rest' ranges ranges' : List (Point × Point)}

theorem covers_cons {point : Point} :
    Covers (first :: rest) point ↔ first.1 ≤ point ∧ point ≤ first.2 ∨ Covers rest point := by
  rw [Covers, List.exists_mem_cons_iff]
  exact Iff.rfl

theorem Separated.tail (separated : Separated (first :: rest)) : Separated rest :=
  ⟨(List.forall_mem_cons.mp separated.valid).2, (List.pairwise_cons.mp separated.apart).2⟩

/-- What the other intervals cover lies behind the first, and a point of no interval between. -/
theorem Separated.behind (separated : Separated (first :: rest)) {point : Point}
    (covered : Covers rest point) :
    ∃ gap, first.2 < gap ∧ gap < point ∧ ¬ Covers (first :: rest) gap := by
  cases rest with
  | nil =>
      obtain ⟨range, member, -⟩ := covered
      cases member
  | cons second others =>
      obtain ⟨apart, ordered⟩ := List.pairwise_cons.mp separated.apart
      obtain ⟨gap, above, below⟩ := apart second List.mem_cons_self
      have second_le : ∀ range ∈ second :: others, second.1 ≤ range.1 := by
        intro range member
        rcases List.mem_cons.mp member with rfl | later
        · exact le_refl _
        · obtain ⟨gap', after, before⟩ := (List.pairwise_cons.mp ordered).1 range later
          exact le_of_lt (lt_of_le_of_lt
            (separated.tail.valid second List.mem_cons_self) (lt_trans after before))
      obtain ⟨range, member, low, -⟩ := covered
      refine ⟨gap, above, lt_of_lt_of_le below (le_trans (second_le range member) low), ?_⟩
      rintro ⟨other, member', low', high'⟩
      rcases List.mem_cons.mp member' with rfl | later
      · exact absurd above (not_lt_of_ge high')
      · exact absurd below (not_lt_of_ge (le_trans (second_le other later) low'))

/-- Nothing before the first interval is covered. -/
theorem Separated.first_le (separated : Separated (first :: rest)) {point : Point}
    (covered : Covers (first :: rest) point) : first.1 ≤ point := by
  rcases covers_cons.mp covered with ⟨low, -⟩ | later
  · exact low
  · obtain ⟨gap, above, below, -⟩ := separated.behind later
    exact le_of_lt (lt_of_le_of_lt (separated.valid first List.mem_cons_self)
      (lt_trans above below))

/-- What is covered up to the end of the first interval is covered by it. -/
theorem covers_tail_iff (separated : Separated (first :: rest)) {point : Point} :
    Covers rest point ↔ Covers (first :: rest) point ∧ first.2 < point := by
  rw [covers_cons]
  constructor
  · intro later
    obtain ⟨gap, above, below, -⟩ := separated.behind later
    exact ⟨Or.inr later, lt_trans above below⟩
  · rintro ⟨⟨-, high⟩ | later, above⟩
    · exact absurd above (not_lt_of_ge high)
    · exact later

/-- **An interval that is covered** lies in one of the separated intervals. -/
theorem covers_interval_iff (separated : Separated ranges) {start stop : Point}
    (ordered : start ≤ stop) :
    (∀ point, start ≤ point → point ≤ stop → Covers ranges point)
      ↔ ∃ range ∈ ranges, range.1 ≤ start ∧ stop ≤ range.2 := by
  constructor
  · intro covered
    induction ranges with
    | nil =>
        obtain ⟨range, member, -⟩ := covered start (le_refl _) ordered
        cases member
    | cons first rest ih =>
        rcases covers_cons.mp (covered start (le_refl _) ordered) with ⟨low, high⟩ | later
        · refine ⟨first, List.mem_cons_self, low, le_of_not_gt fun longer => ?_⟩
          have behind := (covers_tail_iff separated).mpr
            ⟨covered stop ordered (le_refl _), longer⟩
          obtain ⟨gap, above, below, outside⟩ := separated.behind behind
          exact outside (covered gap (le_of_lt (lt_of_le_of_lt high above)) (le_of_lt below))
        · have above := ((covers_tail_iff separated).mp later).2
          obtain ⟨range, member, within⟩ := ih separated.tail fun point low high =>
            (covers_tail_iff separated).mpr ⟨covered point low high, lt_of_lt_of_le above low⟩
          exact ⟨range, List.mem_cons_of_mem _ member, within⟩
  · rintro ⟨range, member, low, high⟩ point above below
    exact ⟨range, member, le_trans low above, le_trans below high⟩

/-- The first interval of the one list does not end behind that of the other. -/
theorem first_end_le (separated : Separated (first :: rest))
    (separated' : Separated (first' :: rest'))
    (same : ∀ point, Covers (first :: rest) point ↔ Covers (first' :: rest') point)
    (start : first.1 = first'.1) : first.2 ≤ first'.2 := by
  refine le_of_not_gt fun longer => ?_
  have valid' := separated'.valid first' List.mem_cons_self
  have whole : ∀ point, first.1 ≤ point → point ≤ first.2 → Covers (first' :: rest') point :=
    fun point low high => (same point).mp (covers_cons.mpr (Or.inl ⟨low, high⟩))
  have last := whole first.2 (separated.valid first List.mem_cons_self) (le_refl _)
  rcases covers_cons.mp last with ⟨-, high⟩ | later
  · exact absurd longer (not_lt_of_ge high)
  · obtain ⟨gap, above, below, outside⟩ := separated'.behind later
    refine outside (whole gap ?_ (le_of_lt below))
    rw [start]
    exact le_of_lt (lt_of_le_of_lt valid' above)

/-- **A set has one list of separated intervals.** -/
theorem separated_unique (separated : Separated ranges) (separated' : Separated ranges')
    (same : ∀ point, Covers ranges point ↔ Covers ranges' point) : ranges = ranges' := by
  induction ranges generalizing ranges' with
  | nil =>
      cases ranges' with
      | nil => rfl
      | cons first' rest' =>
          have covered : Covers (first' :: rest') first'.1 := covers_cons.mpr
            (Or.inl ⟨le_refl _, separated'.valid first' List.mem_cons_self⟩)
          obtain ⟨range, member, -⟩ := (same first'.1).mpr covered
          cases member
  | cons first rest ih =>
      have covered : Covers (first :: rest) first.1 := covers_cons.mpr
        (Or.inl ⟨le_refl _, separated.valid first List.mem_cons_self⟩)
      cases ranges' with
      | nil =>
          obtain ⟨range, member, -⟩ := (same first.1).mp covered
          cases member
      | cons first' rest' =>
          have covered' : Covers (first' :: rest') first'.1 := covers_cons.mpr
            (Or.inl ⟨le_refl _, separated'.valid first' List.mem_cons_self⟩)
          have start : first.1 = first'.1 := le_antisymm
            (separated.first_le ((same first'.1).mpr covered'))
            (separated'.first_le ((same first.1).mp covered))
          have stop : first.2 = first'.2 := le_antisymm
            (first_end_le separated separated' same start)
            (first_end_le separated' separated (fun point => (same point).symm) start.symm)
          have tail : rest = rest' := by
            apply ih separated.tail separated'.tail
            intro point
            rw [covers_tail_iff separated, covers_tail_iff separated', same point, stop]
          rw [tail, Prod.ext start stop]

end RsTun.Library.Intervals
