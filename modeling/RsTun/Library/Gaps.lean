/-
**The gaps between numbers**, up to a last one.

`gaps` goes through numbers in order, from a first place on. It stops at a number that is the last
or behind it, so that a gap in front of that number is the only one that can reach past the last.

* `Free` — a place is in a gap; `Beside` — the same numbers stand before two places.
* **`mem_gaps_iff`** — the gaps have the free places.
* **`mem_gap_iff`** — the places of one gap are the free ones beside any of them.
-/

import Mathlib.Data.List.Basic

namespace RsTun.Library.Gaps

/-- The gaps between the numbers, as pairs of their first and last places. -/
def gaps (last : Nat) : Nat → List Nat → List (Nat × Nat)
  | first, [] => if first ≤ last then [(first, last)] else []
  | first, point :: rest =>
      (if first < point then [(first, point - 1)] else [])
        ++ if point < last then gaps last (point + 1) rest else []

/-- A place in a gap: it is none of the numbers, and not behind the last place, or in front of a
number and behind none that is the last place or past it. -/
def Free (last : Nat) (points : List Nat) (place : Nat) : Prop :=
  place ∉ points ∧ (place ≤ last
    ∨ (∃ point ∈ points, place < point) ∧ ∀ point ∈ points, point < place → point < last)

/-- The same numbers stand before two places. -/
def Beside (points : List Nat) (place other : Nat) : Prop :=
  ∀ point ∈ points, point < place ↔ point < other

/-- A place in a gap. -/
def Inside (gap : Nat × Nat) (place : Nat) : Prop := gap.1 ≤ place ∧ place ≤ gap.2

variable {last first point place other : Nat} {points points' rest : List Nat}

theorem free_congr (same : ∀ point, point ∈ points ↔ point ∈ points') :
    Free last points place ↔ Free last points' place := by
  simp only [Free, same]

theorem beside_congr (same : ∀ point, point ∈ points ↔ point ∈ points') :
    Beside points place other ↔ Beside points' place other := by
  simp only [Beside, same]

theorem Beside.refl (points : List Nat) (place : Nat) : Beside points place place :=
  fun _ _ => Iff.rfl

/-- The free places in front of the first number, and behind it. -/
theorem free_cons_iff (ordered : (point :: rest).Pairwise (· ≤ ·)) (near : first ≤ point + 1) :
    first ≤ place ∧ Free last (point :: rest) place
      ↔ first ≤ place ∧ place < point
        ∨ point < last ∧ point + 1 ≤ place ∧ Free last rest place := by
  obtain ⟨least, -⟩ := List.pairwise_cons.mp ordered
  constructor
  · rintro ⟨start, outside, reached⟩
    obtain ⟨different, later⟩ := not_or.mp (mt List.mem_cons.mpr outside)
    by_cases front : place < point
    · exact Or.inl ⟨start, front⟩
    · refine Or.inr ⟨?_, by omega, later, ?_⟩
      · obtain low | ⟨-, before⟩ := reached
        · omega
        · exact before point List.mem_cons_self (by omega)
      · refine reached.imp_right fun ⟨⟨next, member, above⟩, before⟩ => ⟨⟨next, ?_, above⟩,
          fun other member => before other (List.mem_cons_of_mem _ member)⟩
        exact (List.mem_cons.mp member).resolve_left (by omega)
  · rintro (⟨start, front⟩ | ⟨small, behind, outside, reached⟩)
    · have none_before : ∀ other ∈ point :: rest, ¬ other < place := by
        intro other member
        obtain rfl | later := List.mem_cons.mp member
        · omega
        · have bound := least other later
          omega
      refine ⟨start, fun member => ?_, Or.inr ⟨⟨point, List.mem_cons_self, front⟩,
        fun other member before => absurd before (none_before other member)⟩⟩
      obtain rfl | later := List.mem_cons.mp member
      · omega
      · have bound := least place later
        omega
    · refine ⟨by omega, fun member => ?_, ?_⟩
      · obtain rfl | later := List.mem_cons.mp member
        · omega
        · exact outside later
      · refine reached.imp_right fun ⟨⟨next, member, above⟩, before⟩ =>
          ⟨⟨next, List.mem_cons_of_mem _ member, above⟩, fun other member => ?_⟩
        obtain rfl | later := List.mem_cons.mp member
        · exact fun _ => small
        · exact before other later

/-- **The gaps have the free places.** -/
theorem mem_gaps_iff (ordered : points.Pairwise (· ≤ ·)) (small : first ≤ last)
    (near : ∀ point ∈ points, first ≤ point + 1) :
    (∃ gap ∈ gaps last first points, Inside gap place)
      ↔ first ≤ place ∧ Free last points place := by
  induction points generalizing first with
  | nil =>
      rw [gaps, if_pos small]
      simp [Inside, Free]
  | cons point rest ih =>
      obtain ⟨least, later⟩ := List.pairwise_cons.mp ordered
      rw [free_cons_iff ordered (near point List.mem_cons_self), gaps]
      simp only [List.mem_append, or_and_right, exists_or]
      refine or_congr ?_ ?_
      · split
        case isTrue =>
          simp only [List.mem_singleton, exists_eq_left, Inside]
          omega
        case isFalse =>
          refine iff_of_false (fun ⟨_, member, _⟩ => absurd member List.not_mem_nil) ?_
          omega
      · split
        case isTrue more =>
          rw [and_iff_right more]
          exact ih later more fun other member => Nat.succ_le_succ (least other member)
        case isFalse stopped =>
          exact iff_of_false (fun ⟨_, member, _⟩ => absurd member List.not_mem_nil)
            fun both => stopped both.1

/-- **The places of a gap** are the free ones beside any place of it. -/
theorem mem_gap_iff {gap : Nat × Nat} (ordered : points.Pairwise (· ≤ ·)) (small : first ≤ last)
    (near : ∀ point ∈ points, first ≤ point + 1) (member : gap ∈ gaps last first points)
    (inside : Inside gap place) :
    Inside gap other ↔ (first ≤ other ∧ Free last points other) ∧ Beside points place other := by
  induction points generalizing first with
  | nil =>
      rw [gaps, if_pos small, List.mem_singleton] at member
      subst member
      simp [Inside, Free, Beside]
  | cons point rest ih =>
      obtain ⟨least, later⟩ := List.pairwise_cons.mp ordered
      have near' : ∀ other ∈ rest, point + 1 ≤ other + 1 :=
        fun other member => Nat.succ_le_succ (least other member)
      rw [free_cons_iff ordered (near point List.mem_cons_self)]
      rw [gaps] at member
      obtain front | behind := List.mem_append.mp member
      · split at front
        case isFalse => cases front
        case isTrue room =>
          -- the gap in front of the first number: no number stands before it
          rw [List.mem_singleton] at front
          subst front
          obtain ⟨low, high⟩ := inside
          constructor
          · rintro ⟨low', high'⟩
            refine ⟨Or.inl ⟨low', by dsimp only at high'; omega⟩, fun next member => ?_⟩
            dsimp only at low low' high high'
            obtain rfl | after := List.mem_cons.mp member
            · omega
            · have bound := least next after
              omega
          · rintro ⟨⟨low', front⟩ | ⟨-, above, -⟩, same⟩
            · exact ⟨low', Nat.le_sub_one_of_lt front⟩
            · have before := same point List.mem_cons_self
              dsimp only at high
              omega
      · split at behind
        case isFalse => cases behind
        case isTrue more =>
          have free := (mem_gaps_iff later more near').mp ⟨gap, behind, inside⟩
          rw [ih later more near' behind]
          constructor
          · rintro ⟨⟨above, reached⟩, same⟩
            refine ⟨Or.inr ⟨more, above, reached⟩, fun next member => ?_⟩
            obtain rfl | after := List.mem_cons.mp member
            · omega
            · exact same next after
          · rintro ⟨⟨-, front⟩ | ⟨-, above, reached⟩, same⟩
            · have before := same point List.mem_cons_self
              omega
            · exact ⟨⟨above, reached⟩, fun next member => same next (List.mem_cons_of_mem _ member)⟩

end RsTun.Library.Gaps
