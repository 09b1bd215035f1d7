/-
**A list cut into pieces of one size, the last of them shorter.**

* `flatten_pieces` — the pieces, one after the other, are the list.
* `length_piece`, `length_piece_of_succ_lt` — all pieces but the last have the full size.
* `piece_append_of_le`, `piece_append_of_eq`, `piece_prepend_zero`, `piece_prepend_succ` — the
  pieces of a list that grows by one piece at an end.
* `foldl_overwrite_piece` — the pieces of a byte string, put in place in any order and any number of
  times, give the string back once each of them has been there.
-/

import Mathlib.Data.List.Basic
import Mathlib.Tactic.Ring
import RsTun.Library.Bytes

namespace RsTun.Library

universe u

variable {Item : Type u}

/-- The piece with number `index`, counted from zero. -/
def piece (size : Nat) (items : List Item) (index : Nat) : List Item :=
  (items.drop (index * size)).take size

/-- `length.div_ceil(size)`. -/
def pieceCount (size length : Nat) : Nat := (length + size - 1) / size

/-- All pieces, in order. -/
def pieces (size : Nat) (items : List Item) : List (List Item) :=
  (List.range (pieceCount size items.length)).map (piece size items)

theorem length_piece (size : Nat) (items : List Item) (index : Nat) :
    (piece size items index).length = min size (items.length - index * size) := by
  rw [piece, List.length_take, List.length_drop]

/-- A piece is within the list exactly when its number is below the count. -/
theorem lt_pieceCount_iff {size length index : Nat} (positive : 0 < size) :
    index < pieceCount size length ↔ index * size < length := by
  rw [pieceCount, Nat.lt_iff_add_one_le, Nat.le_div_iff_mul_le positive, Nat.succ_mul]
  omega

/-- **A piece that is not the last one** has the full size. -/
theorem length_piece_of_succ_lt {size index : Nat} {items : List Item} (positive : 0 < size)
    (later : index + 1 < pieceCount size items.length) :
    (piece size items index).length = size := by
  have inside := (lt_pieceCount_iff positive).mp later
  rw [Nat.succ_mul] at inside
  rw [length_piece]
  omega

/-- An entry of a list that is tabulated. -/
theorem getElem?_map_range {Value : Type u} {count index : Nat} {entry : Value}
    {table : Nat → Value} (found : ((List.range count).map table)[index]? = some entry) :
    index < count ∧ table index = entry := by
  obtain ⟨inside, same⟩ := List.getElem?_eq_some_iff.mp found
  rw [List.length_map, List.length_range] at inside
  rw [List.getElem_map, List.getElem_range] at same
  exact ⟨inside, same⟩

/-- The first pieces together. -/
theorem flatten_map_piece (size : Nat) (items : List Item) (count : Nat) :
    ((List.range count).map (piece size items)).flatten = items.take (count * size) := by
  induction count with
  | zero => simp
  | succ count ih =>
      rw [List.range_succ, List.map_append, List.flatten_append, ih, Nat.succ_mul, List.take_add]
      simp [piece]

/-- **The pieces, one after the other, are the list.** -/
theorem flatten_pieces {size : Nat} (positive : 0 < size) (items : List Item) :
    (pieces size items).flatten = items := by
  have covered : ¬ pieceCount size items.length * size < items.length := by
    rw [← lt_pieceCount_iff positive]
    exact Nat.lt_irrefl _
  rw [pieces, flatten_map_piece]
  exact List.take_of_length_le (Nat.le_of_not_lt covered)

/-! ### One more piece -/

theorem pieceCount_add {size : Nat} (positive : 0 < size) (length : Nat) :
    pieceCount size (size + length) = pieceCount size length + 1 := by
  have shift : size + length + size - 1 = length + size - 1 + size := by omega
  rw [pieceCount, pieceCount, shift, Nat.add_div_right _ positive]

theorem pieceCount_mul_add {size rest : Nat} (positive : 0 < size) (some : 0 < rest)
    (short : rest ≤ size) : ∀ count : Nat, pieceCount size (count * size + rest) = count + 1
  | 0 => by
      rw [Nat.zero_mul, Nat.zero_add, pieceCount]
      exact Nat.div_eq_of_lt_le (by omega) (by omega)
  | count + 1 => by
      have first : (count + 1) * size + rest = size + (count * size + rest) := by
        rw [Nat.succ_mul]
        omega
      rw [first, pieceCount_add positive, pieceCount_mul_add positive some short count]

theorem pieceCount_mul {size : Nat} (positive : 0 < size) (count : Nat) :
    pieceCount size (count * size) = count := by
  refine Nat.le_antisymm (Nat.le_of_not_lt fun beyond => ?_) (Nat.le_of_not_lt fun within => ?_)
  · exact Nat.lt_irrefl _ ((lt_pieceCount_iff positive).mp beyond)
  · have last := mt (lt_pieceCount_iff positive).mpr
      (Nat.lt_irrefl (pieceCount size (count * size)))
    exact last (Nat.mul_lt_mul_of_pos_right within positive)

/-- A piece within the front of a list. -/
theorem piece_append_of_le {size index : Nat} {front : List Item} (back : List Item)
    (within : (index + 1) * size ≤ front.length) :
    piece size (front ++ back) index = piece size front index := by
  rw [Nat.succ_mul] at within
  rw [piece, piece, List.drop_append_of_le_length (by omega), List.take_append_of_le_length]
  rw [List.length_drop]
  omega

/-- The piece behind full ones. -/
theorem piece_append_of_eq {size index : Nat} {front back : List Item}
    (full : front.length = index * size) (short : back.length ≤ size) :
    piece size (front ++ back) index = back := by
  rw [piece, ← full, List.drop_left, List.take_of_length_le short]

theorem piece_prepend_zero {size : Nat} {front : List Item} (back : List Item)
    (full : front.length = size) : piece size (front ++ back) 0 = front := by
  rw [piece, Nat.zero_mul, List.drop_zero, ← full, List.take_left]

theorem piece_prepend_succ {size : Nat} {front : List Item} (back : List Item)
    (full : front.length = size) (index : Nat) :
    piece size (front ++ back) (index + 1) = piece size back index := by
  rw [piece, piece, Nat.succ_mul, Nat.add_comm, ← full, List.drop_length_add_append]

/-! ### Pieces put in place -/

open Bytes

section Place

variable {size : Nat} {items : Bytes}

/-- A piece behind the end is empty. -/
theorem overwrite_piece_of_beyond {index : Nat} (buffer : Bytes)
    (beyond : items.length < index * size) :
    overwrite buffer (index * size) (piece size items index) = buffer := by
  have none : piece size items index = [] := List.eq_nil_of_length_eq_zero (by
    rw [length_piece]
    omega)
  rw [none, overwrite, List.append_nil, List.length_nil, Nat.add_zero, List.take_append_drop]

/-- Any other piece fits. -/
theorem piece_fits {index : Nat} {buffer : Bytes} (sized : buffer.length = items.length)
    (within : ¬ items.length < index * size) :
    index * size + (piece size items index).length ≤ buffer.length := by
  rw [length_piece, sized]
  omega

theorem length_overwrite_piece {buffer : Bytes} (sized : buffer.length = items.length)
    (index : Nat) :
    (overwrite buffer (index * size) (piece size items index)).length = items.length := by
  by_cases beyond : items.length < index * size
  · rw [overwrite_piece_of_beyond buffer beyond, sized]
  · rw [length_overwrite (piece_fits sized beyond), sized]

/-- One piece in place. -/
theorem getElem?_overwrite_piece {buffer : Bytes} (sized : buffer.length = items.length)
    (index place : Nat) :
    (overwrite buffer (index * size) (piece size items index))[place]?
        = if index * size ≤ place ∧ place < (index + 1) * size then items[place]?
          else buffer[place]? := by
  rw [Nat.succ_mul]
  by_cases beyond : items.length < index * size
  · rw [overwrite_piece_of_beyond buffer beyond]
    split
    · rw [List.getElem?_eq_none (by omega), List.getElem?_eq_none (by omega)]
    · rfl
  · rw [getElem?_overwrite (piece_fits sized beyond), length_piece]
    by_cases inside : index * size ≤ place ∧ place < index * size + size
    · rw [if_pos inside]
      by_cases within : place < items.length
      · rw [if_pos (by omega), piece, List.getElem?_take, if_pos (by omega), List.getElem?_drop]
        congr 1
        omega
      · rw [if_neg (by omega), List.getElem?_eq_none (by omega), List.getElem?_eq_none (by omega)]
    · rw [if_neg inside, if_neg (by omega)]

/-- **The pieces put in place**, in any order, give the string back. -/
theorem foldl_overwrite_piece (positive : 0 < size) : ∀ {order : List Nat} {buffer : Bytes},
    buffer.length = items.length →
    (∀ place < items.length, buffer[place]? = items[place]? ∨ place / size ∈ order) →
    order.foldl (fun buffer index => overwrite buffer (index * size) (piece size items index))
      buffer = items
  | [], buffer, sized, covered => by
      rw [List.foldl_nil]
      apply List.ext_getElem?
      intro place
      by_cases inside : place < items.length
      · exact (covered place inside).resolve_right List.not_mem_nil
      · rw [List.getElem?_eq_none (by omega), List.getElem?_eq_none (by omega)]
  | index :: order, buffer, sized, covered => by
      rw [List.foldl_cons]
      refine foldl_overwrite_piece positive (length_overwrite_piece sized index)
        fun place inside => ?_
      rw [getElem?_overwrite_piece sized]
      split
      · exact Or.inl rfl
      · rename_i outside
        refine (covered place inside).imp_right fun among => ?_
        refine (List.mem_cons.mp among).resolve_left fun same => outside ?_
        rw [← same]
        rw [Nat.succ_mul]
        exact ⟨Nat.div_mul_le_self place size, Nat.lt_div_mul_add positive⟩

end Place

end RsTun.Library
