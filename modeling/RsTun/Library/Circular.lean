/-
**Windows on a list whose end meets its beginning.**

`window cells start count` are the `count` cells from `start` on, going on with the first cell after
the last; `put cells start data` writes `data` there, in the two pieces into which a copy is cut at
the end. `wrap` brings a position back into the list.

* `getElem?_window`, `getElem?_put` — both, cell by cell.
* `window_append` — a window is one window after another.
* `window_put_self`, `window_put_before` — a window that was written, and the window in front of it.
* `window_eq_of_getElem?`, `window_set_behind` — the same for a write of one cell after the other.
-/

import Mathlib.Data.List.Basic

namespace RsTun.Library.Circular

universe u

variable {Item : Type u}

/-- A position at most one round ahead, brought back. -/
def wrap (size position : Nat) : Nat := if position < size then position else position - size

theorem wrap_lt {size position : Nat} (near : position < size + size) :
    wrap size position < size := by
  unfold wrap
  split
  · assumption
  · omega

/-- The remainder of a position at most one round ahead. -/
theorem mod_eq_wrap {size position : Nat} (near : position < size + size) :
    position % size = wrap size position := by
  unfold wrap
  split
  · rename_i inside
    exact Nat.mod_eq_of_lt inside
  · rename_i ahead
    rw [Nat.mod_eq_sub_mod (Nat.not_lt.mp ahead), Nat.mod_eq_of_lt (by omega)]

/-- Two positions within one round are the same only if they are equally far ahead. -/
theorem wrap_inj {size start first second : Nat} (one : first < size) (other : second < size)
    (same : wrap size (start + first) = wrap size (start + second)) :
    first = second := by
  unfold wrap at same
  split at same <;> split at same <;> omega

/-- A position ahead of a position that was brought back. -/
theorem wrap_wrap_add {size start first second : Nat} (inside : start < size)
    (near : first + second < size) :
    wrap size (wrap size (start + first) + second) = wrap size (start + (first + second)) := by
  unfold wrap
  split <;> split <;> split <;> omega

/-- The `count` cells from `start` on. -/
def window (cells : List Item) (start count : Nat) : List Item :=
  ((cells ++ cells).drop start).take count

/-- `data` written from `start` on. -/
def put (cells : List Item) (start : Nat) (data : List Item) : List Item :=
  if start + data.length ≤ cells.length then
    cells.take start ++ data ++ cells.drop (start + data.length)
  else
    let firstPart := cells.length - start
    data.drop firstPart ++ (cells.take start).drop (data.length - firstPart) ++ data.take firstPart

variable {cells data : List Item} {start count : Nat}

@[simp] theorem window_zero (cells : List Item) (start : Nat) : window cells start 0 = [] :=
  List.take_zero

theorem length_window (inside : start ≤ cells.length) (fits : count ≤ cells.length) :
    (window cells start count).length = count := by
  rw [window, List.length_take, List.length_drop, List.length_append]
  omega

/-- **A window, cell by cell.** -/
theorem getElem?_window {index : Nat} (early : index < count) :
    (window cells start count)[index]? = cells[wrap cells.length (start + index)]? := by
  rw [window, List.getElem?_take, if_pos early, List.getElem?_drop, wrap]
  split
  · rename_i before
    exact List.getElem?_append_left before
  · rename_i behind
    exact List.getElem?_append_right (Nat.not_lt.mp behind)

theorem length_put (start : Nat) (fits : data.length ≤ cells.length) :
    (put cells start data).length = cells.length := by
  unfold put
  split
  · rw [List.length_append, List.length_append, List.length_take, List.length_drop]
    omega
  · dsimp only
    rw [List.length_append, List.length_append, List.length_drop, List.length_drop,
      List.length_take, List.length_take]
    omega

/-- **A write, cell by cell.** -/
theorem getElem?_put {cell : Nat} (inside : start ≤ cells.length)
    (fits : data.length ≤ cells.length) (within : cell < cells.length) :
    (put cells start data)[cell]?
      = if start ≤ cell ∧ cell < start + data.length then data[cell - start]?
        else if cell + cells.length < start + data.length then
          data[cell + cells.length - start]?
        else cells[cell]? := by
  have front : (cells.take start).length = start := by
    rw [List.length_take]
    omega
  unfold put
  by_cases whole : start + data.length ≤ cells.length
  · rw [if_pos whole, List.append_assoc, List.getElem?_append, front]
    by_cases before : cell < start
    · rw [if_pos before, if_neg (by omega), if_neg (by omega), List.getElem?_take, if_pos before]
    · rw [if_neg before, List.getElem?_append]
      by_cases written : cell - start < data.length
      · rw [if_pos written, if_pos (by omega)]
      · rw [if_neg written, if_neg (by omega), if_neg (by omega), List.getElem?_drop]
        congr 1
        omega
  · rw [if_neg whole]
    dsimp only
    have second : (data.drop (cells.length - start)).length
        = start + data.length - cells.length := by
      rw [List.length_drop]
      omega
    have middle : ((cells.take start).drop (data.length - (cells.length - start))).length
        = cells.length - data.length := by
      rw [List.length_drop, front]
      omega
    rw [List.append_assoc, List.getElem?_append, second, List.getElem?_append, middle]
    by_cases wrapped : cell < start + data.length - cells.length
    · rw [if_pos wrapped, if_neg (by omega), if_pos (by omega), List.getElem?_drop]
      congr 1
      omega
    · rw [if_neg wrapped]
      by_cases kept : cell - (start + data.length - cells.length) < cells.length - data.length
      · rw [if_pos kept, if_neg (by omega), if_neg (by omega), List.getElem?_drop,
          List.getElem?_take, if_pos (by omega)]
        congr 1
        omega
      · rw [if_neg kept, if_pos (by omega), List.getElem?_take, if_pos (by omega)]
        congr 1
        omega

/-- **One window after another.** -/
theorem window_append {first second : Nat} (inside : start < cells.length)
    (fits : first + second ≤ cells.length) :
    window cells start (first + second)
      = window cells start first ++ window cells (wrap cells.length (start + first)) second := by
  have wrapped : wrap cells.length (start + first) < cells.length :=
    wrap_lt (by omega)
  have size := @length_window _ cells start first (Nat.le_of_lt inside) (by omega)
  apply List.ext_getElem?
  intro index
  rw [List.getElem?_append, size]
  by_cases early : index < first
  · rw [if_pos early, getElem?_window (by omega), getElem?_window early]
  · rw [if_neg early]
    by_cases late : index < first + second
    · rw [getElem?_window late, getElem?_window (by omega)]
      congr 1
      unfold wrap
      split <;> split <;> (try split) <;> omega
    · rw [List.getElem?_eq_none, List.getElem?_eq_none]
      · rw [length_window (Nat.le_of_lt wrapped) (by omega)]
        omega
      · rw [length_window (Nat.le_of_lt inside) fits]
        omega

/-- **A window that was written.** -/
theorem window_put_self (inside : start < cells.length) (fits : data.length ≤ cells.length) :
    window (put cells start data) start data.length = data := by
  have size := length_put start fits
  apply List.ext_getElem?
  intro index
  by_cases early : index < data.length
  · have near : wrap cells.length (start + index) < cells.length := wrap_lt (by omega)
    rw [getElem?_window early, size,
      getElem?_put (Nat.le_of_lt inside) fits near]
    unfold wrap
    by_cases straight : start + index < cells.length
    · rw [if_pos straight, if_pos (by omega)]
      congr 1
      omega
    · rw [if_neg straight, if_neg (by omega), if_pos (by omega)]
      congr 1
      omega
  · rw [List.getElem?_eq_none, List.getElem?_eq_none (Nat.not_lt.mp early)]
    rw [length_window (by omega) (by rwa [size])]
    omega

/-- **The window in front of a write** that leaves it room. -/
theorem window_put_before (inside : start < cells.length)
    (fits : count + data.length ≤ cells.length) :
    window (put cells (wrap cells.length (start + count)) data) start count
      = window cells start count := by
  have target : wrap cells.length (start + count) < cells.length :=
    wrap_lt (by omega)
  have room : data.length ≤ cells.length := by omega
  have size := length_put (wrap cells.length (start + count)) room
  apply List.ext_getElem?
  intro index
  by_cases early : index < count
  · have near : wrap cells.length (start + index) < cells.length := wrap_lt (by omega)
    rw [getElem?_window early, size,
      getElem?_put (Nat.le_of_lt target) room near, getElem?_window early]
    unfold wrap
    by_cases straight : start + index < cells.length
    · rw [if_pos straight]
      by_cases ahead : start + count < cells.length
      · rw [if_pos ahead, if_neg (by omega), if_neg (by omega)]
      · rw [if_neg ahead, if_neg (by omega), if_neg (by omega)]
    · rw [if_neg straight]
      by_cases ahead : start + count < cells.length
      · omega
      · rw [if_neg ahead, if_neg (by omega), if_neg (by omega)]
  · rw [List.getElem?_eq_none, List.getElem?_eq_none]
    · rw [length_window (Nat.le_of_lt inside) (by omega)]
      omega
    · rw [length_window (by omega) (by omega)]
      omega

/-- **A window, from its cells.** -/
theorem window_eq_of_getElem? (inside : start ≤ cells.length) (fits : data.length ≤ cells.length)
    (same : ∀ index, index < data.length → cells[wrap cells.length (start + index)]?
      = data[index]?) :
    window cells start data.length = data := by
  apply List.ext_getElem?
  intro index
  by_cases early : index < data.length
  · rw [getElem?_window early, same index early]
  · rw [List.getElem?_eq_none, List.getElem?_eq_none (Nat.not_lt.mp early)]
    rw [length_window inside fits]
    exact Nat.not_lt.mp early

/-- **The window in front of a cell** that was written. -/
theorem window_set_behind {place : Nat} (inside : start < cells.length)
    (behind : count ≤ place) (near : place < cells.length) (item : Item) :
    window (cells.set (wrap cells.length (start + place)) item) start count
      = window cells start count := by
  have size : (cells.set (wrap cells.length (start + place)) item).length = cells.length :=
    List.length_set
  apply List.ext_getElem?
  intro index
  by_cases early : index < count
  · have other : wrap cells.length (start + place) ≠ wrap cells.length (start + index) := by
      intro same
      have := wrap_inj near (by omega) same
      omega
    rw [getElem?_window early, getElem?_window early, size, List.getElem?_set_ne other]
  · have room : count ≤ cells.length := by omega
    rw [List.getElem?_eq_none, List.getElem?_eq_none]
    · rw [length_window (Nat.le_of_lt inside) room]
      exact Nat.not_lt.mp early
    · rw [length_window (by rw [size]; exact Nat.le_of_lt inside) (by rwa [size])]
      exact Nat.not_lt.mp early

end RsTun.Library.Circular
