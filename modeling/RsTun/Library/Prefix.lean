/-
**Address prefixes as blocks of numbers.**

An address of `width` bits lies in the block of the `2 ^ (width - length)` addresses that share its
first `length` bits. The bit masks that programs compute with are this arithmetic:

* `and_mask` — masking an address gives the first address of its block.
* `or_complement_mask` — filling the host bits gives the last one.
* `same_block_succ_iff` — an address and the next one lie in one block exactly when the address is
  not the last of its block.
* `mem_block_iff`, `block_subset_iff`, `block_inter_nonempty_iff` — blocks as sets of numbers.
* `sameBlock_succ_iff` — the two halves of a block.
* `sameBlock_upperHalf_iff` — the upper half of a block, which setting a bit leads to.
-/

import Mathlib.Data.Nat.Bitwise
import Mathlib.Order.Interval.Set.Defs
import Mathlib.Tactic.Ring

namespace RsTun.Library

namespace Prefix

/-- The number of addresses of a block. -/
def blockSize (width length : Nat) : Nat := 2 ^ (width - length)

/-- The first address of the block of an address. -/
def blockStart (width length addr : Nat) : Nat :=
  addr / blockSize width length * blockSize width length

/-- The place of an address in its block. -/
def hostPart (width length addr : Nat) : Nat := addr % blockSize width length

/-- `!x` in `width` bits. -/
def complement (width number : Nat) : Nat := 2 ^ width - 1 - number

/-- `if len == 0 { 0 } else { !((1 << (width - len)) - 1) }`. -/
def mask (width length : Nat) : Nat :=
  if length = 0 then 0 else complement width ((1 <<< (width - length)) - 1)

theorem blockSize_pos (width length : Nat) : 0 < blockSize width length := Nat.two_pow_pos _

theorem hostPart_lt (width length addr : Nat) :
    hostPart width length addr < blockSize width length :=
  Nat.mod_lt _ (blockSize_pos width length)

/-- An address is the start of its block and its place in it. -/
theorem blockStart_add_hostPart (width length addr : Nat) :
    blockStart width length addr + hostPart width length addr = addr := by
  rw [blockStart, hostPart, Nat.mul_comm]
  exact Nat.div_add_mod _ _

/-- The mask keeps the first `length` bits. -/
theorem testBit_mask {width length : Nat} (valid : length ≤ width) (index : Nat) :
    (mask width length).testBit index = decide (width - length ≤ index ∧ index < width) := by
  by_cases none : length = 0
  · rw [mask, if_pos none, Nat.zero_testBit, none]
    simp
  · have split : complement width ((1 <<< (width - length)) - 1)
        = (2 ^ length - 1) * 2 ^ (width - length) := by
      have whole : 2 ^ width = 2 ^ length * 2 ^ (width - length) := by
        rw [← pow_add, Nat.add_sub_cancel' valid]
      have small : 1 ≤ 2 ^ (width - length) := Nat.two_pow_pos _
      rw [complement, Nat.one_shiftLeft, Nat.sub_mul, whole]
      omega
    rw [mask, if_neg none, split, Nat.testBit_mul_two_pow, Nat.testBit_two_pow_sub_one]
    by_cases low : width - length ≤ index
    · simp only [low, decide_true, Bool.true_and, true_and, decide_eq_decide]
      omega
    · simp [low]

/-- **Masking an address** gives the start of its block. -/
theorem and_mask {width length addr : Nat} (valid : length ≤ width) (fits : addr < 2 ^ width) :
    addr &&& mask width length = blockStart width length addr := by
  apply Nat.eq_of_testBit_eq
  intro index
  rw [Nat.testBit_and, testBit_mask valid, blockStart, blockSize, Nat.testBit_mul_two_pow,
    Nat.testBit_div_two_pow]
  by_cases low : width - length ≤ index
  · rw [Nat.sub_add_cancel low]
    by_cases high : index < width
    · simp [low, high]
    · have zero : addr.testBit index = false :=
        Nat.testBit_lt_two_pow (lt_of_lt_of_le fits (Nat.pow_le_pow_right (by omega) (by omega)))
      simp [zero]
  · simp [low]

/-- **Filling the host bits** gives the last address of the block. -/
theorem or_complement_mask {width length addr : Nat} :
    blockStart width length addr ||| complement width (mask width length)
      = blockStart width length addr + (blockSize width length - 1) := by
  have filled : complement width (mask width length) = blockSize width length - 1 := by
    have small : 2 ^ (width - length) ≤ 2 ^ width :=
      Nat.pow_le_pow_right (by omega) (Nat.sub_le _ _)
    have positive : 0 < 2 ^ (width - length) := Nat.two_pow_pos _
    rw [mask, blockSize]
    split
    · rename_i none
      rw [none, complement, Nat.sub_zero, Nat.sub_zero]
    · rw [complement, complement, Nat.one_shiftLeft]
      omega
  have host : blockSize width length - 1 < 2 ^ (width - length) :=
    Nat.sub_lt (blockSize_pos width length) Nat.one_pos
  rw [filled, blockStart, blockSize, Nat.mul_comm]
  exact (Nat.two_pow_add_eq_or_of_lt host _).symm

/-- **An address and the next one** lie in one block exactly when there is room behind the first. -/
theorem same_block_succ_iff {width length addr : Nat} :
    blockStart width length addr = blockStart width length (addr + 1)
      ↔ hostPart width length addr + 1 < blockSize width length := by
  have here := blockStart_add_hostPart width length addr
  have next := blockStart_add_hostPart width length (addr + 1)
  have nextSmall := hostPart_lt width length (addr + 1)
  constructor
  · intro same
    omega
  · intro room
    have quotient : (addr + 1) / blockSize width length = addr / blockSize width length := by
      refine Nat.div_eq_of_lt_le ?_ ?_
      · exact Nat.le_succ_of_le (Nat.div_mul_le_self _ _)
      · have unfolded : addr / blockSize width length * blockSize width length
            + hostPart width length addr = addr := here
        rw [Nat.succ_mul]
        omega
    rw [blockStart, blockStart, quotient]

/-! ### Blocks and their halves -/

/-- Two addresses share their first `length` bits. -/
def SameBlock (width length first second : Nat) : Prop :=
  first / blockSize width length = second / blockSize width length

instance (width length first second : Nat) : Decidable (SameBlock width length first second) :=
  inferInstanceAs (Decidable (_ = _))

variable {width length first second third : Nat}

theorem sameBlock_iff_blockStart :
    SameBlock width length first second
      ↔ blockStart width length first = blockStart width length second :=
  (Nat.mul_left_inj (blockSize_pos width length).ne').symm

theorem SameBlock.symm (same : SameBlock width length first second) :
    SameBlock width length second first := Eq.symm same

theorem SameBlock.trans (same : SameBlock width length first second)
    (same' : SameBlock width length second third) : SameBlock width length first third :=
  Eq.trans same same'

theorem blockSize_split {shorter : Nat} (le : shorter ≤ length) (valid : length ≤ width) :
    blockSize width shorter = blockSize width length * 2 ^ (length - shorter) := by
  rw [blockSize, blockSize, ← pow_add]
  congr 1
  omega

/-- **Who shares more bits** shares fewer. -/
theorem SameBlock.coarser {shorter : Nat} (le : shorter ≤ length) (valid : length ≤ width)
    (same : SameBlock width length first second) : SameBlock width shorter first second := by
  unfold SameBlock at same ⊢
  rw [blockSize_split le valid, ← Nat.div_div_eq_div_mul, ← Nat.div_div_eq_div_mul, same]

/-- Two blocks meet in an address exactly when the shorter prefix contains the other address. -/
theorem sameBlock_min_iff {other : Nat} (valid : length ≤ width) (valid' : other ≤ width) :
    (∃ addr, SameBlock width length first addr ∧ SameBlock width other second addr)
      ↔ SameBlock width (min length other) first second := by
  constructor
  · rintro ⟨addr, near, near'⟩
    exact (near.coarser (Nat.min_le_left _ _) valid).trans
      (near'.coarser (Nat.min_le_right _ _) valid').symm
  · intro same
    rcases Nat.le_total length other with shorter | longer
    · rw [Nat.min_eq_left shorter] at same
      exact ⟨second, same, rfl⟩
    · rw [Nat.min_eq_right longer] at same
      exact ⟨first, rfl, same.symm⟩

/-- The addresses of a block, from the first to the last. -/
def block (width length addr : Nat) : Set Nat :=
  Set.Icc (blockStart width length addr)
    (blockStart width length addr + (blockSize width length - 1))

theorem mem_block_iff :
    second ∈ block width length first ↔ SameBlock width length first second := by
  have positive := blockSize_pos width length
  have place := Nat.div_add_mod second (blockSize width length)
  have small := Nat.mod_lt second positive
  rw [Nat.mul_comm] at place
  unfold block SameBlock blockStart
  rw [Set.mem_Icc]
  constructor
  · rintro ⟨low, high⟩
    refine (Nat.div_eq_of_lt_le low ?_).symm
    rw [Nat.succ_mul]
    omega
  · intro same
    rw [same]
    omega

/-- A block lies in another one exactly when it has the longer prefix and shares the shorter one. -/
theorem block_subset_iff {longer : Nat} (valid : longer ≤ width) (valid' : length ≤ width) :
    block width longer second ⊆ block width length first
      ↔ length ≤ longer ∧ SameBlock width length first second := by
  constructor
  · intro subset
    refine ⟨Nat.le_of_not_lt fun shorter => ?_,
      mem_block_iff.mp (subset (mem_block_iff.mpr rfl))⟩
    have smaller : blockSize width length < blockSize width longer :=
      Nat.pow_lt_pow_right (by norm_num) (by omega)
    have positive := blockSize_pos width longer
    have start : blockStart width longer second ∈ block width longer second :=
      ⟨Nat.le_refl _, Nat.le_add_right _ _⟩
    have stop : blockStart width longer second + (blockSize width longer - 1)
        ∈ block width longer second := ⟨Nat.le_add_right _ _, Nat.le_refl _⟩
    have low := (Set.mem_Icc.mp (subset start)).1
    have high := (Set.mem_Icc.mp (subset stop)).2
    have positive' := blockSize_pos width length
    omega
  · rintro ⟨le, same⟩ addr inside
    exact mem_block_iff.mpr (same.trans ((mem_block_iff.mp inside).coarser le valid))

/-- Two blocks meet exactly when they share the shorter prefix. -/
theorem block_inter_nonempty_iff {other : Nat} (valid : length ≤ width) (valid' : other ≤ width) :
    (block width length first ∩ block width other second).Nonempty
      ↔ SameBlock width (min length other) first second := by
  rw [← sameBlock_min_iff valid valid']
  exact exists_congr fun addr => and_congr mem_block_iff mem_block_iff

theorem blockSize_succ (inside : length < width) :
    blockSize width length = 2 * blockSize width (length + 1) := by
  rw [blockSize_split (Nat.le_succ length) inside, Nat.succ_sub (Nat.le_refl length), Nat.sub_self,
    pow_one, Nat.mul_comm]

/-- The half of its block that an address lies in is the quotient of the next length. -/
theorem div_blockSize_succ (inside : length < width) (addr : Nat) :
    addr / blockSize width (length + 1) = 2 * (addr / blockSize width length)
      + hostPart width length addr / blockSize width (length + 1) := by
  have positive := blockSize_pos width (length + 1)
  have split : addr = blockSize width (length + 1) * (2 * (addr / blockSize width length))
      + hostPart width length addr := by
    have start := blockStart_add_hostPart width length addr
    rw [blockStart, Nat.mul_comm] at start
    conv_lhs => rw [← start]
    rw [← Nat.mul_assoc, Nat.mul_comm (blockSize width (length + 1)) 2, ← blockSize_succ inside]
  conv_lhs => rw [split]
  exact Nat.mul_add_div positive _ _

theorem hostPart_div_half (inside : length < width) (addr : Nat) :
    hostPart width length addr / blockSize width (length + 1)
      = if blockSize width (length + 1) ≤ hostPart width length addr then 1 else 0 := by
  have small := hostPart_lt width length addr
  rw [blockSize_succ inside] at small
  split
  · rename_i upper
    exact Nat.div_eq_of_lt_le (by omega) (by omega)
  · rename_i lower
    exact Nat.div_eq_of_lt (by omega)

/-- **The halves of a block**: one more bit is shared exactly by two addresses of one half. -/
theorem sameBlock_succ_iff (inside : length < width) :
    SameBlock width (length + 1) first second ↔ SameBlock width length first second
      ∧ (blockSize width (length + 1) ≤ hostPart width length first
        ↔ blockSize width (length + 1) ≤ hostPart width length second) := by
  unfold SameBlock
  rw [div_blockSize_succ inside first, div_blockSize_succ inside second,
    hostPart_div_half inside first, hostPart_div_half inside second]
  by_cases upper : blockSize width (length + 1) ≤ hostPart width length first <;>
    by_cases upper' : blockSize width (length + 1) ≤ hostPart width length second
  · rw [if_pos upper, if_pos upper']
    omega
  · rw [if_pos upper, if_neg upper']
    omega
  · rw [if_neg upper, if_pos upper']
    omega
  · rw [if_neg upper, if_neg upper']
    omega

/-- In the lower half, the place in the block is the place in the half. -/
theorem hostPart_succ (inside : length < width) (addr : Nat) :
    hostPart width (length + 1) addr
      = if blockSize width (length + 1) ≤ hostPart width length addr
        then hostPart width length addr - blockSize width (length + 1)
        else hostPart width length addr := by
  have small := hostPart_lt width length addr
  rw [blockSize_succ inside] at small
  have nested : hostPart width (length + 1) addr
      = hostPart width length addr % blockSize width (length + 1) := by
    rw [hostPart, hostPart, blockSize_succ inside, Nat.mod_mul_left_mod]
  rw [nested]
  split
  · rename_i upper
    rw [Nat.mod_eq_sub_mod upper, Nat.mod_eq_of_lt (by omega)]
  · rename_i lower
    exact Nat.mod_eq_of_lt (by omega)

/-- The start of the upper half of the block of an address. -/
def upperHalf (width length addr : Nat) : Nat :=
  blockStart width (length + 1) (addr ||| 1 <<< (width - (length + 1)))

/-- Setting the lowest bit. -/
theorem or_one (number : Nat) : number ||| 1 = 2 * (number / 2) + 1 := by
  have high : (number ||| 1) / 2 = number / 2 := by
    rw [Nat.or_div_two, Nat.or_zero]
  have low : (number ||| 1) % 2 = 1 := Nat.or_mod_two_eq_one.mpr (.inr rfl)
  omega

theorem upperHalf_div (inside : length < width) (addr : Nat) :
    upperHalf width length addr / blockSize width (length + 1)
      = 2 * (addr / blockSize width length) + 1 := by
  have double := div_blockSize_succ inside addr
  have place := hostPart_div_half inside addr
  have set : (addr ||| 1 <<< (width - (length + 1))) / blockSize width (length + 1)
      = addr / blockSize width (length + 1) ||| 1 := by
    rw [Nat.one_shiftLeft, blockSize, Nat.or_div_two_pow, Nat.div_self (Nat.two_pow_pos _)]
  rw [upperHalf, blockStart, Nat.mul_div_cancel _ (blockSize_pos _ _), set, or_one, double, place]
  split <;> omega

/-- An address of the block lies in the half that starts at `upperHalf` exactly when its next bit is
set. -/
theorem sameBlock_upperHalf_iff (inside : length < width) (addr other : Nat) :
    SameBlock width (length + 1) (upperHalf width length addr) other
      ↔ SameBlock width length addr other
        ∧ blockSize width (length + 1) ≤ hostPart width length other := by
  have whole := upperHalf_div inside addr
  have double := div_blockSize_succ inside other
  have place := hostPart_div_half inside other
  unfold SameBlock
  split at place
  · rename_i upper
    omega
  · rename_i lower
    omega

/-- The start of a half is at its own place 0. -/
theorem hostPart_upperHalf (width length addr : Nat) :
    hostPart width (length + 1) (upperHalf width length addr) = 0 :=
  Nat.mul_mod_left _ _

theorem upperHalf_lt (inside : length < width) {addr : Nat} (fits : addr < 2 ^ width) :
    upperHalf width length addr < 2 ^ width := by
  have bit : 1 <<< (width - (length + 1)) < 2 ^ width := by
    rw [Nat.one_shiftLeft]
    exact Nat.pow_lt_pow_right (by norm_num) (by omega)
  exact lt_of_le_of_lt (Nat.div_mul_le_self _ _) (Nat.or_lt_two_pow fits bit)

end Prefix

end RsTun.Library
