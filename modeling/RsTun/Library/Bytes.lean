/-
**Byte strings: slices, overwriting in place, and big-endian numbers.**

* `slice data start size` is `&data[start..start + size]`, and `overwrite data start source` is
  `data[start..start + source.len()].copy_from_slice(source)`. Both are total; each lemma states the
  bound under which the slice exists.
* `value` and `encode` read and write unsigned numbers big-endian; a number that fits is read back
  as it was written (`value_encode`).
* `AgreeOff touched before after` says that two strings have one length and the same byte at every
  offset outside `touched`: the frame of a sequence of overwrites.
-/

import Mathlib.Algebra.Order.Ring.Nat
import Mathlib.Data.List.Basic
import Mathlib.Data.Nat.ModEq
import Mathlib.Data.Set.Basic
import Mathlib.Tactic.Ring

namespace RsTun.Library

/-- A byte string, as `&[u8]` and `Vec<u8>` hold it. -/
abbrev Bytes := List UInt8

namespace Bytes

/-- The `size` bytes from `start` on. -/
def slice (data : Bytes) (start size : Nat) : Bytes := (data.drop start).take size

/-- Copy `source` over the bytes from `start` on. -/
def overwrite (data : Bytes) (start : Nat) (source : Bytes) : Bytes :=
  data.take start ++ source ++ data.drop (start + source.length)

/-- One byte; zero past the end. -/
def byteAt (data : Bytes) (index : Nat) : UInt8 := data.getD index 0

/-! ### Slices and overwriting -/

theorem length_slice {data : Bytes} {start size : Nat} (fits : start + size ≤ data.length) :
    (slice data start size).length = size := by
  rw [slice, List.length_take, List.length_drop]
  omega

@[simp] theorem length_overwrite {data source : Bytes} {start : Nat}
    (fits : start + source.length ≤ data.length) :
    (overwrite data start source).length = data.length := by
  simp only [overwrite, List.length_append, List.length_take, List.length_drop]
  omega

/-- **Every byte after an overwrite.** -/
theorem getElem?_overwrite {data source : Bytes} {start : Nat}
    (fits : start + source.length ≤ data.length) (index : Nat) :
    (overwrite data start source)[index]? =
      if start ≤ index ∧ index < start + source.length then source[index - start]?
      else data[index]? := by
  have front : (data.take start).length = start := by
    rw [List.length_take]
    omega
  rw [overwrite, List.append_assoc, List.getElem?_append, front]
  by_cases before : index < start
  · rw [if_pos before, if_neg (by omega), List.getElem?_take, if_pos before]
  · rw [if_neg before, List.getElem?_append]
    by_cases inside : index - start < source.length
    · rw [if_pos inside, if_pos (by omega)]
    · rw [if_neg inside, if_neg (by omega), List.getElem?_drop]
      congr 1
      omega

theorem slice_zero (data : Bytes) (size : Nat) : slice data 0 size = data.take size := rfl

theorem getElem?_slice (data : Bytes) (start size index : Nat) :
    (slice data start size)[index]? = if index < size then data[start + index]? else none := by
  rw [slice, List.getElem?_take]
  split
  · rw [List.getElem?_drop]
  · rfl

/-- A slice within a prefix. -/
theorem slice_take {data : Bytes} {start size stop : Nat} (within : start + size ≤ stop) :
    slice (data.take stop) start size = slice data start size := by
  rw [slice, slice, List.drop_take, List.take_take, Nat.min_eq_left (by omega)]

/-- A slice behind an offset. -/
theorem slice_drop (data : Bytes) (before start size : Nat) :
    slice (data.drop before) start size = slice data (before + start) size := by
  rw [slice, slice, List.drop_drop]

/-- A slice within a slice. -/
theorem slice_slice {data : Bytes} {outer start size width : Nat} (within : start + size ≤ width) :
    slice (slice data outer width) start size = slice data (outer + start) size := by
  have inner := @slice_take (data.drop outer) start size width within
  rw [slice_drop] at inner
  exact inner

theorem getElem?_eq_byteAt {data : Bytes} {index : Nat} (within : index < data.length) :
    data[index]? = some (byteAt data index) := by
  rw [byteAt, List.getD_eq_getElem?_getD, List.getElem?_eq_getElem within, Option.getD_some]

theorem byteAt_drop (data : Bytes) (before index : Nat) :
    byteAt (data.drop before) index = byteAt data (before + index) := by
  rw [byteAt, byteAt, List.getD_eq_getElem?_getD, List.getD_eq_getElem?_getD, List.getElem?_drop]

theorem byteAt_take {data : Bytes} {index stop : Nat} (within : index < stop) :
    byteAt (data.take stop) index = byteAt data index := by
  rw [byteAt, byteAt, List.getD_eq_getElem?_getD, List.getD_eq_getElem?_getD, List.getElem?_take,
    if_pos within]

/-- A slice within the front of two strings. -/
theorem slice_append_of_le {front : Bytes} (back : Bytes) {start size : Nat}
    (within : start + size ≤ front.length) :
    slice (front ++ back) start size = slice front start size := by
  have cut := @slice_take (front ++ back) start size front.length within
  rwa [List.take_left, eq_comm] at cut

/-- The middle of three parts. -/
theorem slice_middle {front middle back : Bytes} {start size : Nat} (before : front.length = start)
    (long : middle.length = size) : slice (front ++ middle ++ back) start size = middle := by
  rw [slice, List.append_assoc, List.drop_left' before, List.take_left' long]

theorem byteAt_append_of_lt {front : Bytes} (back : Bytes) {index : Nat}
    (within : index < front.length) : byteAt (front ++ back) index = byteAt front index := by
  rw [byteAt, byteAt, List.getD_eq_getElem?_getD, List.getD_eq_getElem?_getD,
    List.getElem?_append_left within]

/-- What was written is what is read back. -/
theorem slice_overwrite_self {data source : Bytes} {start : Nat}
    (fits : start + source.length ≤ data.length) :
    slice (overwrite data start source) start source.length = source := by
  apply List.ext_getElem?
  intro index
  rw [getElem?_slice, getElem?_overwrite fits]
  by_cases inside : index < source.length
  · rw [if_pos inside, if_pos (by omega)]
    congr 1
    omega
  · rw [if_neg inside, List.getElem?_eq_none (by omega)]

/-- An overwrite leaves a slice that it does not meet. -/
theorem slice_overwrite_of_disjoint {data source : Bytes} {start other size : Nat}
    (fits : start + source.length ≤ data.length)
    (apart : other + size ≤ start ∨ start + source.length ≤ other) :
    slice (overwrite data start source) other size = slice data other size := by
  apply List.ext_getElem?
  intro index
  rw [getElem?_slice, getElem?_slice, getElem?_overwrite fits]
  by_cases inside : index < size
  · rw [if_pos inside, if_pos inside, if_neg (by omega)]
  · rw [if_neg inside, if_neg inside]

/-- Past an overwrite, nothing has changed. -/
theorem drop_overwrite_of_le {data source : Bytes} {start past : Nat}
    (fits : start + source.length ≤ data.length) (beyond : start + source.length ≤ past) :
    (overwrite data start source).drop past = data.drop past := by
  apply List.ext_getElem?
  intro index
  rw [List.getElem?_drop, List.getElem?_drop, getElem?_overwrite fits, if_neg (by omega)]

/-- Dropping bytes before an overwrite moves it forward. -/
theorem drop_overwrite_of_ge {data source : Bytes} {start before : Nat}
    (fits : start + source.length ≤ data.length) (earlier : before ≤ start) :
    (overwrite data start source).drop before
      = overwrite (data.drop before) (start - before) source := by
  apply List.ext_getElem?
  intro index
  have fits' : start - before + source.length ≤ (data.drop before).length := by
    rw [List.length_drop]
    omega
  rw [List.getElem?_drop, getElem?_overwrite fits, getElem?_overwrite fits', List.getElem?_drop]
  by_cases inside : start ≤ before + index ∧ before + index < start + source.length
  · rw [if_pos inside, if_pos (by omega)]
    congr 1
    omega
  · rw [if_neg inside, if_neg (by omega)]

/-- Before an overwrite, nothing has changed. -/
theorem take_overwrite_of_le {data source : Bytes} {start size : Nat}
    (fits : start + source.length ≤ data.length) (earlier : size ≤ start) :
    (overwrite data start source).take size = data.take size := by
  apply List.ext_getElem?
  intro index
  rw [List.getElem?_take, List.getElem?_take]
  by_cases inside : index < size
  · rw [if_pos inside, if_pos inside, getElem?_overwrite fits, if_neg (by omega)]
  · rw [if_neg inside, if_neg inside]

/-- A prefix that covers an overwrite contains it. -/
theorem take_overwrite_of_ge {data source : Bytes} {start size : Nat}
    (covered : start + source.length ≤ size) (within : size ≤ data.length) :
    (overwrite data start source).take size = overwrite (data.take size) start source := by
  apply List.ext_getElem?
  intro index
  have fits' : start + source.length ≤ (data.take size).length := by
    rw [List.length_take]
    omega
  rw [getElem?_overwrite fits', List.getElem?_take, List.getElem?_take,
    getElem?_overwrite (covered.trans within)]
  by_cases inside : start ≤ index ∧ index < start + source.length
  · rw [if_pos inside, if_pos inside, if_pos (by omega)]
  · rw [if_neg inside, if_neg inside]

/-- An overwrite up to the end is what is left behind its start. -/
theorem drop_overwrite_self {data source : Bytes} {start : Nat}
    (whole : start + source.length = data.length) :
    (overwrite data start source).drop start = source := by
  have front : (data.take start).length = start := List.length_take_of_le (by omega)
  rw [overwrite, whole, List.drop_length, List.append_nil]
  exact List.drop_left' front

theorem byteAt_overwrite_singleton {data : Bytes} {place : Nat} {byte : UInt8}
    (inside : place < data.length) : byteAt (overwrite data place [byte]) place = byte := by
  have fits : place + ([byte] : Bytes).length ≤ data.length := inside
  have within : place ≤ place ∧ place < place + ([byte] : Bytes).length :=
    ⟨Nat.le_refl _, Nat.lt_succ_self _⟩
  rw [byteAt, List.getD_eq_getElem?_getD, getElem?_overwrite fits, if_pos within, Nat.sub_self]
  rfl

/-! An overwrite of one of two parts. -/

section Parts

variable {front back source : Bytes} {start : Nat}

theorem overwrite_front (fits : start + source.length ≤ front.length) :
    overwrite (front ++ back) start source = overwrite front start source ++ back := by
  rw [overwrite, overwrite, List.take_append_of_le_length (by omega),
    List.drop_append_of_le_length fits]
  simp only [List.append_assoc]

theorem overwrite_back :
    overwrite (front ++ back) (front.length + start) source
      = front ++ overwrite back start source := by
  rw [overwrite, overwrite, Nat.add_assoc, List.take_length_add_append,
    List.drop_length_add_append]
  simp only [List.append_assoc]

end Parts

/-! An overwrite of bytes that are written out, one byte after the other. -/

@[simp] theorem overwrite_nil (data : Bytes) (start : Nat) : overwrite data start [] = data := by
  rw [overwrite, List.append_nil, List.length_nil, Nat.add_zero, List.take_append_drop]

@[simp] theorem overwrite_cons_zero (byte other : UInt8) (data source : Bytes) :
    overwrite (byte :: data) 0 (other :: source) = other :: overwrite data 0 source := by
  rw [overwrite, overwrite, List.length_cons, ← Nat.add_assoc, List.drop_succ_cons]
  rfl

@[simp] theorem overwrite_cons_succ (byte : UInt8) (data source : Bytes) (start : Nat) :
    overwrite (byte :: data) (start + 1) source = byte :: overwrite data start source := by
  rw [overwrite, overwrite, Nat.add_right_comm, List.drop_succ_cons]
  rfl

/-- An overwrite of everything. -/
theorem overwrite_whole {data source : Bytes} (sized : source.length = data.length) :
    overwrite data 0 source = source := by
  rw [overwrite, Nat.zero_add, sized, List.drop_length, List.append_nil]
  rfl

/-- Writing back a slice changes nothing. -/
theorem overwrite_slice_self {data : Bytes} {start size : Nat} (fits : start + size ≤ data.length) :
    overwrite data start (slice data start size) = data := by
  have long : start + (slice data start size).length ≤ data.length := by
    rwa [length_slice fits]
  apply List.ext_getElem?
  intro index
  rw [getElem?_overwrite long, length_slice fits]
  split
  · rw [getElem?_slice, if_pos (by omega)]
    congr 1
    omega
  · rfl

/-- **Overwriting within a slice and writing the slice back** overwrites the whole string once. -/
theorem overwrite_overwrite_slice {data source : Bytes} {start size inner : Nat}
    (fits : start + size ≤ data.length) (within : inner + source.length ≤ size) :
    overwrite data start (overwrite (slice data start size) inner source)
      = overwrite data (start + inner) source := by
  have sliced : inner + source.length ≤ (slice data start size).length := by
    rwa [length_slice fits]
  have long : start + (overwrite (slice data start size) inner source).length ≤ data.length := by
    rwa [length_overwrite sliced, length_slice fits]
  have direct : start + inner + source.length ≤ data.length := by omega
  apply List.ext_getElem?
  intro index
  rw [getElem?_overwrite long, getElem?_overwrite direct, length_overwrite sliced,
    length_slice fits]
  by_cases covered : start ≤ index ∧ index < start + size
  · rw [if_pos covered, getElem?_overwrite sliced]
    by_cases written : inner ≤ index - start ∧ index - start < inner + source.length
    · rw [if_pos written, if_pos (by omega)]
      congr 1
      omega
    · rw [if_neg written, getElem?_slice, if_pos (by omega), if_neg (by omega)]
      congr 1
      omega
  · rw [if_neg covered, if_neg (by omega)]

/-! ### The frame of a sequence of overwrites -/

/-- The two strings agree outside `touched`. -/
def AgreeOff (touched : Set Nat) (before after : Bytes) : Prop :=
  after.length = before.length ∧ ∀ index, index ∉ touched → after[index]? = before[index]?

theorem AgreeOff.refl (touched : Set Nat) (data : Bytes) : AgreeOff touched data data :=
  ⟨rfl, fun _ _ => rfl⟩

theorem AgreeOff.trans {touched : Set Nat} {first second third : Bytes}
    (one : AgreeOff touched first second) (two : AgreeOff touched second third) :
    AgreeOff touched first third :=
  ⟨two.1.trans one.1, fun index outside => (two.2 index outside).trans (one.2 index outside)⟩

theorem AgreeOff.mono {touched wider : Set Nat} {before after : Bytes}
    (agree : AgreeOff touched before after) (subset : touched ⊆ wider) :
    AgreeOff wider before after :=
  ⟨agree.1, fun index outside => agree.2 index fun inside => outside (subset inside)⟩

/-- An overwrite touches the bytes it writes. -/
theorem agreeOff_overwrite {touched : Set Nat} {data source : Bytes} {start : Nat}
    (fits : start + source.length ≤ data.length)
    (covered : ∀ index, start ≤ index → index < start + source.length → index ∈ touched) :
    AgreeOff touched data (overwrite data start source) := by
  refine ⟨length_overwrite fits, fun index outside => ?_⟩
  rw [getElem?_overwrite fits, if_neg fun inside => outside (covered index inside.1 inside.2)]

/-- A field of two bytes. -/
def wordAt (start : Nat) : Set Nat := {index | start ≤ index ∧ index < start + 2}

theorem agreeOff_word {data word : Bytes} {start : Nat} (two : word.length = 2)
    (inside : start + 2 ≤ data.length) :
    AgreeOff (wordAt start) data (overwrite data start word) := by
  refine agreeOff_overwrite (by rwa [two]) ?_
  rw [two]
  exact fun index low high => ⟨low, high⟩

/-- One overwrite of two strings keeps what they agree on. -/
theorem AgreeOff.overwrite {touched : Set Nat} {before after source : Bytes} {start : Nat}
    (agree : AgreeOff touched before after) (fits : start + source.length ≤ before.length) :
    AgreeOff touched (overwrite before start source) (overwrite after start source) := by
  have fits' : start + source.length ≤ after.length := by
    rwa [agree.1]
  refine ⟨?_, fun index outside => ?_⟩
  · rw [length_overwrite fits', length_overwrite fits, agree.1]
  · rw [getElem?_overwrite fits', getElem?_overwrite fits, agree.2 index outside]

/-- Two strings that agree on a range have the same slice there. -/
theorem AgreeOff.slice_eq {touched : Set Nat} {before after : Bytes}
    (agree : AgreeOff touched before after) {start size : Nat}
    (apart : ∀ index, start ≤ index → index < start + size → index ∉ touched) :
    slice after start size = slice before start size := by
  apply List.ext_getElem?
  intro index
  rw [getElem?_slice, getElem?_slice]
  split
  · exact agree.2 _ (apart _ (by omega) (by omega))
  · rfl

/-- Prefixes of strings that agree. -/
theorem AgreeOff.take {touched : Set Nat} {before after : Bytes}
    (agree : AgreeOff touched before after) (size : Nat) :
    AgreeOff touched (before.take size) (after.take size) := by
  refine ⟨?_, fun index outside => ?_⟩
  · rw [List.length_take, List.length_take, agree.1]
  · rw [List.getElem?_take, List.getElem?_take, agree.2 index outside]

/-- A prefix before everything that was touched. -/
theorem AgreeOff.take_eq {touched : Set Nat} {before after : Bytes}
    (agree : AgreeOff touched before after) {size : Nat} (apart : ∀ index ∈ touched, size ≤ index) :
    after.take size = before.take size := by
  apply List.ext_getElem?
  intro index
  rw [List.getElem?_take, List.getElem?_take]
  split
  · rename_i early
    exact agree.2 _ fun inside => absurd early (Nat.not_lt.mpr (apart _ inside))
  · rfl

/-- The rest behind everything that was touched. -/
theorem AgreeOff.drop_eq {touched : Set Nat} {before after : Bytes}
    (agree : AgreeOff touched before after) {start : Nat}
    (apart : ∀ index ∈ touched, index < start) :
    after.drop start = before.drop start := by
  apply List.ext_getElem?
  intro index
  rw [List.getElem?_drop, List.getElem?_drop]
  exact agree.2 _ fun inside => absurd (apart _ inside) (by omega)

/-- Rests of strings that agree. -/
theorem AgreeOff.drop {touched : Set Nat} {before after : Bytes}
    (agree : AgreeOff touched before after) (start : Nat) :
    AgreeOff {index | start + index ∈ touched} (before.drop start) (after.drop start) := by
  refine ⟨?_, fun index outside => ?_⟩
  · rw [List.length_drop, List.length_drop, agree.1]
  · rw [List.getElem?_drop, List.getElem?_drop]
    exact agree.2 _ outside

theorem AgreeOff.byteAt_eq {touched : Set Nat} {before after : Bytes}
    (agree : AgreeOff touched before after) {index : Nat} (outside : index ∉ touched) :
    byteAt after index = byteAt before index := by
  simp only [byteAt, List.getD_eq_getElem?_getD]
  rw [agree.2 index outside]

/-- A slice within prefixes that agree. -/
theorem AgreeOff.slice_of_take {touched : Set Nat} {before after : Bytes} {stop : Nat}
    (agree : AgreeOff touched (before.take stop) (after.take stop)) {start size : Nat}
    (within : start + size ≤ stop)
    (apart : ∀ index, start ≤ index → index < start + size → index ∉ touched) :
    slice after start size = slice before start size := by
  rw [← slice_take within, ← @slice_take before _ _ _ within]
  exact agree.slice_eq apart

theorem AgreeOff.byteAt_of_take {touched : Set Nat} {before after : Bytes} {stop : Nat}
    (agree : AgreeOff touched (before.take stop) (after.take stop)) {index : Nat}
    (within : index < stop) (outside : index ∉ touched) :
    byteAt after index = byteAt before index := by
  rw [← byteAt_take within, ← @byteAt_take before _ _ within]
  exact agree.byteAt_eq outside

/-! ### Big-endian numbers -/

/-- The number a byte string spells, most significant byte first. -/
def value : Bytes → Nat
  | [] => 0
  | byte :: rest => byte.toNat * 256 ^ rest.length + value rest

/-- The last `size` bytes of a number, most significant byte first. -/
def encode : Nat → Nat → Bytes
  | 0, _ => []
  | size + 1, number => UInt8.ofNat (number / 256 ^ size) :: encode size number

@[simp] theorem length_encode (size number : Nat) : (encode size number).length = size := by
  induction size with
  | zero => rfl
  | succ size ih => rw [encode, List.length_cons, ih]

theorem value_lt (data : Bytes) : value data < 256 ^ data.length := by
  induction data with
  | nil => exact Nat.one_pos
  | cons byte rest ih =>
      have small := byte.toNat_lt
      rw [value, List.length_cons, pow_succ]
      calc byte.toNat * 256 ^ rest.length + value rest
          < byte.toNat * 256 ^ rest.length + 256 ^ rest.length := by omega
        _ = (byte.toNat + 1) * 256 ^ rest.length := by ring
        _ ≤ 256 * 256 ^ rest.length := Nat.mul_le_mul_right _ (by omega)
        _ = 256 ^ rest.length * 256 := by ring

/-- **Reading back a number that was written.** -/
theorem value_encode (size number : Nat) : value (encode size number) = number % 256 ^ size := by
  induction size with
  | zero => rw [encode, value, pow_zero, Nat.mod_one]
  | succ size ih =>
      rw [encode, value, length_encode, ih, UInt8.toNat_ofNat',
        Nat.mod_pow_succ (x := number) (b := 256) (k := size), Nat.add_comm, Nat.mul_comm]

/-- A byte string is determined by its length and its number. -/
theorem value_injective : ∀ {first second : Bytes}, first.length = second.length →
    value first = value second → first = second
  | [], [], _, _ => rfl
  | byte :: rest, byte' :: rest', sameLength, same => by
      have lengths : rest.length = rest'.length := by
        simpa using sameLength
      have low := value_lt rest
      have low' := value_lt rest'
      rw [value, value, ← lengths] at same
      rw [← lengths] at low'
      have positive : 0 < 256 ^ rest.length := Nat.pow_pos (by norm_num)
      have high : byte.toNat = byte'.toNat := by
        have divided := congrArg (· / 256 ^ rest.length) same
        simpa only [Nat.mul_comm _ (256 ^ rest.length), Nat.mul_add_div positive,
          Nat.div_eq_of_lt low, Nat.div_eq_of_lt low', add_zero] using divided
      have tails : value rest = value rest' := by
        rw [high] at same
        omega
      rw [UInt8.toNat_inj.mp high, value_injective lengths tails]

/-- `u16::from_be_bytes` of the two bytes at an offset. -/
def be16 (data : Bytes) (start : Nat) : Nat := value (slice data start 2)

/-- A number is written as the bytes it was read from. -/
theorem encode_be16 {data : Bytes} {start : Nat} (fits : start + 2 ≤ data.length) :
    encode 2 (be16 data start) = slice data start 2 := by
  have two := length_slice fits
  have small := value_lt (slice data start 2)
  rw [two] at small
  apply value_injective
  · rw [length_encode, two]
  · rw [value_encode, be16, Nat.mod_eq_of_lt small]

/-- Strings with one slice have one number there. -/
theorem be16_congr {data data' : Bytes} {start start' : Nat}
    (same : slice data start 2 = slice data' start' 2) : be16 data start = be16 data' start' :=
  congrArg value same

theorem be16_drop (data : Bytes) (before start : Nat) :
    be16 (data.drop before) start = be16 data (before + start) :=
  be16_congr (slice_drop data before start 2)

theorem be16_slice {data : Bytes} {outer start width : Nat} (within : start + 2 ≤ width) :
    be16 (slice data outer width) start = be16 data (outer + start) :=
  be16_congr (slice_slice within)

theorem be16_lt (data : Bytes) (start : Nat) : be16 data start < 65536 := by
  have bound := value_lt (slice data start 2)
  have short : (slice data start 2).length ≤ 2 := by
    rw [slice]
    exact List.length_take_le 2 _
  exact lt_of_lt_of_le bound (Nat.pow_le_pow_right (by norm_num) short)

theorem AgreeOff.be16_eq {touched : Set Nat} {before after : Bytes}
    (agree : AgreeOff touched before after) {start : Nat} (first : start ∉ touched)
    (second : start + 1 ∉ touched) : be16 after start = be16 before start := by
  refine be16_congr (agree.slice_eq fun index low high => ?_)
  obtain rfl | rfl : index = start ∨ index = start + 1 := by omega
  · exact first
  · exact second

/-- **Reading a number where it was written.** -/
theorem value_slice_overwrite {data : Bytes} {start size number : Nat}
    (fits : start + size ≤ data.length) :
    value (slice (overwrite data start (encode size number)) start size)
      = number % 256 ^ size := by
  have written := @slice_overwrite_self data (encode size number) start (by rwa [length_encode])
  rw [length_encode] at written
  rw [written, value_encode]

/-- An overwrite leaves a number that it does not meet. -/
theorem be16_overwrite_of_disjoint {data source : Bytes} {start other : Nat}
    (fits : start + source.length ≤ data.length)
    (apart : other + 2 ≤ start ∨ start + source.length ≤ other) :
    be16 (overwrite data start source) other = be16 data other :=
  be16_congr (slice_overwrite_of_disjoint fits apart)

theorem be16_overwrite {data : Bytes} {start number : Nat} (fits : start + 2 ≤ data.length) :
    be16 (overwrite data start (encode 2 number)) start = number % 65536 :=
  value_slice_overwrite fits

end Bytes

end RsTun.Library
