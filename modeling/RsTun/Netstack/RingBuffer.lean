/-
**The ring buffer between the stack and a stream.**

`LockFreeRingBuffer` carries the bounds of its positions. One cell stays free, so that equal
positions mean that the buffer is empty. `contents` is the byte string it holds; the operations are
those of a bounded queue on it.

* `enqueueSlice_spec` — a prefix of the data that fits is appended.
* `dequeueSlice_spec` — the first bytes are taken away.
* `isEmpty_iff`, `isFull_iff` — the two tests.
-/

import RsTun.Library.Bytes
import RsTun.Library.Circular

namespace RsTun.Netstack

open Library Library.Bytes Library.Circular

/-- `LockFreeRingBuffer`. -/
structure LockFreeRingBuffer where
  buffer : Bytes
  capacity : Nat
  writePos : Nat
  readPos : Nat
  sized : buffer.length = capacity
  writeInside : writePos < capacity
  readInside : readPos < capacity
  deriving DecidableEq

namespace LockFreeRingBuffer

/-- `LockFreeRingBuffer::new`. -/
def new (capacity : Nat) (positive : 0 < capacity) : LockFreeRingBuffer where
  buffer := List.replicate capacity 0
  capacity := capacity
  writePos := 0
  readPos := 0
  sized := List.length_replicate
  writeInside := positive
  readInside := positive

variable (ring : LockFreeRingBuffer)

/-- The available space of `enqueue_slice`. -/
def writable : Nat :=
  if ring.readPos ≤ ring.writePos then ring.capacity - ring.writePos + ring.readPos - 1
  else ring.readPos - ring.writePos - 1

/-- The available data of `dequeue_slice`. -/
def readable : Nat :=
  if ring.readPos ≤ ring.writePos then ring.writePos - ring.readPos
  else ring.capacity - ring.readPos + ring.writePos

/-- The copy of `enqueue_slice` into the buffer, in two pieces if it wraps around. -/
def copyIn (buffer : Bytes) (capacity writePos : Nat) (data : Bytes) : Bytes :=
  if writePos + data.length ≤ capacity then overwrite buffer writePos data
  else
    let firstPart := capacity - writePos
    overwrite (overwrite buffer writePos (data.take firstPart)) 0 (data.drop firstPart)

/-- The copy of `dequeue_slice` out of the buffer, in two pieces if it wraps around. -/
def copyOut (buffer : Bytes) (capacity readPos toRead : Nat) : Bytes :=
  if readPos + toRead ≤ capacity then slice buffer readPos toRead
  else
    let firstPart := capacity - readPos
    buffer.drop readPos ++ buffer.take (toRead - firstPart)

/-- The copy into the buffer is a write on the circle. -/
theorem copyIn_eq_put {buffer data : Bytes} {capacity writePos : Nat}
    (sized : buffer.length = capacity) (inside : writePos < capacity)
    (fits : data.length ≤ capacity) :
    copyIn buffer capacity writePos data = put buffer writePos data := by
  subst sized
  unfold copyIn put
  split
  · rfl
  · rename_i wraps
    dsimp only
    have first : (data.take (buffer.length - writePos)).length = buffer.length - writePos := by
      rw [List.length_take]
      omega
    have second : (data.drop (buffer.length - writePos)).length
        = data.length - (buffer.length - writePos) := List.length_drop
    have tail : overwrite buffer writePos (data.take (buffer.length - writePos))
        = buffer.take writePos ++ data.take (buffer.length - writePos) := by
      rw [overwrite, first, List.drop_eq_nil_of_le (by omega), List.append_nil]
    rw [tail, overwrite, List.take_zero, List.nil_append, Nat.zero_add, second,
      List.drop_append_of_le_length, List.append_assoc]
    rw [List.length_take]
    omega

/-- The copy out of the buffer is a window on the circle. -/
theorem copyOut_eq_window {buffer : Bytes} {capacity readPos toRead : Nat}
    (sized : buffer.length = capacity) (inside : readPos < capacity) (fits : toRead ≤ capacity) :
    copyOut buffer capacity readPos toRead = window buffer readPos toRead := by
  subst sized
  unfold copyOut window
  rw [List.drop_append_of_le_length (Nat.le_of_lt inside)]
  split
  · rename_i straight
    rw [List.take_append_of_le_length (by rw [List.length_drop]; omega)]
    rfl
  · rename_i wraps
    rw [List.take_append, List.take_of_length_le (by rw [List.length_drop]; omega),
      List.length_drop]

/-- `enqueue_slice`: how many bytes were accepted, and the buffer afterwards. -/
def enqueueSlice (data : Bytes) : Nat × LockFreeRingBuffer :=
  let toWrite := min data.length ring.writable
  if toWrite = 0 then (0, ring)
  else (toWrite, { ring with
    buffer := copyIn ring.buffer ring.capacity ring.writePos (data.take toWrite)
    writePos := (ring.writePos + toWrite) % ring.capacity
    sized := by
      have room : (data.take toWrite).length ≤ ring.capacity := by
        have inside := ring.writeInside
        have other := ring.readInside
        rw [List.length_take]
        simp only [toWrite, writable]
        split <;> omega
      rw [copyIn_eq_put ring.sized ring.writeInside room,
        length_put _ (by rwa [ring.sized]), ring.sized]
    writeInside := Nat.mod_lt _ (Nat.zero_lt_of_lt ring.writeInside) })

/-- `dequeue_slice` into a buffer of `size` bytes: the bytes, and the buffer afterwards. -/
def dequeueSlice (size : Nat) : Bytes × LockFreeRingBuffer :=
  let toRead := min size ring.readable
  if toRead = 0 then ([], ring)
  else (copyOut ring.buffer ring.capacity ring.readPos toRead, { ring with
    readPos := (ring.readPos + toRead) % ring.capacity
    readInside := Nat.mod_lt _ (Nat.zero_lt_of_lt ring.readInside) })

/-- `is_empty`. -/
def isEmpty : Bool := ring.readPos == ring.writePos

/-- `is_full`. -/
def isFull : Bool := (ring.writePos + 1) % ring.capacity == ring.readPos

/-! ### The queue -/

/-- The bytes in the buffer, in order. -/
def contents : Bytes := window ring.buffer ring.readPos ring.readable

/-- One cell stays free. -/
theorem readable_add_writable : ring.readable + ring.writable + 1 = ring.capacity := by
  have write := ring.writeInside
  have read := ring.readInside
  unfold readable writable
  split <;> omega

/-- The write position is behind the contents. -/
theorem writePos_eq : ring.writePos = wrap ring.capacity (ring.readPos + ring.readable) := by
  have write := ring.writeInside
  have read := ring.readInside
  unfold readable wrap
  split <;> split <;> omega

theorem length_contents : ring.contents.length = ring.readable := by
  have room := ring.readable_add_writable
  rw [contents, length_window]
  · rw [ring.sized]
    exact Nat.le_of_lt ring.readInside
  · rw [ring.sized]
    omega

@[simp] theorem contents_new (capacity : Nat) (positive : 0 < capacity) :
    (new capacity positive).contents = [] := rfl

/-- Positions of two buffers that tell how far the contents reach. -/
theorem readable_eq {ring : LockFreeRingBuffer} {count : Nat} (fits : count < ring.capacity)
    (reaches : ring.writePos = wrap ring.capacity (ring.readPos + count)) :
    ring.readable = count := by
  have read := ring.readInside
  unfold readable
  rw [reaches]
  unfold wrap
  split <;> split <;> omega

/-- The position behind data that were put at the end of the contents. -/
theorem advance_writePos {count : Nat} (fits : count ≤ ring.writable) :
    (ring.writePos + count) % ring.capacity
      = wrap ring.capacity (ring.readPos + (ring.readable + count)) := by
  have room := ring.readable_add_writable
  have read := ring.readInside
  have write := ring.writeInside
  rw [mod_eq_wrap (by omega), ring.writePos_eq]
  unfold wrap
  split <;> split <;> split <;> omega

/-- The end of the contents, seen from the position behind data that were read. -/
theorem advance_readPos {count : Nat} (within : count ≤ ring.readable) :
    ring.writePos = wrap ring.capacity
      ((ring.readPos + count) % ring.capacity + (ring.readable - count)) := by
  have room := ring.readable_add_writable
  have read := ring.readInside
  rw [mod_eq_wrap (by omega), ring.writePos_eq]
  unfold wrap
  split <;> split <;> split <;> omega

/-- The contents, cut behind their first bytes. -/
theorem contents_cut {count : Nat} (within : count ≤ ring.readable) :
    ring.contents.take count = window ring.buffer ring.readPos count
      ∧ ring.contents.drop count = window ring.buffer ((ring.readPos + count) % ring.capacity)
        (ring.readable - count) := by
  have room := ring.readable_add_writable
  have start : ring.readPos < ring.buffer.length := by
    rw [ring.sized]
    exact ring.readInside
  have first : (window ring.buffer ring.readPos count).length = count :=
    length_window (Nat.le_of_lt start) (by rw [ring.sized]; omega)
  have cut : ring.contents = window ring.buffer ring.readPos count
      ++ window ring.buffer ((ring.readPos + count) % ring.capacity) (ring.readable - count) := by
    have near : ring.readPos + count < ring.capacity + ring.capacity := by
      rw [ring.sized] at start
      omega
    rw [contents, mod_eq_wrap near, ← ring.sized,
      ← window_append start (by rw [ring.sized]; omega), Nat.add_sub_cancel' within]
  rw [cut]
  exact ⟨List.take_left' first, List.drop_left' first⟩

/-- Data that fit, put at the end of the contents. -/
theorem window_put_contents {data : Bytes} (fits : data.length ≤ ring.writable) :
    window (put ring.buffer ring.writePos data) ring.readPos (ring.readable + data.length)
      = ring.contents ++ data := by
  have room := ring.readable_add_writable
  have start : ring.readPos < ring.buffer.length := by
    rw [ring.sized]
    exact ring.readInside
  have short : ring.readable + data.length ≤ ring.buffer.length := by
    rw [ring.sized]
    omega
  have size := @length_put _ ring.buffer data ring.writePos (by omega)
  have target : ring.writePos < ring.buffer.length := by
    rw [ring.sized]
    exact ring.writeInside
  have reaches : wrap ring.buffer.length (ring.readPos + ring.readable) = ring.writePos := by
    rw [ring.sized, ring.writePos_eq]
  rw [window_append (by rwa [size]) (by rwa [size]), size, reaches,
    window_put_self target (by omega), contents]
  congr 1
  rw [← reaches, window_put_before start short]

/-- **Enqueueing** appends as much of the data as there is room for. -/
theorem enqueueSlice_spec (data : Bytes) :
    (ring.enqueueSlice data).1 = min data.length ring.writable
      ∧ (ring.enqueueSlice data).2.contents
        = ring.contents ++ data.take (min data.length ring.writable)
      ∧ (ring.enqueueSlice data).2.capacity = ring.capacity := by
  have room := ring.readable_add_writable
  unfold enqueueSlice
  dsimp only
  by_cases nothing : min data.length ring.writable = 0
  · rw [if_pos nothing, nothing, List.take_zero, List.append_nil]
    exact ⟨rfl, rfl, rfl⟩
  · rw [if_neg nothing]
    refine ⟨rfl, ?_, rfl⟩
    have size : (data.take (min data.length ring.writable)).length
        = min data.length ring.writable := by
      rw [List.length_take, Nat.min_eq_left (Nat.min_le_left _ _)]
    have fits : (data.take (min data.length ring.writable)).length ≤ ring.writable := by
      rw [size]
      exact Nat.min_le_right _ _
    rw [← ring.window_put_contents fits, contents, readable_eq _
      (ring.advance_writePos (Nat.min_le_right _ _))]
    · dsimp only
      rw [copyIn_eq_put ring.sized ring.writeInside (by omega), size]
    · dsimp only
      omega

/-- **Dequeueing** takes the first bytes away. -/
theorem dequeueSlice_spec (size : Nat) :
    (ring.dequeueSlice size).1 = ring.contents.take size
      ∧ (ring.dequeueSlice size).2.contents = ring.contents.drop size
      ∧ (ring.dequeueSlice size).2.capacity = ring.capacity := by
  have room := ring.readable_add_writable
  have whole := ring.length_contents
  unfold dequeueSlice
  dsimp only
  by_cases nothing : min size ring.readable = 0
  · rw [if_pos nothing]
    obtain none | empty : size = 0 ∨ ring.readable = 0 := by omega
    · rw [none, List.take_zero, List.drop_zero]
      exact ⟨rfl, rfl, rfl⟩
    · have held : ring.contents = [] := List.eq_nil_of_length_eq_zero (whole.trans empty)
      rw [held, List.take_nil, List.drop_nil]
      exact ⟨rfl, rfl, rfl⟩
  · rw [if_neg nothing]
    have within : min size ring.readable ≤ ring.readable := Nat.min_le_right _ _
    obtain ⟨taken, dropped⟩ := ring.contents_cut within
    refine ⟨?_, ?_, rfl⟩
    · dsimp only
      rw [copyOut_eq_window ring.sized ring.readInside (by omega), ← taken, ← whole,
        ← List.take_eq_take_min]
    · rw [List.drop_eq_drop_min, whole, dropped]
      refine congrArg (window ring.buffer _) (readable_eq ?_ (ring.advance_readPos within))
      dsimp only
      omega

/-- **The test for emptiness.** -/
theorem isEmpty_iff : ring.isEmpty = true ↔ ring.contents = [] := by
  have read := ring.readInside
  rw [← List.length_eq_zero_iff, ring.length_contents, isEmpty, beq_iff_eq]
  unfold readable
  split <;> omega

/-- **The test for fullness.** -/
theorem isFull_iff : ring.isFull = true ↔ ring.writable = 0 := by
  have write := ring.writeInside
  have read := ring.readInside
  rw [isFull, beq_iff_eq, mod_eq_wrap (by omega)]
  unfold writable wrap
  split <;> split <;> omega

end LockFreeRingBuffer

end RsTun.Netstack
