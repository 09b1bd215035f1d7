/-
**One producer and one consumer in the ring buffer at the same time.**

`enqueue_slice` and `dequeue_slice` as they interleave: a load of a position, the copy of one byte
and the publication of the new position are one step each. The bytes of a copy may be copied in any
order. The position of the other side may be out of date by the time it is used. Sums of positions
stay below twice the capacity; every difference and every range is checked, and a call panics where
one does not hold.

* `copyCells_eq` — the cells of a copy, in one piece or in two, follow each other on the circle.
* `Consistent` — the invariant: what the buffer holds between the positions is what was accepted and
  not yet returned, and a copy under way has its cells to itself.
* `ring_fifo` — **the ring buffer is a queue**, over every order of the steps.
-/

import RsTun.Library.Checked
import RsTun.Library.Machine
import RsTun.Netstack.RingBuffer

namespace RsTun.Netstack

open Library Library.Bytes Library.Circular

/-! ### The calls -/

/-- The available space of `enqueue_slice`. -/
def availableSpace (capacity writePos readPos : Nat) : Checked Empty Nat :=
  if readPos ≤ writePos then do
    let behind ← Checked.minus capacity writePos
    Checked.minus (behind + readPos) 1
  else do
    let gap ← Checked.minus readPos writePos
    Checked.minus gap 1

/-- The available data of `dequeue_slice`. -/
def availableData (capacity readPos writePos : Nat) : Checked Empty Nat :=
  if readPos ≤ writePos then Checked.minus writePos readPos
  else do
    let behind ← Checked.minus capacity readPos
    return behind + writePos

/-- The indices `start..stop` of a slice of `length` elements. -/
def indices (length start stop : Nat) : Checked Empty (List Nat) :=
  if start ≤ stop ∧ stop ≤ length then .ok (List.range' start (stop - start))
  else .error .panicked

/-- `target.copy_from_slice(source)`, as the pairs of their indices. -/
def copyPairs (target source : List Nat) : Checked Empty (List (Nat × Nat)) :=
  if target.length = source.length then .ok (target.zip source) else .error .panicked

/-- The copy of `count` bytes between the buffer, of `capacity` cells, from `pos` on, and a slice of
`size` bytes: the cell and the byte of each copy, in one piece or in two. -/
def copyCells (capacity pos size count : Nat) : Checked Empty (List (Nat × Nat)) :=
  if pos + count ≤ capacity then do
    let cells ← indices capacity pos (pos + count)
    let bytes ← indices size 0 count
    copyPairs cells bytes
  else do
    let firstPart ← Checked.minus capacity pos
    let cells ← indices capacity pos capacity
    let bytes ← indices size 0 firstPart
    let first ← copyPairs cells bytes
    let rest ← Checked.minus count firstPart
    let cells ← indices capacity 0 rest
    let bytes ← indices size firstPart count
    let second ← copyPairs cells bytes
    return first ++ second

/-- Where `enqueue_slice` stands; `todo` are the copies that are still to be made. -/
inductive EnqueuePoint where
  | idle
  | loadWritePos (data : Bytes)
  | loadReadPos (data : Bytes) (writePos : Nat)
  | copy (data : Bytes) (writePos toWrite : Nat) (todo : List (Nat × Nat))
  | panicked

/-- Where `dequeue_slice` stands; `filled` is the buffer of the caller. -/
inductive DequeuePoint where
  | idle
  | loadReadPos (size : Nat)
  | loadWritePos (size readPos : Nat)
  | copy (readPos toRead : Nat) (filled : Bytes) (todo : List (Nat × Nat))
  | panicked

/-- The cells of a copy that is under way, those that are done included. -/
def EnqueuePoint.cells (capacity : Nat) : EnqueuePoint → List Nat
  | .copy _ writePos toWrite _ =>
      (List.range toWrite).map fun index => (writePos + index) % capacity
  | _ => []

/-- The cells of a copy that is under way, those that are done included. -/
def DequeuePoint.cells (capacity : Nat) : DequeuePoint → List Nat
  | .copy readPos toRead _ _ =>
      (List.range toRead).map fun index => (readPos + index) % capacity
  | _ => []

/-- How many bytes `enqueue_slice` has decided to accept, and has not published. -/
def EnqueuePoint.underway : EnqueuePoint → Nat
  | .copy _ _ toWrite _ => toWrite
  | _ => 0

/-- No check has failed, and a copy still to be made is between a cell of the buffer and a byte of
the data. -/
def EnqueuePoint.Inside (capacity : Nat) : EnqueuePoint → Prop
  | .copy data writePos toWrite todo => ∀ pair ∈ todo, pair.1 < capacity
      ∧ pair.1 ∈ (EnqueuePoint.copy data writePos toWrite todo).cells capacity
      ∧ pair.2 < data.length
  | .panicked => False
  | _ => True

/-- No check has failed, and a copy still to be made is between a cell of the buffer and a byte of
the buffer of the caller. -/
def DequeuePoint.Inside (capacity : Nat) : DequeuePoint → Prop
  | .copy readPos toRead filled todo => ∀ pair ∈ todo, pair.1 < capacity
      ∧ pair.1 ∈ (DequeuePoint.copy readPos toRead filled todo).cells capacity
      ∧ pair.2 < filled.length
  | .panicked => False
  | _ => True

/-- The buffer and the two sides. The last two fields are a record only: what `enqueue_slice`
accepted and what `dequeue_slice` returned. -/
structure SharedRing where
  ring : LockFreeRingBuffer
  producer : EnqueuePoint
  consumer : DequeuePoint
  accepted : Bytes
  dequeued : Bytes

namespace LockFreeRingBuffer

/-- A byte is copied into a cell. -/
def setCell (ring : LockFreeRingBuffer) (cell : Nat) (byte : UInt8) : LockFreeRingBuffer :=
  { ring with
    buffer := ring.buffer.set cell byte
    sized := by rw [List.length_set, ring.sized] }

/-- `write_pos.store((write_pos + to_write) % capacity)`. -/
def storeWritePos (ring : LockFreeRingBuffer) (writePos toWrite : Nat) : LockFreeRingBuffer :=
  { ring with
    writePos := (writePos + toWrite) % ring.capacity
    writeInside := Nat.mod_lt _ (Nat.zero_lt_of_lt ring.writeInside) }

/-- `read_pos.store((read_pos + to_read) % capacity)`. -/
def storeReadPos (ring : LockFreeRingBuffer) (readPos toRead : Nat) : LockFreeRingBuffer :=
  { ring with
    readPos := (readPos + toRead) % ring.capacity
    readInside := Nat.mod_lt _ (Nat.zero_lt_of_lt ring.readInside) }

end LockFreeRingBuffer

namespace SharedRing

/-- A new buffer, with no call. -/
def new (capacity : Nat) (positive : 0 < capacity) : SharedRing where
  ring := .new capacity positive
  producer := .idle
  consumer := .idle
  accepted := []
  dequeued := []

/-- What `enqueue_slice` goes on to do once it has loaded both positions. -/
def planWrite (capacity : Nat) (data : Bytes) (writePos readPos : Nat) :
    Checked Empty EnqueuePoint := do
  let available ← availableSpace capacity writePos readPos
  let toWrite := min data.length available
  if toWrite = 0 then return .idle
  let todo ← copyCells capacity writePos data.length toWrite
  return .copy data writePos toWrite todo

/-- What `dequeue_slice` goes on to do once it has loaded both positions. -/
def planRead (capacity size readPos writePos : Nat) : Checked Empty DequeuePoint := do
  let available ← availableData capacity readPos writePos
  let toRead := min size available
  if toRead = 0 then return .idle
  let todo ← copyCells capacity readPos size toRead
  return .copy readPos toRead (List.replicate size 0) todo

/-- A load or the publication of `enqueue_slice`. -/
def produce (state : SharedRing) : Option SharedRing :=
  match state.producer with
  | .idle => none
  | .loadWritePos data =>
      some { state with producer := .loadReadPos data state.ring.writePos }
  | .loadReadPos data writePos => some { state with
      producer :=
        match planWrite state.ring.capacity data writePos state.ring.readPos with
        | .ok point => point
        | .error _ => .panicked }
  | .copy data writePos toWrite [] => some { state with
      ring := state.ring.storeWritePos writePos toWrite
      producer := .idle
      accepted := state.accepted ++ data.take toWrite }
  | .copy _ _ _ (_ :: _) => none
  | .panicked => none

/-- A copy of `enqueue_slice`. -/
def copyIn (state : SharedRing) (pair : Nat × Nat) : Option SharedRing :=
  match state.producer with
  | .copy data writePos toWrite todo =>
      if pair ∈ todo then
        some { state with
          ring := state.ring.setCell pair.1 (byteAt data pair.2)
          producer := .copy data writePos toWrite (todo.erase pair) }
      else none
  | _ => none

/-- A load or the publication of `dequeue_slice`. -/
def consume (state : SharedRing) : Option SharedRing :=
  match state.consumer with
  | .idle => none
  | .loadReadPos size =>
      some { state with consumer := .loadWritePos size state.ring.readPos }
  | .loadWritePos size readPos => some { state with
      consumer :=
        match planRead state.ring.capacity size readPos state.ring.writePos with
        | .ok point => point
        | .error _ => .panicked }
  | .copy readPos toRead filled [] => some { state with
      ring := state.ring.storeReadPos readPos toRead
      consumer := .idle
      dequeued := state.dequeued ++ filled.take toRead }
  | .copy _ _ _ (_ :: _) => none
  | .panicked => none

/-- A copy of `dequeue_slice`. -/
def copyOut (state : SharedRing) (pair : Nat × Nat) : Option SharedRing :=
  match state.consumer with
  | .copy readPos toRead filled todo =>
      if pair ∈ todo then
        some { state with
          consumer := .copy readPos toRead
            (filled.set pair.2 (byteAt state.ring.buffer pair.1)) (todo.erase pair) }
      else none
  | _ => none

/-- What can happen next: a call, or the next step of one side. -/
inductive Action where
  | enqueueSlice (data : Bytes)
  | produce
  | copyIn (pair : Nat × Nat)
  | dequeueSlice (size : Nat)
  | consume
  | copyOut (pair : Nat × Nat)
  deriving DecidableEq

/-- One step of the two sides. -/
def step (state : SharedRing) : Action → Option SharedRing
  | .enqueueSlice data =>
      match state.producer with
      | .idle => some { state with producer := .loadWritePos data }
      | _ => none
  | .produce => state.produce
  | .copyIn pair => state.copyIn pair
  | .dequeueSlice size =>
      match state.consumer with
      | .idle => some { state with consumer := .loadReadPos size }
      | _ => none
  | .consume => state.consume
  | .copyOut pair => state.copyOut pair

/-- The two sides as a machine. -/
def machine : Machine SharedRing Action where
  step := step

/-- The buffer is a queue of at most `capacity - 1` bytes. What was accepted and has not been
returned is outstanding. -/
structure Fifo (capacity : Nat) (state : SharedRing) : Prop where
  ordered : state.dequeued <+: state.accepted
  bounded : state.accepted.length + state.producer.underway + 1 ≤ state.dequeued.length + capacity
  disjoint : ∀ cell ∈ state.producer.cells capacity, cell ∉ state.consumer.cells capacity
  producerInside : state.producer.Inside capacity
  consumerInside : state.consumer.Inside capacity
  empty : state.producer = .idle → state.consumer = .idle →
    (state.ring.isEmpty = true ↔ state.accepted.length = state.dequeued.length)
  full : state.producer = .idle → state.consumer = .idle →
    (state.ring.isFull = true ↔ state.accepted.length + 1 = state.dequeued.length + capacity)

/-! ### The copies -/

/-- The cells that a copy of `count` bytes from `pos` on goes through, each with its byte. -/
def plan (capacity pos count : Nat) : List (Nat × Nat) :=
  (List.range count).map fun index => (wrap capacity (pos + index), index)

theorem mem_plan {capacity pos count : Nat} {pair : Nat × Nat} :
    pair ∈ plan capacity pos count
      ↔ pair.2 < count ∧ pair.1 = wrap capacity (pos + pair.2) := by
  simp only [plan, List.mem_map, List.mem_range]
  constructor
  · rintro ⟨index, within, rfl⟩
    exact ⟨within, rfl⟩
  · rintro ⟨within, cell⟩
    exact ⟨pair.2, within, by rw [← cell]⟩

theorem mem_plan_bounds {capacity pos count : Nat} {pair : Nat × Nat} (inside : pos < capacity)
    (fits : count ≤ capacity) (among : pair ∈ plan capacity pos count) :
    pair.1 < capacity ∧ pair.2 < count := by
  obtain ⟨early, cell⟩ := mem_plan.mp among
  exact ⟨cell ▸ wrap_lt (by omega), early⟩

/-- Each cell of a copy is copied once. -/
theorem plan_inj {capacity pos count : Nat} {one other : Nat × Nat} (fits : count ≤ capacity)
    (first : one ∈ plan capacity pos count) (second : other ∈ plan capacity pos count)
    (same : one.1 = other.1) : one = other := by
  obtain ⟨early, cell⟩ := mem_plan.mp first
  obtain ⟨early', cell'⟩ := mem_plan.mp second
  rw [cell, cell'] at same
  have index : one.2 = other.2 := wrap_inj (by omega) (by omega) same
  exact Prod.ext (by rw [cell, cell', index]) index

/-- The cells of a piece that does not cross the end of the buffer, with their bytes. -/
theorem zip_range' (start first count : Nat) :
    (List.range' start count).zip (List.range' first count)
      = (List.range' 0 count).map fun index => (start + index, first + index) := by
  rw [List.range'_eq_map_range, List.range'_eq_map_range, List.zip_map', List.range_eq_range']

theorem indices_eq_ok {length start stop : Nat} (ordered : start ≤ stop) (inside : stop ≤ length) :
    indices length start stop = .ok (List.range' start (stop - start)) := if_pos ⟨ordered, inside⟩

theorem copyPairs_eq_ok (start first count : Nat) :
    copyPairs (List.range' start count) (List.range' first count)
      = .ok ((List.range' 0 count).map fun index => (start + index, first + index)) := by
  rw [copyPairs, if_pos (by rw [List.length_range', List.length_range']), zip_range']

/-- **The cells of a copy follow each other on the circle**, in one piece or in two. -/
theorem copyCells_eq {capacity pos size count : Nat} (inside : pos < capacity)
    (fits : count ≤ capacity) (within : count ≤ size) :
    copyCells capacity pos size count = .ok (plan capacity pos count) := by
  unfold copyCells plan
  rw [List.range_eq_range']
  by_cases straight : pos + count ≤ capacity
  · rw [if_pos straight, indices_eq_ok (by omega) straight, indices_eq_ok (by omega) within]
    simp only [bind, Except.bind]
    rw [Nat.add_sub_cancel_left, Nat.sub_zero, copyPairs_eq_ok]
    refine congrArg Except.ok (List.map_congr_left fun index among => ?_)
    rw [List.mem_range'_1] at among
    rw [wrap, if_pos (by omega), Nat.zero_add]
  · rw [if_neg straight, Checked.minus_eq_ok (by omega)]
    simp only [bind, Except.bind]
    rw [indices_eq_ok (by omega) (Nat.le_refl _), indices_eq_ok (by omega) (by omega)]
    simp only [Nat.sub_zero]
    rw [copyPairs_eq_ok]
    simp only
    rw [Checked.minus_eq_ok (by omega)]
    simp only
    rw [indices_eq_ok (by omega) (by omega), indices_eq_ok (by omega) within]
    simp only [Nat.sub_zero]
    rw [copyPairs_eq_ok]
    refine congrArg Except.ok ?_
    obtain ⟨rest, split⟩ : ∃ rest, count = capacity - pos + rest := ⟨_, (Nat.add_sub_cancel'
      (by omega)).symm⟩
    rw [split, Nat.add_sub_cancel_left, ← List.range'_append_1, List.map_append, Nat.zero_add]
    congr 1
    · refine List.map_congr_left fun index among => ?_
      rw [List.mem_range'_1] at among
      rw [wrap, if_pos (by omega), Nat.zero_add]
    · rw [List.range'_eq_map_range, List.range'_eq_map_range, List.map_map, List.map_map]
      refine List.map_congr_left fun index _ => ?_
      simp only [Function.comp_apply, wrap]
      rw [if_neg (by omega)]
      congr 1 <;> omega

theorem availableSpace_eq (ring : LockFreeRingBuffer) :
    availableSpace ring.capacity ring.writePos ring.readPos = .ok ring.writable := by
  have write := ring.writeInside
  unfold availableSpace LockFreeRingBuffer.writable
  by_cases behind : ring.readPos ≤ ring.writePos
  · rw [if_pos behind, if_pos behind, Checked.minus_eq_ok (by omega)]
    exact Checked.minus_eq_ok (by omega)
  · rw [if_neg behind, if_neg behind, Checked.minus_eq_ok (by omega)]
    exact Checked.minus_eq_ok (by omega)

theorem availableData_eq (ring : LockFreeRingBuffer) :
    availableData ring.capacity ring.readPos ring.writePos = .ok ring.readable := by
  have read := ring.readInside
  unfold availableData LockFreeRingBuffer.readable
  by_cases behind : ring.readPos ≤ ring.writePos
  · rw [if_pos behind, if_pos behind, Checked.minus_eq_ok behind]
  · rw [if_neg behind, if_neg behind, Checked.minus_eq_ok (by omega)]
    rfl

/-! ### The invariant -/

/-- A copy into the buffer: it starts behind the contents, there is room, and what is not still to
be copied is there. -/
structure Writing (ring : LockFreeRingBuffer) (data : Bytes) (writePos toWrite : Nat)
    (todo : List (Nat × Nat)) : Prop where
  current : writePos = ring.writePos
  within : toWrite ≤ data.length
  room : toWrite ≤ ring.writable
  planned : ∀ pair ∈ todo, pair ∈ plan ring.capacity writePos toWrite
  copied : ∀ pair ∈ plan ring.capacity writePos toWrite, pair ∉ todo →
    ring.buffer[pair.1]? = data[pair.2]?

/-- A copy out of the buffer: it starts at the contents and ends inside them, and what is not still
to be copied has been filled in. -/
structure Reading (ring : LockFreeRingBuffer) (readPos toRead : Nat) (filled : Bytes)
    (todo : List (Nat × Nat)) : Prop where
  current : readPos = ring.readPos
  within : toRead ≤ filled.length
  held : toRead ≤ ring.readable
  planned : ∀ pair ∈ todo, pair ∈ plan ring.capacity readPos toRead
  copied : ∀ pair ∈ plan ring.capacity readPos toRead, pair ∉ todo →
    filled[pair.2]? = ring.buffer[pair.1]?

/-- What holds where `enqueue_slice` stands. -/
def EnqueueSound (ring : LockFreeRingBuffer) : EnqueuePoint → Prop
  | .idle => True
  | .loadWritePos _ => True
  | .loadReadPos _ writePos => writePos = ring.writePos
  | .copy data writePos toWrite todo => Writing ring data writePos toWrite todo
  | .panicked => False

/-- What holds where `dequeue_slice` stands. -/
def DequeueSound (ring : LockFreeRingBuffer) : DequeuePoint → Prop
  | .idle => True
  | .loadReadPos _ => True
  | .loadWritePos _ readPos => readPos = ring.readPos
  | .copy readPos toRead filled todo => Reading ring readPos toRead filled todo
  | .panicked => False

/-- The invariant. -/
structure Consistent (state : SharedRing) : Prop where
  queue : state.accepted = state.dequeued ++ state.ring.contents
  producer : EnqueueSound state.ring state.producer
  consumer : DequeueSound state.ring state.consumer

theorem Consistent.new (capacity : Nat) (positive : 0 < capacity) :
    Consistent (new capacity positive) where
  queue := rfl
  producer := trivial
  consumer := trivial

/-! ### What the positions leave alone -/

variable {ring : LockFreeRingBuffer}

theorem Writing.short {data : Bytes} {writePos toWrite : Nat} {todo : List (Nat × Nat)}
    (writing : Writing ring data writePos toWrite todo) : toWrite ≤ ring.capacity := by
  have total := ring.readable_add_writable
  have room := writing.room
  omega

theorem Reading.short {readPos toRead : Nat} {filled : Bytes} {todo : List (Nat × Nat)}
    (reading : Reading ring readPos toRead filled todo) : toRead ≤ ring.capacity := by
  have total := ring.readable_add_writable
  have held := reading.held
  omega

/-- A cell that is still to be written is behind the contents. -/
theorem Writing.behind {data : Bytes} {writePos toWrite : Nat} {todo : List (Nat × Nat)}
    (writing : Writing ring data writePos toWrite todo) {pair : Nat × Nat}
    (among : pair ∈ plan ring.capacity writePos toWrite) :
    ring.readable + pair.2 < ring.capacity
      ∧ pair.1 = wrap ring.capacity (ring.readPos + (ring.readable + pair.2)) := by
  have total := ring.readable_add_writable
  have room := writing.room
  obtain ⟨early, cell⟩ := mem_plan.mp among
  rw [writing.current, ring.writePos_eq, wrap_wrap_add ring.readInside (by omega)] at cell
  exact ⟨by omega, cell⟩

/-- A cell that is still to be read is one of the contents. -/
theorem Reading.inside {readPos toRead : Nat} {filled : Bytes} {todo : List (Nat × Nat)}
    (reading : Reading ring readPos toRead filled todo) {pair : Nat × Nat}
    (among : pair ∈ plan ring.capacity readPos toRead) :
    pair.2 < ring.readable ∧ pair.1 = wrap ring.capacity (ring.readPos + pair.2) := by
  have held := reading.held
  obtain ⟨early, cell⟩ := mem_plan.mp among
  rw [reading.current] at cell
  exact ⟨by omega, cell⟩

/-- **The copies of the two sides never touch the same cell.** -/
theorem Writing.disjoint {data filled : Bytes} {writePos toWrite readPos toRead : Nat}
    {todo left : List (Nat × Nat)} (writing : Writing ring data writePos toWrite todo)
    (reading : Reading ring readPos toRead filled left) {one another : Nat × Nat}
    (written : one ∈ plan ring.capacity writePos toWrite)
    (read : another ∈ plan ring.capacity readPos toRead) : one.1 ≠ another.1 := by
  have total := ring.readable_add_writable
  obtain ⟨near, cell⟩ := writing.behind written
  obtain ⟨early, cell'⟩ := reading.inside read
  intro same
  rw [cell, cell'] at same
  have := wrap_inj near (by omega) same
  omega

/-! ### The steps of `enqueue_slice` -/

/-- A byte written behind the contents does not change them. -/
theorem contents_setCell {data : Bytes} {writePos toWrite : Nat} {todo : List (Nat × Nat)}
    (writing : Writing ring data writePos toWrite todo) {pair : Nat × Nat}
    (among : pair ∈ plan ring.capacity writePos toWrite) (byte : UInt8) :
    (ring.setCell pair.1 byte).contents = ring.contents := by
  obtain ⟨near, cell⟩ := writing.behind among
  have inside := ring.readInside
  rw [← ring.sized] at near cell inside
  rw [LockFreeRingBuffer.contents, LockFreeRingBuffer.contents, cell]
  exact window_set_behind inside (Nat.le_add_right _ _) near byte

/-- **A copy of `enqueue_slice`** gets one cell further. -/
theorem Writing.setCell {data : Bytes} {writePos toWrite : Nat} {todo : List (Nat × Nat)}
    (writing : Writing ring data writePos toWrite todo) {pair : Nat × Nat} (left : pair ∈ todo) :
    Writing (ring.setCell pair.1 (byteAt data pair.2)) data writePos toWrite (todo.erase pair) where
  current := writing.current
  within := writing.within
  room := writing.room
  planned := fun other among => writing.planned other (List.mem_of_mem_erase among)
  copied := fun other among gone => by
    have planned := writing.planned pair left
    by_cases same : other = pair
    · subst same
      have inside : other.1 < ring.buffer.length := by
        rw [ring.sized]
        exact (mem_plan_bounds (writing.current ▸ ring.writeInside) writing.short among).1
      have early := Nat.lt_of_lt_of_le (mem_plan.mp among).1 writing.within
      exact (List.getElem?_set_self inside).trans (getElem?_eq_byteAt early).symm
    · have before : other ∉ todo := fun held => gone ((List.mem_erase_of_ne same).mpr held)
      have apart : pair.1 ≠ other.1 := fun cell =>
        same (plan_inj writing.short planned among cell).symm
      exact (List.getElem?_set_ne apart).trans (writing.copied other among before)

/-- A copy of `enqueue_slice` does not disturb a copy of `dequeue_slice`. -/
theorem Reading.setCell {data filled : Bytes} {writePos toWrite readPos toRead : Nat}
    {todo left : List (Nat × Nat)} (reading : Reading ring readPos toRead filled left)
    (writing : Writing ring data writePos toWrite todo) {pair : Nat × Nat} (among : pair ∈ todo)
    (byte : UInt8) : Reading (ring.setCell pair.1 byte) readPos toRead filled left where
  current := reading.current
  within := reading.within
  held := reading.held
  planned := reading.planned
  copied := fun other read gone => by
    have apart := writing.disjoint reading (writing.planned pair among) read
    rw [reading.copied other read gone]
    exact (List.getElem?_set_ne apart).symm

/-- What a finished copy of `enqueue_slice` has put behind the contents. -/
theorem Writing.window_eq {data : Bytes} {writePos toWrite : Nat}
    (writing : Writing ring data writePos toWrite []) :
    window ring.buffer ring.writePos toWrite = data.take toWrite := by
  have size : (data.take toWrite).length = toWrite := by
    rw [List.length_take, Nat.min_eq_left writing.within]
  have total := ring.readable_add_writable
  have room := writing.room
  have inside := ring.writeInside
  have same : ∀ index, index < (data.take toWrite).length →
      ring.buffer[wrap ring.buffer.length (ring.writePos + index)]?
        = (data.take toWrite)[index]? := by
    intro index early
    rw [size] at early
    have among : (wrap ring.capacity (writePos + index), index)
        ∈ plan ring.capacity writePos toWrite := mem_plan.mpr ⟨early, rfl⟩
    have copied := writing.copied _ among List.not_mem_nil
    rw [writing.current] at copied
    rw [ring.sized, List.getElem?_take, if_pos early]
    exact copied
  have window := window_eq_of_getElem? (by rw [ring.sized]; omega)
    (by rw [size, ring.sized]; omega) same
  rwa [size] at window

/-- **The publication of `enqueue_slice`** appends what was copied. -/
theorem contents_storeWritePos {data : Bytes} {writePos toWrite : Nat}
    (writing : Writing ring data writePos toWrite []) :
    (ring.storeWritePos writePos toWrite).readable = ring.readable + toWrite
      ∧ (ring.storeWritePos writePos toWrite).contents = ring.contents ++ data.take toWrite := by
  have total := ring.readable_add_writable
  have room := writing.room
  have inside := ring.readInside
  have reaches : (ring.storeWritePos writePos toWrite).readable = ring.readable + toWrite := by
    refine LockFreeRingBuffer.readable_eq (show _ < ring.capacity by omega) ?_
    rw [writing.current]
    exact ring.advance_writePos room
  refine ⟨reaches, ?_⟩
  have cut := @window_append _ ring.buffer ring.readPos ring.readable toWrite
    (by rwa [ring.sized]) (by rw [ring.sized]; omega)
  rw [ring.sized, ← ring.writePos_eq, writing.window_eq] at cut
  rw [LockFreeRingBuffer.contents, reaches]
  exact cut

/-- It leaves a copy of `dequeue_slice` alone. -/
theorem Reading.storeWritePos {data filled : Bytes} {writePos toWrite readPos toRead : Nat}
    {left : List (Nat × Nat)} (reading : Reading ring readPos toRead filled left)
    (writing : Writing ring data writePos toWrite []) :
    Reading (ring.storeWritePos writePos toWrite) readPos toRead filled left where
  current := reading.current
  within := reading.within
  held := by
    rw [(contents_storeWritePos writing).1]
    exact Nat.le_trans reading.held (Nat.le_add_right _ _)
  planned := reading.planned
  copied := reading.copied

/-! ### The steps of `dequeue_slice` -/

/-- **A copy of `dequeue_slice`** gets one byte further. -/
theorem Reading.set {filled : Bytes} {readPos toRead : Nat} {todo : List (Nat × Nat)}
    (reading : Reading ring readPos toRead filled todo) {pair : Nat × Nat} (left : pair ∈ todo) :
    Reading ring readPos toRead (filled.set pair.2 (byteAt ring.buffer pair.1))
      (todo.erase pair) where
  current := reading.current
  within := by
    rw [List.length_set]
    exact reading.within
  held := reading.held
  planned := fun other among => reading.planned other (List.mem_of_mem_erase among)
  copied := fun other among gone => by
    have planned := reading.planned pair left
    by_cases same : other = pair
    · subst same
      obtain ⟨inside, early⟩ := mem_plan_bounds (reading.current ▸ ring.readInside) reading.short
        among
      rw [← ring.sized] at inside
      exact (List.getElem?_set_self (Nat.lt_of_lt_of_le early reading.within)).trans
        (getElem?_eq_byteAt inside).symm
    · have before : other ∉ todo := fun held => gone ((List.mem_erase_of_ne same).mpr held)
      have apart : pair.2 ≠ other.2 := fun index => same (Prod.ext ?_ index.symm)
      · rw [List.getElem?_set_ne apart, reading.copied other among before]
      · rw [(mem_plan.mp among).2, (mem_plan.mp planned).2, index]

/-- What a finished copy of `dequeue_slice` has filled in. -/
theorem Reading.take_eq {filled : Bytes} {readPos toRead : Nat}
    (reading : Reading ring readPos toRead filled []) :
    filled.take toRead = ring.contents.take toRead := by
  have held := reading.held
  apply List.ext_getElem?
  intro index
  rw [List.getElem?_take, List.getElem?_take]
  split
  · rename_i early
    have among : (wrap ring.capacity (readPos + index), index)
        ∈ plan ring.capacity readPos toRead := mem_plan.mpr ⟨early, rfl⟩
    rw [LockFreeRingBuffer.contents, getElem?_window (by omega), ring.sized, ← reading.current]
    exact reading.copied _ among List.not_mem_nil
  · rfl

/-- **The publication of `dequeue_slice`** takes away what was copied. -/
theorem contents_storeReadPos {filled : Bytes} {readPos toRead : Nat}
    (reading : Reading ring readPos toRead filled []) :
    (ring.storeReadPos readPos toRead).readable = ring.readable - toRead
      ∧ filled.take toRead ++ (ring.storeReadPos readPos toRead).contents = ring.contents := by
  have total := ring.readable_add_writable
  have held := reading.held
  have reaches : (ring.storeReadPos readPos toRead).readable = ring.readable - toRead := by
    refine LockFreeRingBuffer.readable_eq (show _ < ring.capacity by omega) ?_
    rw [reading.current]
    exact ring.advance_readPos held
  refine ⟨reaches, ?_⟩
  have rest : (ring.storeReadPos readPos toRead).contents = ring.contents.drop toRead := by
    rw [LockFreeRingBuffer.contents, reaches, (ring.contents_cut held).2, reading.current]
    rfl
  rw [reading.take_eq, rest, List.take_append_drop]

/-- It leaves a copy of `enqueue_slice` alone, and gives it more room. -/
theorem Writing.storeReadPos {data filled : Bytes} {writePos toWrite readPos toRead : Nat}
    {todo : List (Nat × Nat)} (writing : Writing ring data writePos toWrite todo)
    (reading : Reading ring readPos toRead filled []) :
    Writing (ring.storeReadPos readPos toRead) data writePos toWrite todo where
  current := writing.current
  within := writing.within
  room := by
    have before := ring.readable_add_writable
    have after := (ring.storeReadPos readPos toRead).readable_add_writable
    have room := writing.room
    rw [(contents_storeReadPos reading).1] at after
    have same : (ring.storeReadPos readPos toRead).capacity = ring.capacity := rfl
    omega
  planned := writing.planned
  copied := writing.copied

/-! ### The invariant of the runs -/

/-- The positions that `enqueue_slice` has loaded pass its checks. -/
theorem planWrite_spec (ring : LockFreeRingBuffer) (data : Bytes) :
    ∃ point, planWrite ring.capacity data ring.writePos ring.readPos = .ok point
      ∧ EnqueueSound ring point := by
  have total := ring.readable_add_writable
  unfold planWrite
  rw [availableSpace_eq]
  simp only [bind, Except.bind]
  by_cases nothing : min data.length ring.writable = 0
  · rw [if_pos nothing]
    exact ⟨_, rfl, trivial⟩
  · rw [if_neg nothing, copyCells_eq ring.writeInside (by omega) (Nat.min_le_left _ _)]
    exact ⟨_, rfl, {
      current := rfl
      within := Nat.min_le_left _ _
      room := Nat.min_le_right _ _
      planned := fun _ among => among
      copied := fun _ among gone => absurd among gone }⟩

/-- The positions that `dequeue_slice` has loaded pass its checks. -/
theorem planRead_spec (ring : LockFreeRingBuffer) (size : Nat) :
    ∃ point, planRead ring.capacity size ring.readPos ring.writePos = .ok point
      ∧ DequeueSound ring point := by
  have total := ring.readable_add_writable
  unfold planRead
  rw [availableData_eq]
  simp only [bind, Except.bind]
  by_cases nothing : min size ring.readable = 0
  · rw [if_pos nothing]
    exact ⟨_, rfl, trivial⟩
  · rw [if_neg nothing, copyCells_eq ring.readInside (by omega) (Nat.min_le_left _ _)]
    exact ⟨_, rfl, {
      current := rfl
      within := by
        rw [List.length_replicate]
        exact Nat.min_le_left _ _
      held := Nat.min_le_right _ _
      planned := fun _ among => among
      copied := fun _ among gone => absurd among gone }⟩

/-- A step of `enqueue_slice` leaves the other side where it is, sound. -/
theorem DequeueSound.of_reading {ring next : LockFreeRingBuffer} {point : DequeuePoint}
    (sound : DequeueSound ring point) (same : next.readPos = ring.readPos)
    (reading : ∀ {readPos toRead : Nat} {filled : Bytes} {todo : List (Nat × Nat)},
      Reading ring readPos toRead filled todo → Reading next readPos toRead filled todo) :
    DequeueSound next point := by
  cases point with
  | idle | loadReadPos => trivial
  | loadWritePos size readPos => exact Eq.trans sound same.symm
  | copy readPos toRead filled todo => exact reading sound
  | panicked => exact sound

/-- A step of `dequeue_slice` leaves the other side where it is, sound. -/
theorem EnqueueSound.of_writing {ring next : LockFreeRingBuffer} {point : EnqueuePoint}
    (sound : EnqueueSound ring point) (same : next.writePos = ring.writePos)
    (writing : ∀ {data : Bytes} {writePos toWrite : Nat} {todo : List (Nat × Nat)},
      Writing ring data writePos toWrite todo → Writing next data writePos toWrite todo) :
    EnqueueSound next point := by
  cases point with
  | idle | loadWritePos => trivial
  | loadReadPos data writePos => exact Eq.trans sound same.symm
  | copy data writePos toWrite todo => exact writing sound
  | panicked => exact sound

theorem Consistent.produce {state next : SharedRing} (consistent : Consistent state)
    (stepped : state.produce = some next) : Consistent next := by
  have producer := consistent.producer
  unfold SharedRing.produce at stepped
  cases point : state.producer with
  | idle | panicked =>
      rw [point] at stepped
      cases stepped
  | loadWritePos data =>
      rw [point] at stepped
      cases stepped
      exact { queue := consistent.queue, producer := rfl, consumer := consistent.consumer }
  | loadReadPos data writePos =>
      rw [point] at stepped producer
      obtain rfl : writePos = state.ring.writePos := producer
      obtain ⟨planned, eq, sound⟩ := planWrite_spec state.ring data
      dsimp only at stepped
      rw [eq] at stepped
      cases stepped
      exact { queue := consistent.queue, producer := sound, consumer := consistent.consumer }
  | copy data writePos toWrite todo =>
      rw [point] at stepped producer
      cases todo with
      | cons => cases stepped
      | nil =>
          cases stepped
          have writing : Writing state.ring data writePos toWrite [] := producer
          exact {
            queue := by
              dsimp only
              rw [(contents_storeWritePos writing).2, consistent.queue, List.append_assoc]
            producer := trivial
            consumer := consistent.consumer.of_reading rfl fun reading =>
              reading.storeWritePos writing }

theorem Consistent.copyIn {state next : SharedRing} {pair : Nat × Nat}
    (consistent : Consistent state) (stepped : state.copyIn pair = some next) :
    Consistent next := by
  have producer := consistent.producer
  unfold SharedRing.copyIn at stepped
  cases point : state.producer with
  | copy data writePos toWrite todo =>
      rw [point] at stepped producer
      have writing : Writing state.ring data writePos toWrite todo := producer
      dsimp only at stepped
      split at stepped
      · rename_i among
        cases stepped
        exact {
          queue := by
            dsimp only
            rw [contents_setCell writing (writing.planned pair among)]
            exact consistent.queue
          producer := writing.setCell among
          consumer := consistent.consumer.of_reading rfl fun reading =>
            reading.setCell writing among _ }
      · cases stepped
  | _ =>
      rw [point] at stepped
      cases stepped

theorem Consistent.consume {state next : SharedRing} (consistent : Consistent state)
    (stepped : state.consume = some next) : Consistent next := by
  have consumer := consistent.consumer
  unfold SharedRing.consume at stepped
  cases point : state.consumer with
  | idle | panicked =>
      rw [point] at stepped
      cases stepped
  | loadReadPos size =>
      rw [point] at stepped
      cases stepped
      exact { queue := consistent.queue, producer := consistent.producer, consumer := rfl }
  | loadWritePos size readPos =>
      rw [point] at stepped consumer
      obtain rfl : readPos = state.ring.readPos := consumer
      obtain ⟨planned, eq, sound⟩ := planRead_spec state.ring size
      dsimp only at stepped
      rw [eq] at stepped
      cases stepped
      exact { queue := consistent.queue, producer := consistent.producer, consumer := sound }
  | copy readPos toRead filled todo =>
      rw [point] at stepped consumer
      cases todo with
      | cons => cases stepped
      | nil =>
          cases stepped
          have reading : Reading state.ring readPos toRead filled [] := consumer
          exact {
            queue := by
              dsimp only
              rw [List.append_assoc, (contents_storeReadPos reading).2]
              exact consistent.queue
            producer := consistent.producer.of_writing rfl fun writing =>
              writing.storeReadPos reading
            consumer := trivial }

theorem Consistent.copyOut {state next : SharedRing} {pair : Nat × Nat}
    (consistent : Consistent state) (stepped : state.copyOut pair = some next) :
    Consistent next := by
  have consumer := consistent.consumer
  unfold SharedRing.copyOut at stepped
  cases point : state.consumer with
  | copy readPos toRead filled todo =>
      rw [point] at stepped consumer
      have reading : Reading state.ring readPos toRead filled todo := consumer
      dsimp only at stepped
      split at stepped
      · rename_i among
        cases stepped
        exact {
          queue := consistent.queue
          producer := consistent.producer
          consumer := reading.set among }
      · cases stepped
  | _ =>
      rw [point] at stepped
      cases stepped

/-- **Every step of either side keeps it.** -/
theorem Consistent.step {state next : SharedRing} {action : Action} (consistent : Consistent state)
    (stepped : state.step action = some next) : Consistent next := by
  unfold SharedRing.step at stepped
  cases action with
  | enqueueSlice data =>
      dsimp only at stepped
      split at stepped <;> cases stepped
      exact { queue := consistent.queue, producer := trivial, consumer := consistent.consumer }
  | dequeueSlice size =>
      dsimp only at stepped
      split at stepped <;> cases stepped
      exact { queue := consistent.queue, producer := consistent.producer, consumer := trivial }
  | produce => exact consistent.produce stepped
  | copyIn pair => exact consistent.copyIn stepped
  | consume => exact consistent.consume stepped
  | copyOut pair => exact consistent.copyOut stepped

/-- The buffer keeps its size. -/
theorem step_capacity {state next : SharedRing} {action : Action}
    (stepped : state.step action = some next) : next.ring.capacity = state.ring.capacity := by
  unfold SharedRing.step at stepped
  cases action with
  | produce =>
      unfold SharedRing.produce at stepped
      dsimp only at stepped
      split at stepped <;> cases stepped <;> rfl
  | consume =>
      unfold SharedRing.consume at stepped
      dsimp only at stepped
      split at stepped <;> cases stepped <;> rfl
  | copyIn pair =>
      unfold SharedRing.copyIn at stepped
      dsimp only at stepped
      split at stepped
      · split at stepped <;> cases stepped
        rfl
      · cases stepped
  | copyOut pair =>
      unfold SharedRing.copyOut at stepped
      dsimp only at stepped
      split at stepped
      · split at stepped <;> cases stepped
        rfl
      · cases stepped
  | enqueueSlice | dequeueSlice =>
      dsimp only at stepped
      split at stepped <;> cases stepped
      rfl

/-! ### The queue -/

/-- The cells of a copy, as its plan goes through them. -/
theorem mem_cells_iff {capacity pos count cell : Nat} (inside : pos < capacity)
    (fits : count ≤ capacity) :
    cell ∈ ((List.range count).map fun index => (pos + index) % capacity)
      ↔ ∃ pair ∈ plan capacity pos count, pair.1 = cell := by
  rw [List.mem_map]
  constructor
  · rintro ⟨index, among, rfl⟩
    have early := List.mem_range.mp among
    exact ⟨(wrap capacity (pos + index), index), mem_plan.mpr ⟨early, rfl⟩,
      (mod_eq_wrap (by omega)).symm⟩
  · rintro ⟨pair, among, rfl⟩
    obtain ⟨early, cell⟩ := mem_plan.mp among
    exact ⟨pair.2, List.mem_range.mpr early, by rw [cell, mod_eq_wrap (by omega)]⟩

theorem EnqueueSound.of_mem_cells {ring : LockFreeRingBuffer} {point : EnqueuePoint} {cell : Nat}
    (sound : EnqueueSound ring point) (among : cell ∈ point.cells ring.capacity) :
    ∃ data writePos toWrite todo, Writing ring data writePos toWrite todo
      ∧ ∃ pair ∈ plan ring.capacity writePos toWrite, pair.1 = cell := by
  cases point with
  | copy data writePos toWrite todo =>
      have writing : Writing ring data writePos toWrite todo := sound
      exact ⟨data, writePos, toWrite, todo, writing,
        (mem_cells_iff (writing.current ▸ ring.writeInside) writing.short).mp among⟩
  | _ => exact absurd among List.not_mem_nil

theorem DequeueSound.of_mem_cells {ring : LockFreeRingBuffer} {point : DequeuePoint} {cell : Nat}
    (sound : DequeueSound ring point) (among : cell ∈ point.cells ring.capacity) :
    ∃ readPos toRead filled todo, Reading ring readPos toRead filled todo
      ∧ ∃ pair ∈ plan ring.capacity readPos toRead, pair.1 = cell := by
  cases point with
  | copy readPos toRead filled todo =>
      have reading : Reading ring readPos toRead filled todo := sound
      exact ⟨readPos, toRead, filled, todo, reading,
        (mem_cells_iff (reading.current ▸ ring.readInside) reading.short).mp among⟩
  | _ => exact absurd among List.not_mem_nil

theorem EnqueueSound.inside {ring : LockFreeRingBuffer} {point : EnqueuePoint}
    (sound : EnqueueSound ring point) : point.Inside ring.capacity := by
  cases point with
  | copy data writePos toWrite todo =>
      have writing : Writing ring data writePos toWrite todo := sound
      have start : writePos < ring.capacity := writing.current ▸ ring.writeInside
      intro pair left
      have among := writing.planned pair left
      obtain ⟨cell, early⟩ := mem_plan_bounds start writing.short among
      exact ⟨cell, (mem_cells_iff start writing.short).mpr ⟨pair, among, rfl⟩,
        Nat.lt_of_lt_of_le early writing.within⟩
  | panicked => exact sound
  | _ => trivial

theorem DequeueSound.inside {ring : LockFreeRingBuffer} {point : DequeuePoint}
    (sound : DequeueSound ring point) : point.Inside ring.capacity := by
  cases point with
  | copy readPos toRead filled todo =>
      have reading : Reading ring readPos toRead filled todo := sound
      have start : readPos < ring.capacity := reading.current ▸ ring.readInside
      intro pair left
      have among := reading.planned pair left
      obtain ⟨cell, early⟩ := mem_plan_bounds start reading.short among
      exact ⟨cell, (mem_cells_iff start reading.short).mpr ⟨pair, among, rfl⟩,
        Nat.lt_of_lt_of_le early reading.within⟩
  | panicked => exact sound
  | _ => trivial

/-- What is being accepted fits behind the contents. -/
theorem EnqueueSound.underway_le {ring : LockFreeRingBuffer} {point : EnqueuePoint}
    (sound : EnqueueSound ring point) : point.underway ≤ ring.writable := by
  cases point with
  | copy data writePos toWrite todo => exact Writing.room sound
  | _ => exact Nat.zero_le _

theorem Consistent.fifo {state : SharedRing} (consistent : Consistent state) :
    Fifo state.ring.capacity state := by
  have total := state.ring.readable_add_writable
  have held := state.ring.length_contents
  have queue := consistent.queue
  have counts : state.accepted.length = state.dequeued.length + state.ring.readable := by
    rw [queue, List.length_append, held]
  exact {
    ordered := ⟨state.ring.contents, queue.symm⟩
    bounded := by
      have room := consistent.producer.underway_le
      omega
    disjoint := fun cell written read => by
      obtain ⟨data, writePos, toWrite, todo, writing, one, among, rfl⟩ :=
        consistent.producer.of_mem_cells written
      obtain ⟨readPos, toRead, filled, left, reading, another, among', same⟩ :=
        consistent.consumer.of_mem_cells read
      exact writing.disjoint reading among among' same.symm
    producerInside := consistent.producer.inside
    consumerInside := consistent.consumer.inside
    empty := fun _ _ => by
      rw [state.ring.isEmpty_iff, ← List.length_eq_zero_iff, held]
      omega
    full := fun _ _ => by
      rw [state.ring.isFull_iff]
      omega }

/-- **The ring buffer is a queue**, in every state of every run of one producer and one consumer,
whatever they enqueue and dequeue and in whatever order their steps come. -/
theorem ring_fifo {capacity : Nat} (positive : 0 < capacity) {actions : List Action}
    {final : SharedRing} (reached : machine.run (new capacity positive) actions = some final) :
    Fifo capacity final := by
  have keeps : ∀ {state : SharedRing} {action : Action} {next : SharedRing},
      Consistent state ∧ state.ring.capacity = capacity → machine.step state action = some next →
      Consistent next ∧ next.ring.capacity = capacity :=
    fun before stepped => ⟨before.1.step stepped, (step_capacity stepped).trans before.2⟩
  obtain ⟨consistent, rfl⟩ := Machine.run_invariant keeps ⟨.new capacity positive, rfl⟩ reached
  exact consistent.fifo

/-- Both sides at work in a buffer of four cells, over the end of the buffer. -/
def bothSides : List Action :=
  [.enqueueSlice [1, 2, 3], .produce, .produce, .copyIn (1, 1), .copyIn (0, 0), .copyIn (2, 2),
    .produce, .dequeueSlice 2, .consume, .consume, .copyOut (0, 0), .copyOut (1, 1), .consume,
    .enqueueSlice [4, 5], .produce, .produce, .dequeueSlice 9, .copyIn (3, 0), .consume,
    .copyIn (0, 1), .consume, .produce, .copyOut (2, 0), .consume]

theorem ring_fifo_bothSides : ∃ final, machine.run (new 4 (by decide)) bothSides = some final
    ∧ final.accepted = [1, 2, 3, 4, 5] ∧ final.dequeued = [1, 2, 3] ∧ Fifo 4 final := by
  have runs : (machine.run (new 4 (by decide)) bothSides).map
      (fun final => (final.accepted, final.dequeued)) = some ([1, 2, 3, 4, 5], [1, 2, 3]) := by
    decide +kernel
  obtain ⟨final, reached, records⟩ := Option.map_eq_some_iff.mp runs
  obtain ⟨accepted, dequeued⟩ := Prod.mk.inj records
  exact ⟨final, reached, accepted, dequeued, ring_fifo (by decide) reached⟩

end SharedRing

end RsTun.Netstack
