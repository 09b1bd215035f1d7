/-
**`SniffedStream`: bytes that were read are given back, and read again.**

A reader reads with buffers of any size and gives back what it has read last, in any order. What the
inner stream holds is not fixed beforehand: a poll of it returns any bytes that fit the buffer, and
`arrived` is all that it has returned.

* `Transparent` — nothing is lost, repeated or out of order.
* **`sniffed_transparent_iff`** — a run is transparent exactly when every `prepend` puts bytes in
  front of a prefix with which they commute: an empty one, above all.
-/

import RsTun.Library.Bytes
import RsTun.Library.Machine

namespace RsTun

open Library Library.Bytes

/-- `SniffedStream`, as far as reads are concerned; `prefixBytes` is its field `prefix`. -/
structure SniffedStream where
  prefixBytes : Bytes
  liveDown : Option Int64
  deriving DecidableEq

/-- What a poll returns: nothing yet, an error, or the bytes that it has put into the buffer. -/
inductive ReadPoll where
  | pending
  | failed
  | ready (data : Bytes)
  deriving DecidableEq

/-- The bytes of a poll. -/
def ReadPoll.data : ReadPoll → Bytes
  | .ready data => data
  | _ => []

namespace SniffedStream

/-- `SniffedStream::new`. -/
def new : SniffedStream := ⟨[], none⟩

/-- `prepend`. -/
def prepend (stream : SniffedStream) (data : Bytes) : SniffedStream :=
  if data = [] then stream
  else if stream.prefixBytes = [] then { stream with prefixBytes := data }
  else { stream with prefixBytes := stream.prefixBytes ++ data }

/-- `c.fetch_add(n as i64)`, if there is a counter. -/
def countDown (stream : SniffedStream) (n : Nat) : SniffedStream :=
  { stream with liveDown := stream.liveDown.map (· + .ofNat n) }

/-- `poll_read` with `room` bytes left in the buffer, and what the inner stream would answer. -/
def pollRead (stream : SniffedStream) (room : Nat) (inner : ReadPoll) : SniffedStream × ReadPoll :=
  if stream.prefixBytes ≠ [] then
    let amt := min stream.prefixBytes.length room
    ({ stream with prefixBytes := stream.prefixBytes.drop amt }.countDown amt,
      .ready (stream.prefixBytes.take amt))
  else if 0 < inner.data.length then (stream.countDown inner.data.length, inner)
  else (stream, inner)

@[simp] theorem prefixBytes_countDown (stream : SniffedStream) (n : Nat) :
    (stream.countDown n).prefixBytes = stream.prefixBytes := rfl

/-- `prepend` puts the bytes behind the prefix. -/
@[simp] theorem prefixBytes_prepend (stream : SniffedStream) (data : Bytes) :
    (stream.prepend data).prefixBytes = stream.prefixBytes ++ data := by
  unfold prepend
  split
  · rename_i empty
    rw [empty, List.append_nil]
  · split
    · rename_i consumed
      rw [consumed, List.nil_append]
    · rfl

/-- **A read** takes bytes off the prefix, or, when there is none, those of the inner stream. -/
theorem pollRead_cases (stream : SniffedStream) (room : Nat) (inner : ReadPoll) :
    (stream.prefixBytes ≠ [] ∧ ∃ amt,
        (stream.pollRead room inner).2 = .ready (stream.prefixBytes.take amt)
          ∧ (stream.pollRead room inner).1.prefixBytes = stream.prefixBytes.drop amt)
      ∨ (stream.prefixBytes = [] ∧ (stream.pollRead room inner).2 = inner
          ∧ (stream.pollRead room inner).1.prefixBytes = []) := by
  unfold pollRead
  by_cases sniffed : stream.prefixBytes = []
  · refine Or.inr ⟨sniffed, ?_⟩
    rw [if_neg (not_not.mpr sniffed)]
    split
    · exact ⟨rfl, sniffed⟩
    · exact ⟨rfl, sniffed⟩
  · refine Or.inl ⟨sniffed, min stream.prefixBytes.length room, ?_⟩
    rw [if_pos sniffed]
    exact ⟨rfl, rfl⟩

end SniffedStream

/-! ### A reader -/

/-- A stream and its reader: the bytes that the reader has obtained and not given back, and all that
the inner stream has returned. -/
structure SniffingReader where
  stream : SniffedStream
  obtained : Bytes
  arrived : Bytes
  deriving DecidableEq

/-- What a reader does. -/
inductive SniffingAction where
  | read (room : Nat) (inner : ReadPoll)
  | prepend (data : Bytes)

namespace SniffingReader

/-- Nothing has been read yet. -/
def start (stream : SniffedStream) : SniffingReader := ⟨stream, [], []⟩

/-- Reads of any size, of which the inner stream fills at most the room that there is, and `prepend`
of the bytes that were obtained last. -/
def machine : Machine SniffingReader SniffingAction where
  step reader
    | .read room inner =>
        if inner.data.length ≤ room then
          let polled := reader.stream.pollRead room inner
          some {
            stream := polled.1
            obtained := reader.obtained ++ polled.2.data
            arrived := if reader.stream.prefixBytes = [] then reader.arrived ++ inner.data
              else reader.arrived }
        else none
    | .prepend data =>
        if data <:+ reader.obtained then
          some { reader with
            stream := reader.stream.prepend data
            obtained := reader.obtained.take (reader.obtained.length - data.length) }
        else none

/-- **Nothing is lost, repeated or out of order**: what was obtained and what is still to be read of
the prefix are the first prefix and the bytes of the inner stream. -/
def Transparent (before : Bytes) (reader : SniffingReader) : Prop :=
  reader.obtained ++ reader.stream.prefixBytes = before ++ reader.arrived

/-- What is given back commutes with the prefix that is there. -/
def Commutes (reader : SniffingReader) : SniffingAction → Prop
  | .read _ _ => True
  | .prepend data => data ++ reader.stream.prefixBytes = reader.stream.prefixBytes ++ data

instance (reader : SniffingReader) (action : SniffingAction) :
    Decidable (reader.Commutes action) := by
  cases action <;> unfold Commutes <;> infer_instance

variable {reader next : SniffingReader} {before : Bytes}

/-- Any bytes can be given back to a stream without a prefix. -/
theorem commutes_of_consumed (consumed : reader.stream.prefixBytes = []) (action : SniffingAction) :
    reader.Commutes action := by
  cases action with
  | read room inner => exact trivial
  | prepend data =>
      show data ++ _ = _ ++ data
      rw [consumed, List.append_nil, List.nil_append]

/-- A read moves bytes from the prefix, or from the inner stream, to the reader. -/
theorem Transparent.read {room : Nat} {inner : ReadPoll} (transparent : reader.Transparent before)
    (stepped : machine.step reader (.read room inner) = some next) : next.Transparent before := by
  unfold machine at stepped
  dsimp only at stepped
  split at stepped
  · rw [Option.some.injEq] at stepped
    subst stepped
    unfold Transparent at transparent ⊢
    dsimp only
    obtain ⟨sniffed, amt, got, left⟩ | ⟨consumed, got, left⟩ :=
      reader.stream.pollRead_cases room inner
    · rw [got, left, if_neg sniffed, ReadPoll.data, List.append_assoc, List.take_append_drop]
      exact transparent
    · rw [consumed, List.append_nil] at transparent
      rw [got, left, if_pos consumed, List.append_nil, transparent, List.append_assoc]
  · cases stepped

/-- What is given back comes before the prefix, unless the two commute. -/
theorem Transparent.prepend_iff {data : Bytes} (transparent : reader.Transparent before)
    (stepped : machine.step reader (.prepend data) = some next) :
    next.Transparent before ↔ reader.Commutes (.prepend data) := by
  unfold machine at stepped
  dsimp only at stepped
  split at stepped
  · rename_i last
    obtain ⟨kept, obtained⟩ := last
    have taken : (kept ++ data).take ((kept ++ data).length - data.length) = kept := by
      rw [List.length_append, Nat.add_sub_cancel, List.take_left]
    rw [Option.some.injEq] at stepped
    subst stepped
    unfold Transparent at transparent ⊢
    rw [← obtained, List.append_assoc] at transparent
    dsimp only
    rw [← obtained, taken, SniffedStream.prefixBytes_prepend, ← transparent,
      List.append_cancel_left_eq]
    exact eq_comm
  · cases stepped

/-- **A run is transparent exactly when** every `prepend` gives back bytes that commute with the
unread prefix. -/
theorem sniffed_transparent_iff {stream : SniffedStream} {actions : List SniffingAction}
    {final : SniffingReader} (reached : machine.run (start stream) actions = some final) :
    machine.Throughout (Transparent stream.prefixBytes) (start stream) actions
      ↔ machine.Meets Commutes (start stream) actions := by
  have begun : (start stream).Transparent stream.prefixBytes := (List.append_nil _).symm
  refine Machine.throughout_iff_meets id ?_ ?_ begun reached
  · intro reader action next transparent commutes stepped
    cases action with
    | read room inner => exact transparent.read stepped
    | prepend data => exact (transparent.prepend_iff stepped).mpr commutes
  · intro reader action next transparent crosses stepped
    cases action with
    | read room inner => exact absurd trivial crosses
    | prepend data => exact fun still => crosses ((transparent.prepend_iff stepped).mp still)

/-- Two bytes are read and given back, and then the first of them alone. -/
def sampleActions : List SniffingAction :=
  [.read 8 (.ready [1, 2]), .prepend [1, 2], .read 1 .pending, .prepend [1]]

theorem sniffed_transparent_iff_sample : ∃ final,
    machine.run (start .new) sampleActions = some final
      ∧ (machine.Throughout (Transparent SniffedStream.new.prefixBytes) (start .new) sampleActions
        ↔ machine.Meets Commutes (start .new) sampleActions) := by
  refine ⟨⟨⟨[2, 1], none⟩, [], [1, 2]⟩, by decide, ?_⟩
  exact sniffed_transparent_iff
    (by decide : _ = some (⟨⟨[2, 1], none⟩, [], [1, 2]⟩ : SniffingReader))

/-- **The bytes change places** when the first is given back while the second is still unread. -/
theorem sniffed_bytes_swapped : ∃ final,
    machine.run (start .new) (sampleActions ++ [.read 8 .pending]) = some final
      ∧ final.stream.prefixBytes = [] ∧ final.arrived = [1, 2] ∧ final.obtained = [2, 1] :=
  ⟨⟨⟨[], none⟩, [2, 1], [1, 2]⟩, by decide, rfl, rfl, rfl⟩

end SniffingReader

end RsTun
