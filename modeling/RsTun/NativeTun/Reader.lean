/-
**The batch reader of a Linux TUN device, and the segments it keeps between two calls.**

A frame that the kernel left unsegmented is split when it is read; the segments that do not fit into
the caller's buffers wait for the next call. `readerMachine` runs `do_batch_read` on arbitrary
buffers and arbitrary results of the device.

* `takePending_spec` — what the two `while` loops move from the pending segments to the buffers.
* `doBatchRead_cases` — what a call can do.
* `reader_lossless_throughout_iff` — what the successful calls return and what is still pending are
  together the packets of all frames that were read and split, **exactly** as long as no call fails
  after it has moved pending segments into its buffers.
* `failed_read_loses_segment` — a read error after that loses a segment of an earlier frame.
-/

import RsTun.Gso.Split
import RsTun.Library.Machine

namespace RsTun.NativeTun

open Library Library.Bytes Gso

/-! ### The caller's buffers -/

/-- The buffers of a call, and the sizes that it will return. -/
structure Batch where
  bufs : List Bytes
  result : List Nat
  deriving DecidableEq

namespace Batch

/-- `bufs[result.len()] = seg; result.push(len)`. -/
def push (batch : Batch) (seg : Bytes) : Batch :=
  ⟨batch.bufs.set batch.result.length seg, batch.result ++ [seg.length]⟩

/-- The packets that a caller finds: `&bufs[idx][..len]` for every returned size. -/
def packets (batch : Batch) : List Bytes :=
  List.zipWith (fun (buf : Bytes) len => buf.take len) batch.bufs batch.result

/-- A buffer is left. -/
def HasRoom (batch : Batch) : Prop := batch.result.length < batch.bufs.length

instance (batch : Batch) : Decidable batch.HasRoom := inferInstanceAs (Decidable (_ < _))

/-- A caller's buffers before the call. -/
def new (bufs : List Bytes) : Batch := ⟨bufs, []⟩

@[simp] theorem packets_new (bufs : List Bytes) : (new bufs).packets = [] :=
  List.zipWith_nil_right

/-- **A packet that is pushed comes last.** -/
theorem packets_push {batch : Batch} (room : batch.HasRoom) (seg : Bytes) :
    (batch.push seg).packets = batch.packets ++ [seg] := by
  obtain ⟨bufs, result⟩ := batch
  have room' : result.length < bufs.length := room
  have split : bufs.set result.length seg
      = bufs.take result.length ++ seg :: bufs.drop (result.length + 1) :=
    List.set_eq_take_append_cons_drop.trans (if_pos room')
  have front : (bufs.take result.length).length = result.length := by
    rw [List.length_take, Nat.min_eq_left (Nat.le_of_lt room')]
  have shorter :
      List.zipWith (fun (buf : Bytes) len => buf.take len) (bufs.take result.length) result
      = List.zipWith (fun (buf : Bytes) len => buf.take len) bufs result := by
    conv_rhs => rw [← List.take_append_drop result.length bufs]
    rw [← List.append_nil result, List.zipWith_append (by simpa using front)]
    simp
  simp only [push, packets]
  rw [split, List.zipWith_append front, shorter]
  simp

end Batch

/-! ### The reader -/

/-- `LinuxTunReader`, but for the buffers that no call leaves anything in. -/
structure LinuxTunReader where
  vnetHdr : Bool
  pendingSegments : List Bytes
  pendingIdx : Nat
  deriving DecidableEq

/-- The results of `self.reader.read`: an error, or `n` bytes in the read buffer. -/
inductive DeviceRead where
  | failed
  | frame (bytes : Bytes)
  deriving DecidableEq

/-- The errors of a call. -/
inductive ReadError where
  | device
  | gso (error : GsoError)
  deriving DecidableEq

/-- What a call makes of a frame: segments for the pending queue, or one packet. -/
inductive Opened where
  | split (segments : List Bytes)
  | whole (pkt : Bytes)

/-- The packets of a frame. -/
def Opened.packets : Opened → List Bytes
  | .split segments => segments
  | .whole pkt => [pkt]

namespace LinuxTunReader

/-- `LinuxTunReader::new`. -/
def new (vnetHdr : Bool) : LinuxTunReader := ⟨vnetHdr, [], 0⟩

/-- The segments that wait for a call. -/
def pending (reader : LinuxTunReader) : List Bytes := reader.pendingSegments.drop reader.pendingIdx

/-- `while self.pending_idx < self.pending_segments.len() && result.len() < bufs.len()`, at most
`turns` turns of it. -/
def takePending : Nat → LinuxTunReader → Batch → LinuxTunReader × Batch
  | 0, reader, batch => (reader, batch)
  | turns + 1, reader, batch =>
      match reader.pendingSegments[reader.pendingIdx]? with
      | none => (reader, batch)
      | some seg =>
          if batch.HasRoom then
            takePending turns
              { reader with
                pendingSegments := reader.pendingSegments.set reader.pendingIdx []
                pendingIdx := reader.pendingIdx + 1 }
              (batch.push seg)
          else (reader, batch)

/-- The header, the options and the split of a frame that was read. -/
def openFrame (vnetHdr : Bool) (frame : Bytes) : Checked GsoError Opened :=
  if vnetHdr ∧ virtioNetHdrLen < frame.length then do
    let hdr ← VirtioNetHdr.decode (frame.take virtioNetHdrLen)
    let pkt := frame.drop virtioNetHdrLen
    if hdr.isGso then do
      let options ← hdr.toGsoOptions
      let segments ← gsoSplit pkt options idealBatchSize
      return .split segments
    else return .whole pkt
  else return .whole frame

/-- How a call ends: sizes in the batch or a fault, and whether the device was read. -/
structure CallEnd where
  outcome : Checked ReadError Unit
  reader : LinuxTunReader
  batch : Batch
  deviceRead : Bool

/-- `do_batch_read`. -/
def doBatchRead (reader : LinuxTunReader) (bufs : List Bytes) (read : DeviceRead) : CallEnd :=
  let (reader, batch) := takePending bufs.length reader (.new bufs)
  if bufs.length ≤ batch.result.length ∨ bufs = [] then ⟨.ok (), reader, batch, false⟩
  else
    match read with
    | .failed => ⟨Checked.fail .device, reader, batch, true⟩
    | .frame frame =>
        if frame.length = 0 then ⟨.ok (), reader, batch, true⟩
        else
          match openFrame reader.vnetHdr frame with
          | .error (.failed error) => ⟨Checked.fail (.gso error), reader, batch, true⟩
          | .error .panicked => ⟨.error .panicked, reader, batch, true⟩
          | .ok (.split segments) =>
              let (reader, batch) := takePending bufs.length
                { reader with pendingSegments := segments, pendingIdx := 0 } batch
              ⟨.ok (), reader, batch, true⟩
          | .ok (.whole pkt) => ⟨.ok (), reader, batch.push pkt, true⟩

theorem pending_of_none {reader : LinuxTunReader}
    (done : reader.pendingSegments[reader.pendingIdx]? = none) : reader.pending = [] :=
  List.drop_eq_nil_of_le (List.getElem?_eq_none_iff.mp done)

theorem pending_of_some {reader : LinuxTunReader} {seg : Bytes}
    (next : reader.pendingSegments[reader.pendingIdx]? = some seg) :
    reader.pending = seg :: reader.pendingSegments.drop (reader.pendingIdx + 1) := by
  obtain ⟨inside, same⟩ := List.getElem?_eq_some_iff.mp next
  rw [pending, List.drop_eq_getElem_cons inside, same]

/-- **The loops over the pending segments** move as many of them as there are buffers left. -/
theorem takePending_spec : ∀ {turns : Nat} {reader : LinuxTunReader} {batch : Batch},
    batch.result.length ≤ batch.bufs.length →
    batch.bufs.length - batch.result.length ≤ turns →
    (takePending turns reader batch).1.vnetHdr = reader.vnetHdr ∧
    (takePending turns reader batch).1.pending
      = reader.pending.drop (batch.bufs.length - batch.result.length) ∧
    (takePending turns reader batch).2.packets
      = batch.packets ++ reader.pending.take (batch.bufs.length - batch.result.length) ∧
    (takePending turns reader batch).2.bufs.length = batch.bufs.length ∧
    (takePending turns reader batch).2.result.length = batch.result.length
      + min (batch.bufs.length - batch.result.length) reader.pending.length
  | 0, reader, batch, fits, enough => by
      have full : batch.bufs.length - batch.result.length = 0 := by omega
      simp [takePending, full]
  | turns + 1, reader, batch, fits, enough => by
      rw [takePending]
      cases next : reader.pendingSegments[reader.pendingIdx]? with
      | none => simp [pending_of_none next]
      | some seg =>
          by_cases room : batch.HasRoom
          · have room' : batch.result.length < batch.bufs.length := room
            have later := @takePending_spec turns
              { reader with
                pendingSegments := reader.pendingSegments.set reader.pendingIdx []
                pendingIdx := reader.pendingIdx + 1 }
              (batch.push seg) (by simp [Batch.push]; omega) (by simp [Batch.push]; omega)
            have rest : ({ reader with
                pendingSegments := reader.pendingSegments.set reader.pendingIdx []
                pendingIdx := reader.pendingIdx + 1 } : LinuxTunReader).pending
                = reader.pendingSegments.drop (reader.pendingIdx + 1) :=
              List.drop_set_of_lt (Nat.lt_succ_self _)
            have left : batch.bufs.length - batch.result.length
                = (batch.bufs.length - (batch.result.length + 1)) + 1 := by omega
            have bufs : (batch.push seg).bufs.length = batch.bufs.length := List.length_set
            have result : (batch.push seg).result.length = batch.result.length + 1 :=
              List.length_append
            rw [rest, bufs, result, Batch.packets_push room] at later
            simp only [if_pos room]
            rw [pending_of_some next, left, List.drop_succ_cons, List.take_succ_cons]
            obtain ⟨hdr, waits, moved, bufs', result'⟩ := later
            refine ⟨hdr, waits, ?_, bufs', ?_⟩
            · rw [moved, List.append_assoc]
              rfl
            · rw [result', List.length_cons]
              omega
          · have full : batch.bufs.length - batch.result.length = 0 := by
              have : ¬ batch.result.length < batch.bufs.length := room
              omega
            simp [room, full]

/-- **What a call can do.** With enough pending segments the device is not read; otherwise all of
them are in the buffers, and the call fails, finds the device closed, or adds a frame. -/
theorem doBatchRead_cases (reader : LinuxTunReader) (bufs : List Bytes) (read : DeviceRead) :
    (bufs.length ≤ reader.pending.length ∧ ∃ next batch,
      doBatchRead reader bufs read = ⟨.ok (), next, batch, false⟩ ∧ next.vnetHdr = reader.vnetHdr
        ∧ batch.packets ++ next.pending = reader.pending) ∨
    (reader.pending.length < bufs.length ∧ ∃ next batch outcome,
      doBatchRead reader bufs read = ⟨outcome, next, batch, true⟩ ∧ next.vnetHdr = reader.vnetHdr ∧
      ((outcome ≠ .ok () ∧ next.pending = [] ∧ (read = .failed ∨ ∃ frame fault,
          read = .frame frame ∧ frame ≠ [] ∧ openFrame reader.vnetHdr frame = .error fault)) ∨
        (outcome = .ok () ∧ read = .frame [] ∧ batch.packets ++ next.pending = reader.pending) ∨
        (outcome = .ok () ∧ ∃ frame opened, read = .frame frame ∧ frame ≠ []
          ∧ openFrame reader.vnetHdr frame = .ok opened
          ∧ batch.packets ++ next.pending = reader.pending ++ opened.packets))) := by
  obtain ⟨hdr, waits, moved, size, filled⟩ :=
    @takePending_spec bufs.length reader (.new bufs) (Nat.zero_le _) (Nat.le_refl _)
  unfold doBatchRead
  generalize takePending bufs.length reader (.new bufs) = taken at hdr waits moved size filled ⊢
  obtain ⟨next, batch⟩ := taken
  rw [Batch.packets_new, List.nil_append] at moved
  simp only [Batch.new, List.length_nil, Nat.sub_zero, Nat.zero_add] at hdr waits moved size filled
  by_cases enough : bufs.length ≤ reader.pending.length
  · have full : bufs.length ≤ batch.result.length ∨ bufs = [] :=
      .inl (by rw [filled, Nat.min_eq_left enough])
    refine .inl ⟨enough, next, batch, if_pos full, hdr, ?_⟩
    rw [moved, waits, List.take_append_drop]
  · have few : reader.pending.length < bufs.length := Nat.lt_of_not_le enough
    have notFull : ¬ (bufs.length ≤ batch.result.length ∨ bufs = []) := by
      rw [filled, Nat.min_eq_right (Nat.le_of_lt few), not_or]
      refine ⟨enough, ?_⟩
      rintro rfl
      exact absurd few (Nat.not_lt_zero _)
    have empty : next.pending = [] := waits.trans (List.drop_eq_nil_of_le (Nat.le_of_lt few))
    have all : batch.packets = reader.pending :=
      moved.trans (List.take_of_length_le (Nat.le_of_lt few))
    have room : batch.HasRoom := by
      rw [Batch.HasRoom, filled, size]
      omega
    dsimp only
    rw [if_neg notFull]
    refine .inr ⟨few, ?_⟩
    cases read with
    | failed =>
        exact ⟨next, batch, _, rfl, hdr, .inl ⟨nofun, empty, .inl rfl⟩⟩
    | frame frame =>
        dsimp only
        by_cases nothing : frame.length = 0
        · rw [if_pos nothing]
          obtain rfl := List.length_eq_zero_iff.mp nothing
          refine ⟨next, batch, _, rfl, hdr, .inr (.inl ⟨rfl, rfl, ?_⟩)⟩
          rw [all, empty, List.append_nil]
        · rw [if_neg nothing]
          have nonempty : frame ≠ [] := fun none => nothing (by rw [none]; rfl)
          rw [← hdr]
          cases done : openFrame next.vnetHdr frame with
          | error fault =>
              cases fault with
              | failed error =>
                  exact ⟨next, batch, _, rfl, rfl, .inl ⟨nofun, empty,
                    .inr ⟨frame, _, rfl, nonempty, done⟩⟩⟩
              | panicked =>
                  exact ⟨next, batch, _, rfl, rfl, .inl ⟨nofun, empty,
                    .inr ⟨frame, _, rfl, nonempty, done⟩⟩⟩
          | ok opened =>
              cases opened with
              | split segments =>
                  obtain ⟨hdr', waits', moved', -, -⟩ := @takePending_spec bufs.length
                    { next with pendingSegments := segments, pendingIdx := 0 } batch
                    (Nat.le_of_lt room) (by rw [size]; omega)
                  refine ⟨_, _, _, rfl, hdr',
                    .inr (.inr ⟨rfl, frame, .split segments, rfl, nonempty, done, ?_⟩)⟩
                  rw [moved', waits', List.append_assoc, List.take_append_drop, all]
                  rfl
              | whole pkt =>
                  refine ⟨_, _, _, rfl, rfl,
                    .inr (.inr ⟨rfl, frame, .whole pkt, rfl, nonempty, done, ?_⟩)⟩
                  rw [Batch.packets_push room, all, empty, List.append_nil]
                  rfl

end LinuxTunReader

/-! ### Runs -/

/-- A reader in a run: what its successful calls have returned, and the packets of the frames that
it has read and split. -/
structure ReaderRun where
  reader : LinuxTunReader
  returned : List Bytes
  arrived : List Bytes
  panicked : Bool
  deriving DecidableEq

/-- A call, with its buffers and with what the device does if it is read. -/
structure BatchRead where
  bufs : List Bytes
  read : DeviceRead
  deriving DecidableEq

/-- The packets of a frame that is read and split successfully. -/
def arrivedPackets (vnetHdr : Bool) : DeviceRead → List Bytes
  | .failed => []
  | .frame [] => []
  | .frame frame =>
      match LinuxTunReader.openFrame vnetHdr frame with
      | .ok opened => opened.packets
      | .error _ => []

/-- Calls of `do_batch_read`, one after the other; a panic ends the task. -/
def batchMachine : Machine ReaderRun BatchRead where
  step run call :=
    if run.panicked then none
    else
      let stop := run.reader.doBatchRead call.bufs call.read
      some {
        reader := stop.reader
        returned := run.returned ++ if stop.outcome = .ok () then stop.batch.packets else []
        arrived := run.arrived
          ++ if stop.deviceRead then arrivedPackets run.reader.vnetHdr call.read else []
        panicked := stop.outcome = .error .panicked }

namespace ReaderRun

/-- A new reader. -/
def start (vnetHdr : Bool) : ReaderRun := ⟨.new vnetHdr, [], [], false⟩

/-- **Nothing is lost, doubled or reordered**: what was returned and what still waits are together
the packets of the frames that were read and split. -/
def Lossless (run : ReaderRun) : Prop := run.returned ++ run.reader.pending = run.arrived

instance (run : ReaderRun) : Decidable run.Lossless := inferInstanceAs (Decidable (_ = _))

/-- The device fails, or its frame cannot be decoded or split. -/
def ReadFails (vnetHdr : Bool) (read : DeviceRead) : Prop :=
  read = .failed ∨ ∃ frame fault,
    read = .frame frame ∧ frame ≠ [] ∧ LinuxTunReader.openFrame vnetHdr frame = .error fault

/-- The call does not fail on the device after it has moved pending segments. -/
def KeepsPending (run : ReaderRun) (call : BatchRead) : Prop :=
  run.reader.pending ≠ [] → run.reader.pending.length < call.bufs.length →
    ¬ ReadFails run.reader.vnetHdr call.read

instance readFailsDecidable (vnetHdr : Bool) : ∀ read, Decidable (ReadFails vnetHdr read)
  | .failed => .isTrue (.inl rfl)
  | .frame frame =>
      match done : LinuxTunReader.openFrame vnetHdr frame with
      | .error fault =>
          if nonempty : frame ≠ [] then .isTrue (.inr ⟨frame, fault, rfl, nonempty, done⟩)
          else .isFalse (by
            rintro (impossible | ⟨other, fault', same, nonempty', -⟩)
            · cases impossible
            · cases same
              exact nonempty nonempty')
      | .ok opened => .isFalse (by
          rintro (impossible | ⟨other, fault', same, -, fails⟩)
          · cases impossible
          · cases same
            cases done.symm.trans fails)

instance (run : ReaderRun) (call : BatchRead) : Decidable (run.KeepsPending call) :=
  inferInstanceAs (Decidable (_ → _ → _))

theorem arrivedPackets_of_fails {vnetHdr : Bool} {read : DeviceRead}
    (fails : ReadFails vnetHdr read) :
    arrivedPackets vnetHdr read = [] := by
  obtain rfl | ⟨frame, fault, rfl, nonempty, done⟩ := fails
  · rw [arrivedPackets]
  · rw [arrivedPackets, done]
    exact nonempty

theorem start_lossless (vnetHdr : Bool) : (start vnetHdr).Lossless := rfl

/-- **A call that keeps the pending segments loses nothing.** -/
theorem Lossless.step {run next : ReaderRun} {call : BatchRead} (lossless : run.Lossless)
    (keeps : run.KeepsPending call) (moved : batchMachine.step run call = some next) :
    next.Lossless := by
  obtain ⟨-, same⟩ := Option.ite_none_left_eq_some.mp moved
  cases same
  unfold Lossless at lossless ⊢
  obtain ⟨-, reader, batch, done, -, kept⟩ | ⟨few, reader, batch, outcome, done, -, how⟩ :=
    run.reader.doBatchRead_cases call.bufs call.read
  · simp only [done, if_true, Bool.false_eq_true, if_false, List.append_nil]
    rw [List.append_assoc, kept, lossless]
  · simp only [done, if_true]
    obtain ⟨failed, empty, why⟩ | ⟨rfl, read, kept⟩ |
      ⟨rfl, frame, opened, read, nonempty, ok, kept⟩ := how
    · have none : run.reader.pending = [] := by
        by_contra waiting
        exact keeps waiting few why
      rw [if_neg failed, empty, arrivedPackets_of_fails why, List.append_nil, List.append_nil,
        ← lossless, none, List.append_nil, List.append_nil]
    · rw [if_pos rfl, read, List.append_assoc, kept, lossless]
      exact (List.append_nil _).symm
    · have packets : arrivedPackets run.reader.vnetHdr call.read = opened.packets := by
        rw [read, arrivedPackets, ok]
        exact nonempty
      rw [if_pos rfl, packets, List.append_assoc, kept, ← List.append_assoc, lossless]

/-- **A call that fails after it has moved pending segments loses them.** -/
theorem Lossless.breaks {run next : ReaderRun} {call : BatchRead} (lossless : run.Lossless)
    (bad : ¬ run.KeepsPending call) (moved : batchMachine.step run call = some next) :
    ¬ next.Lossless := by
  simp only [KeepsPending, Classical.not_imp, not_not] at bad
  obtain ⟨waiting, few, why⟩ := bad
  obtain ⟨-, same⟩ := Option.ite_none_left_eq_some.mp moved
  cases same
  unfold Lossless at lossless ⊢
  obtain ⟨enough, -⟩ | ⟨-, reader, batch, outcome, done, -, how⟩ :=
    run.reader.doBatchRead_cases call.bufs call.read
  · exact absurd few (Nat.not_lt.mpr enough)
  · simp only [done, if_true]
    obtain ⟨failed, empty, -⟩ | ⟨-, read, -⟩ | ⟨-, frame, opened, read, -, ok, -⟩ := how
    · rw [if_neg failed, empty, arrivedPackets_of_fails why, List.append_nil, List.append_nil,
        List.append_nil, ← lossless]
      exact fun same => waiting (List.self_eq_append_right.mp same)
    · obtain failed | ⟨frame, fault, other, nonempty, -⟩ := why
      · exact absurd (read.symm.trans failed) nofun
      · cases read.symm.trans other
        exact absurd rfl nonempty
    · obtain failed | ⟨frame', fault, other, -, fault'⟩ := why
      · exact absurd (read.symm.trans failed) nofun
      · cases read.symm.trans other
        cases ok.symm.trans fault'

end ReaderRun

/-- **The reader loses nothing throughout a run exactly when no call fails on the device, or on the
frame that it has read, after it has moved pending segments into its buffers.** -/
theorem reader_lossless_throughout_iff (vnetHdr : Bool) {calls : List BatchRead} {final : ReaderRun}
    (reached : batchMachine.run (.start vnetHdr) calls = some final) :
    batchMachine.Throughout ReaderRun.Lossless (.start vnetHdr) calls ↔
      batchMachine.Meets ReaderRun.KeepsPending (.start vnetHdr) calls :=
  Machine.throughout_iff_meets id (fun lossless => lossless.step) (fun lossless => lossless.breaks)
    (ReaderRun.start_lossless vnetHdr) reached

/-- A datagram of four bytes that the device leaves to be segmented into two. -/
def sampleGsoFrame : Bytes :=
  [1, 5, 28, 0, 2, 0, 20, 0, 6, 0] ++
    [0x45, 0, 0, 32, 0, 0, 0, 0, 64, 17, 0, 0, 10, 0, 0, 1, 10, 0, 0, 2] ++
    [4, 210, 0, 53, 0, 12, 0, 0] ++ [1, 2, 3, 4]

/-- One segment is returned, the other waits, and the device fails in the next call. -/
def sampleFailedRead : List BatchRead := [⟨[[]], .frame sampleGsoFrame⟩, ⟨[[], []], .failed⟩]

/-- **A read error loses the second segment of the frame before it.** -/
theorem failed_read_loses_segment : ∃ run : ReaderRun,
    batchMachine.run (.start true) sampleFailedRead = some run
      ∧ run.returned.map (·.drop 28) = [[1, 2]]
      ∧ run.reader.pending = []
      ∧ run.arrived.map (·.drop 28) = [[1, 2], [3, 4]]
      ∧ ¬ run.Lossless := by
  have evaluated : (batchMachine.run (.start true) sampleFailedRead).map (fun run =>
      (run.returned.map (·.drop 28), run.reader.pending, run.arrived.map (·.drop 28)))
      = some ([[1, 2]], [], [[1, 2], [3, 4]]) := by decide +kernel
  obtain ⟨run, reached, same⟩ := Option.map_eq_some_iff.mp evaluated
  obtain ⟨returned, rest⟩ := Prod.mk.inj same
  obtain ⟨pending, arrived⟩ := Prod.mk.inj rest
  refine ⟨run, reached, returned, pending, arrived, fun lossless => ?_⟩
  unfold ReaderRun.Lossless at lossless
  rw [pending, List.append_nil] at lossless
  rw [lossless, arrived] at returned
  cases returned

/-- The same frame, a plain one behind it in a larger batch, and a failure when nothing waits. -/
def sampleBatches : List BatchRead :=
  [⟨[[]], .frame sampleGsoFrame⟩, ⟨[[], [], []], .frame (List.replicate 10 0 ++ [7, 8])⟩,
    ⟨[[]], .failed⟩]

theorem reader_lossless_throughout_iff_sampleBatches :
    (batchMachine.run (.start true) sampleBatches).map (fun run => run.returned.length) = some 3
      ∧ batchMachine.Throughout ReaderRun.Lossless (.start true) sampleBatches := by
  have evaluated : (batchMachine.run (.start true) sampleBatches).map
      (fun run => run.returned.length) = some 3 := by decide +kernel
  obtain ⟨run, reached, -⟩ := Option.map_eq_some_iff.mp evaluated
  exact ⟨evaluated, (reader_lossless_throughout_iff true reached).mpr (by decide +kernel)⟩

end RsTun.NativeTun
