/-
**The packet writer of a Linux TUN device, and the frame that it keeps between two calls.**

`poll_write` stages a frame, ten zero bytes and the packet, and hands it to the device in as many
polls as the device wants; a frame that the device has not taken completely stays in the staging
buffer. `writerMachine` runs `poll_write` on arbitrary packets and arbitrary answers of the device.
Every poll of the device is logged with the call that made it and the call that staged the frame.

* `flushStaged_spec` — a flush hands the device the rest of the frame, up to the end or to the first
  answer that is not an acceptance.
* `framed_run` — in every run the bytes that the device has accepted are whole frames and a part of
  the staged one.
* `writer_sound_throughout_iff` — the bytes are framed, `Ok` reports a packet whose frame the device
  has taken, and no frame is offered again after the device rejected it, **exactly** as long as no
  call follows an error of the device.
* `rejected_frame_offered_again` — after an error the next packet's call hands the device the
  rejected frame first.
-/

import RsTun.Gso.Split
import RsTun.Library.Channel
import RsTun.Library.Machine

namespace RsTun.NativeTun

open Library Library.Bytes Gso

/-- The answers of the underlying writer to a poll. -/
inductive DeviceAnswer where
  | accepted (count : Nat)
  | failed
  | pending
  deriving DecidableEq

/-- A poll of the underlying writer. -/
structure DevicePoll where
  slice : Bytes
  answer : DeviceAnswer
  deriving DecidableEq

/-- The bytes that the device accepted in a poll. -/
def DevicePoll.accepted (poll : DevicePoll) : Bytes :=
  match poll.answer with
  | .accepted count => poll.slice.take count
  | _ => []

/-- `LinuxTunWriter`, but for the state of batch writes. -/
structure LinuxTunWriter where
  vnetHdr : Bool
  writeBuf : Bytes
  writePos : Nat
  writeTotal : Nat
  deriving DecidableEq

/-- How a flush ends: its result, the writer, its polls, and the answers that it left over. -/
structure FlushEnd where
  result : Poll (Except Unit Unit)
  writer : LinuxTunWriter
  polls : List DevicePoll
  rest : List DeviceAnswer

/-- How `poll_write` ends: its result, the writer, and the polls of its two flushes. -/
structure WriteEnd where
  result : Poll (Except Unit Nat)
  writer : LinuxTunWriter
  leftoverPolls : List DevicePoll
  framePolls : List DevicePoll

namespace LinuxTunWriter

/-- `LinuxTunWriter::new`. -/
def new (vnetHdr : Bool) : LinuxTunWriter := ⟨vnetHdr, [], 0, 0⟩

/-- A frame is staged that the device has not taken completely. -/
def Staged (writer : LinuxTunWriter) : Prop := writer.writePos < writer.writeBuf.length

instance (writer : LinuxTunWriter) : Decidable writer.Staged := inferInstanceAs (Decidable (_ < _))

/-- `flush_staged`, over the answers of the device. It accepts no more bytes than it was offered,
and it is pending when the answers run out. -/
def flushStaged : LinuxTunWriter → List DeviceAnswer → FlushEnd
  | writer, [] =>
      if writer.Staged then
        ⟨.pending, writer, [⟨writer.writeBuf.drop writer.writePos, .pending⟩], []⟩
      else ⟨.ready (.ok ()), writer, [], []⟩
  | writer, answer :: rest =>
      if writer.Staged then
        let slice := writer.writeBuf.drop writer.writePos
        match answer with
        | .accepted count =>
            let n := min count slice.length
            let later := flushStaged { writer with writePos := writer.writePos + n } rest
            { later with polls := ⟨slice, .accepted n⟩ :: later.polls }
        | .failed => ⟨.ready (.error ()), writer, [⟨slice, .failed⟩], rest⟩
        | .pending => ⟨.pending, writer, [⟨slice, .pending⟩], rest⟩
      else ⟨.ready (.ok ()), writer, [], answer :: rest⟩

/-- `write_buf.clear(); write_pos = 0; write_total = 0`. -/
def cleared (writer : LinuxTunWriter) : LinuxTunWriter :=
  { writer with writeBuf := [], writePos := 0, writeTotal := 0 }

/-- The frame of a packet in the staging buffer: `[virtio_net_hdr][packet]`, the header all zero. -/
def stage (writer : LinuxTunWriter) (data : Bytes) : LinuxTunWriter :=
  { writer with
    writeBuf := List.replicate virtioNetHdrLen 0 ++ data
    writePos := 0
    writeTotal := data.length }

/-- Step 2 of `poll_write`: the frame of a packet is staged and written out. -/
def writeFrame (writer : LinuxTunWriter) (data : Bytes) (answers : List DeviceAnswer)
    (leftoverPolls : List DevicePoll) : WriteEnd :=
  if data = [] then ⟨.ready (.ok 0), writer, leftoverPolls, []⟩
  else
    let flush := flushStaged (writer.stage data) answers
    match flush.result with
    | .ready (.ok _) =>
        ⟨.ready (.ok flush.writer.writeTotal), flush.writer.cleared, leftoverPolls, flush.polls⟩
    | .ready (.error e) => ⟨.ready (.error e), flush.writer, leftoverPolls, flush.polls⟩
    | .pending => ⟨.pending, flush.writer, leftoverPolls, flush.polls⟩

/-- `poll_write`. Without a virtio header the packet goes straight to the device. -/
def pollWrite (writer : LinuxTunWriter) (data : Bytes) (answers : List DeviceAnswer) : WriteEnd :=
  if writer.vnetHdr = false then
    match answers.headD .pending with
    | .accepted count =>
        let n := min count data.length
        ⟨.ready (.ok n), writer, [], [⟨data, .accepted n⟩]⟩
    | .failed => ⟨.ready (.error ()), writer, [], [⟨data, .failed⟩]⟩
    | .pending => ⟨.pending, writer, [], [⟨data, .pending⟩]⟩
  else if writer.Staged then
    let flush := flushStaged writer answers
    match flush.result with
    | .ready (.ok _) =>
        let samePacket := flush.writer.writeTotal = data.length
          ∧ virtioNetHdrLen ≤ flush.writer.writeBuf.length
          ∧ data = flush.writer.writeBuf.drop virtioNetHdrLen
        if samePacket then
          ⟨.ready (.ok flush.writer.writeTotal), flush.writer.cleared, flush.polls, []⟩
        else writeFrame flush.writer.cleared data flush.rest flush.polls
    | .ready (.error e) => ⟨.ready (.error e), flush.writer, flush.polls, []⟩
    | .pending => ⟨.pending, flush.writer, flush.polls, []⟩
  else writeFrame writer data answers []

/-- The ten zero bytes and the packet. -/
def frame (packet : Bytes) : Bytes := List.replicate virtioNetHdrLen 0 ++ packet

/-- The bytes that the device accepted in some polls. -/
def acceptedBytes (polls : List DevicePoll) : Bytes := polls.flatMap DevicePoll.accepted

/-- None of the polls was answered with an error. -/
def Unfailed (polls : List DevicePoll) : Prop := ∀ poll ∈ polls, poll.answer ≠ .failed

/-- One of the polls was answered with an error. -/
def Failed (polls : List DevicePoll) : Prop := ∃ poll ∈ polls, poll.answer = .failed

/-! ### One flush -/

/-- What a flush of the staged frame has done. -/
structure Flushed (writer : LinuxTunWriter) (stop : FlushEnd) : Prop where
  same : stop.writer = { writer with writePos := stop.writer.writePos }
  within : stop.writer.writePos ≤ writer.writeBuf.length
  bytes : writer.writeBuf.take writer.writePos ++ acceptedBytes stop.polls
    = writer.writeBuf.take stop.writer.writePos
  offered : writer.Staged → stop.polls ≠ []
  ended : (stop.result = .ready (.ok ()) ∧ ¬ stop.writer.Staged ∧ Unfailed stop.polls) ∨
    (stop.result = .pending ∧ stop.writer.Staged ∧ Unfailed stop.polls) ∨
    (stop.result = .ready (.error ()) ∧ stop.writer.Staged ∧ Failed stop.polls)

@[simp] theorem acceptedBytes_nil : acceptedBytes [] = [] := rfl

theorem acceptedBytes_cons (poll : DevicePoll) (polls : List DevicePoll) :
    acceptedBytes (poll :: polls) = poll.accepted ++ acceptedBytes polls := rfl

theorem acceptedBytes_append (first second : List DevicePoll) :
    acceptedBytes (first ++ second) = acceptedBytes first ++ acceptedBytes second :=
  List.flatMap_append

@[simp] theorem unfailed_nil : Unfailed [] := nofun

theorem unfailed_cons {poll : DevicePoll} {polls : List DevicePoll} :
    Unfailed (poll :: polls) ↔ poll.answer ≠ .failed ∧ Unfailed polls :=
  List.forall_mem_cons

theorem unfailed_append {first second : List DevicePoll} :
    Unfailed (first ++ second) ↔ Unfailed first ∧ Unfailed second :=
  List.forall_mem_append

/-- A frame that the device has taken, or none, needs no poll. -/
theorem flushed_of_not_staged {writer : LinuxTunWriter} {answers : List DeviceAnswer}
    (within : writer.writePos ≤ writer.writeBuf.length) (taken : ¬ writer.Staged) :
    Flushed writer ⟨.ready (.ok ()), writer, [], answers⟩ :=
  ⟨rfl, within, List.append_nil _, fun staged => absurd staged taken,
    .inl ⟨rfl, taken, unfailed_nil⟩⟩

/-- **A flush hands the device the rest of the frame**, up to the end or to the first answer that is
not an acceptance. -/
theorem flushStaged_spec : ∀ {answers : List DeviceAnswer} {writer : LinuxTunWriter},
    writer.writePos ≤ writer.writeBuf.length → Flushed writer (flushStaged writer answers)
  | [], writer, within => by
      rw [flushStaged]
      by_cases staged : writer.Staged
      · rw [if_pos staged]
        exact ⟨rfl, within, List.append_nil _, fun _ => List.cons_ne_nil _ _,
          .inr (.inl ⟨rfl, staged, unfailed_cons.mpr ⟨by simp, unfailed_nil⟩⟩)⟩
      · rw [if_neg staged]
        exact flushed_of_not_staged within staged
  | answer :: rest, writer, within => by
      rw [flushStaged]
      by_cases staged : writer.Staged
      · rw [if_pos staged]
        cases answer with
        | pending =>
            exact ⟨rfl, within, List.append_nil _, fun _ => List.cons_ne_nil _ _,
              .inr (.inl ⟨rfl, staged, unfailed_cons.mpr ⟨by simp, unfailed_nil⟩⟩)⟩
        | failed =>
            exact ⟨rfl, within, List.append_nil _, fun _ => List.cons_ne_nil _ _,
              .inr (.inr ⟨rfl, staged, _, List.mem_singleton_self _, rfl⟩)⟩
        | accepted count =>
            have size : (writer.writeBuf.drop writer.writePos).length
                = writer.writeBuf.length - writer.writePos := List.length_drop
            have fits : writer.writePos + min count (writer.writeBuf.drop writer.writePos).length
                ≤ writer.writeBuf.length := by
              rw [size]
              omega
            have later := @flushStaged_spec rest
              { writer with writePos :=
                  writer.writePos + min count (writer.writeBuf.drop writer.writePos).length } fits
            refine ⟨later.same, later.within, ?_, fun _ => List.cons_ne_nil _ _, ?_⟩
            · rw [← later.bytes, acceptedBytes_cons, ← List.append_assoc]
              congr 1
              exact (List.take_add).symm
            · obtain ⟨done, taken, unfailed⟩ | ⟨done, left, unfailed⟩ |
                ⟨done, left, poll, within, failed⟩ := later.ended
              · exact .inl ⟨done, taken, unfailed_cons.mpr ⟨by simp, unfailed⟩⟩
              · exact .inr (.inl ⟨done, left, unfailed_cons.mpr ⟨by simp, unfailed⟩⟩)
              · exact .inr (.inr ⟨done, left, poll, List.mem_cons_of_mem _ within, failed⟩)
      · rw [if_neg staged]
        exact flushed_of_not_staged within staged

/-! ### One call -/

/-- Nothing is staged. -/
structure Idle (writer : LinuxTunWriter) : Prop where
  vnetHdr : writer.vnetHdr = true
  writeBuf : writer.writeBuf = []
  writePos : writer.writePos = 0

/-- The frame of a packet is staged, and the device has not taken it completely. -/
structure Holding (writer : LinuxTunWriter) (packet : Bytes) : Prop where
  vnetHdr : writer.vnetHdr = true
  writeBuf : writer.writeBuf = frame packet
  writeTotal : writer.writeTotal = packet.length
  staged : writer.Staged

/-- The staged packet, if the device has taken the rest of its frame in the first flush of a
call. -/
def leftoverCompleted (writer : LinuxTunWriter) (stop : WriteEnd) : List Bytes :=
  if writer.Staged ∧ acceptedBytes stop.leftoverPolls = writer.writeBuf.drop writer.writePos then
    [writer.writeBuf.drop virtioNetHdrLen]
  else []

/-- The packet of a call, if the device has taken its frame. -/
def ownCompleted (data : Bytes) (stop : WriteEnd) : List Bytes :=
  if data ≠ [] ∧ acceptedBytes stop.framePolls = frame data then [data] else []

/-- What step 2 of `poll_write` has done. -/
structure FrameWritten (data : Bytes) (stop : WriteEnd) : Prop where
  next : Idle stop.writer ∨ ∃ packet, Holding stop.writer packet
  bytes : acceptedBytes stop.framePolls
    = (ownCompleted data stop).flatMap frame ++ stop.writer.writeBuf.take stop.writer.writePos
  reported : ∀ n, stop.result = .ready (.ok n) → n = data.length ∧
    (data ≠ [] → ownCompleted data stop = [data])
  unfailed : stop.result ≠ .ready (.error ()) → Unfailed stop.framePolls
  rejected : stop.result = .ready (.error ()) → stop.writer.Staged ∧ Failed stop.framePolls

/-- What a call of `poll_write` has done. -/
structure Wrote (writer : LinuxTunWriter) (data : Bytes) (stop : WriteEnd) : Prop where
  next : Idle stop.writer ∨ ∃ packet, Holding stop.writer packet
  bytes : writer.writeBuf.take writer.writePos ++ acceptedBytes stop.leftoverPolls
      ++ acceptedBytes stop.framePolls
    = (leftoverCompleted writer stop ++ ownCompleted data stop).flatMap frame
      ++ stop.writer.writeBuf.take stop.writer.writePos
  reported : ∀ n, stop.result = .ready (.ok n) → n = data.length ∧
    (data ≠ [] → (leftoverCompleted writer stop ++ ownCompleted data stop).getLast? = some data)
  offered : writer.Staged → stop.leftoverPolls ≠ []
  unfailed : stop.result ≠ .ready (.error ()) → Unfailed (stop.leftoverPolls ++ stop.framePolls)
  rejected : stop.result = .ready (.error ()) → stop.writer.Staged ∧
    (Failed stop.framePolls ∨ (stop.framePolls = [] ∧ Failed stop.leftoverPolls))

theorem frame_drop (packet : Bytes) : (frame packet).drop virtioNetHdrLen = packet :=
  List.drop_left' List.length_replicate

theorem idle_cleared {writer : LinuxTunWriter} (vnetHdr : writer.vnetHdr = true) :
    Idle writer.cleared :=
  ⟨vnetHdr, rfl, rfl⟩

theorem Flushed.vnetHdr {writer : LinuxTunWriter} {stop : FlushEnd}
    (flushed : Flushed writer stop) :
    stop.writer.vnetHdr = writer.vnetHdr := by
  rw [flushed.same]

theorem Flushed.writeBuf {writer : LinuxTunWriter} {stop : FlushEnd}
    (flushed : Flushed writer stop) :
    stop.writer.writeBuf = writer.writeBuf := by
  rw [flushed.same]

theorem Flushed.writeTotal {writer : LinuxTunWriter} {stop : FlushEnd}
    (flushed : Flushed writer stop) : stop.writer.writeTotal = writer.writeTotal := by
  rw [flushed.same]

/-- A flush has taken the rest of the frame exactly when nothing is staged behind it. -/
theorem Flushed.accepted_eq_iff {writer : LinuxTunWriter} {stop : FlushEnd}
    (flushed : Flushed writer stop) :
    acceptedBytes stop.polls = writer.writeBuf.drop writer.writePos ↔ ¬ stop.writer.Staged := by
  have whole := List.take_append_drop writer.writePos writer.writeBuf
  have bytes := flushed.bytes
  rw [Staged, flushed.writeBuf]
  constructor
  · intro all staged
    rw [all, whole] at bytes
    have size := congrArg List.length bytes
    rw [List.length_take] at size
    omega
  · intro taken
    rw [List.take_of_length_le (Nat.not_lt.mp taken)] at bytes
    exact List.append_cancel_left (bytes.trans whole.symm)

/-- A flush that has not taken the rest of a frame holds it on. -/
theorem Flushed.holding {writer : LinuxTunWriter} {stop : FlushEnd} {packet : Bytes}
    (flushed : Flushed writer stop) (holding : Holding writer packet) (left : stop.writer.Staged) :
    Holding stop.writer packet :=
  ⟨flushed.vnetHdr.trans holding.vnetHdr, flushed.writeBuf.trans holding.writeBuf,
    flushed.writeTotal.trans holding.writeTotal, left⟩

/-- A staged frame is not empty. -/
theorem holding_stage {writer : LinuxTunWriter} (vnetHdr : writer.vnetHdr = true) (data : Bytes) :
    Holding (writer.stage data) data := by
  refine ⟨vnetHdr, rfl, rfl, ?_⟩
  show 0 < (List.replicate virtioNetHdrLen 0 ++ data).length
  rw [List.length_append, List.length_replicate, virtioNetHdrLen]
  omega

/-- **Step 2 of `poll_write`** on a writer with nothing staged. -/
theorem writeFrame_spec {writer : LinuxTunWriter} (idle : Idle writer) (data : Bytes)
    (answers : List DeviceAnswer) (leftoverPolls : List DevicePoll) :
    (writeFrame writer data answers leftoverPolls).leftoverPolls = leftoverPolls ∧
      FrameWritten data (writeFrame writer data answers leftoverPolls) := by
  unfold writeFrame
  by_cases nothing : data = []
  · rw [if_pos nothing]
    refine ⟨rfl, .inl idle, ?_, ?_, fun _ => unfailed_nil, nofun⟩
    · rw [ownCompleted, if_neg (fun both => both.1 nothing), idle.writeBuf, List.take_nil]
      rfl
    · rintro n ⟨⟩
      exact ⟨by rw [nothing]; rfl, fun some => absurd nothing some⟩
  · rw [if_neg nothing]
    have flushed := @flushStaged_spec answers (writer.stage data) (Nat.zero_le _)
    have holding := holding_stage idle.vnetHdr data
    dsimp only
    generalize flushStaged (writer.stage data) answers = flush at flushed ⊢
    have bytes : acceptedBytes flush.polls = flush.writer.writeBuf.take flush.writer.writePos :=
      flushed.bytes.trans (by rw [flushed.writeBuf])
    have own : data ≠ [] ∧ acceptedBytes flush.polls = frame data ↔ ¬ flush.writer.Staged :=
      ⟨fun both => flushed.accepted_eq_iff.mp both.2,
        fun taken => ⟨nothing, flushed.accepted_eq_iff.mpr taken⟩⟩
    obtain ⟨done, taken, unfailed⟩ | ⟨done, left, unfailed⟩ | ⟨done, left, failed⟩ := flushed.ended
    · simp only [done]
      refine ⟨trivial, .inl (idle_cleared (flushed.vnetHdr.trans idle.vnetHdr)), ?_, ?_,
        fun _ => unfailed, nofun⟩
      · rw [ownCompleted, if_pos (own.mpr taken)]
        exact (own.mpr taken).2.trans (by simp [cleared])
      · rintro n ⟨⟩
        exact ⟨flushed.writeTotal, fun _ => if_pos (own.mpr taken)⟩
    · simp only [done]
      refine ⟨trivial, .inr ⟨data, flushed.holding holding left⟩, ?_,
        nofun, fun _ => unfailed,
        nofun⟩
      rw [ownCompleted, if_neg fun both => own.mp both left]
      exact bytes
    · simp only [done]
      refine ⟨trivial, .inr ⟨data, flushed.holding holding left⟩, ?_,
        nofun, fun other => absurd rfl other,
        fun _ => ⟨left, failed⟩⟩
      rw [ownCompleted, if_neg fun both => own.mp both left]
      exact bytes

/-- A call that did not get to its own packet has not completed it. -/
theorem ownCompleted_of_nil {data : Bytes} {stop : WriteEnd} (unoffered : stop.framePolls = []) :
    ownCompleted data stop = [] := by
  rw [ownCompleted, unoffered]
  refine if_neg fun both => ?_
  have size := congrArg List.length both.2
  rw [acceptedBytes_nil, frame, List.length_append, List.length_replicate, List.length_nil,
    virtioNetHdrLen] at size
  omega

/-- The frame that a call finds is completed exactly when its first flush has taken the rest. -/
theorem leftoverCompleted_eq {writer : LinuxTunWriter} {packet : Bytes} {flush : FlushEnd}
    {stop : WriteEnd} (holding : Holding writer packet) (flushed : Flushed writer flush)
    (polls : stop.leftoverPolls = flush.polls) :
    leftoverCompleted writer stop = if flush.writer.Staged then [] else [packet] := by
  have taken := flushed.accepted_eq_iff
  rw [leftoverCompleted, polls, show writer.writeBuf.drop virtioNetHdrLen = packet by
    rw [holding.writeBuf, frame_drop]]
  by_cases left : flush.writer.Staged
  · rw [if_pos left, if_neg fun both => taken.mp both.2 left]
  · rw [if_neg left, if_pos ⟨holding.staged, taken.mpr left⟩]

/-- What the device has taken when a flush has left some of the frame. -/
theorem Flushed.bytes_of_staged {writer : LinuxTunWriter} {packet : Bytes} {flush : FlushEnd}
    {stop : WriteEnd} (flushed : Flushed writer flush) (data : Bytes)
    (holding : Holding writer packet) (left : flush.writer.Staged)
    (polls : stop.leftoverPolls = flush.polls) (unoffered : stop.framePolls = [])
    (same : stop.writer = flush.writer) :
    writer.writeBuf.take writer.writePos ++ acceptedBytes stop.leftoverPolls
        ++ acceptedBytes stop.framePolls
      = (leftoverCompleted writer stop ++ ownCompleted data stop).flatMap frame
        ++ stop.writer.writeBuf.take stop.writer.writePos := by
  rw [leftoverCompleted_eq holding flushed polls, if_pos left, ownCompleted_of_nil unoffered, polls,
    unoffered, acceptedBytes_nil, List.append_nil, same, flushed.writeBuf, flushed.bytes]
  rfl

/-- **A call of `poll_write`** on a writer with nothing staged. -/
theorem pollWrite_idle {writer : LinuxTunWriter} (idle : Idle writer) (data : Bytes)
    (answers : List DeviceAnswer) : Wrote writer data (writer.pollWrite data answers) := by
  unfold pollWrite
  have unstaged : ¬ writer.Staged := by
    rw [Staged, idle.writeBuf, idle.writePos]
    exact Nat.lt_irrefl 0
  rw [if_neg (by rw [idle.vnetHdr]; exact nofun), if_neg unstaged]
  obtain ⟨leftover, written⟩ := writeFrame_spec idle data answers []
  have completed : leftoverCompleted writer (writeFrame writer data answers []) = [] :=
    if_neg fun both => unstaged both.1
  refine ⟨written.next, ?_, fun n done => ?_, fun staged => absurd staged unstaged,
    fun done => ?_, fun done => ?_⟩
  · rw [leftover, completed, idle.writeBuf, List.take_nil, acceptedBytes_nil]
    exact written.bytes
  · rw [completed]
    refine ⟨(written.reported n done).1, fun some => ?_⟩
    rw [(written.reported n done).2 some]
    rfl
  · rw [leftover]
    exact written.unfailed done
  · exact ⟨(written.rejected done).1, .inl (written.rejected done).2⟩

/-- **A call of `poll_write`** on a writer that holds a frame. -/
theorem pollWrite_holding {writer : LinuxTunWriter} {packet : Bytes}
    (holding : Holding writer packet) (data : Bytes) (answers : List DeviceAnswer) :
    Wrote writer data (writer.pollWrite data answers) := by
  unfold pollWrite
  rw [if_neg (by rw [holding.vnetHdr]; exact nofun),
    if_pos holding.staged]
  have flushed := @flushStaged_spec answers writer (Nat.le_of_lt holding.staged)
  dsimp only
  generalize flushStaged writer answers = flush at flushed ⊢
  have bytes : writer.writeBuf.take writer.writePos ++ acceptedBytes flush.polls
      = (frame packet).take flush.writer.writePos := by
    rw [flushed.bytes, holding.writeBuf]
  obtain ⟨done, taken, unfailed⟩ | ⟨done, left, unfailed⟩ | ⟨done, left, failed⟩ := flushed.ended
  · have whole :
        writer.writeBuf.take writer.writePos ++ acceptedBytes flush.polls = frame packet := by
      rw [bytes]
      refine List.take_of_length_le ?_
      rw [← holding.writeBuf, ← flushed.writeBuf]
      exact Nat.not_lt.mp taken
    have idle : Idle flush.writer.cleared := idle_cleared (flushed.vnetHdr.trans holding.vnetHdr)
    have same : (flush.writer.writeTotal = data.length
        ∧ virtioNetHdrLen ≤ flush.writer.writeBuf.length
        ∧ data = flush.writer.writeBuf.drop virtioNetHdrLen) ↔ data = packet := by
      rw [flushed.writeTotal, flushed.writeBuf, holding.writeTotal, holding.writeBuf, frame_drop,
        frame, List.length_append, List.length_replicate]
      constructor
      · exact fun all => all.2.2
      · rintro rfl
        exact ⟨rfl, Nat.le_add_right _ _, rfl⟩
    simp only [done, same]
    by_cases retried : data = packet
    · rw [if_pos retried]
      have completed := @leftoverCompleted_eq writer packet flush
        ⟨.ready (.ok flush.writer.writeTotal), flush.writer.cleared, flush.polls, []⟩
        holding flushed rfl
      rw [if_neg taken] at completed
      refine ⟨.inl idle, ?_, ?_, flushed.offered, ?_, nofun⟩
      · rw [completed, ownCompleted_of_nil rfl]
        simpa [cleared] using whole
      · rintro n ⟨⟩
        refine ⟨?_, fun _ => ?_⟩
        · rw [flushed.writeTotal, holding.writeTotal, retried]
        · rw [completed, ownCompleted_of_nil rfl, retried]
          rfl
      · exact fun _ => unfailed_append.mpr ⟨unfailed, unfailed_nil⟩
    · rw [if_neg retried]
      obtain ⟨leftover, written⟩ := writeFrame_spec idle data flush.rest flush.polls
      have completed := leftoverCompleted_eq holding flushed leftover
      rw [if_neg taken] at completed
      refine ⟨written.next, ?_, fun n ok => ⟨(written.reported n ok).1, fun some => ?_⟩, ?_,
        fun ok => ?_, fun rejected => ?_⟩
      · rw [leftover, completed, whole, written.bytes, List.flatMap_append, List.append_assoc,
          List.flatMap_singleton]
      · rw [completed, (written.reported n ok).2 some]
        rfl
      · rw [leftover]
        exact flushed.offered
      · rw [leftover]
        exact unfailed_append.mpr ⟨unfailed, written.unfailed ok⟩
      · exact ⟨(written.rejected rejected).1, .inl (written.rejected rejected).2⟩
  · simp only [done]
    exact ⟨.inr ⟨packet, flushed.holding holding left⟩,
      flushed.bytes_of_staged data holding left rfl rfl rfl, nofun, flushed.offered,
      fun _ => unfailed_append.mpr ⟨unfailed, unfailed_nil⟩, nofun⟩
  · simp only [done]
    exact ⟨.inr ⟨packet, flushed.holding holding left⟩,
      flushed.bytes_of_staged data holding left rfl rfl rfl, nofun, flushed.offered,
      fun other => absurd rfl other, fun _ => ⟨left, .inr ⟨rfl, failed⟩⟩⟩

theorem pollWrite_spec {writer : LinuxTunWriter}
    (state : Idle writer ∨ ∃ packet, Holding writer packet)
    (data : Bytes) (answers : List DeviceAnswer) :
    Wrote writer data (writer.pollWrite data answers) := by
  obtain idle | ⟨packet, holding⟩ := state
  · exact pollWrite_idle idle data answers
  · exact pollWrite_holding holding data answers

end LinuxTunWriter

/-! ### Runs -/

open LinuxTunWriter

/-- A poll of the device, with the call that staged the frame and the call that made the poll. -/
structure LoggedPoll where
  owner : Nat
  caller : Nat
  poll : DevicePoll
  deriving DecidableEq

/-- The last call of a run, with the number of frames that were complete before it. -/
structure LastWrite where
  data : Bytes
  result : Poll (Except Unit Nat)
  before : Nat
  deriving DecidableEq

/-- A writer in a run: the call that staged its frame, the number of calls, the packets of the
frames that the device has taken, and all polls of the device. -/
structure WriterRun where
  writer : LinuxTunWriter
  owner : Nat
  calls : Nat
  frames : List Bytes
  polls : List LoggedPoll
  last : Option LastWrite
  deriving DecidableEq

/-- A call of `poll_write`, with the answers of the device. -/
structure WriteCall where
  data : Bytes
  answers : List DeviceAnswer
  deriving DecidableEq

/-- The polls of a call, on the frame that it found and on its own. -/
def logPolls (run : WriterRun) (stop : WriteEnd) : List LoggedPoll :=
  stop.leftoverPolls.map (⟨run.owner, run.calls, ·⟩)
    ++ stop.framePolls.map (⟨run.calls, run.calls, ·⟩)

/-- The run after a call that ended as given. -/
def WriterRun.after (run : WriterRun) (data : Bytes) (stop : WriteEnd) : WriterRun where
  writer := stop.writer
  owner := if stop.framePolls = [] then run.owner else run.calls
  calls := run.calls + 1
  frames := run.frames ++ (leftoverCompleted run.writer stop ++ ownCompleted data stop)
  polls := run.polls ++ logPolls run stop
  last := some ⟨data, stop.result, run.frames.length⟩

/-- Calls of `poll_write`, one after the other. -/
def writerMachine : Machine WriterRun WriteCall where
  step run call := some (run.after call.data (run.writer.pollWrite call.data call.answers))

namespace WriterRun

/-- A new writer with `vnet_hdr`. -/
def start : WriterRun := ⟨.new true, 0, 0, [], [], none⟩

/-- The bytes that the device has accepted. -/
def written (run : WriterRun) : Bytes := acceptedBytes (run.polls.map LoggedPoll.poll)

/-- **The bytes are framed**: they are the whole frames of some packets and the part of the staged
frame that the device has accepted. -/
structure Framed (run : WriterRun) : Prop where
  writer : Idle run.writer ∨ ∃ packet, Holding run.writer packet
  bytes : run.written
    = run.frames.flatMap frame ++ run.writer.writeBuf.take run.writer.writePos

/-- **What a run of the writer promises**: framed bytes, an `Ok` only for a packet whose frame was
completed in the call, and no poll for a frame after the device answered a poll for it with an
error in an earlier call. -/
structure Sound (run : WriterRun) : Prop where
  framed : run.Framed
  reported : ∀ call n, run.last = some call → call.result = .ready (.ok n) →
    n = call.data.length ∧
      (call.data ≠ [] → (run.frames.drop call.before).getLast? = some call.data)
  dismissed : ∀ earlier ∈ run.polls, ∀ later ∈ run.polls, earlier.owner = later.owner →
    earlier.caller < later.caller → earlier.poll.answer ≠ .failed

/-- The device has answered no poll with an error before the call. -/
def Unrejected (run : WriterRun) (_ : WriteCall) : Prop :=
  ∀ entry ∈ run.polls, entry.poll.answer ≠ .failed

instance (run : WriterRun) (call : WriteCall) : Decidable (run.Unrejected call) :=
  inferInstanceAs (Decidable (∀ _ ∈ _, _))

/-- The invariant of the runs in which no call follows an error of the device: only the last call
can have met one, and then the frame that the device rejected is still staged. -/
structure Kept (run : WriterRun) : Prop where
  sound : run.Sound
  logged : ∀ entry ∈ run.polls, entry.caller < run.calls
  failed : ∀ entry ∈ run.polls, entry.poll.answer = .failed → entry.caller + 1 = run.calls
  rejected : ∀ entry ∈ run.polls, entry.poll.answer = .failed → run.writer.Staged ∧
    ∃ rejection ∈ run.polls, rejection.owner = run.owner ∧ rejection.poll.answer = .failed

theorem start_framed : start.Framed := ⟨.inl ⟨rfl, rfl, rfl⟩, rfl⟩

theorem start_kept : start.Kept where
  sound := ⟨start_framed, nofun,
    nofun⟩
  logged _ impossible := nomatch impossible
  failed _ impossible := nomatch impossible
  rejected _ impossible := nomatch impossible

theorem written_after (run : WriterRun) (data : Bytes) (stop : WriteEnd) :
    (run.after data stop).written
      = run.written ++ acceptedBytes stop.leftoverPolls ++ acceptedBytes stop.framePolls := by
  have plain : (logPolls run stop).map LoggedPoll.poll = stop.leftoverPolls ++ stop.framePolls := by
    rw [logPolls, List.map_append, List.map_map, List.map_map]
    congr 1 <;> exact List.map_id _
  rw [written, after, List.map_append, plain, acceptedBytes_append, acceptedBytes_append,
    List.append_assoc]
  rfl

/-- **A call keeps the bytes framed**, whatever the device answers. -/
theorem Framed.after {run : WriterRun} {data : Bytes} {stop : WriteEnd} (framed : run.Framed)
    (wrote : Wrote run.writer data stop) : (run.after data stop).Framed := by
  refine ⟨wrote.next, ?_⟩
  rw [written_after, framed.bytes, List.append_assoc, List.append_assoc, ← List.append_assoc
    (run.writer.writeBuf.take _), wrote.bytes, ← List.append_assoc]
  simp only [WriterRun.after, List.flatMap_append]

/-- **In every run the bytes that the device has accepted are framed.** -/
theorem framed_run {calls : List WriteCall} {final : WriterRun}
    (reached : writerMachine.run start calls = some final) : final.Framed := by
  have keeps : ∀ {run call next}, Framed run → writerMachine.step run call = some next →
      Framed next := by
    intro run call next framed moved
    cases moved
    exact framed.after (pollWrite_spec framed.writer _ _)
  exact Machine.run_invariant keeps start_framed reached

theorem mem_logPolls {run : WriterRun} {stop : WriteEnd} {entry : LoggedPoll} :
    entry ∈ logPolls run stop ↔
      (∃ poll ∈ stop.leftoverPolls, ⟨run.owner, run.calls, poll⟩ = entry) ∨
      (∃ poll ∈ stop.framePolls, ⟨run.calls, run.calls, poll⟩ = entry) := by
  rw [logPolls, List.mem_append, List.mem_map, List.mem_map]

theorem caller_of_mem_logPolls {run : WriterRun} {stop : WriteEnd} {entry : LoggedPoll}
    (inside : entry ∈ logPolls run stop) : entry.caller = run.calls := by
  obtain ⟨poll, -, rfl⟩ | ⟨poll, -, rfl⟩ := mem_logPolls.mp inside
  · rfl
  · rfl

/-- **A call that does not follow an error of the device keeps the invariant.** -/
theorem Kept.step {run next : WriterRun} {call : WriteCall} (kept : run.Kept)
    (unrejected : run.Unrejected call) (moved : writerMachine.step run call = some next) :
    next.Kept := by
  cases moved
  have wrote := pollWrite_spec kept.sound.framed.writer call.data call.answers
  generalize run.writer.pollWrite call.data call.answers = stop at wrote ⊢
  -- only a poll of this call can have failed
  have fresh : ∀ entry ∈ (run.after call.data stop).polls, entry.poll.answer = .failed →
      entry ∈ logPolls run stop := by
    intro entry inside failed
    obtain old | new := List.mem_append.mp inside
    · exact absurd failed (unrejected entry old)
    · exact new
  have bounded : ∀ entry ∈ (run.after call.data stop).polls, entry.caller ≤ run.calls := by
    intro entry inside
    obtain old | new := List.mem_append.mp inside
    · exact Nat.le_of_lt (kept.logged entry old)
    · exact Nat.le_of_eq (caller_of_mem_logPolls new)
  refine ⟨⟨kept.sound.framed.after wrote, ?_, ?_⟩, fun entry inside => ?_, ?_, ?_⟩
  · rintro last n ⟨⟩ done
    refine ⟨(wrote.reported n done).1, fun some => ?_⟩
    rw [WriterRun.after, List.drop_left]
    exact (wrote.reported n done).2 some
  · intro earlier inside later inside' _ before failed
    have now := caller_of_mem_logPolls (fresh earlier inside failed)
    have bound := bounded later inside'
    omega
  · exact Nat.lt_succ_of_le (bounded entry inside)
  · intro entry inside failed
    exact congrArg (· + 1) (caller_of_mem_logPolls (fresh entry inside failed))
  · intro entry inside failed
    have done : stop.result = .ready (.error ()) := by
      by_contra other
      have clean := wrote.unfailed other
      obtain ⟨poll, within, rfl⟩ | ⟨poll, within, rfl⟩ :=
        mem_logPolls.mp (fresh entry inside failed)
      · exact clean poll (List.mem_append_left _ within) failed
      · exact clean poll (List.mem_append_right _ within) failed
    obtain ⟨staged, ⟨poll, within, failed⟩ | ⟨none, poll, within, failed⟩⟩ := wrote.rejected done
    · refine ⟨staged, _, List.mem_append_right _ (mem_logPolls.mpr (.inr ⟨poll, within, rfl⟩)), ?_,
        failed⟩
      exact (if_neg (List.ne_nil_of_mem within)).symm
    · refine ⟨staged, _, List.mem_append_right _ (mem_logPolls.mpr (.inl ⟨poll, within, rfl⟩)), ?_,
        failed⟩
      exact (if_pos none).symm

/-- **A call after an error of the device offers the rejected frame again.** -/
theorem Kept.breaks {run next : WriterRun} {call : WriteCall} (kept : run.Kept)
    (bad : ¬ run.Unrejected call) (moved : writerMachine.step run call = some next) :
    ¬ next.Sound := by
  cases moved
  intro sound
  simp only [Unrejected, not_forall, Classical.not_not] at bad
  obtain ⟨met, within, error⟩ := bad
  obtain ⟨staged, entry, inside, owner, failed⟩ := kept.rejected met within error
  have wrote := pollWrite_spec kept.sound.framed.writer call.data call.answers
  obtain ⟨poll, offered⟩ := List.exists_mem_of_ne_nil _ (wrote.offered staged)
  exact sound.dismissed entry (List.mem_append_left _ inside) _
    (List.mem_append_right _ (mem_logPolls.mpr (.inl ⟨poll, offered, rfl⟩))) owner
    (kept.logged entry inside) failed

end WriterRun

/-- **The writer keeps its promises throughout a run exactly when no call follows an error of the
device.** -/
theorem writer_sound_throughout_iff {calls : List WriteCall} {final : WriterRun}
    (reached : writerMachine.run .start calls = some final) :
    writerMachine.Throughout WriterRun.Sound .start calls ↔
      writerMachine.Meets WriterRun.Unrejected .start calls :=
  Machine.throughout_iff_meets (fun kept => kept.sound) (fun kept => kept.step)
    (fun kept => kept.breaks) WriterRun.start_kept reached

/-- A packet that the device rejects, and another one. -/
def sampleRejected : List WriteCall := [⟨[1], [.failed]⟩, ⟨[2], [.accepted 11, .accepted 11]⟩]

/-- **A rejected frame is offered again.** The call for the second packet first hands the device the
frame of the first one, which the caller has given up. -/
theorem rejected_frame_offered_again : ∃ run : WriterRun,
    writerMachine.run .start sampleRejected = some run
      ∧ run.written = frame [1] ++ frame [2]
      ∧ run.polls.map (fun entry => (entry.owner, entry.caller, entry.poll.answer))
        = [(0, 0, .failed), (0, 1, .accepted 11), (1, 1, .accepted 11)]
      ∧ ¬ run.Sound := by
  refine ⟨_, rfl, rfl, rfl, fun sound => ?_⟩
  exact sound.dismissed _ List.mem_cons_self _ (List.mem_cons_of_mem _ List.mem_cons_self) rfl
    Nat.zero_lt_one rfl

/-- A partial write and its retry, a packet that is given up, another one, and an error at last. -/
def sampleWrites : List WriteCall :=
  [⟨[1, 2], [.accepted 5, .pending]⟩, ⟨[1, 2], [.accepted 20]⟩, ⟨[3], [.pending]⟩,
    ⟨[4], [.accepted 11, .accepted 11]⟩, ⟨[5], [.failed]⟩]

theorem writer_sound_throughout_iff_sampleWrites : ∃ run : WriterRun,
    writerMachine.run .start sampleWrites = some run
      ∧ run.frames = [[1, 2], [3], [4]]
      ∧ writerMachine.Throughout WriterRun.Sound .start sampleWrites := by
  refine ⟨_, rfl, rfl, (writer_sound_throughout_iff rfl).mpr ?_⟩
  decide

end RsTun.NativeTun
