/-
**The task of a hijacked TCP DNS connection (`tcp_dns_accept_loop`).**

For each connection a task reads length-prefixed messages, hands each to `dns_tx` as a query, waits
for the answer and writes it back length-prefixed, one after the other. The client's bytes arrive
while the task does something else, a read returns as many of them as it likes, a write takes as
many as it likes, and each of them may fail.

* `Sound` — what the task has read, sent and written, in every state of every run.
* `tcpDns_queries` — **the queries are the messages of the client's stream**, in order and each
  once, up to the first empty one.
* `tcpDns_answers` — **the answers are read back by the client** exactly when their lengths fit.
-/

import RsTun.Library.Framing
import RsTun.Library.Machine
import RsTun.SystemNat.DispatchUdp

namespace RsTun.SystemNat

open Library Library.Bytes

/-- Why the task has left its loop. -/
inductive TcpDnsEnd where
  /-- `read_exact` came to the end of the stream. -/
  | endOfStream
  | readFailed
  | invalidLength
  | noDnsTx
  | dnsTxClosed
  | replyDropped
  | writeFailed
  deriving DecidableEq

/-- Where the task stands. -/
inductive TcpDnsPoint where
  /-- `read_exact(&mut len_buf)`, with the bytes that it has. -/
  | readLength (lenBuf : Bytes)
  /-- `read_exact(&mut msg)`, with the bytes that it has. -/
  | readMessage (msgLen : Nat) (msg : Bytes)
  | sendQuery (query : DnsQuery)
  | awaitReply
  /-- `write_all` of the length, with the bytes that are still to be written. -/
  | writeLength (unwritten response : Bytes)
  | writeResponse (unwritten : Bytes)
  | flush
  | ended (reason : TcpDnsEnd)
  deriving DecidableEq

/-- The task and its connection. The last four fields are a record only: what the client has sent,
the queries that `dns_tx` has accepted, the answers to them, and what has been written. -/
structure TcpDnsTask where
  src : SocketAddr
  tag : String
  dnsTx : Bool
  point : TcpDnsPoint
  unread : Bytes
  clientClosed : Bool
  arrived : Bytes
  queries : List DnsQuery
  responses : List Bytes
  written : Bytes

/-- What happens next. -/
inductive TcpDnsAction where
  | arrive (bytes : Bytes)
  | close
  | read (count : Nat)
  | readEnd
  | readError
  /-- `tx.send`, which fails when the receiver is gone. -/
  | send (accepted : Bool)
  /-- `reply_rx`, which fails when the reply sender is dropped. -/
  | reply (response : Option Bytes)
  | write (count : Nat)
  | writeError
  | flush

namespace TcpDnsTask

/-- The task when it is spawned. -/
def new (src : SocketAddr) (tag : String) (dnsTx : Bool) : TcpDnsTask where
  src := src
  tag := tag
  dnsTx := dnsTx
  point := .readLength []
  unread := []
  clientClosed := false
  arrived := []
  queries := []
  responses := []
  written := []

/-- The length is checked once `len_buf` is full. -/
def afterLength (lenBuf : Bytes) : TcpDnsPoint :=
  if lenBuf.length = 2 then
    let msgLen := value lenBuf
    if msgLen = 0 ∨ msgLen > 65535 then .ended .invalidLength else .readMessage msgLen []
  else .readLength lenBuf

/-- The query of a message. -/
def query (task : TcpDnsTask) (msg : Bytes) : DnsQuery := ⟨msg, task.src, task.tag, .hijacked⟩

/-- The query is made once `msg` is full. -/
def afterMessage (task : TcpDnsTask) (msgLen : Nat) (msg : Bytes) : TcpDnsPoint :=
  if msg.length = msgLen then .sendQuery (task.query msg) else .readMessage msgLen msg

/-- A `read` within `read_exact`, into a buffer that has room for `room` bytes more. -/
def canRead (task : TcpDnsTask) (room count : Nat) : Prop :=
  0 < count ∧ count ≤ room ∧ count ≤ task.unread.length

instance (task : TcpDnsTask) (room count : Nat) : Decidable (task.canRead room count) :=
  inferInstanceAs (Decidable (_ ∧ _ ∧ _))

/-- The bytes of a read are in its buffer, and the task is here. -/
def afterRead (task : TcpDnsTask) (count : Nat) (point : TcpDnsPoint) : TcpDnsTask :=
  { task with unread := task.unread.drop count, point }

/-- The bytes of a write are written, and the task is here. -/
def afterWrite (task : TcpDnsTask) (bytes : Bytes) (point : TcpDnsPoint) : TcpDnsTask :=
  { task with written := task.written ++ bytes, point }

/-- The loop is left. -/
def leave (task : TcpDnsTask) (reason : TcpDnsEnd) : TcpDnsTask :=
  { task with point := .ended reason }

/-- `(response.len() as u16).to_be_bytes()`. -/
def lengthBytes (response : Bytes) : Bytes := encode 2 (UInt16.ofNat response.length).toNat

/-- `write_all(&response)`, which is done at once if there is nothing to write. -/
def startResponse (response : Bytes) : TcpDnsPoint :=
  if response = [] then .flush else .writeResponse response

/-- One step. -/
def step (task : TcpDnsTask) : TcpDnsAction → Option TcpDnsTask
  | .arrive bytes =>
      if task.clientClosed then none
      else some { task with unread := task.unread ++ bytes, arrived := task.arrived ++ bytes }
  | .close => some { task with clientClosed := true }
  | .read count =>
      match task.point with
      | .readLength lenBuf =>
          if task.canRead (2 - lenBuf.length) count then
            some (task.afterRead count (afterLength (lenBuf ++ task.unread.take count)))
          else none
      | .readMessage msgLen msg =>
          if task.canRead (msgLen - msg.length) count then
            some (task.afterRead count
              (task.afterMessage msgLen (msg ++ task.unread.take count)))
          else none
      | _ => none
  | .readEnd =>
      if task.clientClosed ∧ task.unread = [] then
        match task.point with
        | .readLength _ => some (task.leave .endOfStream)
        | .readMessage _ _ => some (task.leave .endOfStream)
        | _ => none
      else none
  | .readError =>
      match task.point with
      | .readLength _ => some (task.leave .readFailed)
      | .readMessage _ _ => some (task.leave .readFailed)
      | _ => none
  | .send accepted =>
      match task.point with
      | .sendQuery query =>
          if task.dnsTx = false then some (task.leave .noDnsTx)
          else if accepted then
            some { task with queries := task.queries ++ [query], point := .awaitReply }
          else some (task.leave .dnsTxClosed)
      | _ => none
  | .reply response =>
      match task.point with
      | .awaitReply =>
          match response with
          | some response =>
              some { task with
                responses := task.responses ++ [response]
                point := .writeLength (lengthBytes response) response }
          | none => some (task.leave .replyDropped)
      | _ => none
  | .write count =>
      match task.point with
      | .writeLength unwritten response =>
          if 0 < count ∧ count ≤ unwritten.length then
            some (task.afterWrite (unwritten.take count)
              (if count = unwritten.length then startResponse response
                else .writeLength (unwritten.drop count) response))
          else none
      | .writeResponse unwritten =>
          if 0 < count ∧ count ≤ unwritten.length then
            some (task.afterWrite (unwritten.take count)
              (if count = unwritten.length then .flush
                else .writeResponse (unwritten.drop count)))
          else none
      | _ => none
  | .writeError =>
      match task.point with
      | .writeLength _ _ => some (task.leave .writeFailed)
      | .writeResponse _ => some (task.leave .writeFailed)
      | _ => none
  | .flush =>
      match task.point with
      -- what `flush` returns is ignored
      | .flush => some { task with point := .readLength [] }
      | _ => none

/-- The task among everything it waits for. -/
def machine : Machine TcpDnsTask TcpDnsAction := ⟨step⟩

end TcpDnsTask

/-! ### What the task has read, sent and written -/

namespace TcpDnsPoint

/-- The bytes that were read and are in no query that was sent. -/
def Holds (held : Bytes) : TcpDnsPoint → Prop
  | .readLength lenBuf => held = lenBuf ∧ lenBuf.length < 2
  | .readMessage msgLen msg =>
      held = encode 2 msgLen ++ msg ∧ msgLen < 65536 ∧ msg.length < msgLen
  | .sendQuery query =>
      held = frame 2 query.message ∧ 0 < query.message.length ∧ query.message.length < 65536
  | .ended .endOfStream => unframe 2 held = none
  | .ended .invalidLength => held = frame 2 []
  | .ended .readFailed => True
  | .ended .noDnsTx => True
  | .ended .dnsTxClosed => True
  | _ => held = []

/-- The bytes of the answers that are still to be written. -/
def Owes (owed : Bytes) : TcpDnsPoint → Prop
  | .writeLength unwritten response => owed = unwritten ++ response
  | .writeResponse unwritten => owed = unwritten
  | .ended .writeFailed => True
  | _ => owed = []

/-- The number of answers that are awaited, or were when the loop was left. -/
def outstanding : TcpDnsPoint → Nat
  | .awaitReply => 1
  | .ended .replyDropped => 1
  | _ => 0

/-- Every query that was sent is answered, and every answer written. -/
def Settled (point : TcpDnsPoint) : Prop :=
  point.outstanding = 0 ∧ ∀ owed, point.Owes owed ↔ owed = []

/-- The answer to the last query is there. -/
def Writing (point : TcpDnsPoint) : Prop :=
  (∀ held, point.Holds held ↔ held = []) ∧ point.outstanding = 0
    ∧ point ≠ .ended .endOfStream ∧ ∀ query, point ≠ .sendQuery query

end TcpDnsPoint

namespace TcpDnsTask

/-- The query is one that the task makes of a message. -/
def Asks (task : TcpDnsTask) (query : DnsQuery) : Prop :=
  query = task.query query.message ∧ 0 < query.message.length ∧ query.message.length < 65536

/-- **What the task has read, sent and written.** -/
structure Sound (task : TcpDnsTask) : Prop where
  arrived : ∃ held, task.point.Holds held
    ∧ task.arrived = frames 2 (task.queries.map DnsQuery.message) ++ held ++ task.unread
  ended : task.point = .ended .endOfStream → task.clientClosed ∧ task.unread = []
  asks : ∀ query, task.point = .sendQuery query → task.Asks query
  asked : ∀ query ∈ task.queries, task.Asks query
  outstanding : task.queries.length = task.responses.length + task.point.outstanding
  written : ∃ owed, task.point.Owes owed ∧ task.written ++ owed = frames 2 task.responses

theorem sound_new (src : SocketAddr) (tag : String) (dnsTx : Bool) : (new src tag dnsTx).Sound where
  arrived := ⟨[], ⟨rfl, Nat.zero_lt_two⟩, rfl⟩
  ended := nofun
  asks := nofun
  asked := nofun
  outstanding := rfl
  written := ⟨[], rfl, rfl⟩

theorem lengthBytes_append (response : Bytes) :
    lengthBytes response ++ response = frame 2 response := by
  rw [lengthBytes, frame, UInt16.toNat_ofNat']
  congr 1
  apply value_injective
  · rw [length_encode, length_encode]
  · rw [value_encode, value_encode]
    exact Nat.mod_mod _ _

/-! ### What each step keeps -/

section Steps

variable {task next : TcpDnsTask}

theorem Sound.arrive (sound : task.Sound) {bytes : Bytes}
    (stepped : task.step (.arrive bytes) = some next) : next.Sound := by
  dsimp only [step] at stepped
  split at stepped
  case isTrue => cases stepped
  case isFalse stillOpen =>
    obtain ⟨held, holds, whole⟩ := sound.arrived
    cases stepped
    refine ⟨⟨held, holds, ?_⟩, fun ends => absurd (sound.ended ends).1 stillOpen, sound.asks,
      sound.asked, sound.outstanding, sound.written⟩
    dsimp only
    rw [whole, List.append_assoc _ task.unread]

theorem Sound.close (sound : task.Sound) (stepped : task.step .close = some next) :
    next.Sound := by
  cases stepped
  exact ⟨sound.arrived, fun ends => ⟨rfl, (sound.ended ends).2⟩, sound.asks, sound.asked,
    sound.outstanding, sound.written⟩

/-- A step that sends nothing and writes nothing. -/
theorem Sound.between (sound : task.Sound) {point : TcpDnsPoint} {unread : Bytes}
    (before : task.point.Settled) (after : point.Settled)
    (arrived : ∃ held, point.Holds held
      ∧ task.arrived = frames 2 (task.queries.map DnsQuery.message) ++ held ++ unread)
    (ended : point = .ended .endOfStream → task.clientClosed ∧ unread = [])
    (asks : ∀ query, point = .sendQuery query → task.Asks query) :
    Sound { task with unread, point } := by
  obtain ⟨owed, owes, written⟩ := sound.written
  refine ⟨arrived, ended, asks, sound.asked, ?_, owed, ?_, written⟩
  · rw [after.1, sound.outstanding, before.1]
  · exact (after.2 owed).mpr ((before.2 owed).mp owes)

/-- What is held when the length, or a part of it, is. -/
theorem holds_afterLength {lenBuf : Bytes} (short : lenBuf.length ≤ 2) :
    (afterLength lenBuf).Holds lenBuf := by
  unfold afterLength
  by_cases complete : lenBuf.length = 2
  · have small := value_lt lenBuf
    rw [complete] at small
    have same : encode 2 (value lenBuf) = lenBuf := by
      apply value_injective
      · rw [length_encode, complete]
      · rw [value_encode, Nat.mod_eq_of_lt small]
    rw [if_pos complete]
    dsimp only
    split
    · rename_i invalid
      have zero : value lenBuf = 0 := by omega
      rw [zero] at same
      exact same.symm
    · rename_i valid
      refine ⟨?_, small, ?_⟩
      · rw [same, List.append_nil]
      · rw [List.length_nil]
        omega
  · rw [if_neg complete]
    exact ⟨rfl, by omega⟩

/-- What is held when the message, or a part of it, is. -/
theorem holds_afterMessage {msgLen : Nat} {msg : Bytes} (valid : 0 < msgLen)
    (small : msgLen < 65536) (short : msg.length ≤ msgLen) :
    (task.afterMessage msgLen msg).Holds (encode 2 msgLen ++ msg) := by
  unfold afterMessage
  by_cases complete : msg.length = msgLen
  · rw [if_pos complete]
    subst complete
    exact ⟨rfl, valid, small⟩
  · rw [if_neg complete]
    exact ⟨rfl, small, by omega⟩

/-- Behind a length the task is not about to send. -/
theorem afterLength_settled (lenBuf : Bytes) : (afterLength lenBuf).Settled
    ∧ afterLength lenBuf ≠ .ended .endOfStream
    ∧ ∀ query, afterLength lenBuf ≠ .sendQuery query := by
  unfold afterLength
  dsimp only
  by_cases complete : lenBuf.length = 2
  · rw [if_pos complete]
    split <;> exact ⟨⟨rfl, fun _ => Iff.rfl⟩, nofun, nofun⟩
  · rw [if_neg complete]
    exact ⟨⟨rfl, fun _ => Iff.rfl⟩, nofun, nofun⟩

/-- Behind a message the task is about to send it as a query. -/
theorem afterMessage_settled {msgLen : Nat} {msg : Bytes} (valid : 0 < msgLen)
    (small : msgLen < 65536) : (task.afterMessage msgLen msg).Settled
      ∧ task.afterMessage msgLen msg ≠ .ended .endOfStream
      ∧ ∀ query, task.afterMessage msgLen msg = .sendQuery query → task.Asks query := by
  unfold afterMessage
  by_cases complete : msg.length = msgLen
  · rw [if_pos complete]
    subst complete
    refine ⟨⟨rfl, fun _ => Iff.rfl⟩, nofun, fun query same => ?_⟩
    cases same
    exact ⟨rfl, valid, small⟩
  · rw [if_neg complete]
    exact ⟨⟨rfl, fun _ => Iff.rfl⟩, nofun, nofun⟩

theorem Sound.read (sound : task.Sound) {count : Nat}
    (stepped : task.step (.read count) = some next) : next.Sound := by
  obtain ⟨held, holds, whole⟩ := sound.arrived
  have moved : task.arrived = frames 2 (task.queries.map DnsQuery.message)
      ++ (held ++ task.unread.take count) ++ task.unread.drop count := by
    rw [whole]
    simp only [List.append_assoc, List.take_append_drop]
  cases here : task.point
  all_goals simp only [step, here, reduceCtorEq] at stepped
  case readLength lenBuf =>
    rw [here] at holds
    obtain ⟨rfl, short⟩ := holds
    split at stepped
    case isFalse => cases stepped
    case isTrue can =>
      obtain ⟨-, room, there⟩ := can
      have length : (held ++ task.unread.take count).length ≤ 2 := by
        rw [List.length_append, List.length_take_of_le there]
        omega
      obtain ⟨settled, stillOpen, silent⟩ := afterLength_settled (held ++ task.unread.take count)
      cases stepped
      refine sound.between ?_ settled ⟨_, holds_afterLength length, moved⟩
        (fun ends => absurd ends stillOpen) fun query asks => absurd asks (silent query)
      rw [here]
      exact ⟨rfl, fun _ => Iff.rfl⟩
  case readMessage msgLen msg =>
    rw [here] at holds
    obtain ⟨rfl, small, short⟩ := holds
    split at stepped
    case isFalse => cases stepped
    case isTrue can =>
      obtain ⟨-, room, there⟩ := can
      have length : (msg ++ task.unread.take count).length ≤ msgLen := by
        rw [List.length_append, List.length_take_of_le there]
        omega
      have valid : 0 < msgLen := by omega
      obtain ⟨settled, stillOpen, asks⟩ :=
        @afterMessage_settled task _ (msg ++ task.unread.take count) valid small
      have holds := @holds_afterMessage task _ _ valid small length
      rw [← List.append_assoc] at holds
      cases stepped
      refine sound.between ?_ settled ⟨_, holds, moved⟩ (fun ends => absurd ends stillOpen) asks
      rw [here]
      exact ⟨rfl, fun _ => Iff.rfl⟩

/-- The loop is left where nothing is sent or written. -/
theorem Sound.leave (sound : task.Sound) {reason : TcpDnsEnd} (before : task.point.Settled)
    (after : (TcpDnsPoint.ended reason).Settled)
    (holds : ∀ held, task.point.Holds held → (TcpDnsPoint.ended reason).Holds held)
    (ended : reason = .endOfStream → task.clientClosed ∧ task.unread = []) :
    (task.leave reason).Sound := by
  obtain ⟨held, held', whole⟩ := sound.arrived
  exact sound.between before after ⟨held, holds held held', whole⟩
    (fun same => ended (TcpDnsPoint.ended.inj same)) nofun

/-- Part of a frame is none. -/
theorem unframe_part {msgLen : Nat} {msg : Bytes} (small : msgLen < 65536)
    (short : msg.length < msgLen) : unframe 2 (encode 2 msgLen ++ msg) = none := by
  rw [unframe_encode small, if_neg (Nat.not_le.mpr short)]

theorem Sound.readEnd (sound : task.Sound) (stepped : task.step .readEnd = some next) :
    next.Sound := by
  dsimp only [step] at stepped
  split at stepped
  case isFalse => cases stepped
  case isTrue ends =>
    cases here : task.point
    all_goals simp only [here, reduceCtorEq, Option.some.injEq] at stepped
    case readLength lenBuf =>
      subst stepped
      refine sound.leave ?_ ⟨rfl, fun _ => Iff.rfl⟩ ?_ fun _ => ends
      · rw [here]
        exact ⟨rfl, fun _ => Iff.rfl⟩
      · rw [here]
        rintro held ⟨rfl, short⟩
        exact if_neg fun fits => absurd fits.1 (Nat.not_le.mpr short)
    case readMessage msgLen msg =>
      subst stepped
      refine sound.leave ?_ ⟨rfl, fun _ => Iff.rfl⟩ ?_ fun _ => ends
      · rw [here]
        exact ⟨rfl, fun _ => Iff.rfl⟩
      · rw [here]
        rintro held ⟨rfl, small, short⟩
        exact unframe_part small short

theorem Sound.readError (sound : task.Sound) (stepped : task.step .readError = some next) :
    next.Sound := by
  have fails : task.point.Settled → (task.leave .readFailed).Sound := fun settled =>
    sound.leave settled ⟨rfl, fun _ => Iff.rfl⟩ (fun _ _ => trivial) nofun
  cases here : task.point
  all_goals simp only [step, here, reduceCtorEq, Option.some.injEq] at stepped
  all_goals subst stepped; refine fails ?_; rw [here]; exact ⟨rfl, fun _ => Iff.rfl⟩

theorem Sound.send (sound : task.Sound) {accepted : Bool}
    (stepped : task.step (.send accepted) = some next) : next.Sound := by
  cases here : task.point
  all_goals simp only [step, here, reduceCtorEq] at stepped
  case sendQuery query =>
    have settled : task.point.Settled := by
      rw [here]
      exact ⟨rfl, fun _ => Iff.rfl⟩
    split at stepped
    case isTrue =>
      cases stepped
      exact sound.leave settled ⟨rfl, fun _ => Iff.rfl⟩ (fun _ _ => trivial) nofun
    case isFalse =>
      split at stepped
      case isFalse =>
        cases stepped
        exact sound.leave settled ⟨rfl, fun _ => Iff.rfl⟩ (fun _ _ => trivial) nofun
      case isTrue =>
        obtain ⟨held, holds, whole⟩ := sound.arrived
        obtain ⟨owed, owes, written⟩ := sound.written
        rw [here] at holds
        obtain ⟨rfl, -⟩ := holds
        cases stepped
        refine ⟨⟨[], rfl, ?_⟩, nofun, nofun, ?_, ?_, owed, (settled.2 owed).mp owes, written⟩
        · rw [whole, List.map_append, List.map_singleton, frames_append, frames_singleton,
            List.append_nil]
        · intro other among
          obtain before | last := List.mem_append.mp among
          · exact sound.asked other before
          · rw [List.mem_singleton.mp last]
            exact sound.asks query here
        · rw [List.length_append, sound.outstanding, settled.1]
          rfl

theorem Sound.reply (sound : task.Sound) {response : Option Bytes}
    (stepped : task.step (.reply response) = some next) : next.Sound := by
  obtain ⟨held, holds, whole⟩ := sound.arrived
  obtain ⟨owed, owes, written⟩ := sound.written
  have awaited := sound.outstanding
  cases here : task.point
  all_goals simp only [step, here, reduceCtorEq] at stepped
  rw [here] at holds owes awaited
  obtain rfl : held = [] := holds
  obtain rfl : owed = [] := owes
  cases response with
  | some response =>
      cases stepped
      refine ⟨⟨[], rfl, whole⟩, nofun, nofun, sound.asked, ?_, _, rfl, ?_⟩
      · rw [List.length_append]
        exact awaited
      · rw [lengthBytes_append, frames_append, frames_singleton, ← written, List.append_nil]
  | none =>
      cases stepped
      exact ⟨⟨[], rfl, whole⟩, nofun, nofun, sound.asked, awaited, [], rfl, written⟩

/-- A write takes some of the bytes that are owed. -/
theorem Sound.afterWrite (sound : task.Sound) {bytes owed : Bytes} {point : TcpDnsPoint}
    (before : task.point.Writing) (after : point.Writing)
    (owes : ∀ all, task.point.Owes all → all = bytes ++ owed) (still : point.Owes owed) :
    (task.afterWrite bytes point).Sound := by
  obtain ⟨held, holds, whole⟩ := sound.arrived
  obtain ⟨all, owesAll, written⟩ := sound.written
  obtain rfl := (before.1 held).mp holds
  obtain rfl := owes all owesAll
  refine ⟨⟨[], (after.1 []).mpr rfl, whole⟩, fun ends => absurd ends after.2.2.1,
    fun query asks => absurd asks (after.2.2.2 query), sound.asked, ?_, owed, still, ?_⟩
  · dsimp only [TcpDnsTask.afterWrite]
    rw [after.2.1, sound.outstanding, before.2.1]
  · dsimp only [TcpDnsTask.afterWrite]
    rw [List.append_assoc, written]

/-- The body of an answer is owed once its length is written. -/
theorem startResponse_spec (response : Bytes) :
    (startResponse response).Writing ∧ (startResponse response).Owes response := by
  unfold startResponse
  split
  · rename_i nothing
    exact ⟨⟨fun _ => Iff.rfl, rfl, nofun, nofun⟩, nothing⟩
  · exact ⟨⟨fun _ => Iff.rfl, rfl, nofun, nofun⟩, rfl⟩

theorem Sound.write (sound : task.Sound) {count : Nat}
    (stepped : task.step (.write count) = some next) : next.Sound := by
  cases here : task.point
  all_goals simp only [step, here, reduceCtorEq] at stepped
  case writeLength unwritten response =>
    have before : task.point.Writing := by
      rw [here]
      exact ⟨fun _ => Iff.rfl, rfl, nofun, nofun⟩
    split at stepped
    case isFalse => cases stepped
    case isTrue some =>
      cases stepped
      split
      case isTrue all =>
        obtain ⟨after, owes⟩ := startResponse_spec response
        refine sound.afterWrite before after (fun owed same => ?_) owes
        rw [here] at same
        rw [all, List.take_length]
        exact same
      case isFalse =>
        refine sound.afterWrite before ⟨fun _ => Iff.rfl, rfl, nofun, nofun⟩
          (fun owed same => ?_) rfl
        rw [here] at same
        rw [← List.append_assoc, List.take_append_drop]
        exact same
  case writeResponse unwritten =>
    have before : task.point.Writing := by
      rw [here]
      exact ⟨fun _ => Iff.rfl, rfl, nofun, nofun⟩
    split at stepped
    case isFalse => cases stepped
    case isTrue some =>
      cases stepped
      split
      case isTrue all =>
        refine sound.afterWrite before ⟨fun _ => Iff.rfl, rfl, nofun, nofun⟩
          (fun owed same => ?_) rfl
        rw [here] at same
        rw [all, List.take_length, List.append_nil]
        exact same
      case isFalse =>
        refine sound.afterWrite before ⟨fun _ => Iff.rfl, rfl, nofun, nofun⟩
          (fun owed same => ?_) rfl
        rw [here] at same
        rw [List.take_append_drop]
        exact same

theorem Sound.writeError (sound : task.Sound) (stepped : task.step .writeError = some next) :
    next.Sound := by
  obtain ⟨held, holds, whole⟩ := sound.arrived
  obtain ⟨owed, -, written⟩ := sound.written
  have answered := sound.outstanding
  cases here : task.point
  all_goals simp only [step, here, reduceCtorEq, Option.some.injEq] at stepped
  all_goals
    subst stepped
    rw [here] at holds answered
    exact ⟨⟨held, holds, whole⟩, nofun, nofun, sound.asked, answered, owed, trivial, written⟩

theorem Sound.flush (sound : task.Sound) (stepped : task.step .flush = some next) :
    next.Sound := by
  obtain ⟨held, holds, whole⟩ := sound.arrived
  cases here : task.point
  all_goals simp only [step, here, reduceCtorEq, Option.some.injEq] at stepped
  subst stepped
  rw [here] at holds
  refine sound.between ?_ ⟨rfl, fun _ => Iff.rfl⟩ ⟨held, ⟨holds, ?_⟩, whole⟩ nofun nofun
  · rw [here]
    exact ⟨rfl, fun _ => Iff.rfl⟩
  · exact Nat.zero_lt_two

/-- **Every step keeps the task sound.** -/
theorem step_sound {action : TcpDnsAction} (sound : task.Sound)
    (stepped : machine.step task action = some next) : next.Sound := by
  cases action with
  | arrive bytes => exact sound.arrive stepped
  | close => exact sound.close stepped
  | read count => exact sound.read stepped
  | readEnd => exact sound.readEnd stepped
  | readError => exact sound.readError stepped
  | send accepted => exact sound.send stepped
  | reply response => exact sound.reply stepped
  | write count => exact sound.write stepped
  | writeError => exact sound.writeError stepped
  | flush => exact sound.flush stepped

/-- **Every run keeps the task sound.** -/
theorem run_sound {src : SocketAddr} {tag : String} {dnsTx : Bool} {actions : List TcpDnsAction}
    (reached : machine.run (new src tag dnsTx) actions = some task) : task.Sound :=
  Machine.run_invariant step_sound (sound_new src tag dnsTx) reached

/-- No step changes whose connection it is. -/
theorem step_src {action : TcpDnsAction} (stepped : machine.step task action = some next) :
    next.src = task.src ∧ next.tag = task.tag := by
  cases action
  all_goals
    dsimp only [machine, step] at stepped
    repeat' split at stepped
    all_goals
      cases stepped
      try exact ⟨rfl, rfl⟩

theorem run_src {src : SocketAddr} {tag : String} {dnsTx : Bool} {actions : List TcpDnsAction}
    (reached : machine.run (new src tag dnsTx) actions = some task) :
    task.src = src ∧ task.tag = tag :=
  @Machine.run_invariant _ _ machine (fun state => state.src = src ∧ state.tag = tag)
    (fun holds stepped => ⟨(step_src stepped).1.trans holds.1, (step_src stepped).2.trans holds.2⟩)
    _ _ _ ⟨rfl, rfl⟩ reached

end Steps

end TcpDnsTask

/-! ### The queries and the answers -/

section Runs

open TcpDnsTask

variable {src : SocketAddr} {tag : String} {dnsTx : Bool} {actions : List TcpDnsAction}
  {task : TcpDnsTask}

/-- The messages of a stream of the client: its frames, up to the first that is empty. -/
def messages (stream : Bytes) : List Bytes := (unframeAll 2 stream).1.takeWhile (· ≠ [])

/-- The messages of a stream that begins with some that are not empty. -/
theorem messages_append {stream rest : Bytes} {bodies : List Bytes}
    (fits : ∀ body ∈ bodies, 0 < body.length ∧ body.length < 65536)
    (same : stream = frames 2 bodies ++ rest) : messages stream = bodies ++ messages rest := by
  have read := unframeAll_append Nat.zero_lt_two (fun body among => (fits body among).2) same
  rw [messages, read, List.takeWhile_append_of_pos]
  · rfl
  · intro body among
    exact decide_eq_true (List.ne_nil_of_length_pos (fits body among).1)

/-- There is no message behind an empty one. -/
theorem messages_empty (stream : Bytes) : messages (frame 2 [] ++ stream) = [] := by
  have small : ∀ body ∈ ([[]] : List Bytes), body.length < 256 ^ 2 :=
    List.forall_mem_singleton.mpr (Nat.pow_pos (Nat.zero_lt_succ 255))
  have read := unframeAll_append Nat.zero_lt_two small
    (congrArg (· ++ stream) (frames_singleton 2 []).symm)
  rw [messages, read]
  rfl

/-- There is no message where no frame is. -/
theorem messages_of_none {stream : Bytes} (ends : unframe 2 stream = none) :
    messages stream = [] := by
  rw [messages, unframeAll_of_none Nat.zero_lt_two ends]
  rfl

/-- **The queries are the client's messages.** However the client's bytes arrive and are read, and
whatever becomes of the queries and the writes: the queries that `dns_tx` has accepted are the first
of the messages in the stream, each once and in order, in the name of the client, and one at a time;
and when the task has come to the end of the stream or to an empty message, they are all of them,
and each answer has been written. -/
theorem tcpDns_queries (reached : machine.run (new src tag dnsTx) actions = some task) :
    task.queries.map DnsQuery.message <+: messages task.arrived
      ∧ (∀ query ∈ task.queries, query = ⟨query.message, src, tag, .hijacked⟩)
      ∧ task.responses.length ≤ task.queries.length
      ∧ task.queries.length ≤ task.responses.length + 1
      ∧ (task.point = .ended .endOfStream ∨ task.point = .ended .invalidLength →
        task.queries.map DnsQuery.message = messages task.arrived
          ∧ task.responses.length = task.queries.length
          ∧ task.written = frames 2 task.responses) := by
  have sound := run_sound reached
  obtain ⟨source, inboundTag⟩ := run_src reached
  obtain ⟨held, holds, whole⟩ := sound.arrived
  obtain ⟨owed, owes, written⟩ := sound.written
  have count := sound.outstanding
  have asked : ∀ body ∈ task.queries.map DnsQuery.message,
      0 < body.length ∧ body.length < 65536 := by
    intro body among
    obtain ⟨query, sent, rfl⟩ := List.mem_map.mp among
    exact (sound.asked query sent).2
  rw [List.append_assoc] at whole
  have read := messages_append asked whole
  have one : task.point.outstanding ≤ 1 := by
    unfold TcpDnsPoint.outstanding
    split <;> omega
  refine ⟨⟨_, read.symm⟩, fun query sent => ?_, by omega, by omega, ?_⟩
  · have asks := (sound.asked query sent).1
    rwa [TcpDnsTask.query, source, inboundTag] at asks
  · rintro (here | here)
    all_goals rw [here] at holds owes count
    · obtain ⟨-, empty⟩ := sound.ended here
      rw [empty, List.append_nil, messages_of_none holds, List.append_nil] at read
      obtain rfl : owed = [] := owes
      exact ⟨read.symm, count.symm, List.append_nil task.written ▸ written⟩
    · obtain rfl : held = frame 2 [] := holds
      rw [messages_empty, List.append_nil] at read
      obtain rfl : owed = [] := owes
      exact ⟨read.symm, count.symm, List.append_nil task.written ▸ written⟩

/-- A client that asks one thing, is answered, and closes. -/
def sampleTcpDnsRun : List TcpDnsAction :=
  [.arrive [0, 1], .read 1, .read 1, .arrive [7], .close, .read 1, .send true, .reply (some [8, 9]),
    .write 2, .write 1, .write 1, .flush, .readEnd]

/-- The client of the runs below. -/
def sampleTcpDnsClient : SocketAddr := .v4 (.new 10 0 0 2) 40000

theorem tcpDns_queries_sample :
    ∃ task, machine.run (new sampleTcpDnsClient "tun" true) sampleTcpDnsRun = some task
      ∧ task.point = .ended .endOfStream ∧ task.queries.map DnsQuery.message = [[7]]
      ∧ task.queries.map DnsQuery.message <+: messages task.arrived :=
  ⟨_, rfl, rfl, rfl,
    (@tcpDns_queries sampleTcpDnsClient "tun" true sampleTcpDnsRun _ rfl).1⟩

/-- **The answers are read back by the client.** What has been written is the beginning of the
framed answers; a client that reads it gets the first of the answers if all of them are at most
65535 bytes long; and once nothing is awaited and nothing left to write, the client gets exactly the
answers if and only if they are. -/
theorem tcpDns_answers (reached : machine.run (new src tag dnsTx) actions = some task) :
    task.written <+: frames 2 task.responses
      ∧ ((∀ response ∈ task.responses, response.length ≤ 65535) →
        (unframeAll 2 task.written).1 <+: task.responses)
      ∧ (task.point.Settled →
        (unframeAll 2 task.written = (task.responses, [])
          ↔ ∀ response ∈ task.responses, response.length ≤ 65535)) := by
  obtain ⟨owed, owes, written⟩ := (run_sound reached).written
  have short : (∀ response ∈ task.responses, response.length ≤ 65535)
      ↔ ∀ response ∈ task.responses, response.length < 256 ^ 2 :=
    forall₂_congr fun _ _ => Nat.lt_succ_iff.symm
  have part : task.written <+: frames 2 task.responses := ⟨owed, written⟩
  refine ⟨part, fun fits => unframeAll_prefix Nat.zero_lt_two (short.mp fits) part,
    fun settled => ?_⟩
  obtain rfl := (settled.2 owed).mp owes
  rw [List.append_nil] at written
  rw [written, unframeAll_frames_iff Nat.zero_lt_two, short]

theorem tcpDns_answers_sample :
    ∃ task, machine.run (new sampleTcpDnsClient "tun" true) sampleTcpDnsRun = some task
      ∧ task.responses = [[8, 9]] ∧ task.written <+: frames 2 task.responses
      ∧ unframeAll 2 task.written = (task.responses, []) := by
  obtain ⟨part, -, settled⟩ :=
    @tcpDns_answers sampleTcpDnsClient "tun" true sampleTcpDnsRun _ rfl
  have fits : ∀ response ∈ ([[8, 9]] : List Bytes), response.length ≤ 65535 :=
    List.forall_mem_singleton.mpr (by decide)
  exact ⟨_, rfl, rfl, part, (settled ⟨rfl, fun _ => Iff.rfl⟩).mpr fits⟩

end Runs

end RsTun.SystemNat
