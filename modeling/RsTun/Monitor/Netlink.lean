/-
**A stream of netlink messages, against the walk of `parse_messages`.**

The kernel pads every message to a multiple of four bytes; `parse_messages` goes on right behind the
length of a message, in its padding if it has any.

* `parseMessages_eq` — on any bytes the walk ends within them, and answers whether the messages that
  it takes them for have a relevant one.
* `Stream order messages data` — `data` holds these messages, padded.
* `Slips` — the walk goes on in the padding of a message, without a relevant one so far.
* **`parseMessages_iff`** — the answer is right if and only if what the walk makes of the padding
  has a relevant message exactly when the messages behind it do.
-/

import RsTun.Library.Checked

namespace RsTun.Monitor

open Library Library.Bytes

/-! ### The parser -/

/-- The order of the bytes of a number in memory. -/
inductive ByteOrder where
  | little
  | big
  deriving DecidableEq

/-- `from_ne_bytes`. -/
def ByteOrder.fromNeBytes : ByteOrder → Bytes → Nat
  | .little, bytes => value bytes.reverse
  | .big, bytes => value bytes

def rtmNewlink : Nat := 16
def rtmDellink : Nat := 17
def rtmNewaddr : Nat := 20
def rtmDeladdr : Nat := 21
def rtmNewroute : Nat := 24
def rtmDelroute : Nat := 25

/-- The types of messages that tell of a change of a link, an address or a route. -/
def isRelevant (msgType : Nat) : Bool :=
  msgType = rtmNewlink || msgType = rtmDellink
    || msgType = rtmNewaddr || msgType = rtmDeladdr
    || msgType = rtmNewroute || msgType = rtmDelroute

section Walk

variable (order : ByteOrder)

/-- The loop of `parse_messages`; it panics when it is not over after `turns` turns. -/
def parseLoop : Nat → Bool → Bytes → Checked Empty Bool
  | 0, _, _ => .error .panicked
  | turns + 1, relevant, data =>
      if data.length < 16 then .ok relevant
      else do
        let first ← Checked.index data 0
        let second ← Checked.index data 1
        let third ← Checked.index data 2
        let fourth ← Checked.index data 3
        let len := order.fromNeBytes [first, second, third, fourth]
        if len < 16 ∨ data.length < len then return relevant
        else
          let low ← Checked.index data 4
          let high ← Checked.index data 5
          let msgType := order.fromNeBytes [low, high]
          let rest ← Checked.range data len data.length
          parseLoop turns (relevant || isRelevant msgType) rest

/-- `parse_messages`. -/
def parseMessages (data : Bytes) : Checked Empty Bool :=
  parseLoop order (data.length + 1) false data

/-- The length that a header states (`nlmsg_len`). -/
def lenAt (data : Bytes) : Nat :=
  order.fromNeBytes [byteAt data 0, byteAt data 1, byteAt data 2, byteAt data 3]

/-- The type that a header states (`nlmsg_type`). -/
def typeAt (data : Bytes) : Nat := order.fromNeBytes [byteAt data 4, byteAt data 5]

/-- The data begins with a header whose message lies in it. -/
structure Begins (data : Bytes) : Prop where
  header : 16 ≤ data.length
  low : 16 ≤ lenAt order data
  high : lenAt order data ≤ data.length

/-- **Read without padding**, each message right behind the length of the one before, the data has a
relevant message. -/
inductive Meets : Bytes → Prop
  | here {data : Bytes} : Begins order data → isRelevant (typeAt order data) = true → Meets data
  | later {data : Bytes} : Begins order data → Meets (data.drop (lenAt order data)) → Meets data

variable {order}

/-- What data that begins with a message meets. -/
theorem meets_iff {data : Bytes} (begins : Begins order data) :
    Meets order data
      ↔ isRelevant (typeAt order data) = true ∨ Meets order (data.drop (lenAt order data)) := by
  constructor
  · intro meets
    cases meets with
    | here _ relevant => exact Or.inl relevant
    | later _ meets => exact Or.inr meets
  · exact fun either => either.elim (.here begins) (.later begins)

theorem not_meets {data : Bytes} (never : ¬ Begins order data) : ¬ Meets order data := by
  intro meets
  cases meets with
  | here begins => exact never begins
  | later begins => exact never begins

/-- A turn at data that begins with a message. -/
theorem parseLoop_of_begins {turns : Nat} {relevant : Bool} {data : Bytes}
    (begins : Begins order data) :
    parseLoop order (turns + 1) relevant data
      = parseLoop order turns (relevant || isRelevant (typeAt order data))
        (data.drop (lenAt order data)) := by
  obtain ⟨header, low, high⟩ := begins
  have rest : slice data (lenAt order data) (data.length - lenAt order data)
      = data.drop (lenAt order data) := by
    rw [slice, List.take_of_length_le (by rw [List.length_drop])]
  rw [parseLoop, if_neg (Nat.not_lt.mpr header), Checked.index_eq_ok (by omega),
    Checked.index_eq_ok (by omega), Checked.index_eq_ok (by omega), Checked.index_eq_ok (by omega)]
  have inside : ¬ (lenAt order data < 16 ∨ data.length < lenAt order data) := by omega
  refine (if_neg inside).trans ?_
  rw [Checked.index_eq_ok (by omega), Checked.index_eq_ok (by omega)]
  show Except.bind (Checked.range data (lenAt order data) data.length) _ = _
  rw [Checked.range_eq_ok high (Nat.le_refl _), rest]
  rfl

/-- A turn at any other data is the last one. -/
theorem parseLoop_of_not_begins {turns : Nat} {relevant : Bool} {data : Bytes}
    (never : ¬ Begins order data) : parseLoop order (turns + 1) relevant data = .ok relevant := by
  rw [parseLoop]
  by_cases short : data.length < 16
  · rw [if_pos short]
  · rw [if_neg short, Checked.index_eq_ok (by omega), Checked.index_eq_ok (by omega),
      Checked.index_eq_ok (by omega), Checked.index_eq_ok (by omega)]
    refine if_pos (show lenAt order data < 16 ∨ data.length < lenAt order data from ?_)
    by_contra inside
    obtain ⟨low, high⟩ := not_or.mp inside
    exact never ⟨Nat.le_of_not_lt short, Nat.le_of_not_lt low, Nat.le_of_not_lt high⟩

/-- The loop is over within its turns, as each takes at least one byte. -/
theorem parseLoop_eq : ∀ {turns : Nat} (relevant : Bool) (data : Bytes), data.length < turns →
    ∃ result, parseLoop order turns relevant data = .ok result
      ∧ (result = true ↔ relevant = true ∨ Meets order data)
  | turns + 1, relevant, data, enough => by
      by_cases begins : Begins order data
      · have low := begins.low
        have high := begins.high
        obtain ⟨result, returned, exact⟩ := @parseLoop_eq turns
          (relevant || isRelevant (typeAt order data)) (data.drop (lenAt order data))
          (by rw [List.length_drop]; omega)
        refine ⟨result, (parseLoop_of_begins begins).trans returned, exact.trans ?_⟩
        rw [Bool.or_eq_true, meets_iff begins, or_assoc]
      · exact ⟨relevant, parseLoop_of_not_begins begins,
          (or_iff_left (not_meets begins)).symm⟩

/-- **On any bytes** `parse_messages` ends, with every access in range. -/
theorem parseMessages_eq (order : ByteOrder) (data : Bytes) : ∃ result,
    parseMessages order data = .ok result ∧ (result = true ↔ Meets order data) := by
  obtain ⟨result, returned, exact⟩ := @parseLoop_eq order _ false data (Nat.lt_succ_self _)
  exact ⟨result, returned, exact.trans (or_iff_right Bool.false_ne_true)⟩

end Walk

/-! ### Streams of messages -/

/-- A netlink message: a header of 16 bytes that states its length, and its payload. -/
structure Message (order : ByteOrder) where
  bytes : Bytes
  header : 16 ≤ bytes.length
  len_eq : lenAt order bytes = bytes.length

namespace Message

variable {order : ByteOrder}

/-- The message tells of a change of a link, an address or a route. -/
def relevant (message : Message order) : Bool := isRelevant (typeAt order message.bytes)

/-- The bytes from a message of this length to the next multiple of four (`NLMSG_ALIGN`). -/
def padding (message : Message order) : Nat := (4 - message.bytes.length % 4) % 4

end Message

/-- **`data` holds the messages**, each padded to a multiple of four; the last one may go without
its padding. -/
inductive Stream (order : ByteOrder) : List (Message order) → Bytes → Prop
  | nil : Stream order [] []
  | last (message : Message order) : Stream order [message] message.bytes
  | cons (message : Message order) {pad : Bytes} {messages : List (Message order)} {data : Bytes} :
      pad.length = message.padding → Stream order messages data →
      Stream order (message :: messages) (message.bytes ++ (pad ++ data))

/-- **The walk slips** at a message that has padding, with others behind it: none up to it was
relevant. What it reads next is the padding and the messages behind it. -/
inductive Slips (order : ByteOrder) :
    List (Message order) → Bytes → List (Message order) → Bytes → Prop
  | here (message : Message order) {after : List (Message order)} {rest : Bytes} :
      message.relevant = false → 0 < message.padding → after ≠ [] →
      Slips order (message :: after) (message.bytes ++ rest) after rest
  | later (message : Message order) {messages after : List (Message order)} {data rest : Bytes} :
      message.relevant = false → message.padding = 0 → Slips order messages data after rest →
      Slips order (message :: messages) (message.bytes ++ data) after rest

section Streams

variable {order : ByteOrder}

theorem begins_message (message : Message order) (rest : Bytes) :
    Begins order (message.bytes ++ rest)
      ∧ lenAt order (message.bytes ++ rest) = message.bytes.length
      ∧ typeAt order (message.bytes ++ rest) = typeAt order message.bytes := by
  have header := message.header
  have len : lenAt order (message.bytes ++ rest) = message.bytes.length := by
    rw [lenAt, byteAt_append_of_lt _ (by omega), byteAt_append_of_lt _ (by omega),
      byteAt_append_of_lt _ (by omega), byteAt_append_of_lt _ (by omega)]
    exact message.len_eq
  refine ⟨⟨?_, ?_, ?_⟩, len, ?_⟩
  · rw [List.length_append]
    omega
  · rwa [len]
  · rw [len, List.length_append]
    omega
  · rw [typeAt, byteAt_append_of_lt _ (by omega), byteAt_append_of_lt _ (by omega), typeAt]

/-- What the walk meets from a message on. -/
theorem meets_message (message : Message order) (rest : Bytes) :
    Meets order (message.bytes ++ rest) ↔ message.relevant = true ∨ Meets order rest := by
  obtain ⟨begins, len, type⟩ := begins_message message rest
  rw [meets_iff begins, len, type, List.drop_left, Message.relevant]

theorem not_meets_nil : ¬ Meets order [] :=
  not_meets fun begins => absurd begins.header (by decide)

/-- Without messages the walk does not slip. -/
theorem not_slips_nil {data rest : Bytes} {after : List (Message order)} :
    ¬ Slips order [] data after rest := by
  intro slips
  cases slips

/-- **Where the walk slips**, from a message on. -/
theorem slips_cons_iff {message : Message order} {messages after : List (Message order)}
    {data rest : Bytes} :
    Slips order (message :: messages) (message.bytes ++ data) after rest
      ↔ message.relevant = false
        ∧ (0 < message.padding ∧ messages ≠ [] ∧ after = messages ∧ rest = data
          ∨ message.padding = 0 ∧ Slips order messages data after rest) := by
  constructor
  · generalize whole : message.bytes ++ data = given
    intro slips
    cases slips with
    | here _ irrelevant padded others =>
        exact ⟨irrelevant, Or.inl ⟨padded, others, rfl, (List.append_cancel_left whole).symm⟩⟩
    | later _ irrelevant aligned slips =>
        rw [List.append_cancel_left whole]
        exact ⟨irrelevant, Or.inr ⟨aligned, slips⟩⟩
  · rintro ⟨irrelevant, ⟨padded, others, rfl, rfl⟩ | ⟨aligned, slips⟩⟩
    · exact .here message irrelevant padded others
    · exact .later message irrelevant aligned slips

/-- **The walk meets a relevant message exactly if there is one** if and only if it does so where it
slips, if it does. -/
theorem meets_iff_of_stream {messages : List (Message order)} {data : Bytes}
    (stream : Stream order messages data) :
    (Meets order data ↔ ∃ message ∈ messages, message.relevant = true)
      ↔ ∀ after rest, Slips order messages data after rest →
        (Meets order rest ↔ ∃ message ∈ after, message.relevant = true) := by
  induction stream with
  | nil =>
      refine iff_of_true (iff_of_false not_meets_nil ?_) fun _ _ slips => (not_slips_nil slips).elim
      exact fun ⟨_, mem, _⟩ => List.not_mem_nil mem
  | last message =>
      have meets := meets_message message []
      rw [List.append_nil, or_iff_left not_meets_nil] at meets
      refine iff_of_true ?_ fun after rest slips => ?_
      · rw [meets]
        exact ⟨fun relevant => ⟨message, List.mem_singleton_self _, relevant⟩,
          fun ⟨_, mem, relevant⟩ => List.mem_singleton.mp mem ▸ relevant⟩
      · have split := @slips_cons_iff order message [] after [] rest
        rw [List.append_nil] at split
        obtain ⟨-, ⟨-, others, -⟩ | ⟨-, never⟩⟩ := split.mp slips
        · exact absurd rfl others
        · exact (not_slips_nil never).elim
  | @cons message pad messages data padded stream ih =>
      rw [meets_message, List.exists_mem_cons_iff]
      cases relevant : message.relevant with
      | true =>
          refine iff_of_true (iff_of_true (Or.inl rfl) (Or.inl rfl)) fun after rest slips => ?_
          exact absurd ((slips_cons_iff.mp slips).1.symm.trans relevant) Bool.false_ne_true
      | false =>
          rw [or_iff_right Bool.false_ne_true, or_iff_right Bool.false_ne_true]
          by_cases aligned : message.padding = 0
          · have empty : pad = [] := List.eq_nil_of_length_eq_zero (padded.trans aligned)
            rw [empty, List.nil_append]
            refine ih.trans (forall₂_congr fun after rest => ?_)
            rw [slips_cons_iff, and_iff_right relevant, aligned, or_iff_right (by omega),
              and_iff_right rfl]
          · cases messages with
            | nil =>
                cases stream with
                | nil =>
                    rw [List.append_nil]
                    have short : ¬ Begins order pad := fun begins => by
                      have header := begins.header
                      rw [padded, Message.padding] at header
                      omega
                    refine iff_of_true (iff_of_false (not_meets short) ?_) ?_
                    · exact fun ⟨_, mem, _⟩ => List.not_mem_nil mem
                    · intro after rest slips
                      obtain ⟨-, ⟨-, others, -⟩ | ⟨never, -⟩⟩ := slips_cons_iff.mp slips
                      · exact absurd rfl others
                      · exact absurd never aligned
            | cons next messages =>
                constructor
                · intro right after rest slips
                  obtain ⟨-, ⟨-, -, rfl, rfl⟩ | ⟨never, -⟩⟩ := slips_cons_iff.mp slips
                  · exact right
                  · exact absurd never aligned
                · intro right
                  exact right _ _
                    (.here message relevant (Nat.pos_of_ne_zero aligned) (List.cons_ne_nil _ _))

/-- **`parse_messages` on any bytes and on a stream of messages**: it returns, and on a stream the
answer is right if and only if, should the walk slip, what it makes of the padding and the messages
behind it has a relevant message exactly when these messages have one. -/
theorem parseMessages_iff (order : ByteOrder) (data : Bytes) :
    (∃ result, parseMessages order data = .ok result)
      ∧ ∀ messages, Stream order messages data →
        ((parseMessages order data = .ok true ↔ ∃ message ∈ messages, message.relevant = true)
          ↔ ∀ after rest, Slips order messages data after rest →
            (Meets order rest ↔ ∃ message ∈ after, message.relevant = true)) := by
  obtain ⟨result, returned, exact⟩ := parseMessages_eq order data
  refine ⟨⟨result, returned⟩, fun messages stream => ?_⟩
  have answer : parseMessages order data = .ok true ↔ Meets order data := by
    rw [returned, ← exact]
    exact ⟨fun same => Except.ok.inj same, congrArg _⟩
  rw [answer]
  exact meets_iff_of_stream stream

end Streams

/-- A message of type 2 (`NLMSG_ERROR`) without a payload. -/
def errorMessage : Message .little where
  bytes := [16, 0, 0, 0, 2, 0, 0, 0, 0, 0, 0, 0, 0, 0, 0, 0]
  header := by decide
  len_eq := by decide

/-- The same with a payload of one byte. -/
def oddMessage : Message .little where
  bytes := [17, 0, 0, 0, 2, 0, 0, 0, 0, 0, 0, 0, 0, 0, 0, 0, 1]
  header := by decide
  len_eq := by decide

/-- A new interface. -/
def newlinkMessage : Message .little where
  bytes := [16, 0, 0, 0, 16, 0, 0, 0, 0, 0, 0, 0, 0, 0, 0, 0]
  header := by decide
  len_eq := by decide

theorem parseMessages_iff_sample :
    parseMessages .little (errorMessage.bytes ++ newlinkMessage.bytes) = .ok true
      ↔ ∃ message ∈ [errorMessage, newlinkMessage], message.relevant = true :=
  ((parseMessages_iff .little (errorMessage.bytes ++ newlinkMessage.bytes)).2
    [errorMessage, newlinkMessage]
    (@Stream.cons _ errorMessage [] [newlinkMessage] _ (by decide) (.last newlinkMessage))).mpr
    fun _ _ slips => by
      obtain ⟨-, ⟨padded, -⟩ | ⟨-, slips⟩⟩ := slips_cons_iff.mp slips
      · exact absurd padded (by decide)
      · have relevant := (@slips_cons_iff _ newlinkMessage [] _ [] _).mp slips |>.1
        exact absurd relevant (by decide)

/-- **A new interface is missed** behind a message of 17 bytes, which the kernel pads to 20. -/
theorem newlink_missed :
    Stream .little [oddMessage, newlinkMessage]
        (oddMessage.bytes ++ ([0, 0, 0] ++ newlinkMessage.bytes))
      ∧ newlinkMessage.relevant = true
      ∧ parseMessages .little (oddMessage.bytes ++ ([0, 0, 0] ++ newlinkMessage.bytes))
        = .ok false :=
  ⟨.cons oddMessage (by decide) (.last newlinkMessage), by decide, by decide⟩

end RsTun.Monitor
