/-
**Bounded channels: slots that are reserved before they are filled.**

Like `Channel`, a bounded channel keeps the items that were received before the items that wait. A
slot is taken first and filled later, or given back; the field `fits` carries the bound, so that
items and reserved slots together cannot exceed the capacity.

* `tryReserve_cases`, `sendPermit_cases`, `trySend_cases` — what the three sending operations do.
* `receive_cases` — a receive takes the first item, or reports the end of a drained channel.
-/

import RsTun.Library.Channel

namespace RsTun.Library

universe u

/-- Why a slot was not given out. -/
inductive TrySendError where
  | full
  | closed
  deriving DecidableEq

/-- A bounded channel with one receiver. -/
structure Bounded (Item : Type u) (capacity : Nat) where
  received : List Item
  waiting : List Item
  /-- The permits that were given out, and not used yet. -/
  reserved : Nat
  senderAlive : Bool
  receiverAlive : Bool
  fits : waiting.length + reserved ≤ capacity

namespace Bounded

variable {Item : Type u} {capacity : Nat}

/-- A channel on which nothing was sent. -/
def empty : Bounded Item capacity := ⟨[], [], 0, true, true, Nat.zero_le capacity⟩

variable (channel : Bounded Item capacity)

/-- All items that were sent, in order. -/
def sent : List Item := channel.received ++ channel.waiting

/-- Nothing waits, and no sender is left. -/
def Drained : Prop := channel.senderAlive = false ∧ channel.waiting = []

/-- A slot is free. -/
def HasRoom : Prop := channel.waiting.length + channel.reserved < capacity

instance : Decidable channel.HasRoom := inferInstanceAs (Decidable (_ < _))

/-- `Sender::try_reserve`. -/
def tryReserve : Except TrySendError (Bounded Item capacity) :=
  if channel.receiverAlive then
    if room : channel.HasRoom then
      .ok { channel with reserved := channel.reserved + 1, fits := room }
    else .error .full
  else .error .closed

/-- `Permit::send`, where a permit was given out. -/
def sendPermit (item : Item) : Option (Bounded Item capacity) :=
  if held : 0 < channel.reserved then
    some { channel with
      waiting := channel.waiting ++ [item]
      reserved := channel.reserved - 1
      fits := by
        have := channel.fits
        rw [List.length_append, List.length_singleton]
        omega }
  else none

/-- A permit is dropped without having been used. -/
def dropPermit : Bounded Item capacity :=
  { channel with
    reserved := channel.reserved - 1
    fits := Nat.le_trans (Nat.add_le_add_left (Nat.sub_le _ 1) _) channel.fits }

/-- `Sender::try_send`. -/
def trySend (item : Item) : Except TrySendError (Bounded Item capacity) :=
  if channel.receiverAlive then
    if room : channel.HasRoom then
      .ok { channel with
        waiting := channel.waiting ++ [item]
        fits := by
          have : channel.waiting.length + channel.reserved < capacity := room
          rw [List.length_append, List.length_singleton]
          omega }
    else .error .full
  else .error .closed

/-- `Receiver::poll_recv`: an item or the end of the channel, and nothing while it waits. -/
def receive : Option (Option Item × Bounded Item capacity) :=
  match waits : channel.waiting with
  | item :: rest =>
      some (some item, { channel with
        received := channel.received ++ [item]
        waiting := rest
        fits := by
          have := channel.fits
          rw [waits, List.length_cons] at this
          omega })
  | [] => if channel.senderAlive then none else some (none, channel)

/-- The senders were dropped. -/
def closeSender : Bounded Item capacity := { channel with senderAlive := false }

/-- The receiver was dropped. -/
def closeReceiver : Bounded Item capacity := { channel with receiverAlive := false }

variable {channel} {next : Bounded Item capacity} {item : Item}

theorem sent_of_drained (drained : channel.Drained) : channel.sent = channel.received := by
  rw [sent, drained.2, List.append_nil]

/-- **`try_reserve` takes a slot of an open channel that has room, and touches nothing else.** -/
theorem tryReserve_cases (reserved : channel.tryReserve = .ok next) :
    channel.receiverAlive = true ∧ channel.HasRoom ∧ next.received = channel.received
      ∧ next.waiting = channel.waiting ∧ next.reserved = channel.reserved + 1
      ∧ next.senderAlive = channel.senderAlive ∧ next.receiverAlive = channel.receiverAlive := by
  unfold tryReserve at reserved
  split at reserved
  case isTrue alive =>
      split at reserved
      case isTrue room =>
          cases reserved
          exact ⟨alive, room, rfl, rfl, rfl, rfl, rfl⟩
      case isFalse => cases reserved
  case isFalse => cases reserved

/-- An open channel with room gives a slot out. -/
theorem tryReserve_isOk (alive : channel.receiverAlive = true) (room : channel.HasRoom) :
    ∃ next, channel.tryReserve = .ok next := by
  rw [tryReserve, if_pos alive, dif_pos room]
  exact ⟨_, rfl⟩

/-- **A permit is used once: its slot becomes the last item.** -/
theorem sendPermit_cases (sent : channel.sendPermit item = some next) :
    0 < channel.reserved ∧ next.received = channel.received
      ∧ next.waiting = channel.waiting ++ [item] ∧ next.reserved = channel.reserved - 1
      ∧ next.senderAlive = channel.senderAlive ∧ next.receiverAlive = channel.receiverAlive := by
  unfold sendPermit at sent
  split at sent
  case isTrue held =>
      cases sent
      exact ⟨held, rfl, rfl, rfl, rfl, rfl⟩
  case isFalse => cases sent

theorem sendPermit_isSome (held : 0 < channel.reserved) (item : Item) :
    ∃ next, channel.sendPermit item = some next := by
  rw [sendPermit, dif_pos held]
  exact ⟨_, rfl⟩

/-- **`try_send` appends the item to an open channel that has room.** -/
theorem trySend_cases (sent : channel.trySend item = .ok next) :
    channel.receiverAlive = true ∧ channel.HasRoom ∧ next.received = channel.received
      ∧ next.waiting = channel.waiting ++ [item] ∧ next.reserved = channel.reserved
      ∧ next.senderAlive = channel.senderAlive ∧ next.receiverAlive = channel.receiverAlive := by
  unfold trySend at sent
  split at sent
  case isTrue alive =>
      split at sent
      case isTrue room =>
          cases sent
          exact ⟨alive, room, rfl, rfl, rfl, rfl, rfl⟩
      case isFalse => cases sent
  case isFalse => cases sent

/-- `try_send` takes an item exactly where the channel is open and has room. -/
theorem trySend_isOk_iff :
    (channel.trySend item).isOk = true ↔ channel.receiverAlive = true ∧ channel.HasRoom := by
  unfold trySend
  split
  case isTrue alive =>
      split
      case isTrue room => exact ⟨fun _ => ⟨alive, room⟩, fun _ => rfl⟩
      case isFalse full => exact ⟨nofun, fun here => absurd here.2 full⟩
  case isFalse closed => exact ⟨nofun, fun here => absurd here.1 closed⟩

/-- **A receive takes the first item, or reports the end of a drained channel.** -/
theorem receive_cases {result : Option Item} (received : channel.receive = some (result, next)) :
    (∃ item rest, channel.waiting = item :: rest ∧ result = some item
        ∧ next.received = channel.received ++ [item] ∧ next.waiting = rest
        ∧ next.reserved = channel.reserved ∧ next.senderAlive = channel.senderAlive
        ∧ next.receiverAlive = channel.receiverAlive)
      ∨ channel.Drained ∧ result = none ∧ next = channel := by
  unfold receive at received
  split at received
  case h_1 item rest waits =>
      cases received
      exact .inl ⟨item, rest, waits, rfl, rfl, rfl, rfl, rfl, rfl⟩
  case h_2 empty =>
      split at received
      case isTrue => cases received
      case isFalse dead =>
          cases received
          exact .inr ⟨⟨Bool.eq_false_iff.mpr dead, empty⟩, rfl, rfl⟩

/-- A receive waits exactly where nothing waits for it, and a sender is left. -/
theorem receive_eq_none_iff :
    channel.receive = none ↔ channel.waiting = [] ∧ channel.senderAlive = true := by
  unfold receive
  split
  case h_1 item rest waits =>
      exact ⟨nofun, fun here => absurd (waits ▸ here.1) nofun⟩
  case h_2 empty =>
      split
      case isTrue alive => exact ⟨fun _ => ⟨empty, alive⟩, fun _ => rfl⟩
      case isFalse dead => exact ⟨nofun, fun here => absurd here.2 dead⟩

end Bounded

end RsTun.Library
