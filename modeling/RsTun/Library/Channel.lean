/-
**Unbounded channels, and what a poll returns.**

A channel keeps the items that were received, in order, before the items that wait, so that "the
items that were sent" is not a history of its own: `sent` is the two lists together, a receive moves
an item from the one to the other, and the order of the items cannot change.

* `send_cases` — a send appends the item, or gives it back because the receiver is gone.
* `receive_cases` — a receive takes the first item, or reports the end of a drained channel without
  senders.
-/

import Mathlib.Data.List.Basic

namespace RsTun.Library

universe u

/-- `std::task::Poll`. -/
inductive Poll (Value : Type u) where
  | pending
  | ready (value : Value)
  deriving DecidableEq

/-- An unbounded channel with one receiver. -/
structure Channel (Item : Type u) where
  received : List Item
  waiting : List Item
  senderAlive : Bool
  receiverAlive : Bool
  deriving DecidableEq

namespace Channel

variable {Item : Type u}

/-- A channel on which nothing was sent. -/
def empty : Channel Item := ⟨[], [], true, true⟩

/-- All items that were sent, in order. -/
def sent (channel : Channel Item) : List Item := channel.received ++ channel.waiting

/-- `UnboundedSender::send`: the item comes back when the receiver was dropped. -/
def send (channel : Channel Item) (item : Item) : Except Item (Channel Item) :=
  if channel.receiverAlive then .ok { channel with waiting := channel.waiting ++ [item] }
  else .error item

/-- `UnboundedReceiver::recv`: an item or the end of the channel, and nothing while it waits. -/
def receive (channel : Channel Item) : Option (Option Item × Channel Item) :=
  match channel.waiting with
  | item :: rest =>
      some (some item, { channel with received := channel.received ++ [item], waiting := rest })
  | [] => if channel.senderAlive then none else some (none, channel)

/-- All senders were dropped, and nothing waits. -/
def Drained (channel : Channel Item) : Prop := channel.senderAlive = false ∧ channel.waiting = []

instance (channel : Channel Item) [DecidableEq Item] : Decidable channel.Drained :=
  inferInstanceAs (Decidable (_ ∧ _))

theorem sent_of_drained {channel : Channel Item} (drained : channel.Drained) :
    channel.sent = channel.received := by
  rw [sent, drained.2, List.append_nil]

/-- **A send appends the item, or gives it back.** -/
theorem send_cases (channel : Channel Item) (item : Item) :
    (channel.receiverAlive = true ∧
      channel.send item = .ok { channel with waiting := channel.waiting ++ [item] }) ∨
    (channel.receiverAlive = false ∧ channel.send item = .error item) := by
  rw [send]
  cases alive : channel.receiverAlive with
  | true => exact .inl ⟨rfl, rfl⟩
  | false => exact .inr ⟨rfl, rfl⟩

/-- **A receive takes the first item**, or ends on a drained channel. -/
theorem receive_cases {channel next : Channel Item} {result : Option Item}
    (done : channel.receive = some (result, next)) :
    (∃ item rest, channel.waiting = item :: rest ∧ result = some item ∧
      next = { channel with received := channel.received ++ [item], waiting := rest }) ∨
    (channel.Drained ∧ result = none ∧ next = channel) := by
  rw [receive] at done
  cases waits : channel.waiting with
  | cons item rest =>
      rw [waits] at done
      cases done
      exact .inl ⟨item, rest, rfl, rfl, rfl⟩
  | nil =>
      rw [waits] at done
      cases alive : channel.senderAlive with
      | true =>
          rw [alive, if_pos rfl] at done
          cases done
      | false =>
          rw [alive, if_neg Bool.false_ne_true] at done
          cases done
          exact .inr ⟨⟨alive, waits⟩, rfl, rfl⟩

/-- A receive moves items within the channel. -/
theorem receive_sent {channel next : Channel Item} {result : Option Item}
    (done : channel.receive = some (result, next)) : next.sent = channel.sent := by
  obtain ⟨item, rest, waits, -, rfl⟩ | ⟨-, -, rfl⟩ := receive_cases done
  · rw [sent, sent, waits]
    exact List.append_assoc _ _ _
  · rfl

end Channel

end RsTun.Library
