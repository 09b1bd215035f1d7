/-
**The bridge between a userspace stream and a socket of the host: two copies that are joined.**

`bridge_to_tcpstream` gives the application one end of a loopback connection and copies in both
directions between the other end and the `TcpStream` of the stack. `join!` polls the two copies
until both have returned, and both streams are dropped behind it, which is the only end that either
side is shown: nothing shuts a writer down.

`tokio::io::copy` is not part of the source. It is a parameter, a future that can be polled, and all
that is assumed is what it documents of its return (`Copy.Documented`): `Ok` only when its reader
has ended, `Err` only when a read or a write has failed.

* `Relay.closed_of_dropped` — in every run the streams are dropped only when each direction has
  ended or failed.
* `Relay.half_close_waits` — while the application ends its direction only behind the end of the
  other, in no run does it see that end.
-/

import RsTun.Library.Bytes
import RsTun.Library.Machine

namespace RsTun.Netstack

open Library Library.Bytes

/-! ### `tokio::io::copy` -/

/-- What waits at the reader of a copy, and what its writer has taken. -/
structure Pipe where
  waiting : Bytes
  taken : Bytes
  deriving DecidableEq

/-- What a copy has returned. -/
inductive Copied where
  | ok
  | err
  deriving DecidableEq

/-- What a poll of a copy meets. -/
structure Ends where
  /-- The reader has ended behind what waits there. -/
  ended : Bool
  /-- A read or a write fails. -/
  failed : Bool
  /-- The bytes for which the writer has room. -/
  room : Nat

/-- A copy as a future, with what it keeps between two polls. -/
structure Copy (State : Type) where
  start : State
  poll : Ends → State → Pipe → Option Copied × State × Pipe

variable {State : Type}

/-- What the documentation says of the return. -/
structure Copy.Documented (copy : Copy State) : Prop where
  ok : ∀ {ends state pipe}, (copy.poll ends state pipe).1 = some .ok → ends.ended = true
  err : ∀ {ends state pipe}, (copy.poll ends state pipe).1 = some .err → ends.failed = true

/-! ### One direction -/

/-- One direction of the bridge. -/
structure Direction (State : Type) where
  /-- The side that it comes from has ended it. -/
  ended : Bool
  /-- Its reads or its writes fail from now on. -/
  failed : Bool
  pipe : Pipe
  copy : State
  returned : Option Copied
  deriving DecidableEq

namespace Direction

/-- Nothing has come. -/
def new (copy : Copy State) : Direction State := ⟨false, false, ⟨[], []⟩, copy.start, none⟩

/-- What can happen to a direction. -/
inductive Action where
  | arrive (bytes : Bytes)
  | ends
  | fails
  | poll (room : Nat)
  deriving DecidableEq

/-- One step. A copy that has returned is not polled again. -/
def step (copy : Copy State) (direction : Direction State) : Action → Option (Direction State)
  | .arrive bytes =>
      if direction.ended then none
      else some { direction with
        pipe := { direction.pipe with waiting := direction.pipe.waiting ++ bytes } }
  | .ends => some { direction with ended := true }
  | .fails => some { direction with failed := true }
  | .poll room =>
      if direction.returned = none then
        let (returned, state, pipe) :=
          copy.poll ⟨direction.ended, direction.failed, room⟩ direction.copy direction.pipe
        some { direction with returned, copy := state, pipe }
      else none

/-- A copy that has returned found the end of its direction or a failure. -/
structure Honest (direction : Direction State) : Prop where
  ok : direction.returned = some .ok → direction.ended = true
  err : direction.returned = some .err → direction.failed = true

variable {copy : Copy State} {direction next : Direction State} {action : Action}

theorem Honest.new : (new copy).Honest := ⟨nofun, nofun⟩

/-- What one step does to the signals of a direction. -/
theorem step_cases (stepped : direction.step copy action = some next) :
    (action = .ends ∧ next.ended = true ∧ next.failed = direction.failed
        ∧ next.returned = direction.returned)
      ∨ (action = .fails ∧ next.failed = true ∧ next.ended = direction.ended
        ∧ next.returned = direction.returned)
      ∨ (action ≠ .ends ∧ action ≠ .fails ∧ next.ended = direction.ended
        ∧ next.failed = direction.failed
        ∧ (next.returned = direction.returned ∨ ∃ room, next.returned = (copy.poll
          ⟨direction.ended, direction.failed, room⟩ direction.copy direction.pipe).1)) := by
  cases action with
  | arrive bytes =>
      rw [Direction.step] at stepped
      split at stepped
      · cases stepped
      · cases stepped
        exact .inr (.inr ⟨nofun, nofun, rfl, rfl, .inl rfl⟩)
  | ends =>
      cases stepped
      exact .inl ⟨rfl, rfl, rfl, rfl⟩
  | fails =>
      cases stepped
      exact .inr (.inl ⟨rfl, rfl, rfl, rfl⟩)
  | poll room =>
      rw [Direction.step] at stepped
      split at stepped
      · cases stepped
        exact .inr (.inr ⟨nofun, nofun, rfl, rfl, .inr ⟨room, rfl⟩⟩)
      · cases stepped

theorem Honest.step (documented : copy.Documented) (honest : direction.Honest)
    (stepped : direction.step copy action = some next) : next.Honest := by
  rcases step_cases stepped with ⟨-, ended, failed, returned⟩ | ⟨-, failed, ended, returned⟩
    | ⟨-, -, ended, failed, returned⟩
  · exact ⟨fun _ => ended, fun err => failed.trans (honest.err (returned ▸ err))⟩
  · exact ⟨fun ok => ended.trans (honest.ok (returned ▸ ok)), fun _ => failed⟩
  · rcases returned with returned | ⟨room, returned⟩
    · exact ⟨fun ok => ended.trans (honest.ok (returned ▸ ok)),
        fun err => failed.trans (honest.err (returned ▸ err))⟩
    · exact ⟨fun ok => ended.trans (documented.ok (returned ▸ ok)),
        fun err => failed.trans (documented.err (returned ▸ err))⟩

/-- A direction is closed when its side has ended it or it fails. -/
def Closed (direction : Direction State) : Prop :=
  direction.ended = true ∨ direction.failed = true

/-- A closed direction stays closed. -/
theorem Closed.step (closed : direction.Closed) (stepped : direction.step copy action = some next) :
    next.Closed := by
  rcases step_cases stepped with ⟨-, ended, -, -⟩ | ⟨-, failed, -, -⟩ | ⟨-, -, ended, failed, -⟩
  · exact .inl ended
  · exact .inr failed
  · exact closed.imp ended.trans failed.trans

/-- A direction whose copy has returned is closed. -/
theorem Honest.closed (honest : direction.Honest) (returned : direction.returned ≠ none) :
    direction.Closed := by
  cases result : direction.returned with
  | none => exact absurd result returned
  | some copied =>
      cases copied with
      | ok => exact .inl (honest.ok result)
      | err => exact .inr (honest.err result)

end Direction

/-! ### Both directions -/

/-- The task of `bridge_to_tcpstream`, with the names of its copies. -/
structure Relay (State : Type) where
  /-- From the application to the stack. -/
  c2s : Direction State
  /-- From the stack to the application. -/
  s2c : Direction State
  /-- `join!` has returned, and the streams are dropped: both sides see the end. -/
  dropped : Bool
  deriving DecidableEq

namespace Relay

/-- A new bridge. -/
def new (copy : Copy State) : Relay State := ⟨.new copy, .new copy, false⟩

/-- What can happen. -/
inductive Action where
  | c2s (action : Direction.Action)
  | s2c (action : Direction.Action)
  | join
  deriving DecidableEq

/-- One step. `join!` waits for both copies, whatever they return. -/
def step (copy : Copy State) (relay : Relay State) : Action → Option (Relay State)
  | .c2s action => (relay.c2s.step copy action).map fun c2s => { relay with c2s }
  | .s2c action => (relay.s2c.step copy action).map fun s2c => { relay with s2c }
  | .join =>
      if relay.c2s.returned ≠ none ∧ relay.s2c.returned ≠ none then
        some { relay with dropped := true }
      else none

/-- The bridge as a machine. -/
def machine (copy : Copy State) : Machine (Relay State) Action := ⟨step copy⟩

/-- The streams are dropped only behind both directions. -/
structure Kept (relay : Relay State) : Prop where
  c2s : relay.c2s.Honest
  s2c : relay.s2c.Honest
  closed : relay.dropped = true → relay.c2s.Closed ∧ relay.s2c.Closed

variable {copy : Copy State} {relay next : Relay State}

theorem Kept.new : (new copy).Kept := ⟨.new, .new, nofun⟩

theorem Kept.step {action : Action} (documented : copy.Documented) (kept : relay.Kept)
    (stepped : relay.step copy action = some next) : next.Kept := by
  cases action with
  | c2s action =>
      obtain ⟨c2s, moved, rfl⟩ := Option.map_eq_some_iff.mp stepped
      exact ⟨kept.c2s.step documented moved, kept.s2c, fun dropped =>
        ⟨(kept.closed dropped).1.step moved, (kept.closed dropped).2⟩⟩
  | s2c action =>
      obtain ⟨s2c, moved, rfl⟩ := Option.map_eq_some_iff.mp stepped
      exact ⟨kept.c2s, kept.s2c.step documented moved, fun dropped =>
        ⟨(kept.closed dropped).1, (kept.closed dropped).2.step moved⟩⟩
  | join =>
      rw [Relay.step] at stepped
      split at stepped
      case isTrue both =>
          cases stepped
          exact ⟨kept.c2s, kept.s2c, fun _ => ⟨kept.c2s.closed both.1, kept.s2c.closed both.2⟩⟩
      case isFalse => cases stepped

/-- **Either side is shown the end only when each direction has ended or fails**: one of the two is
not enough, as the comment over `join!` has it. -/
theorem closed_of_dropped {actions : List Action} {final : Relay State}
    (documented : copy.Documented) (reached : (machine copy).run (new copy) actions = some final)
    (dropped : final.dropped = true) : final.c2s.Closed ∧ final.s2c.Closed := by
  have kept : final.Kept :=
    Machine.run_invariant (fun before enabled => before.step documented enabled) .new reached
  exact kept.closed dropped

/-! ### An application that waits for the end -/

/-- The application ends its direction only behind the end of the other, and its direction does not
fail. -/
def WaitsForEnd (relay : Relay State) : Action → Prop
  | .c2s .ends => relay.dropped = true
  | .c2s .fails => False
  | _ => True

instance (relay : Relay State) (action : Action) : Decidable (relay.WaitsForEnd action) :=
  match action with
  | .c2s .ends => inferInstanceAs (Decidable (_ = _))
  | .c2s .fails => inferInstanceAs (Decidable False)
  | .c2s (.arrive _) | .c2s (.poll _) | .s2c _ | .join => inferInstanceAs (Decidable True)

/-- The application has not ended its direction, and so sees no end. -/
structure Waiting (relay : Relay State) : Prop extends Kept relay where
  open_ : ¬ relay.c2s.Closed

theorem Waiting.undropped (waiting : relay.Waiting) : relay.dropped = false :=
  Bool.eq_false_iff.mpr fun dropped => waiting.open_ (waiting.closed dropped).1

theorem Waiting.step {action : Action} (documented : copy.Documented) (waiting : relay.Waiting)
    (waits : relay.WaitsForEnd action) (stepped : relay.step copy action = some next) :
    next.Waiting := by
  refine ⟨waiting.toKept.step documented stepped, ?_⟩
  cases action with
  | c2s action =>
      obtain ⟨c2s, moved, rfl⟩ := Option.map_eq_some_iff.mp stepped
      rcases Direction.step_cases moved with ⟨rfl, -⟩ | ⟨rfl, -⟩ | ⟨-, -, ended, failed, -⟩
      · exact absurd waits (Bool.eq_false_iff.mp waiting.undropped)
      · exact waits.elim
      · exact fun closed => waiting.open_ (closed.imp ended.symm.trans failed.symm.trans)
  | s2c action =>
      obtain ⟨s2c, -, rfl⟩ := Option.map_eq_some_iff.mp stepped
      exact waiting.open_
  | join =>
      rw [Relay.step] at stepped
      split at stepped
      · cases stepped
        exact waiting.open_
      · cases stepped

/-- **A half-close does not come through**: an application that ends its direction only behind the
end of the client's is shown no end, in whatever the client does. -/
theorem half_close_waits {actions : List Action} {final : Relay State}
    (documented : copy.Documented)
    (waits : (machine copy).Meets WaitsForEnd (new copy) actions)
    (reached : (machine copy).run (new copy) actions = some final) :
    final.dropped = false ∧ final.c2s.ended = false := by
  have waiting : final.Waiting :=
    Machine.run_invariant_of_meets (fun before ok enabled => before.step documented ok enabled)
      ⟨.new, fun closed => closed.elim nofun nofun⟩ waits reached
  exact ⟨waiting.undropped, Bool.eq_false_iff.mpr fun ended => waiting.open_ (.inl ended)⟩

/-- A copy without a buffer: a poll passes on what the writer has room for, and returns when nothing
is left of a reader that has ended. -/
def sampleCopy : Copy Unit :=
  ⟨(), fun ends state pipe =>
    let rest := pipe.waiting.drop ends.room
    if ends.failed then (some .err, state, pipe)
    else (if ends.ended && rest.isEmpty then some .ok else none, state,
      ⟨rest, pipe.taken ++ pipe.waiting.take ends.room⟩)⟩

theorem sampleCopy_documented : sampleCopy.Documented where
  ok {ends state pipe} := by
    cases failed : ends.failed <;> cases ended : ends.ended <;> simp [sampleCopy, failed, ended]
  err {ends state pipe} := by
    cases failed : ends.failed <;> simp [sampleCopy, failed]

/-- A client that sends two bytes and ends its direction, the copy of which returns. -/
def sampleHalfClose : List Action :=
  [.s2c (.arrive [1, 2]), .s2c (.poll 1), .s2c .ends, .c2s (.poll 8), .s2c (.poll 8)]

theorem half_close_waits_sample :
    ∃ final, (machine sampleCopy).run (new sampleCopy) sampleHalfClose = some final
      ∧ final.s2c.returned = some .ok ∧ final.s2c.pipe.taken = [1, 2] ∧ final.dropped = false := by
  have ran : ((machine sampleCopy).run (new sampleCopy) sampleHalfClose).map (fun final =>
      (final.s2c.returned, final.s2c.pipe.taken)) = some (some .ok, [1, 2]) := by decide
  obtain ⟨final, reached, same⟩ := Option.map_eq_some_iff.mp ran
  obtain ⟨returned, taken⟩ := Prod.mk.inj same
  exact ⟨final, reached, returned, taken,
    (half_close_waits sampleCopy_documented (by decide) reached).1⟩

end Relay

end RsTun.Netstack
