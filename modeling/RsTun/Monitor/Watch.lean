/-
**The interface monitor at work.**

The task scans the interfaces when netlink tells of a change, at most once in a second, and every
five seconds in any case. It compares each scan with the last one that it found a difference in, and
calls the registered callbacks with the differences. The interfaces, the messages and the callers of
`register` and `unregister` go their own ways.

* `tells_diffEvents` — whoever applies the events of a comparison knows the new scan.
* **`InterfaceMonitor.mirrors`** — a callback that applies the events it is called with keeps a copy
  of the last scan, and one that was unregistered is not called again.
* **`InterfaceMonitor.prompt`** — if the task is not held up, a change that netlink tells of is
  scanned within a second, and every other one within five.
* **`InterfaceMonitor.spaced`** — the scans that messages lead to are a second apart.
-/

import RsTun.Library.Machine
import RsTun.Monitor.DiffEvents

namespace RsTun.Monitor

open Library Library.Keyed

variable {target : Target}

/-! ### What a callback can know -/

/-- A scan: every interface has one entry. -/
structure Scan (target : Target) where
  events : List (InterfaceEvent target)
  unique : (events.map (·.name)).Nodup

/-- What is known of the interfaces, by name. -/
abbrev Mirror (target : Target) := String → Option (InterfaceEvent target)

/-- An event replaces what was known of its interface. -/
def Mirror.apply (mirror : Mirror target) (event : InterfaceEvent target) : Mirror target :=
  Function.update mirror event.name (some event)

/-- The events one after the other. -/
def Mirror.applyAll (mirror : Mirror target) (events : List (InterfaceEvent target)) :
    Mirror target :=
  events.foldl Mirror.apply mirror

/-- The data that events tell of: all but the index. -/
def Alike (known event : InterfaceEvent target) : Prop :=
  ¬ ListedApart known event ∧ known.androidVpnEnabled = event.androidVpnEnabled

/-- **What is known is the scan**: the data of each interface, and that others are not up. -/
structure Tells (mirror : Mirror target) (scan : List (InterfaceEvent target)) : Prop where
  present : ∀ event ∈ scan, ∃ known, mirror event.name = some known ∧ Alike known event
  absent : ∀ {name : String} {known : InterfaceEvent target}, name ∉ scan.map (·.name) →
    mirror name = some known → known.up = false

section Mirror

variable {mirror : Mirror target} {old new events : List (InterfaceEvent target)}

theorem alike_refl (event : InterfaceEvent target) : Alike event event :=
  ⟨by simp [ListedApart], rfl⟩

theorem Alike.trans {first second third : InterfaceEvent target} (alike : Alike first second)
    (alike' : Alike second third) : Alike first third := by
  obtain ⟨listed, flag⟩ := alike
  obtain ⟨listed', flag'⟩ := alike'
  simp only [ListedApart, not_or, not_not] at listed listed'
  refine ⟨?_, flag.trans flag'⟩
  simp only [ListedApart, not_or, not_not]
  exact ⟨listed.1.trans listed'.1, listed.2.1.trans listed'.2.1, listed.2.2.trans listed'.2.2⟩

/-- What is known of an interface behind some events is the last one of it, if there is one. -/
theorem applyAll_eq (name : String) : mirror.applyAll events name
    = ((events.filter (·.name = name)).getLast?).or (mirror name) := by
  induction events generalizing mirror with
  | nil => rfl
  | cons event rest ih =>
      rw [Mirror.applyAll, List.foldl_cons, ← Mirror.applyAll, ih, Mirror.apply, List.filter_cons]
      by_cases here : event.name = name
      · rw [if_pos (decide_eq_true here), here, Function.update_self]
        cases later : rest.filter (·.name = name) with
        | nil => rfl
        | cons first others =>
            rw [List.getLast?_cons_cons]
            cases last : (first :: others).getLast? with
            | none => cases List.getLast?_eq_none_iff.mp last
            | some event' => rfl
      · rw [if_neg (by simpa using here), Function.update_of_ne (Ne.symm here)]

/-- The events of a comparison that are about an interface of the new scan. -/
theorem filter_diffEvents_new (unique : (new.map (·.name)).Nodup) {event : InterfaceEvent target}
    (member : event ∈ new) :
    (diffEvents old new).filter (·.name = event.name) = pushes old event := by
  have gone : ((old.filter fun event => event.name ∉ new.map (·.name)).map (·.removed)).filter
      (·.name = event.name) = [] := by
    refine List.filter_eq_nil_iff.mpr fun other listed same => ?_
    obtain ⟨before, kept, rfl⟩ := List.mem_map.mp listed
    have missing := of_decide_eq_true (List.mem_filter.mp kept).2
    have named : before.name = event.name := of_decide_eq_true same
    exact missing (named ▸ List.mem_map_of_mem member)
  rw [diffEvents, List.filter_append, filter_flatMap_key unique (tagged_pushes old new) member,
    gone, List.append_nil]

/-- Those about an interface that is not in the new scan tell that it is not up. -/
theorem filter_diffEvents_gone {name : String} (absent : name ∉ new.map (·.name)) :
    (∀ event ∈ (diffEvents old new).filter (·.name = name), event.up = false)
      ∧ (name ∈ old.map (·.name) → (diffEvents old new).filter (·.name = name) ≠ []) := by
  have none : (new.flatMap (pushes old)).filter (·.name = name) = [] := by
    refine List.filter_eq_nil_iff.mpr fun event listed same => ?_
    obtain ⟨source, member, pushed⟩ := List.mem_flatMap.mp listed
    have named : event.name = source.name := tagged_pushes old new source member event pushed
    have here : event.name = name := of_decide_eq_true same
    exact absent (here ▸ named ▸ List.mem_map_of_mem member)
  rw [diffEvents, List.filter_append, none, List.nil_append]
  constructor
  · intro event listed
    obtain ⟨before, -, rfl⟩ := List.mem_map.mp (List.mem_filter.mp listed).1
    rfl
  · intro known empty
    obtain ⟨before, member, rfl⟩ := List.mem_map.mp known
    refine absurd rfl (?_ : ¬ before.removed.name = before.name)
    have listed : before.removed
        ∈ (old.filter fun event => event.name ∉ new.map (·.name)).map (·.removed) :=
      List.mem_map_of_mem (List.mem_filter.mpr ⟨member, decide_eq_true absent⟩)
    exact fun same => List.filter_eq_nil_iff.mp empty _ listed (decide_eq_true same)

/-- **The events of a comparison bring the new scan**: applied to what is known of the old one they
tell the new one. -/
theorem tells_diffEvents (unique : (old.map (·.name)).Nodup) (unique' : (new.map (·.name)).Nodup)
    (tells : Tells mirror old) : Tells (mirror.applyAll (diffEvents old new)) new := by
  constructor
  · intro event member
    rw [applyAll_eq, filter_diffEvents_new unique' member]
    by_cases missing : Missing old event
    · rw [pushes_of_missing missing, due, if_pos (.inl missing)]
      exact ⟨event, rfl, alike_refl event⟩
    · obtain ⟨before, there, named⟩ := List.mem_map.mp (not_not.mp missing)
      rw [pushes_eq unique there named]
      by_cases alike : Alike before event
      · obtain ⟨known, here, alike'⟩ := tells.present before there
        rw [if_neg alike.1, if_neg (not_not.mpr alike.2)]
        exact ⟨known, named ▸ here, alike'.trans alike⟩
      · refine ⟨event, ?_, alike_refl event⟩
        by_cases apart : ListedApart before event
        · rw [if_pos apart]
          split <;> rfl
        · have flag : before.androidVpnEnabled ≠ event.androidVpnEnabled := fun same =>
            alike ⟨apart, same⟩
          rw [if_neg apart, if_pos flag]
          rfl
  · intro name known absent here
    obtain ⟨down, some⟩ := @filter_diffEvents_gone target old new name absent
    rw [applyAll_eq] at here
    cases last : ((diffEvents old new).filter (·.name = name)).getLast? with
    | some event =>
        rw [last] at here
        cases here
        exact down _ (List.mem_of_getLast? last)
    | none =>
        rw [last] at here
        have empty := List.getLast?_eq_none_iff.mp last
        exact tells.absent (fun known => some known empty) here

end Mirror

/-! ### The task and its callbacks -/

/-- A second, in milliseconds: the least time between two scans that messages lead to. -/
def debounce : Nat := 1000

/-- The period of `poll`. -/
def pollPeriod : Nat := 5000

/-- What made the task scan. -/
inductive Trigger where
  | poll
  | message
  | debounce
  deriving DecidableEq

/-- What the task is doing: it awaits the next trigger, or is about to call the callbacks. -/
inductive Phase (target : Target) where
  | waiting
  | notifying (changed : List (InterfaceEvent target)) (trigger : Trigger)

/-- Nothing is found that is not told. -/
def Phase.isWaiting : Phase target → Bool
  | .waiting => true
  | .notifying _ _ => false

/-- The interfaces, the messages that netlink has for the task, the callbacks by their ids, and the
variables of `monitor_task`. `calls` records the calls, `scans` when messages led to a scan, newest
first, `toldAt` and `silentAt` the first change behind the last scan, told of or not. -/
structure InterfaceMonitor (target : Target) where
  interfaces : Scan target
  clock : Nat
  message : Bool
  callbacks : List Nat
  nextId : Nat
  lastEvents : Scan target
  pending : Bool
  nextEmit : Nat
  nextPoll : Nat
  phase : Phase target
  calls : List (Nat × InterfaceEvent target)
  scans : List Nat
  toldAt : Option Nat
  silentAt : Option Nat

namespace InterfaceMonitor

variable (state : InterfaceMonitor target)

/-- The task behind its first scan, with the callback that started it. -/
def start (interfaces : Scan target) (clock : Nat) : InterfaceMonitor target where
  interfaces := interfaces
  clock := clock
  message := false
  callbacks := [0]
  nextId := 1
  lastEvents := interfaces
  pending := false
  nextEmit := clock
  nextPoll := clock
  phase := .waiting
  calls := []
  scans := []
  toldAt := none
  silentAt := none

/-- Behind `rescan_and_notify`. -/
def finish (trigger : Trigger) : InterfaceMonitor target :=
  { state with
    phase := .waiting
    pending := false
    nextEmit := if trigger = Trigger.debounce then state.clock + debounce else state.nextEmit }

/-- `rescan_and_notify` up to the lock: without a difference it returns. -/
def rescan (trigger : Trigger) : InterfaceMonitor target :=
  let seen := { state with
    toldAt := none
    silentAt := none
    scans := if trigger = Trigger.poll then state.scans else state.clock :: state.scans }
  match diffEvents state.lastEvents.events state.interfaces.events with
  | [] => seen.finish trigger
  | changed => { seen with lastEvents := state.interfaces, phase := .notifying changed trigger }

/-- What can happen. -/
inductive Action (target : Target) where
  /-- The interfaces change, and netlink tells of it or does not. -/
  | change (interfaces : Scan target) (told : Bool)
  | elapse (duration : Nat)
  | register
  | unregister (id : Nat)
  /-- `poll.tick()` is ready. -/
  | tick
  /-- `netlink.wait_events()` has read the messages. -/
  | wake
  /-- `sleep_until(next_emit)` is ready. -/
  | emit
  /-- The task has the lock, and calls the callbacks. -/
  | notify

/-- One step. -/
def step : Action target → Option (InterfaceMonitor target)
  | .change interfaces told =>
      some { state with
        interfaces
        message := state.message || told
        toldAt := if told then state.toldAt.or (some state.clock) else state.toldAt
        silentAt := if told then state.silentAt else state.silentAt.or (some state.clock) }
  | .elapse duration => some { state with clock := state.clock + duration }
  | .register => some { state with
      callbacks := state.callbacks ++ [state.nextId], nextId := state.nextId + 1 }
  | .unregister id => some { state with callbacks := state.callbacks.filter (· ≠ id) }
  | .tick =>
      match state.phase with
      | .waiting =>
          if state.nextPoll ≤ state.clock then
            some ({ state with nextPoll := state.nextPoll + pollPeriod }.rescan .poll)
          else none
      | .notifying _ _ => none
  | .wake =>
      match state.phase with
      | .waiting =>
          if state.message then
            if state.nextEmit ≤ state.clock then
              some ({ state with
                message := false, nextEmit := state.clock + debounce }.rescan .message)
            else some { state with message := false, pending := true }
          else none
      | .notifying _ _ => none
  | .emit =>
      match state.phase with
      | .waiting =>
          if state.pending ∧ state.nextEmit ≤ state.clock then some (state.rescan .debounce)
          else none
      | .notifying _ _ => none
  | .notify =>
      match state.phase with
      | .waiting => none
      | .notifying changed trigger =>
          some ({ state with
            calls := state.calls
              ++ changed.flatMap fun event => state.callbacks.map fun id => (id, event)
            }.finish trigger)

/-- The monitor as a machine. -/
def machine : Machine (InterfaceMonitor target) (Action target) where
  step state := state.step

variable {state} {next : InterfaceMonitor target} {action : Action target}

/-! ### What each step does -/

/-- **What a scan does**: it is noted, and either finds no difference, or its differences are to be
told and it is the last one. -/
theorem rescan_cases (trigger : Trigger) :
    (diffEvents state.lastEvents.events state.interfaces.events = []
        ∧ state.rescan trigger = { state with
          toldAt := none
          silentAt := none
          scans := if trigger = Trigger.poll then state.scans else state.clock :: state.scans
          phase := .waiting
          pending := false
          nextEmit := if trigger = Trigger.debounce then state.clock + debounce
            else state.nextEmit })
      ∨ state.rescan trigger = { state with
          toldAt := none
          silentAt := none
          scans := if trigger = Trigger.poll then state.scans else state.clock :: state.scans
          lastEvents := state.interfaces
          phase := .notifying (diffEvents state.lastEvents.events state.interfaces.events)
            trigger } := by
  unfold rescan
  cases found : diffEvents state.lastEvents.events state.interfaces.events with
  | nil => exact .inl ⟨rfl, rfl⟩
  | cons event rest => exact .inr rfl

/-- **The steps of the task**: what it scans for, a message that has to wait, or the calls. -/
theorem step_cases (stepped : state.step action = some next) :
    (∃ interfaces told, action = .change interfaces told ∧ next = { state with
        interfaces
        message := state.message || told
        toldAt := if told then state.toldAt.or (some state.clock) else state.toldAt
        silentAt := if told then state.silentAt else state.silentAt.or (some state.clock) })
      ∨ (∃ duration, action = .elapse duration
        ∧ next = { state with clock := state.clock + duration })
      ∨ (action = .register ∧ next = { state with
        callbacks := state.callbacks ++ [state.nextId], nextId := state.nextId + 1 })
      ∨ (∃ id, action = .unregister id
        ∧ next = { state with callbacks := state.callbacks.filter (· ≠ id) })
      ∨ (action = .tick ∧ state.phase = .waiting ∧ state.nextPoll ≤ state.clock
        ∧ next = { state with nextPoll := state.nextPoll + pollPeriod }.rescan .poll)
      ∨ (action = .wake ∧ state.phase = .waiting ∧ state.message = true
        ∧ (state.nextEmit ≤ state.clock ∧ next = { state with
            message := false, nextEmit := state.clock + debounce }.rescan .message
          ∨ state.clock < state.nextEmit
            ∧ next = { state with message := false, pending := true }))
      ∨ (action = .emit ∧ state.phase = .waiting ∧ state.pending = true
        ∧ state.nextEmit ≤ state.clock ∧ next = state.rescan .debounce)
      ∨ (action = .notify ∧ ∃ changed trigger, state.phase = .notifying changed trigger
        ∧ next = { state with
          calls := state.calls
            ++ changed.flatMap fun event => state.callbacks.map fun id => (id, event)
          phase := .waiting
          pending := false
          nextEmit := if trigger = Trigger.debounce then state.clock + debounce
            else state.nextEmit }) := by
  cases action with
  | change interfaces told =>
      cases stepped
      exact .inl ⟨interfaces, told, rfl, rfl⟩
  | elapse duration =>
      cases stepped
      exact .inr (.inl ⟨duration, rfl, rfl⟩)
  | register =>
      cases stepped
      exact .inr (.inr (.inl ⟨rfl, rfl⟩))
  | unregister id =>
      cases stepped
      exact .inr (.inr (.inr (.inl ⟨id, rfl, rfl⟩)))
  | tick =>
      rw [step] at stepped
      split at stepped
      · split at stepped
        · cases stepped
          exact .inr (.inr (.inr (.inr (.inl ⟨rfl, ‹_›, ‹_›, rfl⟩))))
        · cases stepped
      · cases stepped
  | wake =>
      rw [step] at stepped
      split at stepped
      · split at stepped
        · split at stepped
          · cases stepped
            exact .inr (.inr (.inr (.inr (.inr (.inl ⟨rfl, ‹_›, ‹_›, .inl ⟨‹_›, rfl⟩⟩)))))
          · rename_i early
            cases stepped
            exact .inr (.inr (.inr (.inr (.inr (.inl
              ⟨rfl, ‹_›, ‹_›, .inr ⟨Nat.lt_of_not_le early, rfl⟩⟩)))))
        · cases stepped
      · cases stepped
  | emit =>
      rw [step] at stepped
      split at stepped
      · split at stepped
        · rename_i ready
          cases stepped
          exact .inr (.inr (.inr (.inr (.inr (.inr (.inl ⟨rfl, ‹_›, ready.1, ready.2, rfl⟩))))))
        · cases stepped
      · cases stepped
  | notify =>
      rw [step] at stepped
      split at stepped
      · cases stepped
      · cases stepped
        exact .inr (.inr (.inr (.inr (.inr (.inr (.inr ⟨rfl, _, _, ‹_›, rfl⟩))))))

/-! ### What the callbacks hear -/

/-- The events that a callback is called with, in turn. -/
def heard (id : Nat) (calls : List (Nat × InterfaceEvent target)) : List (InterfaceEvent target) :=
  (calls.filter (·.1 = id)).map (·.2)

/-- The ids are given once. -/
structure Given : Prop where
  once : state.callbacks.Nodup
  below : ∀ id ∈ state.callbacks, id < state.nextId

/-- The events that are found and not told yet. -/
def untold : List (InterfaceEvent target) :=
  match state.phase with
  | .waiting => []
  | .notifying changed _ => changed

/-- A callback that has heard these events knows, with those that are not told yet, the last scan.
-/
def Knows (mirror : Mirror target) (id : Nat) (before : List (Nat × InterfaceEvent target)) :
    Prop :=
  ∃ calls, state.calls = before ++ calls
    ∧ Tells (mirror.applyAll (heard id calls ++ state.untold)) state.lastEvents.events

theorem heard_append (id : Nat) (first second : List (Nat × InterfaceEvent target)) :
    heard id (first ++ second) = heard id first ++ heard id second := by
  rw [heard, List.filter_append, List.map_append]
  rfl

/-- Every callback is called once with each event. -/
theorem heard_flatMap {callbacks : List Nat} (once : callbacks.Nodup) (id : Nat)
    (changed : List (InterfaceEvent target)) :
    heard id (changed.flatMap fun event => callbacks.map fun id => (id, event))
      = if id ∈ callbacks then changed else [] := by
  induction changed with
  | nil => simp [heard]
  | cons event rest ih =>
      have first : heard id (callbacks.map fun id => (id, event))
          = if id ∈ callbacks then [event] else [] := by
        have called : (callbacks.map fun id => (id, event)).filter (·.1 = id)
            = (callbacks.filter (· = id)).map fun id => (id, event) := List.filter_map
        rw [heard, called, List.filter_eq]
        split
        · rename_i registered
          rw [List.count_eq_one_of_mem once registered]
          rfl
        · rename_i unknown
          rw [List.count_eq_zero.mpr unknown]
          rfl
      rw [List.flatMap_cons, heard_append, ih, first]
      split <;> rfl

theorem applyAll_append {mirror : Mirror target} {first second : List (InterfaceEvent target)} :
    mirror.applyAll (first ++ second) = (mirror.applyAll first).applyAll second :=
  List.foldl_append

section Scans

variable (trigger : Trigger)

@[simp] theorem rescan_callbacks : (state.rescan trigger).callbacks = state.callbacks := by
  rcases @rescan_cases target state trigger with ⟨-, same⟩ | same <;> rw [same]

@[simp] theorem rescan_nextId : (state.rescan trigger).nextId = state.nextId := by
  rcases @rescan_cases target state trigger with ⟨-, same⟩ | same <;> rw [same]

@[simp] theorem rescan_calls : (state.rescan trigger).calls = state.calls := by
  rcases @rescan_cases target state trigger with ⟨-, same⟩ | same <;> rw [same]

end Scans

variable {mirror : Mirror target} {id : Nat} {before : List (Nat × InterfaceEvent target)}

/-- A scan leaves what is known, with what is to be told, the last scan. -/
theorem Knows.rescan (trigger : Trigger) (waiting : state.phase = .waiting)
    (knows : state.Knows mirror id before) : (state.rescan trigger).Knows mirror id before := by
  obtain ⟨calls, called, tells⟩ := knows
  have nothing : state.untold = [] := by
    rw [untold, waiting]
  rw [nothing, List.append_nil] at tells
  refine ⟨calls, (rescan_calls trigger).trans called, ?_⟩
  rcases @rescan_cases target state trigger with ⟨-, same⟩ | same
  · rw [same, untold, List.append_nil]
    exact tells
  · rw [same, untold, applyAll_append]
    exact tells_diffEvents state.lastEvents.unique state.interfaces.unique tells

/-- **A step keeps the ids apart.** -/
theorem Given.of_step (given : state.Given) (stepped : state.step action = some next) :
    next.Given := by
  obtain ⟨once, below⟩ := given
  rcases step_cases stepped with ⟨_, _, -, rfl⟩ | ⟨_, -, rfl⟩ | ⟨-, rfl⟩ | ⟨id, -, rfl⟩
      | ⟨-, -, -, rfl⟩ | ⟨-, -, -, ⟨-, rfl⟩ | ⟨-, rfl⟩⟩ | ⟨-, -, -, -, rfl⟩ | ⟨-, _, _, -, rfl⟩
  · exact ⟨once, below⟩
  · exact ⟨once, below⟩
  · refine ⟨List.nodup_append.mpr
      ⟨once, List.nodup_singleton _, fun old known new fresh same => ?_⟩, fun id known => ?_⟩
    · have earlier := below old known
      rw [same, List.mem_singleton.mp fresh] at earlier
      exact Nat.lt_irrefl _ earlier
    · rcases List.mem_append.mp known with known | fresh
      · exact Nat.lt_succ_of_lt (below id known)
      · rw [List.mem_singleton.mp fresh]
        exact Nat.lt_succ_self _
  · exact ⟨once.filter _, fun other known => below other (List.mem_filter.mp known).1⟩
  · exact ⟨by rwa [rescan_callbacks], by rwa [rescan_callbacks, rescan_nextId]⟩
  · exact ⟨by rwa [rescan_callbacks], by rwa [rescan_callbacks, rescan_nextId]⟩
  · exact ⟨once, below⟩
  · exact ⟨by rwa [rescan_callbacks], by rwa [rescan_callbacks, rescan_nextId]⟩
  · exact ⟨once, below⟩

/-- **A step keeps a registered callback in the know**, unless it unregisters it. -/
theorem Knows.of_step (given : state.Given) (registered : id ∈ state.callbacks)
    (knows : state.Knows mirror id before) (stays : action ≠ .unregister id)
    (stepped : state.step action = some next) :
    id ∈ next.callbacks ∧ next.Knows mirror id before := by
  rcases step_cases stepped with ⟨_, _, -, rfl⟩ | ⟨_, -, rfl⟩ | ⟨-, rfl⟩ | ⟨other, rfl, rfl⟩
      | ⟨-, waiting, -, rfl⟩ | ⟨-, waiting, -, ⟨-, rfl⟩ | ⟨-, rfl⟩⟩ | ⟨-, waiting, -, -, rfl⟩
      | ⟨-, changed, trigger, notifying, rfl⟩
  · exact ⟨registered, knows⟩
  · exact ⟨registered, knows⟩
  · exact ⟨List.mem_append_left _ registered, knows⟩
  · refine ⟨List.mem_filter.mpr ⟨registered, decide_eq_true fun same => ?_⟩, knows⟩
    exact stays (congrArg Action.unregister same.symm)
  · exact ⟨by rwa [rescan_callbacks], Knows.rescan .poll waiting knows⟩
  · exact ⟨by rwa [rescan_callbacks], Knows.rescan .message waiting knows⟩
  · exact ⟨registered, knows⟩
  · exact ⟨by rwa [rescan_callbacks], Knows.rescan .debounce waiting knows⟩
  · obtain ⟨calls, called, tells⟩ := knows
    have told : state.untold = changed := by
      rw [untold, notifying]
    rw [told] at tells
    refine ⟨registered, calls ++ changed.flatMap fun event => state.callbacks.map fun id =>
      (id, event), ?_, ?_⟩
    · dsimp only
      rw [called, List.append_assoc]
    · rw [heard_append, heard_flatMap given.once, if_pos registered, untold, List.append_nil]
      exact tells

/-- A callback that is not registered any more has heard nothing. -/
def Unheard (id : Nat) (before : List (Nat × InterfaceEvent target)) : Prop :=
  id ∉ state.callbacks ∧ id < state.nextId
    ∧ ∃ calls, state.calls = before ++ calls ∧ heard id calls = []

/-- **A step calls no callback that is not registered any more.** -/
theorem Unheard.of_step (given : state.Given) (unheard : state.Unheard id before)
    (stepped : state.step action = some next) : next.Unheard id before := by
  obtain ⟨gone, earlier, calls, called, none⟩ := unheard
  rcases step_cases stepped with ⟨_, _, -, rfl⟩ | ⟨_, -, rfl⟩ | ⟨-, rfl⟩ | ⟨other, rfl, rfl⟩
      | ⟨-, -, -, rfl⟩ | ⟨-, -, -, ⟨-, rfl⟩ | ⟨-, rfl⟩⟩ | ⟨-, -, -, -, rfl⟩
      | ⟨-, changed, trigger, -, rfl⟩
  · exact ⟨gone, earlier, calls, called, none⟩
  · exact ⟨gone, earlier, calls, called, none⟩
  · refine ⟨fun known => ?_, Nat.lt_succ_of_lt earlier, calls, called, none⟩
    rcases List.mem_append.mp known with known | fresh
    · exact gone known
    · rw [List.mem_singleton.mp fresh] at earlier
      exact Nat.lt_irrefl _ earlier
  · exact ⟨fun known => gone (List.mem_filter.mp known).1, earlier, calls, called, none⟩
  · exact ⟨by rwa [rescan_callbacks], by rwa [rescan_nextId], calls, by rwa [rescan_calls], none⟩
  · exact ⟨by rwa [rescan_callbacks], by rwa [rescan_nextId], calls, by rwa [rescan_calls], none⟩
  · exact ⟨gone, earlier, calls, called, none⟩
  · exact ⟨by rwa [rescan_callbacks], by rwa [rescan_nextId], calls, by rwa [rescan_calls], none⟩
  · refine ⟨gone, earlier, calls ++ changed.flatMap fun event => state.callbacks.map fun id =>
      (id, event), ?_, ?_⟩
    · dsimp only
      rw [called, List.append_assoc]
    · rw [heard_append, heard_flatMap given.once, if_neg gone, none]
      rfl

/-- Calls are not taken back. -/
theorem extends_of_step (known : ∃ calls, state.calls = before ++ calls)
    (stepped : state.step action = some next) : ∃ calls, next.calls = before ++ calls := by
  rcases step_cases stepped with ⟨_, _, -, rfl⟩ | ⟨_, -, rfl⟩ | ⟨-, rfl⟩ | ⟨_, -, rfl⟩
      | ⟨-, -, -, rfl⟩ | ⟨-, -, -, ⟨-, rfl⟩ | ⟨-, rfl⟩⟩ | ⟨-, -, -, -, rfl⟩ | ⟨-, _, _, -, rfl⟩
  · exact known
  · exact known
  · exact known
  · exact known
  · exact known.imp fun _ called => (rescan_calls _).trans called
  · exact known.imp fun _ called => (rescan_calls _).trans called
  · exact known
  · exact known.imp fun _ called => (rescan_calls _).trans called
  · obtain ⟨calls, called⟩ := known
    exact ⟨calls ++ _, (congrArg (· ++ _) called).trans (List.append_assoc _ _ _)⟩

theorem start_given (interfaces : Scan target) (clock : Nat) : (start interfaces clock).Given :=
  ⟨List.nodup_singleton 0, fun _ known => List.mem_singleton.mp known ▸ Nat.one_pos⟩

/-- **Callbacks mirror the interfaces.** From a state in which the task waits, to a later one, a
callback that stays registered keeps what it knows up to the last scan, if it applies what it hears;
one that is not registered any more hears nothing. -/
theorem mirrors (target : Target) (interfaces : Scan target) (clock : Nat)
    (actions later : List (Action target)) (middle final : InterfaceMonitor target)
    (reached : machine.run (start interfaces clock) actions = some middle)
    (reached' : machine.run middle later = some final)
    (waiting : middle.phase.isWaiting = true) (waiting' : final.phase.isWaiting = true) (id : Nat) :
    ∃ calls, final.calls = middle.calls ++ calls
      ∧ (∀ mirror, id ∈ middle.callbacks → .unregister id ∉ later →
        Tells mirror middle.lastEvents.events →
          Tells (mirror.applyAll (heard id calls)) final.lastEvents.events)
      ∧ (id ∉ middle.callbacks → id < middle.nextId → heard id calls = []) := by
  have given := @Machine.run_invariant _ _ machine (fun state => state.Given)
    (fun given stepped => Given.of_step given stepped) actions (start interfaces clock) middle
    (start_given interfaces clock) reached
  have idle : ∀ {state : InterfaceMonitor target}, state.phase.isWaiting = true →
      state.untold = [] := by
    intro state waiting
    cases point : state.phase with
    | waiting => rw [untold, point]
    | notifying changed trigger =>
        rw [point] at waiting
        cases waiting
  have knows : ∀ mirror, id ∈ middle.callbacks → .unregister id ∉ later →
      Tells mirror middle.lastEvents.events → final.Knows mirror id middle.calls := by
    intro mirror registered stays tells
    have first : middle.Knows mirror id middle.calls :=
      ⟨[], (List.append_nil _).symm, by rwa [idle waiting]⟩
    have last := @Machine.run_invariant_of_meets _ _ machine
      (fun _ action => action ≠ .unregister id)
      (fun state => state.Given ∧ id ∈ state.callbacks ∧ state.Knows mirror id middle.calls)
      (fun known stays stepped => ⟨Given.of_step known.1 stepped,
        Knows.of_step known.1 known.2.1 known.2.2 stays stepped⟩)
      later middle final ⟨given, registered, first⟩
      (Machine.meets_of_forall fun action listed same => stays (same ▸ listed)) reached'
    exact last.2.2
  have unheard : id ∉ middle.callbacks → id < middle.nextId → final.Unheard id middle.calls := by
    intro gone earlier
    have last := @Machine.run_invariant _ _ machine
      (fun state => state.Given ∧ state.Unheard id middle.calls)
      (fun known stepped => ⟨Given.of_step known.1 stepped,
        Unheard.of_step known.1 known.2 stepped⟩)
      later middle final ⟨given, gone, earlier, [], (List.append_nil _).symm, rfl⟩ reached'
    exact last.2
  have record : ∃ calls, final.calls = middle.calls ++ calls := by
    exact @Machine.run_invariant _ _ machine
      (fun state => ∃ calls, state.calls = middle.calls ++ calls)
      (fun known stepped => extends_of_step known stepped) later middle final
      ⟨[], (List.append_nil _).symm⟩ reached'
  obtain ⟨calls, called⟩ := record
  refine ⟨calls, called, fun mirror registered stays tells => ?_, fun gone earlier => ?_⟩
  · obtain ⟨calls', called', tells'⟩ := knows mirror registered stays tells
    rw [idle waiting', List.append_nil] at tells'
    rwa [List.append_cancel_left (called.symm.trans called')]
  · obtain ⟨-, -, calls', called', none⟩ := unheard gone earlier
    rwa [List.append_cancel_left (called.symm.trans called')]

/-- The scan of a machine with one interface. -/
def oneInterface (addresses : List IpAddr) : Scan .linux :=
  ⟨[eth0 2 addresses], List.nodup_singleton _⟩

/-- An interface comes, a second callback is registered, and the interface gets an address and goes
within the same second. -/
def sampleChanges : List (Action .linux) :=
  [.tick, .change (oneInterface []) true, .wake, .notify, .register,
    .change (oneInterface [.v4 (.new 192 168 1 2)]) true, .wake, .change ⟨[], .nil⟩ true, .wake,
    .elapse 1000, .emit, .notify]

theorem mirrors_sample : ∃ final calls, machine.run (start ⟨[], .nil⟩ 0) sampleChanges = some final
    ∧ final.calls = calls
    ∧ Tells (Mirror.applyAll (fun _ => none) (heard 0 calls)) final.lastEvents.events := by
  have ran : ((machine.run (start ⟨[], .nil⟩ 0) sampleChanges).map fun final =>
      final.phase.isWaiting) = some true := by decide +kernel
  obtain ⟨final, reached, waiting⟩ := Option.map_eq_some_iff.mp ran
  obtain ⟨calls, called, tells, -⟩ := mirrors .linux ⟨[], .nil⟩ 0 [] sampleChanges _ final rfl
    reached rfl waiting 0
  refine ⟨final, calls, reached, called, tells (fun _ => none) (by decide) ?_ ?_⟩
  · simp [sampleChanges]
  · exact ⟨fun _ member => absurd member List.not_mem_nil, fun _ known => by cases known⟩

/-! ### How soon a change is scanned -/

/-- The task is not held up: time goes by only while it awaits something that is not ready. -/
def Timely : Action target → Prop
  | .elapse duration => state.phase.isWaiting = true ∧ state.message = false
      ∧ state.clock + duration ≤ state.nextPoll
      ∧ (state.pending = true → state.clock + duration ≤ state.nextEmit)
  | _ => True

instance (action : Action target) : Decidable (state.Timely action) :=
  match action with
  | .elapse _ => inferInstanceAs (Decidable (_ ∧ _))
  | .change _ _ | .register | .unregister _ | .tick | .wake | .emit | .notify =>
      inferInstanceAs (Decidable True)

/-- What carries it: the deadlines are near, and a change that was told of has a message or a
deadline to come. -/
structure Prompt : Prop where
  due : state.clock ≤ state.nextPoll
  soon : state.nextPoll ≤ state.clock + pollPeriod
  paced : state.nextEmit ≤ state.clock + debounce
  waits : state.pending = true → state.clock ≤ state.nextEmit
  told : ∀ since, state.toldAt = some since → state.message = true ∧ since = state.clock
    ∨ state.phase.isWaiting = true ∧ state.pending = true ∧ state.nextEmit ≤ since + debounce
  silent : ∀ since, state.silentAt = some since → state.nextPoll ≤ since + pollPeriod

/-- Behind a scan no change is left. -/
theorem Prompt.rescan {trigger : Trigger} (due : state.clock ≤ state.nextPoll)
    (soon : state.nextPoll ≤ state.clock + pollPeriod)
    (paced : state.nextEmit ≤ state.clock + debounce)
    (waits : state.pending = true → state.clock ≤ state.nextEmit) :
    (state.rescan trigger).Prompt := by
  rcases @rescan_cases target state trigger with ⟨-, same⟩ | same
  · rw [same]
    refine ⟨due, soon, ?_, fun pending => ?_, fun since left => ?_, fun since left => ?_⟩
    · dsimp only
      split
      · exact Nat.le_refl _
      · exact paced
    · cases pending
    · cases left
    · cases left
  · rw [same]
    refine ⟨due, soon, paced, waits, fun since left => ?_, fun since left => ?_⟩
    · cases left
    · cases left

/-- **A step that is not held up keeps the deadlines near.** -/
theorem Prompt.of_step (prompt : state.Prompt) (timely : state.Timely action)
    (stepped : state.step action = some next) : next.Prompt := by
  obtain ⟨due, soon, paced, waits, told, silent⟩ := prompt
  rcases step_cases stepped with ⟨interfaces, tells, -, rfl⟩ | ⟨duration, rfl, rfl⟩ | ⟨-, rfl⟩
      | ⟨_, -, rfl⟩ | ⟨-, waiting, late, rfl⟩ | ⟨-, waiting, message, ⟨late, rfl⟩ | ⟨early, rfl⟩⟩
      | ⟨-, waiting, -, late, rfl⟩ | ⟨-, changed, trigger, notifying, rfl⟩
  · refine ⟨due, soon, paced, waits, fun since left => ?_, fun since left => ?_⟩
    · cases tells with
      | false =>
          rw [Bool.or_false]
          exact told since left
      | true =>
          rw [Bool.or_true]
          cases first : state.toldAt with
          | none =>
              rw [first] at left
              cases left
              exact .inl ⟨rfl, rfl⟩
          | some earlier =>
              rw [first] at left
              cases left
              exact (told _ first).imp_left fun read => ⟨rfl, read.2⟩
    · cases tells with
      | true => exact silent since left
      | false =>
          cases first : state.silentAt with
          | none =>
              rw [first] at left
              cases left
              exact soon
          | some earlier =>
              rw [first] at left
              cases left
              exact silent _ first
  · obtain ⟨waiting, read, beforePoll, beforeEmit⟩ := timely
    have longer : state.clock ≤ state.clock + duration := Nat.le_add_right _ _
    refine ⟨beforePoll, Nat.le_trans soon (Nat.add_le_add_right longer _),
      Nat.le_trans paced (Nat.add_le_add_right longer _), beforeEmit,
      fun since left => (told since left).imp_left fun unread => ?_, silent⟩
    cases read.symm.trans unread.1
  · exact ⟨due, soon, paced, waits, told, silent⟩
  · exact ⟨due, soon, paced, waits, told, silent⟩
  · exact Prompt.rescan (Nat.le_trans due (Nat.le_add_right _ _)) (Nat.add_le_add_right late _)
      paced waits
  · exact Prompt.rescan due soon (Nat.le_refl _) fun _ => Nat.le_add_right _ _
  · refine ⟨due, soon, paced, fun _ => early.le, fun since left => .inr ⟨?_, rfl, ?_⟩, silent⟩
    · rw [waiting]
      rfl
    · rcases told since left with ⟨-, rfl⟩ | ⟨-, -, ahead⟩
      · exact paced
      · exact ahead
  · exact Prompt.rescan due soon paced waits
  · refine ⟨due, soon, ?_, fun pending => ?_, fun since left => .inl ?_, silent⟩
    · dsimp only
      split
      · exact Nat.le_refl _
      · exact paced
    · cases pending
    · rcases told since left with read | ⟨waiting, -, -⟩
      · exact read
      · rw [notifying] at waiting
        cases waiting

theorem start_prompt (interfaces : Scan target) (clock : Nat) :
    (start interfaces clock).Prompt where
  due := Nat.le_refl _
  soon := Nat.le_add_right _ _
  paced := Nat.le_add_right _ _
  waits _ := Nat.le_refl _
  told _ left := by cases left
  silent _ left := by cases left

/-- **Changes are scanned soon.** In a run in which the task is not held up, a change that no scan
has seen yet is at most a second old if netlink told of it, and at most five otherwise. -/
theorem prompt (target : Target) (interfaces : Scan target) (clock : Nat)
    (actions : List (Action target)) (final : InterfaceMonitor target)
    (timely : machine.Meets (fun state action => state.Timely action) (start interfaces clock)
      actions)
    (reached : machine.run (start interfaces clock) actions = some final) :
    (∀ since, final.toldAt = some since → final.clock ≤ since + debounce)
      ∧ ∀ since, final.silentAt = some since → final.clock ≤ since + pollPeriod := by
  have last := @Machine.run_invariant_of_meets _ _ machine (fun state action => state.Timely action)
    (fun state => state.Prompt) (fun prompt timely stepped => Prompt.of_step prompt timely stepped)
    actions (start interfaces clock) final (start_prompt interfaces clock) timely reached
  refine ⟨fun since left => ?_, fun since left => Nat.le_trans last.due (last.silent since left)⟩
  rcases last.told since left with ⟨-, now⟩ | ⟨-, pending, ahead⟩
  · rw [now]
    exact Nat.le_add_right _ _
  · exact Nat.le_trans (last.waits pending) ahead

/-- Two changes within a second, and one that netlink does not tell of. -/
def sampleTimely : List (Action .linux) :=
  [.tick, .change (oneInterface []) true, .wake, .notify, .elapse 300, .change ⟨[], .nil⟩ true,
    .wake, .elapse 700, .emit, .notify, .change (oneInterface []) false, .elapse 4000]

theorem prompt_sample : ∃ final, machine.run (start ⟨[], .nil⟩ 0) sampleTimely = some final
    ∧ ∀ since, final.silentAt = some since → final.clock ≤ since + pollPeriod := by
  have ran : (machine.run (start ⟨[], .nil⟩ 0) sampleTimely).isSome = true := by decide +kernel
  obtain ⟨final, reached⟩ := Option.isSome_iff_exists.mp ran
  exact ⟨final, reached,
    (prompt .linux ⟨[], .nil⟩ 0 sampleTimely final (by decide +kernel) reached).2⟩

/-! ### How often it scans -/

/-- The scan that the task is about to tell of was put off. -/
def Delayed : Prop := ∃ changed, state.phase = .notifying changed .debounce

/-- The scans are apart, and the next one is not before its time. -/
structure Spaced : Prop where
  apart : state.scans.Pairwise fun later earlier => earlier + debounce ≤ later
  past : ∀ scan ∈ state.scans, scan ≤ state.clock
  ahead : ¬ state.Delayed → ∀ scan ∈ state.scans, scan + debounce ≤ state.nextEmit

/-- A scan that is not before its time, and lets the next one wait. -/
theorem Spaced.rescan {trigger : Trigger}
    (apart : state.scans.Pairwise fun later earlier => earlier + debounce ≤ later)
    (past : ∀ scan ∈ state.scans, scan ≤ state.clock)
    (room : trigger ≠ .poll → ∀ scan ∈ state.scans, scan + debounce ≤ state.clock)
    (ahead : trigger = .poll → ∀ scan ∈ state.scans, scan + debounce ≤ state.nextEmit)
    (later : trigger = .message → state.clock + debounce ≤ state.nextEmit) :
    (state.rescan trigger).Spaced := by
  have noted : (if trigger = Trigger.poll then state.scans else state.clock :: state.scans).Pairwise
        (fun later earlier => earlier + debounce ≤ later)
      ∧ ∀ scan ∈ if trigger = Trigger.poll then state.scans else state.clock :: state.scans,
        scan ≤ state.clock := by
    split
    · exact ⟨apart, past⟩
    · rename_i told
      exact ⟨List.pairwise_cons.mpr ⟨room told, apart⟩,
        List.forall_mem_cons.mpr ⟨Nat.le_refl _, past⟩⟩
  have within : trigger ≠ .debounce →
      ∀ scan ∈ if trigger = Trigger.poll then state.scans else state.clock :: state.scans,
        scan + debounce ≤ state.nextEmit := by
    intro atOnce scan member
    cases trigger with
    | poll => exact ahead rfl scan member
    | message =>
        have known := noted.2 scan member
        have next := later rfl
        omega
    | debounce => exact absurd rfl atOnce
  rcases @rescan_cases target state trigger with ⟨-, same⟩ | same
  · rw [same]
    refine ⟨noted.1, noted.2, fun _ scan member => ?_⟩
    dsimp only at member ⊢
    split
    · exact Nat.add_le_add_right (noted.2 scan member) _
    · rename_i atOnce
      exact within atOnce scan member
  · rw [same]
    exact ⟨noted.1, noted.2, fun told => within fun delayed => told ⟨_, congrArg
      (Phase.notifying (diffEvents state.lastEvents.events state.interfaces.events)) delayed⟩⟩

/-- **A step keeps the scans apart.** -/
theorem Spaced.of_step (spaced : state.Spaced) (stepped : state.step action = some next) :
    next.Spaced := by
  obtain ⟨apart, past, ahead⟩ := spaced
  have atOnce (waiting : state.phase = .waiting) :
      ∀ scan ∈ state.scans, scan + debounce ≤ state.nextEmit := by
    refine ahead fun delayed => ?_
    obtain ⟨changed, notifying⟩ := delayed
    cases waiting.symm.trans notifying
  rcases step_cases stepped with ⟨_, _, -, rfl⟩ | ⟨_, -, rfl⟩ | ⟨-, rfl⟩ | ⟨_, -, rfl⟩
      | ⟨-, waiting, -, rfl⟩ | ⟨-, waiting, -, ⟨late, rfl⟩ | ⟨-, rfl⟩⟩ | ⟨-, waiting, -, late, rfl⟩
      | ⟨-, changed, trigger, notifying, rfl⟩
  · exact ⟨apart, past, ahead⟩
  · exact ⟨apart, fun scan member => Nat.le_trans (past scan member) (Nat.le_add_right _ _), ahead⟩
  · exact ⟨apart, past, ahead⟩
  · exact ⟨apart, past, ahead⟩
  · exact Spaced.rescan apart past (fun told => absurd rfl told) (fun _ => atOnce waiting)
      fun told => by cases told
  · exact Spaced.rescan apart past
      (fun _ scan member => Nat.le_trans (atOnce waiting scan member) late)
      (fun poll => by cases poll) fun _ => Nat.le_refl _
  · exact ⟨apart, past, ahead⟩
  · exact Spaced.rescan apart past
      (fun _ scan member => Nat.le_trans (atOnce waiting scan member) late)
      (fun poll => by cases poll) fun told => by cases told
  · refine ⟨apart, past, fun _ scan member => ?_⟩
    dsimp only at member ⊢
    split
    · exact Nat.add_le_add_right (past scan member) _
    · rename_i direct
      refine ahead (fun delayed => direct ?_) scan member
      obtain ⟨changed', notifying'⟩ := delayed
      injection notifying.symm.trans notifying'

theorem start_spaced (interfaces : Scan target) (clock : Nat) : (start interfaces clock).Spaced :=
  ⟨List.Pairwise.nil, fun _ member => absurd member List.not_mem_nil,
    fun _ _ member => absurd member List.not_mem_nil⟩

/-- **Scans for messages are a second apart**, in every run. -/
theorem spaced (target : Target) (interfaces : Scan target) (clock : Nat)
    (actions : List (Action target)) (final : InterfaceMonitor target)
    (reached : machine.run (start interfaces clock) actions = some final) :
    final.scans.Pairwise fun later earlier => earlier + debounce ≤ later :=
  (@Machine.run_invariant _ _ machine (fun state => state.Spaced)
    (fun spaced stepped => Spaced.of_step spaced stepped) actions (start interfaces clock) final
    (start_spaced interfaces clock) reached).apart

theorem spaced_sample : ∃ final, machine.run (start ⟨[], .nil⟩ 0) sampleChanges = some final
    ∧ final.scans.Pairwise fun later earlier => earlier + debounce ≤ later := by
  have ran : (machine.run (start ⟨[], .nil⟩ 0) sampleChanges).isSome = true := by decide +kernel
  obtain ⟨final, reached⟩ := Option.isSome_iff_exists.mp ran
  exact ⟨final, reached, spaced .linux ⟨[], .nil⟩ 0 sampleChanges final reached⟩

end InterfaceMonitor

end RsTun.Monitor
