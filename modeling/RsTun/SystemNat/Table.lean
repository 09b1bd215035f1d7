/-
**The TCP NAT table (`TcpNat`) and its operations, each run without interference.**

`addr_map` maps `(src, dst)` to a NAT port and `port_map` maps a NAT port to its session. An
`Arc<TcpNatEntry>` is its immutable pair together with the identity of its `last_active` mutex; what
the mutexes hold is the `instants` field, so that a session that has left `port_map` can still be
refreshed through an `Arc` kept by a call. A mutex is never poisoned: no code panics while holding
one. Instants are nanoseconds of the monotonic clock, and `duration_since` saturates at zero, as
subtraction on `Nat` does.

* `allocatePortLocked_some` / `allocatePortLocked_none` — the port that is found is free and in the
  NAT range; when none is found, every port of the range is taken.
* `lookupOrInsert`, `lookupBack`, `gc`, `clear` — the operations as one call runs them alone.
-/

import Mathlib.Logic.Function.Basic
import RsTun.Library.Retain
import RsTun.Net.Addr

namespace RsTun.SystemNat

open Library

/-- `std::collections::HashMap`, without an order of its own that the code could rely on. -/
abbrev HashMap (Key Value : Type) := AList fun _ : Key => Value

/-- One second, in the unit of the clock. -/
def second : Nat := 1000000000

/-- `NAT_PORT_START`. -/
def natPortStart : UInt16 := 10000

/-- `NAT_PORT_END`. -/
def natPortEnd : UInt16 := 65535

/-- The pair a session is for: `(src, dst)`. -/
abbrev Key := SocketAddr × SocketAddr

/-- `Arc<TcpNatEntry>`; `lastActive` names the mutex that holds the time of the last refresh. -/
structure TcpNatEntry where
  source : SocketAddr
  destination : SocketAddr
  lastActive : Nat
  deriving DecidableEq

/-- The pair of a session. -/
def TcpNatEntry.key (entry : TcpNatEntry) : Key := (entry.source, entry.destination)

/-- `TcpNat`, with the contents of the `last_active` mutexes and the number of them made so far. -/
structure TcpNat where
  portIndex : UInt16
  addrMap : HashMap Key UInt16
  portMap : HashMap UInt16 TcpNatEntry
  instants : Nat → Nat
  mutexes : Nat

/-- A line of the `expired` list of `TcpNat::gc`: the port and the pair to delete. The code keeps
only these two; `entry` and `seen` record which session was judged and with which `last_active`, and
no deletion reads them. -/
structure Expired where
  port : UInt16
  key : Key
  entry : TcpNatEntry
  seen : Nat
  deriving DecidableEq

namespace TcpNat

/-- `TcpNat::new`. -/
def new : TcpNat where
  portIndex := natPortStart
  addrMap := ∅
  portMap := ∅
  instants := fun _ => 0
  mutexes := 0

/-! ### Port allocation -/

/-- The port a turn of the probing loop tries, and the cursor it leaves: `fetch_add(1)`, and outside
the NAT range a `store` that puts the cursor right behind `NAT_PORT_START`. -/
def probe (portIndex : UInt16) : UInt16 × UInt16 :=
  if natPortStart ≤ portIndex ∧ portIndex ≤ natPortEnd then (portIndex, portIndex + 1)
  else (natPortStart, natPortStart + 1)

/-- The probing loop, `turns` turns of it. -/
def probeLoop (portMap : HashMap UInt16 TcpNatEntry) : Nat → UInt16 → Option UInt16 × UInt16
  | 0, portIndex => (none, portIndex)
  | turns + 1, portIndex =>
      let tried := probe portIndex
      if tried.1 ∈ portMap then probeLoop portMap turns tried.2 else (some tried.1, tried.2)

/-- `TcpNat::allocate_port_locked`: the port, and the cursor afterwards. -/
def allocatePortLocked (nat : TcpNat) : Option UInt16 × UInt16 :=
  probeLoop nat.portMap (natPortEnd.toNat - natPortStart.toNat + 1) nat.portIndex

theorem natPortStart_toNat : natPortStart.toNat = 10000 := rfl

theorem natPortEnd_toNat : natPortEnd.toNat = 65535 := rfl

/-- The port a turn tries is in the NAT range, and the cursor moves to the port after it. -/
theorem probe_spec (portIndex : UInt16) :
    natPortStart ≤ (probe portIndex).1 ∧ (probe portIndex).2 = (probe portIndex).1 + 1 := by
  unfold probe
  split
  · rename_i inside
    exact ⟨inside.1, rfl⟩
  · exact ⟨UInt16.le_refl _, rfl⟩

theorem probeLoop_some {portMap : HashMap UInt16 TcpNatEntry} :
    ∀ {turns : Nat} {portIndex port : UInt16}, (probeLoop portMap turns portIndex).1 = some port →
      port ∉ portMap ∧ natPortStart ≤ port
  | turns + 1, portIndex, port, found => by
      rw [probeLoop] at found
      split at found
      · exact probeLoop_some found
      · rename_i free
        cases found
        exact ⟨free, (probe_spec portIndex).1⟩

/-- The port tried after `port`: the next one, and after the last one the first. -/
theorem probe_succ (port : UInt16) (inside : natPortStart ≤ port) :
    (probe (port + 1)).1.toNat
      = natPortStart.toNat + (port.toNat - natPortStart.toNat + 1) % 55536 := by
  have low : 10000 ≤ port.toNat := UInt16.le_iff_toNat_le.mp inside
  have high := port.toNat_lt
  unfold probe
  simp only [UInt16.le_iff_toNat_le, UInt16.toNat_add, natPortStart_toNat, natPortEnd_toNat]
  by_cases last : port.toNat = 65535
  · rw [if_neg (by simp [last])]
    simp [last, natPortStart_toNat]
  · rw [if_pos (by simp; omega)]
    simp
    omega

/-- **A probing loop that finds nothing has tried a port in each turn**, walking round the range
from the first one. -/
theorem probeLoop_none {portMap : HashMap UInt16 TcpNatEntry} :
    ∀ {turns : Nat} {portIndex : UInt16}, (probeLoop portMap turns portIndex).1 = none →
      ∀ turn < turns, ∀ port : UInt16,
        port.toNat = natPortStart.toNat
          + ((probe portIndex).1.toNat - natPortStart.toNat + turn) % 55536 →
        port ∈ portMap
  | 0, _, _, _, early, _, _ => absurd early (Nat.not_lt_zero _)
  | turns + 1, portIndex, failed, turn, early, port, reached => by
      obtain ⟨inside, after⟩ := probe_spec portIndex
      have low : 10000 ≤ (probe portIndex).1.toNat := UInt16.le_iff_toNat_le.mp inside
      have high := (probe portIndex).1.toNat_lt
      rw [probeLoop] at failed
      split at failed
      · rename_i taken
        cases turn with
        | zero =>
            have here : port = (probe portIndex).1 := by
              apply UInt16.toNat_inj.mp
              rw [natPortStart_toNat] at reached
              omega
            rwa [here]
        | succ turn =>
            refine probeLoop_none failed turn (by omega) port ?_
            rw [after, probe_succ _ inside, reached]
            simp only [natPortStart_toNat]
            omega
      · cases failed

/-- **The allocated port is free and in the NAT range.** -/
theorem allocatePortLocked_some {nat : TcpNat} {port : UInt16}
    (found : nat.allocatePortLocked.1 = some port) :
    nat.portMap.lookup port = none ∧ natPortStart ≤ port := by
  obtain ⟨free, inside⟩ := probeLoop_some found
  exact ⟨AList.lookup_eq_none.mpr free, inside⟩

/-- **Allocation fails only when every port of the NAT range is taken.** -/
theorem allocatePortLocked_none {nat : TcpNat} (failed : nat.allocatePortLocked.1 = none)
    {port : UInt16} (inside : natPortStart ≤ port) : port ∈ nat.portMap := by
  have low : 10000 ≤ port.toNat := UInt16.le_iff_toNat_le.mp inside
  have high := port.toNat_lt
  have first := UInt16.le_iff_toNat_le.mp (probe_spec nat.portIndex).1
  have last := (probe nat.portIndex).1.toNat_lt
  simp only [natPortStart_toNat] at first
  refine probeLoop_none failed
    ((port.toNat + 55536 - (probe nat.portIndex).1.toNat) % 55536) ?_ port ?_
  · simp only [natPortStart_toNat, natPortEnd_toNat]
    omega
  · simp only [natPortStart_toNat]
    omega

/-! ### The operations -/

/-- The throttled refresh: `last_active` moves only when it is more than a second old. -/
def touch (nat : TcpNat) (entry : TcpNatEntry) (now : Nat) : TcpNat :=
  if now - nat.instants entry.lastActive > second then
    { nat with instants := Function.update nat.instants entry.lastActive now }
  else nat

/-- The new session of the slow path, in both maps. -/
def insertSession (nat : TcpNat) (now : Nat) (key : Key) (port : UInt16) : TcpNat where
  portIndex := nat.portIndex
  addrMap := nat.addrMap.insert key port
  portMap := nat.portMap.insert port ⟨key.1, key.2, nat.mutexes⟩
  instants := Function.update nat.instants nat.mutexes now
  mutexes := nat.mutexes + 1

/-- The cursor after an allocation. -/
def setPortIndex (nat : TcpNat) (portIndex : UInt16) : TcpNat := { nat with portIndex := portIndex }

/-- The slow path under both write locks: allocate, and insert if there is a port. -/
def allocateAndInsert (nat : TcpNat) (now : Nat) (key : Key) : Option UInt16 × TcpNat :=
  match nat.allocatePortLocked with
  | (none, portIndex) => (none, nat.setPortIndex portIndex)
  | (some port, portIndex) => (some port, (nat.setPortIndex portIndex).insertSession now key port)

/-- `TcpNat::lookup_or_insert`. Alone, the check repeated under the write lock cannot hit. -/
def lookupOrInsert (nat : TcpNat) (now : Nat) (src dst : SocketAddr) : Option UInt16 × TcpNat :=
  match nat.addrMap.lookup (src, dst) with
  | some port =>
      match nat.portMap.lookup port with
      | some entry => (some port, nat.touch entry now)
      | none => (some port, nat)
  | none => nat.allocateAndInsert now (src, dst)

/-- `TcpNat::lookup_back`. -/
def lookupBack (nat : TcpNat) (now : Nat) (natPort : UInt16) : Option Key × TcpNat :=
  match nat.portMap.lookup natPort with
  | some entry => (some entry.key, nat.touch entry now)
  | none => (none, nat)

/-- The sessions of `port_map`, in some order. -/
def sessions (nat : TcpNat) : List (UInt16 × TcpNatEntry) :=
  nat.portMap.entries.map fun session => (session.1, session.2)

/-- The deletion loop of `TcpNat::gc`. -/
def evict (nat : TcpNat) : List Expired → TcpNat
  | [] => nat
  | victim :: rest =>
      evict { nat with
        portMap := nat.portMap.erase victim.port
        addrMap := nat.addrMap.erase victim.key } rest

/-- `TcpNat::gc`. -/
def gc (nat : TcpNat) (now timeout : Nat) : TcpNat :=
  nat.evict ((nat.sessions.filter fun session =>
    now - nat.instants session.2.lastActive > timeout).map fun session =>
      ⟨session.1, session.2.key, session.2, nat.instants session.2.lastActive⟩)

/-- The first half of `TcpNat::clear`. -/
def clearAddrMap (nat : TcpNat) : TcpNat := { nat with addrMap := ∅ }

/-- The second half of `TcpNat::clear`. -/
def clearPortMap (nat : TcpNat) : TcpNat := { nat with portMap := ∅ }

/-- `TcpNat::clear`. -/
def clear (nat : TcpNat) : TcpNat := nat.clearAddrMap.clearPortMap

/-! ### What each operation leaves of the two maps -/

@[simp] theorem touch_addrMap (nat : TcpNat) (entry : TcpNatEntry) (now : Nat) :
    (nat.touch entry now).addrMap = nat.addrMap := by
  unfold touch
  split <;> rfl

@[simp] theorem touch_portMap (nat : TcpNat) (entry : TcpNatEntry) (now : Nat) :
    (nat.touch entry now).portMap = nat.portMap := by
  unfold touch
  split <;> rfl

@[simp] theorem touch_mutexes (nat : TcpNat) (entry : TcpNatEntry) (now : Nat) :
    (nat.touch entry now).mutexes = nat.mutexes := by
  unfold touch
  split <;> rfl

/-- A refresh never moves a `last_active` back. -/
theorem instants_le_touch (nat : TcpNat) (entry : TcpNatEntry) (now mutex : Nat) :
    nat.instants mutex ≤ (nat.touch entry now).instants mutex := by
  unfold touch
  split
  · rename_i stale
    by_cases same : mutex = entry.lastActive
    · subst same
      simp only [Function.update_self]
      omega
    · simp only [Function.update_of_ne same]
      exact Nat.le_refl _
  · exact Nat.le_refl _

theorem touch_instants_of_ne (nat : TcpNat) (entry : TcpNatEntry) (now : Nat) {mutex : Nat}
    (other : mutex ≠ entry.lastActive) :
    (nat.touch entry now).instants mutex = nat.instants mutex := by
  unfold touch
  split
  · exact Function.update_of_ne other _ _
  · rfl

@[simp] theorem setPortIndex_addrMap (nat : TcpNat) (portIndex : UInt16) :
    (nat.setPortIndex portIndex).addrMap = nat.addrMap := rfl

@[simp] theorem setPortIndex_portMap (nat : TcpNat) (portIndex : UInt16) :
    (nat.setPortIndex portIndex).portMap = nat.portMap := rfl

theorem insertSession_addrMap (nat : TcpNat) (now : Nat) (key other : Key) (port : UInt16) :
    (nat.insertSession now key port).addrMap.lookup other
      = if other = key then some port else nat.addrMap.lookup other := by
  by_cases same : other = key
  · rw [if_pos same, same]
    exact AList.lookup_insert _
  · rw [if_neg same]
    exact AList.lookup_insert_ne same

theorem insertSession_portMap (nat : TcpNat) (now : Nat) (key : Key) (port other : UInt16) :
    (nat.insertSession now key port).portMap.lookup other
      = if other = port then some ⟨key.1, key.2, nat.mutexes⟩ else nat.portMap.lookup other := by
  by_cases same : other = port
  · rw [if_pos same, same]
    exact AList.lookup_insert _
  · rw [if_neg same]
    exact AList.lookup_insert_ne same

/-- The deletion loop, map by map. -/
theorem evict_maps (expired : List Expired) (nat : TcpNat) :
    (nat.evict expired).portMap = FiniteMap.eraseAll Expired.port expired nat.portMap
      ∧ (nat.evict expired).addrMap = FiniteMap.eraseAll Expired.key expired nat.addrMap := by
  induction expired generalizing nat with
  | nil => exact ⟨rfl, rfl⟩
  | cons victim rest ih => exact ih _

/-- **What a batch of deletions leaves of `port_map`.** -/
theorem evict_portMap (expired : List Expired) (nat : TcpNat) (port : UInt16) :
    (nat.evict expired).portMap.lookup port
      = if ∃ victim ∈ expired, victim.port = port then none else nat.portMap.lookup port := by
  rw [(evict_maps expired nat).1]
  exact FiniteMap.lookup_eraseAll Expired.port expired nat.portMap port

/-- **What a batch of deletions leaves of `addr_map`.** -/
theorem evict_addrMap (expired : List Expired) (nat : TcpNat) (key : Key) :
    (nat.evict expired).addrMap.lookup key
      = if ∃ victim ∈ expired, victim.key = key then none else nat.addrMap.lookup key := by
  rw [(evict_maps expired nat).2]
  exact FiniteMap.lookup_eraseAll Expired.key expired nat.addrMap key

@[simp] theorem evict_instants (expired : List Expired) (nat : TcpNat) :
    (nat.evict expired).instants = nat.instants := by
  induction expired generalizing nat with
  | nil => rfl
  | cons victim rest ih => exact ih _

@[simp] theorem evict_mutexes (expired : List Expired) (nat : TcpNat) :
    (nat.evict expired).mutexes = nat.mutexes := by
  induction expired generalizing nat with
  | nil => rfl
  | cons victim rest ih => exact ih _

/-- A session of the table is a line of `port_map`. -/
theorem mem_sessions {nat : TcpNat} {port : UInt16} {entry : TcpNatEntry} :
    (port, entry) ∈ nat.sessions ↔ nat.portMap.lookup port = some entry := by
  rw [sessions, List.mem_map]
  constructor
  · rintro ⟨session, member, same⟩
    cases same
    exact AList.mem_lookup_iff.mpr member
  · intro found
    exact ⟨⟨port, entry⟩, AList.mem_lookup_iff.mp found, rfl⟩

end TcpNat

end RsTun.SystemNat
