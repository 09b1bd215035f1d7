/-
**What `diff_events` tells of two scans of the interfaces.**

* `wanted old new` — an event for each interface that was added or whose data changed, and one with
  `up` cleared for each that was removed.
* `pushes_eq` — what the loop over the new scan pushes for an interface that the old one has too.
* **`diffEvents_exact_iff`** — the events are the wanted ones, and there are none exactly for scans
  of the same interfaces, if and only if every pair of data of one interface is told apart once.
-/

import Mathlib.Data.Finset.Dedup
import RsTun.Library.Keyed
import RsTun.Net.Addr

namespace RsTun.Monitor

open Library.Keyed

/-! ### The comparison of two scans -/

/-- The targets, by the fields that an event has. -/
inductive Target where
  | linux
  | android
  deriving DecidableEq

/-- The type of `android_vpn_enabled`, a field that only Android has. -/
def Target.VpnFlag : Target → Type
  | .linux => Unit
  | .android => Bool

instance decidableEqVpnFlag : ∀ target : Target, DecidableEq target.VpnFlag
  | .linux => inferInstanceAs (DecidableEq Unit)
  | .android => inferInstanceAs (DecidableEq Bool)

/-- `InterfaceEvent`. -/
structure InterfaceEvent (target : Target) where
  name : String
  index : UInt32
  up : Bool
  mtu : UInt32
  addresses : List IpAddr
  androidVpnEnabled : target.VpnFlag
  deriving DecidableEq

variable {target : Target}

/-- The comparison of the Android flags, which pushes on its own. -/
def pushVpn : {target : Target} → InterfaceEvent target → InterfaceEvent target →
    List (InterfaceEvent target)
  | .linux, _, _ => []
  | .android, oldEvent, event =>
      if oldEvent.androidVpnEnabled ≠ event.androidVpnEnabled then [event] else []

/-- What the loop over `new` pushes for an event. -/
def pushes (old : List (InterfaceEvent target)) (event : InterfaceEvent target) :
    List (InterfaceEvent target) :=
  if event.name ∉ old.map (·.name) then [event]
  else match old.find? (·.name = event.name) with
    | some oldEvent =>
        (if oldEvent.up ≠ event.up ∨ oldEvent.mtu ≠ event.mtu
          ∨ oldEvent.addresses ≠ event.addresses then [event] else [])
          ++ pushVpn oldEvent event
    | none => []

/-- The event of an interface that is gone. -/
def InterfaceEvent.removed (event : InterfaceEvent target) : InterfaceEvent target :=
  { event with up := false }

/-- `diff_events`. -/
def diffEvents (old new : List (InterfaceEvent target)) : List (InterfaceEvent target) :=
  new.flatMap (pushes old)
    ++ (old.filter fun event => event.name ∉ new.map (·.name)).map (·.removed)

/-! ### The events that are due -/

/-- The data of an interface is the same in two scans, in whatever order the addresses are. -/
def SameData (before after : InterfaceEvent target) : Prop :=
  before.index = after.index ∧ before.up = after.up ∧ before.mtu = after.mtu
    ∧ before.addresses.toFinset = after.addresses.toFinset
    ∧ before.androidVpnEnabled = after.androidVpnEnabled

instance decidableSameData (before after : InterfaceEvent target) :
    Decidable (SameData before after) := inferInstanceAs (Decidable (_ ∧ _))

/-- The interface is not among these. -/
def Missing (events : List (InterfaceEvent target)) (event : InterfaceEvent target) : Prop :=
  event.name ∉ events.map (·.name)

instance decidableMissing (events : List (InterfaceEvent target)) (event : InterfaceEvent target) :
    Decidable (Missing events event) := inferInstanceAs (Decidable (_ ∉ _))

/-- The interface was there with other data. -/
def Changed (old : List (InterfaceEvent target)) (event : InterfaceEvent target) : Prop :=
  ∃ before ∈ old, before.name = event.name ∧ ¬ SameData before event

instance decidableChanged (old : List (InterfaceEvent target)) (event : InterfaceEvent target) :
    Decidable (Changed old event) := List.decidableBEx _ old

/-- **The events that are due**: one for each interface that was added or changed, and one with `up`
cleared for each that was removed. -/
def wanted (old new : List (InterfaceEvent target)) : List (InterfaceEvent target) :=
  (new.filter fun event => Missing old event ∨ Changed old event)
    ++ (old.filter (Missing new)).map (·.removed)

/-- Two scans describe the same interfaces, in whatever order. -/
def SameInterfaces (old new : List (InterfaceEvent target)) : Prop :=
  (∀ event ∈ new, ∃ before ∈ old, before.name = event.name ∧ SameData before event)
    ∧ ∀ before ∈ old, ∃ event ∈ new, before.name = event.name ∧ SameData before event

/-- **The events are exact**: the due ones, each once, and none for scans of the same interfaces
only. -/
structure Exact (old new : List (InterfaceEvent target)) : Prop where
  events : (diffEvents old new).Perm (wanted old new)
  empty_iff : diffEvents old new = [] ↔ SameInterfaces old new

/-- The data differs in what the first comparison looks at: `up`, the MTU and the list of the
addresses, in order. -/
def ListedApart (before after : InterfaceEvent target) : Prop :=
  before.up ≠ after.up ∨ before.mtu ≠ after.mtu ∨ before.addresses ≠ after.addresses

instance decidableListedApart (before after : InterfaceEvent target) :
    Decidable (ListedApart before after) := inferInstanceAs (Decidable (_ ∨ _))

/-- **The data of an interface is told apart once**: the two comparisons do not both find a
difference, the first one only if there is one, and they miss none. -/
structure ToldOnce (before after : InterfaceEvent target) : Prop where
  missed : ¬ ListedApart before after → before.androidVpnEnabled = after.androidVpnEnabled →
    before.index = after.index
  once : ListedApart before after → before.androidVpnEnabled = after.androidVpnEnabled
  apart : ListedApart before after → ¬ SameData before after

/-! ### What is pushed and what is due -/

section Pushes

variable {old new : List (InterfaceEvent target)} {before event : InterfaceEvent target}

/-- On other targets the flag never differs. -/
theorem pushVpn_eq : ∀ {target : Target} (before event : InterfaceEvent target),
    pushVpn before event
      = if before.androidVpnEnabled ≠ event.androidVpnEnabled then [event] else []
  | .linux, _, _ => (if_neg (not_not.mpr rfl)).symm
  | .android, _, _ => rfl

/-- What is due for an event of the new scan. -/
def due (old : List (InterfaceEvent target)) (event : InterfaceEvent target) :
    List (InterfaceEvent target) :=
  if Missing old event ∨ Changed old event then [event] else []

theorem pushes_of_missing (missing : Missing old event) : pushes old event = due old event :=
  (if_pos missing).trans (if_pos (Or.inl missing)).symm

theorem not_missing (mem : before ∈ old) (named : before.name = event.name) :
    ¬ Missing old event :=
  not_not.mpr (List.mem_map.mpr ⟨before, mem, named⟩)

/-- What the loop pushes for an interface that was there before. -/
theorem pushes_eq (unique : (old.map (·.name)).Nodup) (mem : before ∈ old)
    (named : before.name = event.name) :
    pushes old event = (if ListedApart before event then [event] else [])
      ++ if before.androidVpnEnabled ≠ event.androidVpnEnabled then [event] else [] := by
  have found : old.find? (·.name = event.name) = some before :=
    (find?_key_eq_some_iff unique).mpr ⟨mem, named⟩
  refine (if_neg (not_missing mem named)).trans ?_
  rw [found]
  exact congrArg _ (pushVpn_eq before event)

/-- What is due for it. -/
theorem due_eq (unique : (old.map (·.name)).Nodup) (mem : before ∈ old)
    (named : before.name = event.name) :
    due old event = if SameData before event then [] else [event] := by
  have changed : Changed old event ↔ ¬ SameData before event := by
    refine ⟨fun changed => ?_, fun different => ⟨before, mem, named, different⟩⟩
    obtain ⟨other, mem', named', different⟩ := changed
    rwa [List.inj_on_of_nodup_map unique mem' mem (named'.trans named.symm)] at different
  unfold due
  by_cases same : SameData before event
  · rw [if_pos same, if_neg (not_or.mpr ⟨not_missing mem named, mt changed.mp (not_not.mpr same)⟩)]
  · rw [if_neg same, if_pos (Or.inr (changed.mpr same))]

/-- **The right number of events** is pushed exactly when the data is told apart once. -/
theorem pushes_perm_due_iff (unique : (old.map (·.name)).Nodup) (mem : before ∈ old)
    (named : before.name = event.name) :
    (pushes old event).Perm (due old event) ↔ ToldOnce before event := by
  rw [pushes_eq unique mem named, due_eq unique mem named]
  by_cases apart : ListedApart before event
  · rw [if_pos apart]
    by_cases flag : before.androidVpnEnabled = event.androidVpnEnabled
    · rw [if_neg (not_not.mpr flag), List.append_nil]
      by_cases same : SameData before event
      · rw [if_pos same]
        refine iff_of_false (fun perm => ?_) fun told => told.apart apart same
        exact List.cons_ne_nil _ _ perm.eq_nil
      · rw [if_neg same]
        exact iff_of_true (List.Perm.refl _) ⟨absurd apart, fun _ => flag, fun _ => same⟩
    · -- pushed by both comparisons
      rw [if_pos flag]
      refine iff_of_false (fun perm => ?_) fun told => flag (told.once apart)
      have lengths := perm.length_eq
      split at lengths <;> simp at lengths
  · rw [if_neg apart, List.nil_append]
    by_cases flag : before.androidVpnEnabled = event.androidVpnEnabled
    · rw [if_neg (not_not.mpr flag)]
      obtain ⟨up, mtu, addresses⟩ : before.up = event.up ∧ before.mtu = event.mtu
          ∧ before.addresses = event.addresses := by
        simpa only [ListedApart, not_or, not_not] using apart
      by_cases index : before.index = event.index
      · rw [if_pos ⟨index, up, mtu, congrArg _ addresses, flag⟩]
        exact iff_of_true (List.Perm.refl _)
          ⟨fun _ _ => index, fun listed => absurd listed apart, fun listed => absurd listed apart⟩
      · rw [if_neg fun same => index same.1]
        refine iff_of_false (fun perm => ?_) fun told => index (told.missed apart flag)
        exact List.cons_ne_nil _ _ perm.symm.eq_nil
    · rw [if_pos flag, if_neg fun same => flag same.2.2.2.2]
      exact iff_of_true (List.Perm.refl _)
        ⟨fun _ same => absurd same flag, fun listed => absurd listed apart,
          fun listed => absurd listed apart⟩

/-! ### The whole comparison -/

/-- What is pushed for an event has its name, and so has what is due. -/
theorem tagged_pushes (old new : List (InterfaceEvent target)) :
    Tagged (·.name) (·.name) (pushes old) new := by
  intro event _ pushed mem
  have only : pushed = event := by
    unfold pushes at mem
    split at mem
    · exact List.mem_singleton.mp mem
    · split at mem
      · rw [pushVpn_eq] at mem
        rcases List.mem_append.mp mem with mem | mem
        · exact List.mem_singleton.mp (List.mem_ite_nil_right.mp mem).2
        · exact List.mem_singleton.mp (List.mem_ite_nil_right.mp mem).2
      · exact (List.not_mem_nil mem).elim
  rw [only]

theorem tagged_due (old new : List (InterfaceEvent target)) :
    Tagged (·.name) (·.name) (due old) new := by
  intro event _ pushed mem
  rw [List.mem_singleton.mp (List.mem_ite_nil_right.mp mem).2]

/-- **The events are the due ones** exactly when the data of every interface that is in both scans
is told apart once. -/
theorem diffEvents_perm_iff (unique : (old.map (·.name)).Nodup)
    (unique' : (new.map (·.name)).Nodup) :
    (diffEvents old new).Perm (wanted old new)
      ↔ ∀ before ∈ old, ∀ event ∈ new, before.name = event.name → ToldOnce before event := by
  have rest : (diffEvents old new).Perm (wanted old new)
      ↔ (new.flatMap (pushes old)).Perm (new.flatMap (due old)) := by
    rw [wanted, filter_eq_flatMap]
    exact List.perm_append_right_iff _
  rw [rest, flatMap_perm_iff unique' (tagged_pushes old new) (tagged_due old new)]
  constructor
  · intro perm before mem event mem' named
    exact (pushes_perm_due_iff unique mem named).mp (perm event mem')
  · intro told event mem'
    by_cases missing : Missing old event
    · rw [pushes_of_missing missing]
    · obtain ⟨before, mem, named⟩ := List.mem_map.mp (not_not.mp missing)
      exact (pushes_perm_due_iff unique mem named).mpr (told before mem event mem' named)

/-- Nothing is due exactly for scans of the same interfaces. -/
theorem wanted_eq_nil_iff (unique : (old.map (·.name)).Nodup) :
    wanted old new = [] ↔ SameInterfaces old new := by
  have known : ∀ event ∈ new, ¬ (Missing old event ∨ Changed old event) ↔
      ∃ before ∈ old, before.name = event.name ∧ SameData before event := by
    intro event _
    constructor
    · intro settled
      obtain ⟨listed, unchanged⟩ := not_or.mp settled
      obtain ⟨before, mem, named⟩ := List.mem_map.mp (not_not.mp listed)
      exact ⟨before, mem, named, of_not_not fun different =>
        unchanged ⟨before, mem, named, different⟩⟩
    · rintro ⟨before, mem, named, same⟩ (missing | ⟨other, mem', named', different⟩)
      · exact not_missing mem named missing
      · have one := List.inj_on_of_nodup_map unique mem' mem (named'.trans named.symm)
        exact different (one ▸ same)
  rw [wanted, List.append_eq_nil_iff, List.map_eq_nil_iff, List.filter_eq_nil_iff,
    List.filter_eq_nil_iff]
  simp only [decide_eq_true_eq]
  rw [forall₂_congr known]
  refine and_congr_right fun all => forall₂_congr fun before mem => ?_
  constructor
  · intro listed
    obtain ⟨event, mem', named⟩ := List.mem_map.mp (not_not.mp listed)
    obtain ⟨other, mem'', named', same⟩ := all event mem'
    have one := List.inj_on_of_nodup_map unique mem'' mem (named'.trans named)
    exact ⟨event, mem', named.symm, one ▸ same⟩
  · rintro ⟨event, mem', named, -⟩
    exact not_missing mem' named.symm

/-- **`diff_events` is exact** on two scans with unique names if and only if the data of every
interface that is in both is told apart once. -/
theorem diffEvents_exact_iff (target : Target) (old new : List (InterfaceEvent target))
    (unique : (old.map (·.name)).Nodup) (unique' : (new.map (·.name)).Nodup) :
    Exact old new
      ↔ ∀ before ∈ old, ∀ event ∈ new, before.name = event.name → ToldOnce before event := by
  rw [← diffEvents_perm_iff unique unique']
  refine ⟨Exact.events, fun perm => ⟨perm, ?_⟩⟩
  rw [← wanted_eq_nil_iff unique]
  exact ⟨fun empty => (empty ▸ perm).symm.eq_nil, fun empty => (empty ▸ perm).eq_nil⟩

end Pushes

/-- An interface with one address. -/
def eth0 (index : UInt32) (addresses : List IpAddr) : InterfaceEvent .linux where
  name := "eth0"
  index := index
  up := true
  mtu := 1500
  addresses := addresses
  androidVpnEnabled := ()

theorem diffEvents_exact_iff_sample :
    Exact [eth0 2 [.v4 (.new 192 168 1 2)]]
      [eth0 2 [.v4 (.new 192 168 1 2), .v4 (.new 192 168 1 3)]] :=
  (diffEvents_exact_iff .linux [eth0 2 [.v4 (.new 192 168 1 2)]]
    [eth0 2 [.v4 (.new 192 168 1 2), .v4 (.new 192 168 1 3)]] (by decide) (by decide)).mpr
    fun before mem event mem' _ => by
      rw [List.mem_singleton.mp mem, List.mem_singleton.mp mem']
      exact ⟨fun same => absurd same (by decide), fun _ => rfl, fun _ => by decide⟩

/-- An interface on Android. -/
def wlan0 (mtu : UInt32) (vpn : Bool) : InterfaceEvent .android where
  name := "wlan0"
  index := 3
  up := true
  mtu := mtu
  addresses := []
  androidVpnEnabled := vpn

/-- **A new index goes unnoticed**, the same addresses in another order count as a change, and on
Android an interface that changed in both comparisons is told of twice. -/
theorem new_index_unnoticed :
    (diffEvents [eth0 2 []] [eth0 7 []] = [] ∧ ¬ SameInterfaces [eth0 2 []] [eth0 7 []])
      ∧ (diffEvents [eth0 2 [.v4 (.new 192 168 1 2), .v4 (.new 192 168 1 3)]]
          [eth0 2 [.v4 (.new 192 168 1 3), .v4 (.new 192 168 1 2)]] ≠ []
        ∧ SameInterfaces [eth0 2 [.v4 (.new 192 168 1 2), .v4 (.new 192 168 1 3)]]
          [eth0 2 [.v4 (.new 192 168 1 3), .v4 (.new 192 168 1 2)]])
      ∧ diffEvents [wlan0 1500 false] [wlan0 1400 true] = [wlan0 1400 true, wlan0 1400 true] := by
  unfold SameInterfaces
  decide

end RsTun.Monitor
