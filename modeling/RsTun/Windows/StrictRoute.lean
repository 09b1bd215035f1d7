/-
**The filters of `strict_route` on Windows.**

`create_strict_session` adds filters to a sublayer of its own, which is the first one that a
connection comes to. There the matching filter of the highest weight decides: a block is final, a
permit with `CLEAR_ACTION_RIGHT` too, and any other permit leaves the connection to the sublayers
behind. Each call of the filter engine can fail, and a failure is only logged.

* `strictFilters_descending` — the filters are added from the highest weight down.
* **`strict_session_iff`** — which connections a session lets through, whatever calls failed.
* `strict_session_complete` — the same if none did.
-/

import Mathlib.Data.List.MinMax

namespace RsTun.Windows

/-- The layers that the filters are for: `FWPM_LAYER_ALE_AUTH_CONNECT_V4` and `_V6`. -/
inductive Layer where
  | v4
  | v6
  deriving DecidableEq

/-- The actions that the filters have. -/
inductive FilterAction where
  | permit
  | block
  deriving DecidableEq

/-- What a filter asks of a connection. -/
inductive Condition (AppId : Type) where
  | aleAppId (app : AppId)
  | arrivalInterfaceIndex (index : UInt32)
  | ipRemotePort (port : UInt16)
  deriving DecidableEq

/-- `FWPM_FILTER0`, as `add_filter` fills it. -/
structure Filter (AppId : Type) where
  layer : Layer
  weight : UInt8
  action : FilterAction
  name : String
  conditions : List (Condition AppId)
  clearActionRight : Bool
  deriving DecidableEq

def weightPermitApp : UInt8 := 13
def weightBlockFamily : UInt8 := 12
def weightPermitTun : UInt8 := 11
def weightBlockDns : UInt8 := 10

/-- The calls of the filter engine: opening it with a sublayer, the identifier of a program, and
adding a filter. -/
structure Engine (AppId : Type) where
  opens : Bool
  appId : String → Option AppId
  accepts : Filter AppId → Bool

section Session

variable {AppId : Type} (engine : Engine AppId)

/-- Filters that are added in turn, up to the first failure. -/
def addInTurn (filters : List (Filter AppId)) : List (Filter AppId) :=
  filters.takeWhile engine.accepts

/-- The filters of `protect_process`. -/
def protectFilter (app : AppId) : Layer → Filter AppId
  | .v4 => ⟨.v4, weightPermitApp, .permit, "reflex protect ipv4", [.aleAppId app], true⟩
  | .v6 => ⟨.v6, weightPermitApp, .permit, "reflex protect ipv6", [.aleAppId app], true⟩

/-- `protect_process`. -/
def protectProcess (exePath : String) : List (Filter AppId) :=
  match engine.appId exePath with
  | some app => addInTurn engine [protectFilter app .v4, protectFilter app .v6]
  | none => []

/-- The filters of `block_family`. -/
def familyFilter : Layer → Filter AppId
  | .v4 => ⟨.v4, weightBlockFamily, .block, "reflex block ipv4", [], false⟩
  | .v6 => ⟨.v6, weightBlockFamily, .block, "reflex block ipv6", [], false⟩

/-- `block_family`. -/
def blockFamily (layer : Layer) : List (Filter AppId) := addInTurn engine [familyFilter layer]

/-- The filters of `permit_tun_interface`. -/
def tunFilter (ifIndex : UInt32) : Layer → Filter AppId
  | .v4 => ⟨.v4, weightPermitTun, .permit, "reflex allow ipv4", [.arrivalInterfaceIndex ifIndex],
      false⟩
  | .v6 => ⟨.v6, weightPermitTun, .permit, "reflex allow ipv6", [.arrivalInterfaceIndex ifIndex],
      false⟩

/-- `permit_tun_interface`. -/
def permitTunInterface (layer : Layer) (ifIndex : UInt32) : List (Filter AppId) :=
  addInTurn engine [tunFilter ifIndex layer]

/-- The filters of `block_dns`. -/
def dnsFilter : Layer → Filter AppId
  | .v4 => ⟨.v4, weightBlockDns, .block, "reflex block ipv4 dns", [.ipRemotePort 53], false⟩
  | .v6 => ⟨.v6, weightBlockDns, .block, "reflex block ipv6 dns", [.ipRemotePort 53], false⟩

/-- `block_dns`. -/
def blockDns : List (Filter AppId) := addInTurn engine [dnsFilter .v4, dnsFilter .v6]

variable (exePath : Option String) (ifIndex : Option UInt32) (hasV4 hasV6 : Bool)

/-- The permits for the program itself, if its path is known. -/
def protectOwn : List (Filter AppId) :=
  match exePath with
  | some exe => protectProcess engine exe
  | none => []

/-- The blocks for the families that the TUN has no address of. -/
def blockMissing : List (Filter AppId) :=
  (if !hasV4 then blockFamily engine .v4 else []) ++ if !hasV6 then blockFamily engine .v6 else []

/-- The permits for the TUN, if its index is known. -/
def permitTun : List (Filter AppId) :=
  match ifIndex with
  | some index =>
      (if hasV4 then permitTunInterface engine .v4 index else [])
        ++ if hasV6 then permitTunInterface engine .v6 index else []
  | none => []

/-- The filters that `create_strict_session` gets added. -/
def strictFilters : List (Filter AppId) :=
  protectOwn engine exePath ++ (blockMissing engine hasV4 hasV6
    ++ (permitTun engine ifIndex hasV4 hasV6 ++ blockDns engine))

/-- `create_strict_session`: the filters of the session, or none for 0. -/
def createStrictSession : Option (List (Filter AppId)) :=
  if engine.opens then some (strictFilters engine exePath ifIndex hasV4 hasV6) else none

end Session

section Fields

variable {AppId : Type} {app : AppId} {index : UInt32} {layer : Layer}

@[simp] theorem protectFilter_layer : (protectFilter app layer).layer = layer := by
  cases layer <;> rfl

@[simp] theorem protectFilter_conditions :
    (protectFilter app layer).conditions = [.aleAppId app] := by
  cases layer <;> rfl

@[simp] theorem familyFilter_layer : (familyFilter layer : Filter AppId).layer = layer := by
  cases layer <;> rfl

@[simp] theorem familyFilter_conditions : (familyFilter layer : Filter AppId).conditions = [] := by
  cases layer <;> rfl

@[simp] theorem tunFilter_layer : (tunFilter index layer : Filter AppId).layer = layer := by
  cases layer <;> rfl

@[simp] theorem tunFilter_conditions :
    (tunFilter index layer : Filter AppId).conditions = [.arrivalInterfaceIndex index] := by
  cases layer <;> rfl

@[simp] theorem dnsFilter_layer : (dnsFilter layer : Filter AppId).layer = layer := by
  cases layer <;> rfl

@[simp] theorem dnsFilter_conditions :
    (dnsFilter layer : Filter AppId).conditions = [.ipRemotePort 53] := by
  cases layer <;> rfl

end Fields

/-! ### What the filter engine does with a connection -/

/-- A connection that is about to be made. -/
structure Connection (AppId : Type) where
  layer : Layer
  app : AppId
  arrivalInterface : UInt32
  remotePort : UInt16

section Arbitration

variable {AppId : Type} [DecidableEq AppId] (connection : Connection AppId)

/-- The connection is what the condition asks for. -/
def Condition.Holds : Condition AppId → Prop
  | .aleAppId app => connection.app = app
  | .arrivalInterfaceIndex index => connection.arrivalInterface = index
  | .ipRemotePort port => connection.remotePort = port

instance decidableHolds : ∀ condition : Condition AppId, Decidable (condition.Holds connection)
  | .aleAppId _ => inferInstanceAs (Decidable (_ = _))
  | .arrivalInterfaceIndex _ => inferInstanceAs (Decidable (_ = _))
  | .ipRemotePort _ => inferInstanceAs (Decidable (_ = _))

/-- The filter is for the connection. -/
def Filter.Matches (filter : Filter AppId) : Prop :=
  filter.layer = connection.layer ∧ ∀ condition ∈ filter.conditions, condition.Holds connection

instance decidableMatches (filter : Filter AppId) : Decidable (filter.Matches connection) :=
  inferInstanceAs (Decidable (_ ∧ _))

/-- What becomes of a connection, if the sublayers behind would have it so. -/
def arbitrate (behind : Bool) : Option (Filter AppId) → Bool
  | none => behind
  | some filter =>
      match filter.action with
      | .block => false
      | .permit => filter.clearActionRight || behind

/-- The connection is let through: the matching filter of the highest weight decides. -/
def allowed (filters : List (Filter AppId)) (behind : Bool) : Bool :=
  arbitrate behind ((filters.filter (·.Matches connection)).argmax (·.weight.toNat))

end Arbitration

/-! ### Which filter decides -/

section Deciding

variable {AppId : Type} {engine : Engine AppId} {filters first second : List (Filter AppId)}

/-- Among filters from the highest weight down the first one decides. -/
theorem argmax_eq_head? (descending : (filters.map (·.weight.toNat)).Pairwise (· ≥ ·)) :
    filters.argmax (·.weight.toNat) = filters.head? := by
  induction filters with
  | nil => rfl
  | cons filter rest ih =>
      rw [List.map_cons, List.pairwise_cons] at descending
      obtain ⟨highest, descending⟩ := descending
      rw [List.argmax_cons, ih descending]
      cases rest with
      | nil => rfl
      | cons other rest =>
          have le : other.weight.toNat ≤ filter.weight.toNat :=
            highest _ (List.mem_map_of_mem List.mem_cons_self)
          exact if_neg (Nat.not_lt.mpr le)

/-- The weights of some filters of one weight. -/
theorem weights_sublist {filters' : List (Filter AppId)} {weights : List Nat}
    (same : filters'.map (·.weight.toNat) = weights) :
    ((addInTurn engine filters').map (·.weight.toNat)).Sublist weights :=
  same ▸ (List.takeWhile_sublist _).map _

/-- **The filters come from the highest weight down.** -/
theorem strictFilters_descending (exePath : Option String) (ifIndex : Option UInt32)
    (hasV4 hasV6 : Bool) :
    ((strictFilters engine exePath ifIndex hasV4 hasV6).map (·.weight.toNat)).Pairwise (· ≥ ·) := by
  have order : [13, 13, 12, 12, 11, 11, 10, 10].Pairwise (· ≥ · : Nat → Nat → Prop) := by decide
  refine List.Pairwise.sublist ?_ order
  rw [strictFilters, List.map_append, List.map_append, List.map_append]
  refine (?_ : List.Sublist _ [13, 13]).append ((?_ : List.Sublist _ [12, 12]).append
    ((?_ : List.Sublist _ [11, 11]).append (weights_sublist rfl : List.Sublist _ [10, 10])))
  · unfold protectOwn protectProcess
    split
    · split
      · exact weights_sublist rfl
      · exact List.nil_sublist _
    · exact List.nil_sublist _
  · rw [blockMissing, List.map_append]
    refine (?_ : List.Sublist _ [12]).append (?_ : List.Sublist _ [12])
    · split
      · exact weights_sublist rfl
      · exact List.nil_sublist _
    · split
      · exact weights_sublist rfl
      · exact List.nil_sublist _
  · unfold permitTun
    split
    · rw [List.map_append]
      refine (?_ : List.Sublist _ [11]).append (?_ : List.Sublist _ [11])
      · split
        · exact weights_sublist rfl
        · exact List.nil_sublist _
      · split
        · exact weights_sublist rfl
        · exact List.nil_sublist _
    · exact List.nil_sublist _

variable [DecidableEq AppId] {connection : Connection AppId} {behind : Bool}

/-- The first of a list that matches is the given filter if something holds, and there is none
otherwise. -/
structure Finds (connection : Connection AppId) (filters : List (Filter AppId))
    (filter : Filter AppId) (when' : Prop) : Prop where
  found : when' → filters.find? (·.Matches connection) = some filter
  missed : ¬ when' → filters.find? (·.Matches connection) = none

/-- Whether the filters for two layers, added in turn, have the one for a layer. -/
def PairAdded (engine : Engine AppId) (pair : Layer → Filter AppId) (layer : Layer) : Prop :=
  engine.accepts (pair .v4) = true ∧ (layer = .v6 → engine.accepts (pair .v6) = true)

/-- **Filters for both layers, added in turn.** -/
theorem finds_pair {pair : Layer → Filter AppId} (layers : ∀ layer, (pair layer).layer = layer) :
    Finds connection (addInTurn engine [pair .v4, pair .v6]) (pair connection.layer)
      (PairAdded engine pair connection.layer
        ∧ ∀ condition ∈ (pair connection.layer).conditions, condition.Holds connection) := by
  have added {layer : Layer} {filter : Filter AppId}
      (member : filter ∈ addInTurn engine [pair .v4, pair .v6]) :
      ∃ layer, filter = pair layer ∧ PairAdded engine pair layer := by
    rw [addInTurn, List.takeWhile_cons] at member
    split at member
    · rename_i first
      rcases List.mem_cons.mp member with rfl | member
      · exact ⟨.v4, rfl, first, fun same => by cases same⟩
      · rw [List.takeWhile_cons] at member
        split at member
        · rename_i second
          exact ⟨.v6, List.mem_singleton.mp member, first, fun _ => second⟩
        · cases member
    · cases member
  constructor
  · rintro ⟨⟨first, second⟩, holds⟩
    have here : (pair connection.layer).Matches connection := ⟨layers _, holds⟩
    rw [addInTurn, List.takeWhile_cons_of_pos first]
    cases point : connection.layer with
    | v4 =>
        rw [point] at here
        exact List.find?_cons_of_pos (decide_eq_true here)
    | v6 =>
        have passed : ¬ (pair .v4).Matches connection := fun both => by
          cases (layers .v4).symm.trans (both.1.trans point)
        rw [point] at here
        rw [List.takeWhile_cons_of_pos (second point),
          List.find?_cons_of_neg (by simpa using passed)]
        exact List.find?_cons_of_pos (decide_eq_true here)
  · intro missing
    refine List.find?_eq_none.mpr fun filter member here => ?_
    obtain ⟨layer, rfl, there⟩ := @added connection.layer filter member
    obtain ⟨same, holds⟩ := of_decide_eq_true here
    rw [layers] at same
    subst same
    exact missing ⟨there, holds⟩

/-- **One filter.** -/
theorem finds_single {filter : Filter AppId} :
    Finds connection (addInTurn engine [filter]) filter
      (engine.accepts filter = true ∧ filter.Matches connection) := by
  constructor
  · rintro ⟨first, here⟩
    rw [addInTurn, List.takeWhile_cons_of_pos first]
    exact List.find?_cons_of_pos (decide_eq_true here)
  · intro missing
    refine List.find?_eq_none.mpr fun other member here => ?_
    rw [addInTurn, List.takeWhile_cons] at member
    split at member
    · rename_i first
      rw [List.mem_singleton.mp member] at here
      exact missing ⟨first, of_decide_eq_true here⟩
    · cases member

theorem Finds.congr {filter : Filter AppId} {when' other : Prop}
    (finds : Finds connection filters filter when') (same : when' ↔ other) :
    Finds connection filters filter other :=
  ⟨fun holds => finds.found (same.mpr holds), fun fails => finds.missed fun holds =>
    fails (same.mp holds)⟩

theorem finds_nothing {filter : Filter AppId} {when' : Prop} (never : ¬ when') :
    Finds connection [] filter when' :=
  ⟨fun holds => absurd holds never, fun _ => rfl⟩

/-- Filters of which at most one is found. -/
theorem Finds.append {filter : Filter AppId} {when' other : Prop}
    (finds : Finds connection first filter when') (finds' : Finds connection second filter other) :
    Finds connection (first ++ second) filter (when' ∨ other) := by
  constructor
  · intro either
    rw [List.find?_append]
    by_cases holds : when'
    · rw [finds.found holds, Option.some_or]
    · rw [finds.missed holds, Option.none_or, finds'.found (either.resolve_left holds)]
  · intro neither
    rw [List.find?_append, finds.missed fun holds => neither (.inl holds), Option.none_or,
      finds'.missed fun holds => neither (.inr holds)]

/-- **A filter for each layer that wants one.** -/
theorem finds_layers {pair : Layer → Filter AppId} (layers : ∀ layer, (pair layer).layer = layer)
    (wanted : Layer → Bool) :
    Finds connection ((if wanted .v4 then addInTurn engine [pair .v4] else [])
        ++ if wanted .v6 then addInTurn engine [pair .v6] else [])
      (pair connection.layer)
      (wanted connection.layer = true ∧ engine.accepts (pair connection.layer) = true
        ∧ ∀ condition ∈ (pair connection.layer).conditions, condition.Holds connection) := by
  have one (layer : Layer) :
      Finds connection (if wanted layer then addInTurn engine [pair layer] else [])
        (pair connection.layer) (layer = connection.layer ∧ wanted connection.layer = true
          ∧ engine.accepts (pair connection.layer) = true
          ∧ ∀ condition ∈ (pair connection.layer).conditions, condition.Holds connection) := by
    by_cases same : layer = connection.layer
    · subst same
      split
      · rename_i want
        refine finds_single.congr ⟨fun both => ⟨rfl, want, both.1, both.2.2⟩, fun all =>
          ⟨all.2.2.1, layers _, all.2.2.2⟩⟩
      · rename_i skip
        exact finds_nothing fun all => skip all.2.1
    · refine ⟨fun all => absurd all.1 same, fun _ => List.find?_eq_none.mpr ?_⟩
      intro filter member here
      split at member
      · have only : filter = pair layer :=
          List.mem_singleton.mp ((List.takeWhile_sublist _).subset member)
        rw [only] at here
        exact same ((layers layer).symm.trans (of_decide_eq_true here).1)
      · cases member
  refine ((one .v4).append (one .v6)).congr ⟨fun either => ?_, fun all => ?_⟩
  · exact either.elim (fun all => all.2) fun all => all.2
  · cases point : connection.layer with
    | v4 => exact .inl ⟨rfl, point ▸ all⟩
    | v6 => exact .inr ⟨rfl, point ▸ all⟩

end Deciding

/-! ### What a session lets through -/

section Strict

variable {AppId : Type} (engine : Engine AppId) (exePath : Option String)
  (ifIndex : Option UInt32) (hasV4 hasV6 : Bool) (connection : Connection AppId)

/-- `has_v4`, `has_v6`. -/
def hasLayer : Layer → Bool
  | .v4 => hasV4
  | .v6 => hasV6

/-- The connection is of the program, and the permit for it was added. -/
def OwnPermitted : Prop := ∃ exe, exePath = some exe ∧ engine.appId exe = some connection.app
  ∧ PairAdded engine (protectFilter connection.app) connection.layer

/-- The TUN has no address of the family, and the block for it was added. -/
def FamilyBlocked : Prop := hasLayer hasV4 hasV6 connection.layer = false
  ∧ engine.accepts (familyFilter connection.layer) = true

/-- The connection is over the TUN, and the permit for it was added. -/
def TunPermitted : Prop := hasLayer hasV4 hasV6 connection.layer = true
  ∧ ifIndex = some connection.arrivalInterface
  ∧ engine.accepts (tunFilter connection.arrivalInterface connection.layer) = true

/-- The connection is for DNS, and the block for it was added. -/
def DnsBlocked : Prop := connection.remotePort = 53
  ∧ PairAdded engine dnsFilter connection.layer

variable {engine exePath ifIndex hasV4 hasV6 connection} [DecidableEq AppId] {behind : Bool}

theorem finds_protect : Finds connection (protectOwn engine exePath)
    (protectFilter connection.app connection.layer) (OwnPermitted engine exePath connection) := by
  constructor
  · rintro ⟨exe, rfl, known, added⟩
    rw [protectOwn, protectProcess, known]
    refine (finds_pair fun layer => protectFilter_layer).found ⟨added, ?_⟩
    rw [protectFilter_conditions, List.forall_mem_singleton]
    rfl
  · intro missing
    cases exePath with
    | none => rfl
    | some exe =>
        rw [protectOwn]
        unfold protectProcess
        cases known : engine.appId exe with
        | none => rfl
        | some app =>
            refine (finds_pair fun layer => protectFilter_layer).missed fun both => ?_
            have same : connection.app = app := by
              have holds := both.2
              rwa [protectFilter_conditions, List.forall_mem_singleton] at holds
            subst same
            exact missing ⟨exe, rfl, known, both.1⟩

theorem finds_family : Finds connection (blockMissing engine hasV4 hasV6)
    (familyFilter connection.layer) (FamilyBlocked engine hasV4 hasV6 connection) := by
  refine (finds_layers (fun layer => familyFilter_layer)
    fun layer => !hasLayer hasV4 hasV6 layer).congr ?_
  rw [familyFilter_conditions, FamilyBlocked, Bool.not_eq_true']
  simp

theorem finds_tun : Finds connection (permitTun engine ifIndex hasV4 hasV6)
    (tunFilter connection.arrivalInterface connection.layer)
    (TunPermitted engine ifIndex hasV4 hasV6 connection) := by
  cases ifIndex with
  | none => exact finds_nothing fun all => by cases all.2.1
  | some index =>
      have finds := @finds_layers AppId engine _ connection (tunFilter index)
        (fun layer => tunFilter_layer) (hasLayer hasV4 hasV6)
      rw [tunFilter_conditions, List.forall_mem_singleton] at finds
      constructor
      · rintro ⟨has, same, added⟩
        cases same
        exact finds.found ⟨has, added, rfl⟩
      · intro missing
        refine finds.missed fun all => missing ⟨all.1, congrArg some all.2.2.symm, ?_⟩
        rw [show connection.arrivalInterface = index from all.2.2]
        exact all.2.1

theorem finds_dns : Finds connection (blockDns engine) (dnsFilter connection.layer)
    (DnsBlocked engine connection) := by
  refine (finds_pair fun layer => dnsFilter_layer).congr ?_
  rw [dnsFilter_conditions, List.forall_mem_singleton]
  exact and_comm

/-- **What the filters let through.** -/
theorem strictFilters_iff :
    allowed connection (strictFilters engine exePath ifIndex hasV4 hasV6) behind = true
      ↔ OwnPermitted engine exePath connection
        ∨ ¬ FamilyBlocked engine hasV4 hasV6 connection
          ∧ (TunPermitted engine ifIndex hasV4 hasV6 connection ∨ ¬ DnsBlocked engine connection)
          ∧ behind = true := by
  have first : ((strictFilters engine exePath ifIndex hasV4 hasV6).filter
      (·.Matches connection)).argmax (·.weight.toNat)
      = (strictFilters engine exePath ifIndex hasV4 hasV6).find? (·.Matches connection) := by
    rw [argmax_eq_head?, List.head?_filter]
    exact List.Pairwise.sublist (List.filter_sublist.map _)
      (strictFilters_descending exePath ifIndex hasV4 hasV6)
  have own := @finds_protect AppId engine exePath connection _
  have family := @finds_family AppId engine hasV4 hasV6 connection _
  have tun := @finds_tun AppId engine ifIndex hasV4 hasV6 connection _
  have dns := @finds_dns AppId engine connection _
  rw [allowed, first, strictFilters, List.find?_append, List.find?_append, List.find?_append]
  by_cases isOwn : OwnPermitted engine exePath connection
  · rw [own.found isOwn, Option.some_or]
    refine iff_of_true ?_ (.inl isOwn)
    cases connection.layer <;> rfl
  · rw [own.missed isOwn, Option.none_or, or_iff_right isOwn]
    by_cases cut : FamilyBlocked engine hasV4 hasV6 connection
    · rw [family.found cut, Option.some_or]
      refine iff_of_false ?_ fun all => all.1 cut
      cases connection.layer <;> exact Bool.false_ne_true
    · rw [family.missed cut, Option.none_or, and_iff_right cut]
      by_cases through : TunPermitted engine ifIndex hasV4 hasV6 connection
      · rw [tun.found through, Option.some_or, and_iff_right (.inl through)]
        cases connection.layer <;> rfl
      · rw [tun.missed through, Option.none_or, or_iff_right through]
        by_cases leak : DnsBlocked engine connection
        · rw [dns.found leak]
          refine iff_of_false ?_ fun all => all.1 leak
          cases connection.layer <;> exact Bool.false_ne_true
        · rw [dns.missed leak, and_iff_right leak]
          rfl

/-- **What a session lets through.** With whatever calls that fail, a connection is let through if
it is of the program and the permit for it was added; and otherwise if the sublayers behind let it
through, no block for its family was added, and it is over the TUN with the permit for that, or no
block for DNS was added that is for it. -/
theorem strict_session_iff (AppId : Type) [DecidableEq AppId] (engine : Engine AppId)
    (exePath : Option String) (ifIndex : Option UInt32) (hasV4 hasV6 : Bool)
    (session : List (Filter AppId)) (connection : Connection AppId) (behind : Bool)
    (created : createStrictSession engine exePath ifIndex hasV4 hasV6 = some session) :
    allowed connection session behind = true
      ↔ OwnPermitted engine exePath connection
        ∨ ¬ FamilyBlocked engine hasV4 hasV6 connection
          ∧ (TunPermitted engine ifIndex hasV4 hasV6 connection ∨ ¬ DnsBlocked engine connection)
          ∧ behind = true := by
  rw [createStrictSession] at created
  split at created
  · rw [← Option.some.inj created]
    exact strictFilters_iff
  · cases created

/-- A session to which every filter was added but that for the second layer of the program, on a
host whose TUN has an IPv4 address only. -/
def sampleEngine : Engine String where
  opens := true
  appId path := some path
  accepts filter := filter.name ≠ "reflex protect ipv6"

theorem strict_session_iff_sample : ∃ session,
    createStrictSession sampleEngine (some "reflex.exe") (some 17) true false = some session
      ∧ allowed ⟨.v4, "reflex.exe", 3, 53⟩ session true = true := by
  refine ⟨_, rfl, (strict_session_iff String sampleEngine (some "reflex.exe") (some 17) true false _
    ⟨.v4, "reflex.exe", 3, 53⟩ true rfl).mpr (.inl ⟨"reflex.exe", rfl, rfl, ?_, ?_⟩)⟩
  · decide
  · decide

/-- **A session that is complete**: when every call succeeds, the program is let through, and others
where the sublayers behind let them, with an address of their family on the TUN, and DNS over the
TUN only. -/
theorem strict_session_complete {exe : String} {app : AppId} {index : UInt32}
    (known : engine.appId exe = some app) (all : ∀ filter, engine.accepts filter = true) :
    allowed connection (strictFilters engine (some exe) (some index) hasV4 hasV6) behind = true
      ↔ connection.app = app
        ∨ hasLayer hasV4 hasV6 connection.layer = true
          ∧ (connection.arrivalInterface = index ∨ connection.remotePort ≠ 53)
          ∧ behind = true := by
  have added (pair : Layer → Filter AppId) (layer : Layer) : PairAdded engine pair layer :=
    ⟨all _, fun _ => all _⟩
  have own : OwnPermitted engine (some exe) connection ↔ connection.app = app := by
    constructor
    · rintro ⟨exe', same, known', -⟩
      cases same
      exact (Option.some.inj (known.symm.trans known')).symm
    · rintro rfl
      exact ⟨exe, rfl, known, added _ _⟩
  have family : FamilyBlocked engine hasV4 hasV6 connection
      ↔ hasLayer hasV4 hasV6 connection.layer = false := and_iff_left (all _)
  have dns : DnsBlocked engine connection ↔ connection.remotePort = 53 :=
    and_iff_left (added _ _)
  rw [strictFilters_iff, own, family, dns, TunPermitted, Bool.not_eq_false, Option.some_inj]
  have permit := all (tunFilter connection.arrivalInterface connection.layer)
  refine or_congr_right (and_congr_right fun has => and_congr_left fun _ => or_congr_left ?_)
  exact ⟨fun through => through.2.1.symm, fun same => ⟨has, same.symm, permit⟩⟩

end Strict

end RsTun.Windows
