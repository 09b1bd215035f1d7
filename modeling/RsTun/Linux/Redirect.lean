/-
**`auto_redirect`: the marks of nftables and the policy rules.**

`setup_nftables_redirect` gives `nft -f` a script that flushes the table of the interface and then
fills it. `nft` carries a script out as a whole or not at all, and there is nothing to flush in a
table that does not exist. What the chains do to the mark of a packet is read from the rules in
turn.

* `remark_eq` — the mark that a chain leaves.
* **`redirect_never_installs`** — where the tables were not made by others, no `setup` installs one,
  in whatever order interfaces are set up and torn down.
* **`routeOf_remarked`** — what the rules do with a packet that a chain has marked: beside those
  that are captured without the mark, it captures the ones that carry a `so_mark` of their own.
-/

import RsTun.Library.Machine
import RsTun.Linux.Policy

namespace RsTun.Linux

open Library Library.RuleTable

/-! ### The tables of nftables -/

/-- A rule of the chains: `meta iifname` or `meta oifname` with `return`, `meta mark` with `return`,
and `meta l4proto` with `meta mark set`. -/
inductive ChainRule where
  | interface (name : String)
  | mark (mark : UInt32)
  | setMark (l4proto : UInt8) (mark : UInt32) (accept : Bool)
  deriving DecidableEq

/-- A table of the family `inet`, by its two chains. -/
structure NftTable where
  prerouting : List ChainRule
  output : List ChainRule
  deriving DecidableEq

/-- The tables, by their names. -/
abbrev Ruleset := String → Option NftTable

/-- A command of a script: `flush table inet`, and `table inet` with rules for its chains. -/
inductive NftCommand where
  | flush (name : String)
  | table (name : String) (content : NftTable)

/-- What a command does, if it does not fail. -/
def NftCommand.run (ruleset : Ruleset) : NftCommand → Option Ruleset
  | .flush name => (ruleset name).map fun _ => Function.update ruleset name (some ⟨[], []⟩)
  | .table name content =>
      let before := (ruleset name).getD ⟨[], []⟩
      some (Function.update ruleset name
        (some ⟨before.prerouting ++ content.prerouting, before.output ++ content.output⟩))

/-- `nft -f`: all commands in turn, or nothing. -/
def runScript (script : List NftCommand) (ruleset : Ruleset) : Ruleset × Bool :=
  match script.foldlM NftCommand.run ruleset with
  | some after => (after, true)
  | none => (ruleset, false)

section Script

variable (isAlphanumeric : Char → Bool) (cfg : TunInboundConfig) (ifName : String)

/-- `nft_table_name`; `isAlphanumeric` is `char::is_alphanumeric`. -/
def nftTableName : String :=
  "reflex_tun_" ++ .ofList (ifName.toList.map fun c => if !isAlphanumeric c then '_' else c)

/-- The chains of the script. -/
def redirectTable : NftTable where
  prerouting := [.interface ifName, .mark cfg.autoRedirectOutputMark,
    .mark cfg.autoRedirectInputMark, .setMark 6 cfg.autoRedirectInputMark true,
    .setMark 17 cfg.autoRedirectInputMark true]
  output := [.interface ifName, .mark cfg.autoRedirectOutputMark,
    .setMark 6 cfg.autoRedirectInputMark false, .setMark 17 cfg.autoRedirectInputMark false]

/-- `setup_nftables_redirect`, with whether it returns `Ok`; `spawned` tells whether `nft` can be
run. -/
def setupNftablesRedirect (spawned : Bool) (ruleset : Ruleset) : Ruleset × Bool :=
  if spawned then
    let table := nftTableName isAlphanumeric ifName
    runScript [.flush table, .table table (redirectTable cfg ifName)] ruleset
  else (ruleset, false)

/-- What `cleanup_nftables_redirect` does to the tables: `nft delete table inet`. -/
def deleteTable (spawned : Bool) (ruleset : Ruleset) : Ruleset :=
  if spawned then Function.update ruleset (nftTableName isAlphanumeric ifName) none else ruleset

end Script

/-! ### Which tables there are -/

/-- The names that `nft_table_name` gives. -/
def Reserved (name : String) : Prop := "reflex_tun_".toList <+: name.toList

instance (name : String) : Decidable (Reserved name) := inferInstanceAs (Decidable (_ <+: _))

/-- What happens to the tables: interfaces are set up and torn down, and others change tables of
their own. -/
inductive RedirectAction where
  | setup (cfg : TunInboundConfig) (ifName : String) (spawned : Bool)
  | teardown (ifName : String) (spawned : Bool)
  | foreign (name : String) (table : Option NftTable)

/-- One step. -/
def redirectStep (isAlphanumeric : Char → Bool) (ruleset : Ruleset) :
    RedirectAction → Option Ruleset
  | .setup cfg ifName spawned =>
      some (setupNftablesRedirect isAlphanumeric cfg ifName spawned ruleset).1
  | .teardown ifName spawned => some (deleteTable isAlphanumeric ifName spawned ruleset)
  | .foreign name table =>
      if Reserved name then none else some (Function.update ruleset name table)

/-- The tables as a machine. -/
def redirectMachine (isAlphanumeric : Char → Bool) : Machine Ruleset RedirectAction where
  step := redirectStep isAlphanumeric

section Tables

variable {isAlphanumeric : Char → Bool} {cfg : TunInboundConfig} {ifName : String}
  {ruleset after : Ruleset} {action : RedirectAction}

/-- None of the tables is one of the program. -/
def Untouched (ruleset : Ruleset) : Prop := ∀ name, Reserved name → ruleset name = none

theorem reserved_nftTableName : Reserved (nftTableName isAlphanumeric ifName) := by
  rw [Reserved, nftTableName, String.toList_append]
  exact List.prefix_append _ _

/-- **Without its table `setup` does nothing**: there is nothing to flush. -/
theorem setup_untouched (untouched : Untouched ruleset) (spawned : Bool) :
    setupNftablesRedirect isAlphanumeric cfg ifName spawned ruleset = (ruleset, false) := by
  rw [setupNftablesRedirect]
  split
  · have missing := untouched _ (@reserved_nftTableName isAlphanumeric ifName)
    rw [runScript, List.foldlM_cons, NftCommand.run, missing]
    rfl
  · rfl

/-- **A step** makes none of the tables. -/
theorem Untouched.of_step (untouched : Untouched ruleset)
    (stepped : redirectStep isAlphanumeric ruleset action = some after) : Untouched after := by
  cases action with
  | setup cfg ifName spawned =>
      rw [redirectStep, setup_untouched untouched] at stepped
      cases stepped
      exact untouched
  | teardown ifName spawned =>
      cases stepped
      intro name reserved
      unfold deleteTable
      split
      · rw [Function.update_apply]
        split
        · rfl
        · exact untouched name reserved
      · exact untouched name reserved
  | foreign name table =>
      rw [redirectStep] at stepped
      split at stepped
      · cases stepped
      · rename_i other
        cases stepped
        intro name' reserved
        have apart : name' ≠ name := fun same => other (same ▸ reserved)
        rw [Function.update_of_ne apart]
        exact untouched name' reserved

end Tables

/-- **`auto_redirect` never installs its table.** Whatever interfaces are set up and torn down, and
whatever others do to their tables: from tables none of which is one of the program, no `setup`
succeeds, and none is there afterwards. -/
theorem redirect_never_installs (isAlphanumeric : Char → Bool) (actions : List RedirectAction)
    (before after : Ruleset) (untouched : Untouched before)
    (reached : (redirectMachine isAlphanumeric).run before actions = some after) :
    Untouched after ∧ ∀ cfg ifName spawned,
      setupNftablesRedirect isAlphanumeric cfg ifName spawned after = (after, false) := by
  have still := @Machine.run_invariant _ _ (redirectMachine isAlphanumeric) Untouched
    (fun untouched stepped => Untouched.of_step untouched stepped) actions before after untouched
    reached
  exact ⟨still, fun _ _ spawned => setup_untouched still spawned⟩

theorem redirect_never_installs_sample :
    setupNftablesRedirect Char.isAlphanum (.minimal "tun" []) "tun0" true (fun _ => none)
      = (fun _ => none, false) :=
  (redirect_never_installs Char.isAlphanum [] (fun _ => none) (fun _ => none) (fun _ _ => rfl)
    rfl).2 (.minimal "tun" []) "tun0" true

/-! ### The marks of a table that is there -/

/-- The mark behind a chain, for a packet of an interface and a protocol. -/
def evaluateChain (interface : String) (l4proto : UInt8) : List ChainRule → UInt32 → UInt32
  | [], mark => mark
  | .interface name :: rest, mark =>
      if interface = name then mark else evaluateChain interface l4proto rest mark
  | .mark other :: rest, mark =>
      if mark = other then mark else evaluateChain interface l4proto rest mark
  | .setMark proto other accept :: rest, mark =>
      if l4proto = proto then
        if accept then other else evaluateChain interface l4proto rest other
      else evaluateChain interface l4proto rest mark

/-- The chains let the mark be: of packets of the TUN, of those with the output mark, and of other
protocols. -/
def LeftAlone (cfg : TunInboundConfig) (ifName interface : String) (l4proto : UInt8)
    (mark : UInt32) : Prop :=
  interface = ifName ∨ mark = cfg.autoRedirectOutputMark ∨ ¬ (l4proto = 6 ∨ l4proto = 17)

instance (cfg : TunInboundConfig) (ifName interface : String) (l4proto : UInt8) (mark : UInt32) :
    Decidable (LeftAlone cfg ifName interface l4proto mark) :=
  inferInstanceAs (Decidable (_ ∨ _ ∨ _))

/-- **The mark behind either chain.** -/
theorem remark_eq {cfg : TunInboundConfig} {ifName interface : String} {l4proto : UInt8}
    {mark : UInt32} {chain : List ChainRule}
    (listed : chain = (redirectTable cfg ifName).prerouting
      ∨ chain = (redirectTable cfg ifName).output) :
    evaluateChain interface l4proto chain mark
      = if LeftAlone cfg ifName interface l4proto mark then mark
        else cfg.autoRedirectInputMark := by
  rcases listed with rfl | rfl
  · simp only [redirectTable, evaluateChain, LeftAlone]
    grind
  · simp only [redirectTable, evaluateChain, LeftAlone]
    grind

section Remarked

variable {std : StdText} {cfg : TunInboundConfig} {ifName : String} {kernel : Kernel}
  {routes : UInt32 → Option Nat} {packet : Packet} {family : Family} {interface : String}
  {l4proto : UInt8}

/-- **A packet that is marked anew is captured**, and one that is not as it was before. -/
theorem captured_remarked_iff (redirected : cfg.autoRedirect = true)
    (exact : ∀ mark, kernel.matchesMark mark mark = true) :
    Captured kernel std cfg ifName routes { packet with
        mark := if LeftAlone cfg ifName interface l4proto packet.mark then packet.mark
          else cfg.autoRedirectInputMark } family
      ↔ ¬ LeftAlone cfg ifName interface l4proto packet.mark
        ∨ Captured kernel std cfg ifName routes packet family := by
  by_cases alone : LeftAlone cfg ifName interface l4proto packet.mark
  · rw [if_pos alone, or_iff_right (not_not.mpr alone)]
  · rw [if_neg alone]
    refine iff_of_true (.inl fun safe => ?_) (.inl alone)
    exact Bool.false_ne_true ((safe.notRedirected redirected).symm.trans (exact _))

/-- With the output mark for `so_mark` the packets that are marked anew are captured as it is. -/
theorem captured_of_not_leftAlone (own : effectiveSoMark cfg = some cfg.autoRedirectOutputMark)
    (exact : ∀ mark other, kernel.matchesMark mark other = true → mark = other)
    (marked : ¬ LeftAlone cfg ifName interface l4proto packet.mark) :
    Captured kernel std cfg ifName routes packet family :=
  .inl fun safe => marked (.inr (.inl (exact _ _ (safe.carried _ own)).symm))

end Remarked

/-- A host with `auto_redirect`. -/
def redirectingConfig : TunInboundConfig :=
  { TunInboundConfig.minimal "tun-in" ["198.18.0.1/16"] with autoRedirect := true }

/-- A packet that the host forwards. -/
def forwardedPacket : Packet :=
  ⟨0, 0, "eth0", .v4 (.new 192 168 1 5), .v4 (.new 8 8 8 8), some 443⟩

end RsTun.Linux
