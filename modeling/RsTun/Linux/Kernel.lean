/-
**The tables of rules in the kernel.**

A table of each family holds its rules by priority. What the documentation of `ip rule` leaves to
the kernel is a parameter (`Kernel`): how marks are compared, the priority of a rule that comes
without one, and which rules `rule del fwmark` finds. A rule is refused when it is there already,
and when it is a `goto` that does not jump ahead.

* `tableAfter` — the table after `setup`.
* `verdict` — what a rule decides for a packet.
-/

import RsTun.Library.RuleTable
import RsTun.Linux.Anchor

namespace RsTun.Linux

open Library Library.Prefix Library.RuleTable

/-- What the kernel decides for itself: whether a mark of a rule matches one of a packet; the
priority of a rule that comes without one; and which rules `rule del fwmark <mark> lookup <table>`
finds. -/
structure Kernel where
  matchesMark : UInt32 → UInt32 → Bool
  assign : List Rule → Nat
  selects : UInt32 → UInt32 → RuleBody → Bool

/-- Marks are compared as numbers, and a rule goes before the second one of the table. -/
def plainKernel : Kernel where
  matchesMark mark other := mark == other
  assign table :=
    match table with
    | _ :: second :: _ => second.priority - 1
    | _ => 0
  selects mark table body :=
    body.selector.fwmark == some mark && body.action == .lookup table none

/-! ### Adding rules -/

/-- A `goto` that does not jump ahead. -/
def Rule.backward (rule : Rule) : Bool :=
  match rule.body.action with
  | .goto target => decide (target ≤ rule.priority)
  | _ => false

/-- `ip rule add priority ..`. -/
def addRule (table : List Rule) (rule : Rule) : List Rule :=
  if rule.backward || rule ∈ table then table else insert Rule.priority rule table

/-- `ip rule add ..` without a priority: the kernel gives it one, and goes on as with any other. -/
def addUnnumbered (kernel : Kernel) (table : List Rule) (body : RuleBody) : List Rule :=
  addRule table ⟨kernel.assign table, body⟩

/-- The table of a family when the rules with a priority are in it. -/
def numberedTable (st : Installed) (family : Family) (initial : List Rule) : List Rule :=
  (st.rules family ++ st.anchors family).foldl addRule initial

/-- The table of a family after `setup`. -/
def tableAfter (kernel : Kernel) (st : Installed) (family : Family) (initial : List Rule) :
    List Rule :=
  (st.unnumbered family).foldl (addUnnumbered kernel) (numberedTable st family initial)

variable {table initial rules : List Rule} {rule other : Rule} {kernel : Kernel}

theorem mem_addRule : other ∈ addRule table rule
    ↔ other ∈ table ∨ (other = rule ∧ rule.backward = false) := by
  unfold addRule
  cases backward : rule.backward with
  | true => simp
  | false =>
      by_cases there : rule ∈ table
      · simp only [there, decide_true, Bool.or_true, if_true, and_true]
        exact ⟨.inl, fun either => either.elim id fun same => same ▸ there⟩
      · simp only [there, decide_false, Bool.or_self, Bool.false_eq_true, if_false, and_true]
        rw [mem_insert, or_comm]

theorem sorted_addRule (sorted : Sorted Rule.priority table) :
    Sorted Rule.priority (addRule table rule) := by
  unfold addRule
  split
  · exact sorted
  · exact sorted_insert sorted

theorem mem_foldl_addRule : other ∈ rules.foldl addRule table
    ↔ other ∈ table ∨ (other ∈ rules ∧ other.backward = false) := by
  induction rules generalizing table with
  | nil => simp
  | cons first rest ih =>
      rw [List.foldl_cons, ih, mem_addRule, List.mem_cons]
      constructor
      · rintro ((there | ⟨rfl, forward⟩) | ⟨behind, forward⟩)
        · exact .inl there
        · exact .inr ⟨.inl rfl, forward⟩
        · exact .inr ⟨.inr behind, forward⟩
      · rintro (there | ⟨rfl | behind, forward⟩)
        · exact .inl (.inl there)
        · exact .inl (.inr ⟨rfl, forward⟩)
        · exact .inr ⟨behind, forward⟩

theorem sorted_foldl_addRule (sorted : Sorted Rule.priority table) :
    Sorted Rule.priority (rules.foldl addRule table) := by
  induction rules generalizing table with
  | nil => exact sorted
  | cons first rest ih => exact ih (sorted_addRule sorted)

/-- What was in the table stays there. -/
theorem mem_tableAfter {st : Installed} {family : Family}
    (member : rule ∈ numberedTable st family initial) :
    rule ∈ tableAfter kernel st family initial := by
  unfold tableAfter
  generalize numberedTable st family initial = first at member ⊢
  generalize st.unnumbered family = bodies
  induction bodies generalizing first with
  | nil => exact member
  | cons body rest ih =>
      exact ih _ (mem_addRule.mpr (.inl member))

/-! ### A packet and the rules -/

/-- What the rules ask of a packet; `dport` when its transport has ports. -/
structure Packet where
  uid : UInt32
  mark : UInt32
  iif : String
  src : IpAddr
  dst : IpAddr
  dport : Option UInt16

/-- Whether a prefix contains an address. -/
def inPrefix : IpPrefix → IpAddr → Bool
  | (.v4 net, pl), .v4 addr => decide (Holds (net, pl) addr)
  | (.v6 net, pl), .v6 addr => decide (Holds (net, pl) addr)
  | _, _ => false

/-- The address of a socket that is not bound. -/
def unspecified : Family → IpAddr
  | .v4 => .v4 (.ofNat 4 0)
  | .v6 => .v6 (.ofNat 16 0)

/-- Whether a prefix of `from` contains the source of a packet. IPv4 compares 0.0.0.0 like any other
address; a packet of IPv6 without a source is looked up without one, and is in `::/0` alone. -/
def fromPrefix (net : IpPrefix) (src : IpAddr) : Bool :=
  inPrefix net src && (src != unspecified .v6 || net.2 == 0)

theorem fromPrefix_eq {net : IpPrefix} {src : IpAddr} (known : src ≠ unspecified .v6) :
    fromPrefix net src = inPrefix net src := by
  rw [fromPrefix, bne_iff_ne.mpr known, Bool.true_or, Bool.and_true]

theorem fromPrefix_unspecified {net : IpPrefix} (nonzero : net.2 ≠ 0) :
    fromPrefix net (unspecified .v6) = false := by
  rw [fromPrefix, bne_self_eq_false, Bool.false_or, beq_eq_false_iff_ne.mpr nonzero,
    Bool.and_false]

/-- Whether a rule applies. -/
def Selector.applies (kernel : Kernel) (packet : Packet) (selector : Selector) : Bool :=
  let matched := selector.fwmark.all (kernel.matchesMark · packet.mark)
    && selector.uidrange.all (fun range => range.1 ≤ packet.uid && packet.uid ≤ range.2)
    && selector.iif.all (· == packet.iif)
    && selector.dst.all (inPrefix · packet.dst)
    && selector.src.all (fromPrefix · packet.src)
    && selector.dport.all (fun port => packet.dport == some port)
  matched != selector.inverted

/-- Where a packet goes: by the route of a table, or nowhere. -/
inductive Route where
  | table (id : UInt32)
  | unreachable
  deriving DecidableEq

/-- What a rule decides. `routes` gives the prefix length of the route that a table has for the
packet; `suppress_prefixlength` ignores routes of that length and shorter ones. -/
def verdict (kernel : Kernel) (routes : UInt32 → Option Nat) (packet : Packet) (rule : Rule) :
    Verdict Route :=
  if rule.body.selector.applies kernel packet then
    match rule.body.action with
    | .lookup table suppress =>
      match routes table with
      | none => .pass
      | some length => if suppress.any (length ≤ ·) then .pass else .stop (.table table)
    | .goto target => .jump target
    | .unreachable => .stop .unreachable
  else .pass

/-- The route of a packet. -/
def routeOf (kernel : Kernel) (routes : UInt32 → Option Nat) (packet : Packet)
    (table : List Rule) : Option Route :=
  evaluate Rule.priority (verdict kernel routes packet) 0 table

end RsTun.Linux
