/-
**From the stacks to a `Handler`: the producers, the channels and the bridge tasks.**

A producer is a loop of the engine that builds an `InboundTcpStream` or an `InboundUdpPacket` for a
flow and awaits its send; `spawn_handler_bridge` gives each network one channel and one task, which
hands the items to `new_connection` or `new_packet` one after the other. Which loops there are
depends on the stack. Nothing on the way calls `prepare_connection`.

* `Bridges.Delivers` — every item is handed over once, in the order of its channel, and none that
  `prepare_connection` refuses.
* `Bridges.Keeps.drains` — as long as both bridge tasks live, everything that was produced can be
  handed over.
* **`handler_receives_iff`** — a run delivers exactly when every item that is taken off a channel is
  admitted, no bridge task ends with items in its channel or is sent to afterwards, and no producer
  is aborted while it waits.
-/

import Mathlib.Logic.Function.Basic
import RsTun.Library.Machine
import RsTun.Net.Addr

namespace RsTun.Bridge

open Library

/-- `Network`. -/
inductive Network where
  | tcp
  | udp
  deriving DecidableEq

/-- `StackType`. -/
inductive StackType where
  | system
  | gvisor
  | mixed
  deriving DecidableEq

/-- The loops that produce items: `accept_loop` for either listener, `tcp_dispatch`, the read loop
with `dispatch_udp`, and `udp_dispatch`. -/
inductive Producer where
  | acceptLoopV4
  | acceptLoopV6
  | tcpDispatch
  | dispatchUdp
  | udpDispatch
  deriving DecidableEq

/-- The channel of a producer. -/
def Producer.network : Producer → Network
  | .acceptLoopV4 => .tcp
  | .acceptLoopV6 => .tcp
  | .tcpDispatch => .tcp
  | .dispatchUdp => .udp
  | .udpDispatch => .udp

/-- The loops of a stack. -/
def StackType.producers : StackType → List Producer
  | .system => [.acceptLoopV4, .acceptLoopV6, .dispatchUdp]
  | .gvisor => [.tcpDispatch, .udpDispatch]
  | .mixed => [.acceptLoopV4, .acceptLoopV6, .udpDispatch]

/-- The capacity of the channels of `spawn_handler_bridge`. -/
def bridgeCapacity : Nat := 1024

/-- What `prepare_connection` says about a flow. How long `new_connection` and `new_packet` take,
and whether they panic, is left to the run. -/
structure Handler (Error : Type) where
  prepareConnection : Network → SocketAddr → SocketAddr → Except Error Unit

/-- An `InboundTcpStream` or an `InboundUdpPacket`, by its flow; `serial` tells the items apart. -/
structure Inbound where
  producer : Producer
  serial : Nat
  source : SocketAddr
  destination : SocketAddr
  deriving DecidableEq

/-- What a bridge task is doing; it is gone once the handler has panicked. -/
inductive BridgeTask where
  | receiving
  | handling
  | gone
  deriving DecidableEq

/-- The producers and the two bridges. `produced`, `sent` and `handed` record, in order, the items
that were built, that entered their channel, and for which the handler was called. -/
structure Bridges where
  produced : List Inbound
  waiting : Producer → Option Inbound
  stopped : Producer → Bool
  sent : Network → List Inbound
  queue : Network → List Inbound
  task : Network → BridgeTask
  handed : Network → List Inbound

/-- What happens next. -/
inductive BridgeAction where
  /-- A connection or a datagram arrives, and its item is built. -/
  | produce (producer : Producer) (source destination : SocketAddr)
  /-- The send that a producer awaits completes. -/
  | send (producer : Producer)
  /-- A bridge task takes an item and calls the handler. -/
  | receive (network : Network)
  /-- The handler returns. -/
  | returns (network : Network)
  /-- The handler panics. -/
  | panics (network : Network)
  /-- A producer is aborted with its stack. -/
  | abort (producer : Producer)

/-- The calls of the handler that a bridge task awaits. -/
def BridgeTask.calls : BridgeTask → Nat
  | .handling => 1
  | _ => 0

namespace Bridges

/-- `spawn_handler_bridge`. -/
def new : Bridges where
  produced := []
  waiting := fun _ => none
  stopped := fun _ => false
  sent := fun _ => []
  queue := fun _ => []
  task := fun _ => .receiving
  handed := fun _ => []

/-- An item is built, and its send awaited. -/
def produceItem (bridges : Bridges) (producer : Producer) (source destination : SocketAddr) :
    Bridges :=
  let item : Inbound := ⟨producer, bridges.produced.length, source, destination⟩
  { bridges with
    produced := bridges.produced ++ [item]
    waiting := Function.update bridges.waiting producer (some item) }

/-- The awaited send puts the item into the channel. -/
def enqueue (bridges : Bridges) (producer : Producer) (item : Inbound) : Bridges :=
  let network := producer.network
  { bridges with
    waiting := Function.update bridges.waiting producer none
    sent := Function.update bridges.sent network (bridges.sent network ++ [item])
    queue := Function.update bridges.queue network (bridges.queue network ++ [item]) }

/-- The awaited send fails, and the item is dropped; every loop but the read loop breaks. -/
def sendFails (bridges : Bridges) (producer : Producer) : Bridges := { bridges with
  waiting := Function.update bridges.waiting producer none
  stopped := Function.update bridges.stopped producer (producer != .dispatchUdp) }

/-- The bridge task hands an item to the handler. -/
def handOver (bridges : Bridges) (network : Network) (item : Inbound) (rest : List Inbound) :
    Bridges := { bridges with
  queue := Function.update bridges.queue network rest
  task := Function.update bridges.task network .handling
  handed := Function.update bridges.handed network (bridges.handed network ++ [item]) }

/-- The bridge task goes on. -/
def setTask (bridges : Bridges) (network : Network) (task : BridgeTask) : Bridges :=
  { bridges with task := Function.update bridges.task network task }

/-- The bridge task ends, and its channel is dropped. -/
def dropChannel (bridges : Bridges) (network : Network) : Bridges := { bridges with
  queue := Function.update bridges.queue network []
  task := Function.update bridges.task network .gone }

/-- The producer ends. -/
def stop (bridges : Bridges) (producer : Producer) : Bridges := { bridges with
  waiting := Function.update bridges.waiting producer none
  stopped := Function.update bridges.stopped producer true }

/-- The engine with a stack of the given type, bridged to a handler. -/
def machine (stack : StackType) : Machine Bridges BridgeAction where
  step bridges
    | .produce producer source destination =>
        if producer ∈ stack.producers ∧ bridges.stopped producer = false
            ∧ bridges.waiting producer = none then
          some (bridges.produceItem producer source destination)
        else none
    | .send producer =>
        match bridges.waiting producer with
        | none => none
        | some item =>
            if bridges.task producer.network = .gone then some (bridges.sendFails producer)
            else if (bridges.queue producer.network).length < bridgeCapacity then
              some (bridges.enqueue producer item)
            else none
    | .receive network =>
        match bridges.task network, bridges.queue network with
        | .receiving, item :: rest => some (bridges.handOver network item rest)
        | _, _ => none
    | .returns network =>
        if bridges.task network = .handling then some (bridges.setTask network .receiving) else none
    | .panics network =>
        if bridges.task network = .handling then some (bridges.dropChannel network) else none
    | .abort producer => some (bridges.stop producer)

/-! ### Delivery -/

variable {Error : Type} (handler : Handler Error)

/-- `prepare_connection` lets the flow of the item pass. -/
def Admitted (item : Inbound) : Prop :=
  handler.prepareConnection item.producer.network item.source item.destination = .ok ()

instance (item : Inbound) : Decidable (Admitted handler item) :=
  match passed : handler.prepareConnection item.producer.network item.source item.destination with
  | .ok () => isTrue passed
  | .error _ => isFalse fun ok => nomatch passed.symm.trans ok

/-- The items of a producer, in order. -/
def ofProducer (producer : Producer) (items : List Inbound) : List Inbound :=
  items.filter fun item => item.producer = producer

/-- **Delivery**: the handler was called once for each item that has left its channel, in the order
of the channel; every item that was produced has entered it or is waiting to; and no item is handed
over that `prepare_connection` refuses. -/
structure Delivers (bridges : Bridges) : Prop where
  ordered : ∀ network, bridges.handed network ++ bridges.queue network = bridges.sent network
  complete : ∀ producer, ofProducer producer (bridges.sent producer.network)
    ++ (bridges.waiting producer).toList = ofProducer producer bridges.produced
  admitted : ∀ network, ∀ item ∈ bridges.handed network, Admitted handler item

/-- Delivery, and an item waits with the producer that has built it. -/
structure Keeps (bridges : Bridges) : Prop extends Delivers handler bridges where
  own : ∀ producer item, bridges.waiting producer = some item → item.producer = producer

/-- What is handed over is admitted, and nothing is lost. -/
def Safe (bridges : Bridges) : BridgeAction → Prop
  | .receive network => ∀ item ∈ (bridges.queue network).head?, Admitted handler item
  | .panics network => bridges.queue network = []
  | .send producer => bridges.task producer.network ≠ .gone
  | .abort producer => bridges.waiting producer = none
  | _ => True

instance (bridges : Bridges) (action : BridgeAction) : Decidable (Safe handler bridges action) := by
  cases action <;> unfold Safe <;> infer_instance

variable {handler} {bridges next : Bridges} {stack : StackType}

theorem keeps_new : Keeps handler new where
  ordered := fun _ => rfl
  complete := fun _ => rfl
  admitted := fun _ _ member => absurd member List.not_mem_nil
  own := fun _ _ waits => absurd waits (Option.some_ne_none _).symm

theorem ofProducer_append (producer : Producer) (first second : List Inbound) :
    ofProducer producer (first ++ second)
      = ofProducer producer first ++ ofProducer producer second :=
  List.filter_append ..

theorem ofProducer_singleton {producer : Producer} {item : Inbound}
    (same : item.producer = producer) : ofProducer producer [item] = [item] :=
  List.filter_cons_of_pos (decide_eq_true same)

theorem ofProducer_singleton_ne {producer : Producer} {item : Inbound}
    (other : item.producer ≠ producer) : ofProducer producer [item] = [] :=
  List.filter_cons_of_neg (by simpa using other)

/-- A new item waits with its producer. -/
theorem Keeps.produceItem (keeps : Keeps handler bridges) {producer : Producer}
    (free : bridges.waiting producer = none) (source destination : SocketAddr) :
    Keeps handler (bridges.produceItem producer source destination) := by
  refine ⟨⟨keeps.ordered, fun other => ?_, keeps.admitted⟩, fun other item waits => ?_⟩
  · have before := keeps.complete other
    dsimp only [Bridges.produceItem]
    rw [ofProducer_append, ← before]
    by_cases same : other = producer
    · subst same
      rw [free, Option.toList_none, List.append_nil, Function.update_self, Option.toList_some,
        @ofProducer_singleton other ⟨other, _, source, destination⟩ rfl]
    · rw [Function.update_of_ne same, ofProducer_singleton_ne (Ne.symm same), List.append_nil]
  · dsimp only [Bridges.produceItem] at waits
    by_cases same : other = producer
    · subst same
      rw [Function.update_self, Option.some.injEq] at waits
      rw [← waits]
    · rw [Function.update_of_ne same] at waits
      exact keeps.own other item waits

/-- A send moves the item from its producer to the channel. -/
theorem Keeps.enqueue (keeps : Keeps handler bridges) {producer : Producer} {item : Inbound}
    (waits : bridges.waiting producer = some item) :
    Keeps handler (bridges.enqueue producer item) := by
  have own := keeps.own producer item waits
  refine ⟨⟨fun network => ?_, fun other => ?_, keeps.admitted⟩, fun other item' waits' => ?_⟩
  · have before := keeps.ordered network
    dsimp only [Bridges.enqueue]
    by_cases same : network = producer.network
    · subst same
      rw [Function.update_self, Function.update_self, ← List.append_assoc, before]
    · rw [Function.update_of_ne same, Function.update_of_ne same, before]
  · have before := keeps.complete other
    dsimp only [Bridges.enqueue]
    by_cases same : other = producer
    · subst same
      rw [Function.update_self, Function.update_self, Option.toList_none, List.append_nil,
        ofProducer_append, ofProducer_singleton own, ← before, waits, Option.toList_some]
    · rw [Function.update_of_ne same, ← before]
      by_cases shared : other.network = producer.network
      · rw [shared, Function.update_self, ofProducer_append,
          ofProducer_singleton_ne (own ▸ Ne.symm same), List.append_nil]
      · rw [Function.update_of_ne shared]
  · dsimp only [Bridges.enqueue] at waits'
    by_cases same : other = producer
    · subst same
      rw [Function.update_self] at waits'
      cases waits'
    · rw [Function.update_of_ne same] at waits'
      exact keeps.own other item' waits'

/-- An admitted item moves from the channel to the handler. -/
theorem Keeps.handOver (keeps : Keeps handler bridges) {network : Network} {item : Inbound}
    {rest : List Inbound} (first : bridges.queue network = item :: rest)
    (passes : Admitted handler item) : Keeps handler (bridges.handOver network item rest) := by
  refine ⟨⟨fun other => ?_, keeps.complete, fun other => ?_⟩, keeps.own⟩
  · have before := keeps.ordered other
    dsimp only [Bridges.handOver]
    by_cases same : other = network
    · subst same
      rw [Function.update_self, Function.update_self, ← before, first, List.append_assoc,
        List.singleton_append]
    · rw [Function.update_of_ne same, Function.update_of_ne same, before]
  · dsimp only [Bridges.handOver]
    by_cases same : other = network
    · subst same
      rw [Function.update_self, List.forall_mem_append, List.forall_mem_singleton]
      exact ⟨keeps.admitted other, passes⟩
    · rw [Function.update_of_ne same]
      exact keeps.admitted other

/-- The handler returns. -/
theorem Keeps.setTask (keeps : Keeps handler bridges) (network : Network) (task : BridgeTask) :
    Keeps handler (bridges.setTask network task) :=
  ⟨⟨keeps.ordered, keeps.complete, keeps.admitted⟩, keeps.own⟩

/-- A channel without items can go. -/
theorem Keeps.dropChannel (keeps : Keeps handler bridges) {network : Network}
    (empty : bridges.queue network = []) : Keeps handler (bridges.dropChannel network) := by
  refine ⟨⟨fun other => ?_, keeps.complete, keeps.admitted⟩, keeps.own⟩
  have before := keeps.ordered other
  dsimp only [Bridges.dropChannel]
  rw [← empty, Function.update_eq_self, before]

/-- A producer that does not wait can stop. -/
theorem Keeps.stop (keeps : Keeps handler bridges) {producer : Producer}
    (free : bridges.waiting producer = none) : Keeps handler (bridges.stop producer) := by
  have same : Function.update bridges.waiting producer none = bridges.waiting := by
    rw [← free, Function.update_eq_self]
  refine ⟨⟨keeps.ordered, fun other => ?_, keeps.admitted⟩, fun other item waits => ?_⟩
  · dsimp only [Bridges.stop]
    rw [same]
    exact keeps.complete other
  · dsimp only [Bridges.stop] at waits
    rw [same] at waits
    exact keeps.own other item waits

/-- An item that its producer drops was produced, and never enters its channel. -/
theorem lost_of_dropped {producer : Producer} {item : Inbound} (keeps : Keeps handler bridges)
    (waits : bridges.waiting producer = some item) (dropped : next.waiting producer = none)
    (same : next.sent producer.network = bridges.sent producer.network)
    (produced : next.produced = bridges.produced) : ¬ Delivers handler next := by
  intro delivers
  have before := keeps.complete producer
  have after := delivers.complete producer
  rw [dropped, same, produced, ← before, waits, Option.toList_none, Option.toList_some] at after
  exact List.cons_ne_nil _ _ (List.append_cancel_left after).symm

/-- **A safe step** keeps delivery. -/
theorem Keeps.step {action : BridgeAction} (keeps : Keeps handler bridges)
    (safe : Safe handler bridges action)
    (stepped : (machine stack).step bridges action = some next) :
    Keeps handler next := by
  unfold machine at stepped
  cases action with
  | produce producer source destination =>
      dsimp only at stepped
      split at stepped
      · rename_i ready
        cases stepped
        exact keeps.produceItem ready.2.2 source destination
      · cases stepped
  | send producer =>
      dsimp only at stepped
      split at stepped
      · cases stepped
      · rename_i item waits
        rw [if_neg safe] at stepped
        split at stepped
        · cases stepped
          exact keeps.enqueue waits
        · cases stepped
  | receive network =>
      dsimp only at stepped
      split at stepped
      · rename_i item rest idle first
        cases stepped
        refine keeps.handOver first (safe item ?_)
        rw [first]
        exact rfl
      · cases stepped
  | returns network =>
      dsimp only at stepped
      split at stepped
      · cases stepped
        exact keeps.setTask network .receiving
      · cases stepped
  | panics network =>
      dsimp only at stepped
      split at stepped
      · cases stepped
        exact keeps.dropChannel safe
      · cases stepped
  | abort producer =>
      cases stepped
      exact keeps.stop safe

/-- **A step that is not safe** ends delivery. -/
theorem Keeps.breaks {action : BridgeAction} (keeps : Keeps handler bridges)
    (unsafeStep : ¬ Safe handler bridges action)
    (stepped : (machine stack).step bridges action = some next) : ¬ Delivers handler next := by
  unfold machine at stepped
  cases action with
  | produce producer source destination => exact absurd trivial unsafeStep
  | send producer =>
      dsimp only at stepped
      split at stepped
      · cases stepped
      · rename_i item waits
        rw [if_pos (not_not.mp unsafeStep)] at stepped
        cases stepped
        exact lost_of_dropped keeps waits (Function.update_self ..) rfl rfl
  | receive network =>
      dsimp only at stepped
      split at stepped
      · rename_i item rest idle first
        cases stepped
        intro delivers
        refine unsafeStep fun item' head => ?_
        rw [first] at head
        obtain rfl : item = item' := Option.some.inj head
        refine delivers.admitted network item ?_
        dsimp only [Bridges.handOver]
        rw [Function.update_self]
        exact List.mem_append_right _ List.mem_cons_self
      · cases stepped
  | returns network => exact absurd trivial unsafeStep
  | panics network =>
      dsimp only at stepped
      split at stepped
      · cases stepped
        intro delivers
        have before := keeps.ordered network
        have after := delivers.ordered network
        dsimp only [Bridges.dropChannel] at after
        rw [Function.update_self, ← before] at after
        exact unsafeStep (List.append_cancel_left after).symm
      · cases stepped
  | abort producer =>
      cases stepped
      obtain ⟨item, waits⟩ := Option.ne_none_iff_exists'.mp unsafeStep
      exact lost_of_dropped keeps waits (Function.update_self ..) rfl rfl

/-! ### Nothing stays behind -/

/-- The steps that the item of a producer has still to go. -/
def waitingSteps (bridges : Bridges) (producer : Producer) : Nat :=
  3 * (bridges.waiting producer).toList.length

/-- The steps that the items of a channel and the handler have still to go. -/
def channelSteps (bridges : Bridges) (network : Network) : Nat :=
  2 * (bridges.queue network).length + (bridges.task network).calls

/-- The steps to the end, if nothing more is produced. -/
def remaining (bridges : Bridges) : Nat :=
  bridges.waitingSteps .acceptLoopV4 + bridges.waitingSteps .acceptLoopV6
    + bridges.waitingSteps .tcpDispatch + bridges.waitingSteps .dispatchUdp
    + bridges.waitingSteps .udpDispatch + bridges.channelSteps .tcp + bridges.channelSteps .udp

/-- A handler with the default `prepare_connection`. -/
def admitting : Handler Unit := ⟨fun _ _ _ => .ok ()⟩

/-- Both bridge tasks live, nothing is lost, and nothing has been produced since. -/
structure Draining (produced : List Inbound) (bridges : Bridges) : Prop where
  tasks : ∀ network, bridges.task network ≠ .gone
  produced : bridges.produced = produced
  keeps : Keeps admitting bridges

theorem Keeps.toAdmitting (keeps : Keeps handler bridges) : Keeps admitting bridges :=
  ⟨⟨keeps.ordered, keeps.complete, fun _ _ _ => rfl⟩, keeps.own⟩

theorem remaining_setTask {network : Network} (busy : bridges.task network = .handling) :
    (bridges.setTask network .receiving).remaining < bridges.remaining := by
  cases network <;>
    simp [remaining, channelSteps, waitingSteps, setTask, Function.update, busy, BridgeTask.calls]

theorem remaining_handOver {network : Network} {item : Inbound} {rest : List Inbound}
    (idle : bridges.task network = .receiving) (first : bridges.queue network = item :: rest) :
    (bridges.handOver network item rest).remaining < bridges.remaining := by
  cases network <;>
    simp [remaining, channelSteps, waitingSteps, handOver, Function.update, idle, first,
      BridgeTask.calls] <;> omega

theorem remaining_enqueue {producer : Producer} {item : Inbound}
    (waits : bridges.waiting producer = some item) :
    (bridges.enqueue producer item).remaining < bridges.remaining := by
  cases producer <;>
    simp [remaining, channelSteps, waitingSteps, enqueue, Function.update, Producer.network, waits]
    <;> omega

/-- Nothing waits and no channel holds an item once no step remains. -/
theorem drained_of_remaining (nothing : bridges.remaining = 0) :
    (∀ producer, bridges.waiting producer = none) ∧ ∀ network, bridges.queue network = [] := by
  unfold remaining waitingSteps channelSteps at nothing
  constructor
  · intro producer
    have empty : (bridges.waiting producer).toList.length = 0 := by
      cases producer <;> omega
    exact Option.toList_eq_nil_iff.mp (List.length_eq_zero_iff.mp empty)
  · intro network
    apply List.length_eq_zero_iff.mp
    cases network <;> omega

theorem step_returns {network : Network} (busy : bridges.task network = .handling) :
    (machine stack).step bridges (.returns network) = some (bridges.setTask network .receiving) :=
  if_pos busy

theorem step_receive {network : Network} {item : Inbound} {rest : List Inbound}
    (idle : bridges.task network = .receiving) (first : bridges.queue network = item :: rest) :
    (machine stack).step bridges (.receive network)
      = some (bridges.handOver network item rest) := by
  unfold machine
  dsimp only
  rw [idle, first]

theorem step_send {producer : Producer} {item : Inbound}
    (waits : bridges.waiting producer = some item) (live : bridges.task producer.network ≠ .gone)
    (empty : bridges.queue producer.network = []) :
    (machine stack).step bridges (.send producer) = some (bridges.enqueue producer item) := by
  have room : (bridges.queue producer.network).length < bridgeCapacity := by
    rw [empty]
    exact Nat.zero_lt_succ _
  unfold machine
  dsimp only
  rw [waits]
  dsimp only
  rw [if_neg live, if_pos room]

/-- **Something can always go on** until nothing remains. -/
theorem Draining.progress {produced : List Inbound} (draining : Draining produced bridges)
    (more : 0 < bridges.remaining) : ∃ action next, (machine stack).step bridges action = some next
      ∧ Draining produced next ∧ next.remaining < bridges.remaining := by
  have live : ∀ {network} (task : BridgeTask), task ≠ .gone → ∀ other,
      Function.update bridges.task network task other ≠ .gone := by
    intro network task alive other
    by_cases same : other = network
    · rw [same, Function.update_self]
      exact alive
    · rw [Function.update_of_ne same]
      exact draining.tasks other
  by_cases busy : ∃ network, bridges.task network = .handling
  · obtain ⟨network, busy⟩ := busy
    exact ⟨.returns network, bridges.setTask network .receiving, step_returns busy,
      ⟨live .receiving (nomatch ·), draining.produced, draining.keeps.setTask network .receiving⟩,
      remaining_setTask busy⟩
  · have idle : ∀ network, bridges.task network = .receiving := by
      intro network
      cases task : bridges.task network with
      | receiving => rfl
      | handling => exact absurd ⟨network, task⟩ busy
      | gone => exact absurd task (draining.tasks network)
    by_cases held : ∃ network, bridges.queue network ≠ []
    · obtain ⟨network, held⟩ := held
      obtain ⟨item, rest, first⟩ := List.exists_cons_of_ne_nil held
      exact ⟨.receive network, bridges.handOver network item rest,
        step_receive (idle network) first,
        ⟨live .handling (nomatch ·), draining.produced, draining.keeps.handOver first rfl⟩,
        remaining_handOver (idle network) first⟩
    · have empty : ∀ network, bridges.queue network = [] := fun network =>
        not_not.mp fun full => held ⟨network, full⟩
      obtain ⟨producer, waits⟩ : ∃ producer, bridges.waiting producer ≠ none := by
        by_contra nobody
        push Not at nobody
        simp [remaining, waitingSteps, channelSteps, nobody, empty, idle, BridgeTask.calls] at more
      obtain ⟨item, waits⟩ := Option.ne_none_iff_exists'.mp waits
      exact ⟨.send producer, bridges.enqueue producer item,
        step_send waits (draining.tasks _) (empty _),
        ⟨draining.tasks, draining.produced, draining.keeps.enqueue waits⟩, remaining_enqueue waits⟩

/-- When no item is on its way, the handler was called for each item of a producer, in order. -/
theorem Delivers.handed_eq (delivers : Delivers handler bridges) {producer : Producer}
    (free : bridges.waiting producer = none) (empty : bridges.queue producer.network = []) :
    ofProducer producer (bridges.handed producer.network)
      = ofProducer producer bridges.produced := by
  have ordered := delivers.ordered producer.network
  rw [empty, List.append_nil] at ordered
  rw [ordered, ← delivers.complete producer, free, Option.toList_none, List.append_nil]

/-- **Everything that was produced can be handed over** while both bridge tasks live. -/
theorem Keeps.drains (stack : StackType) (keeps : Keeps handler bridges)
    (live : ∀ network, bridges.task network ≠ .gone) :
    ∃ actions final, (machine stack).run bridges actions = some final
      ∧ ∀ producer, ofProducer producer (final.handed producer.network)
        = ofProducer producer bridges.produced := by
  obtain ⟨actions, final, reached, draining, nothing⟩ :=
    @Machine.run_to_end _ _ (machine stack) (Draining bridges.produced) remaining
      (fun _ draining more => draining.progress more) bridges ⟨live, rfl, keeps.toAdmitting⟩
  obtain ⟨free, empty⟩ := drained_of_remaining nothing
  refine ⟨actions, final, reached, fun producer => ?_⟩
  rw [draining.keeps.toDelivers.handed_eq (free producer) (empty producer.network),
    draining.produced]

/-! ### A run -/

/-- **A run delivers exactly when** all of its steps are safe: the items that are taken off a
channel are admitted, a handler that panics leaves no items behind, nothing is sent to a bridge task
that is gone, and no producer is aborted while it waits. Everything that was produced can then still
reach the handler, as long as both bridge tasks live. -/
theorem handler_receives_iff (handler : Handler Error) (stack : StackType)
    {actions : List BridgeAction} {final : Bridges}
    (reached : (machine stack).run new actions = some final) :
    ((machine stack).Throughout (Delivers handler) new actions
        ↔ (machine stack).Meets (Safe handler) new actions)
      ∧ ((machine stack).Meets (Safe handler) new actions →
        (∀ network, final.task network ≠ .gone) →
        ∃ later last, (machine stack).run final later = some last
          ∧ ∀ producer, ofProducer producer (last.handed producer.network)
            = ofProducer producer final.produced) := by
  constructor
  · exact Machine.throughout_iff_meets Keeps.toDelivers
      (fun keeps safe stepped => keeps.step safe stepped)
      (fun keeps unsafeStep stepped => keeps.breaks unsafeStep stepped) keeps_new reached
  · intro meets live
    have keeps : Keeps handler final := Machine.run_invariant_of_meets
      (fun keeps safe stepped => Keeps.step keeps safe stepped) keeps_new meets reached
    exact keeps.drains stack live

/-- A handler that refuses every flow. -/
def refusingHandler : Handler Unit := ⟨fun _ _ _ => .error ()⟩

/-- The client 198.18.0.2 and a server. -/
def sampleFlow : SocketAddr × SocketAddr :=
  (.v4 (Ipv4Addr.new 198 18 0 2) 40000, .v4 (Ipv4Addr.new 8 8 8 8) 443)

/-- A connection is accepted and handed over. -/
def sampleConnection (producer : Producer) : List BridgeAction :=
  [.produce producer sampleFlow.1 sampleFlow.2, .send producer, .receive .tcp]

theorem handler_receives_iff_sample : ∃ final,
    (machine .gvisor).run new (sampleConnection .tcpDispatch) = some final
      ∧ ((machine .gvisor).Throughout (Delivers refusingHandler) new (sampleConnection .tcpDispatch)
        ↔ (machine .gvisor).Meets (Safe refusingHandler) new (sampleConnection .tcpDispatch)) :=
  ⟨_, rfl, (handler_receives_iff refusingHandler .gvisor rfl).1⟩

/-- **A flow that the handler refuses** reaches `new_connection`, on the gvisor and on the system
stack. -/
theorem refused_connection_delivered :
    (∃ final, (machine .gvisor).run new (sampleConnection .tcpDispatch) = some final
        ∧ ∃ item ∈ final.handed .tcp, ¬ Admitted refusingHandler item)
      ∧ ∃ final, (machine .system).run new (sampleConnection .acceptLoopV4) = some final
        ∧ ∃ item ∈ final.handed .tcp, ¬ Admitted refusingHandler item := by
  constructor
  · exact ⟨_, rfl, ⟨.tcpDispatch, 0, sampleFlow.1, sampleFlow.2⟩, List.mem_singleton.mpr rfl, nofun⟩
  · exact ⟨_, rfl, ⟨.acceptLoopV4, 0, sampleFlow.1, sampleFlow.2⟩,
      List.mem_singleton.mpr rfl, nofun⟩

end Bridges

end RsTun.Bridge
