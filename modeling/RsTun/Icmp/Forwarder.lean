/-
**`IcmpForwarder`: the flow table, the tasks of the flows, and the clock.**

A request is forwarded in two steps: under the lock its flow is looked up or started, and refreshed;
after the lock is dropped its payload is sent to the queue of the flow's task. Tasks end, the GC
ticks and other requests come between any two steps. A task is named by its place in `tasks`, and so
is its queue; `results` records what became of the requests for which `handle_packet` returned true.

* `Live.step` — a step keeps it that every sender in use belongs to a running task, if no task ends
  whose sender is in use.
* `swallowed` — a request for a flow whose task has ended refreshes the flow and is dropped.
* **`forwarder_serves`** — when no request is swallowed, over every run; and that one is swallowed
  as soon as a request finds a flow whose task has ended.
-/

import RsTun.Icmp.FlowTask
import RsTun.Library.Machine
import RsTun.Library.Retain

namespace RsTun.Icmp

open Library Library.Bytes Packet

/-- `ICMP_FLOW_TIMEOUT`, in nanoseconds. -/
def icmpFlowTimeout : Nat := 30 * 1000000000

/-- `ICMP_SEND_QUEUE`. -/
def icmpSendQueue : Nat := 64

/-! ### The requests -/

/-- What `handle_v4` and `handle_v6` pass to `forward`. -/
structure EchoRequest where
  key : FlowKey
  payload : Bytes
  template : Bytes
  isV6 : Bool
  deriving DecidableEq

/-- `handle_v4`, up to its call of `forward`; none where it returns false. -/
def handleV4 (raw : Bytes) : Option EchoRequest :=
  if raw.length < 28 then none
  else
    let ihl := headerLength raw
    if raw.length < ihl + 8 ∨ ihl < 20 then none
    else if byteAt raw 9 ≠ 1 ∨ byteAt raw ihl ≠ icmpv4EchoRequest ∨ byteAt raw (ihl + 1) ≠ 0 then
      none
    else some {
      key := ⟨.v4 (Octets.ofSlice 4 raw 12), .v4 (Octets.ofSlice 4 raw 16),
        .ofNat (be16 raw (ihl + 4))⟩
      payload := raw.drop ihl
      template := raw
      isV6 := false }

/-- `handle_v6`, up to its call of `forward`. -/
def handleV6 (raw : Bytes) : Option EchoRequest :=
  if raw.length < 48 then none
  else if byteAt raw 6 ≠ 58 ∨ byteAt raw 40 ≠ icmpv6EchoRequest ∨ byteAt raw 41 ≠ 0 then none
  else some {
    key := ⟨.v6 (Octets.ofSlice 16 raw 8), .v6 (Octets.ofSlice 16 raw 24), .ofNat (be16 raw 44)⟩
    payload := raw.drop 40
    template := raw
    isV6 := true }

/-- `handle_packet`, up to the call of `forward`. -/
def handlePacket (raw : Bytes) : Option EchoRequest :=
  if raw = [] then none
  else if byteAt raw 0 >>> 4 = 4 then handleV4 raw
  else if byteAt raw 0 >>> 4 = 6 then handleV6 raw
  else none

/-! ### The state -/

/-- `FlowEntry`; the sender is named by the task at the other end. -/
structure FlowEntry where
  sendTx : Nat
  lastSeen : Nat
  deriving DecidableEq

/-- Why `flow_task` returns, the last one when every sender was dropped. -/
inductive TaskExit where
  | openSocket
  | asyncFd
  | readable
  | recv
  | panicked
  | closed
  deriving DecidableEq

/-- Where a flow task is. -/
inductive TaskPhase where
  | opening
  | looping
  | ended (exit : TaskExit)
  deriving DecidableEq

/-- A flow task with its queue. -/
structure TaskState where
  key : FlowKey
  tmpl : Bytes
  isV6 : Bool
  queue : List Bytes
  phase : TaskPhase
  deriving DecidableEq

/-- The task has not returned. -/
def TaskState.running (task : TaskState) : Bool :=
  match task.phase with
  | .ended _ => false
  | _ => true

/-- A request between the release of the lock and `try_send`. -/
structure Sending where
  sendTx : Nat
  payload : Bytes
  deriving DecidableEq

/-- What `try_send` returns: done, `TrySendError::Full` or `TrySendError::Closed`. -/
inductive SendResult where
  | queued
  | full
  | closed
  deriving DecidableEq

/-- `try_send` to the queue of a task. -/
def TaskState.trySend (task : TaskState) (payload : Bytes) : SendResult × TaskState :=
  if task.running = false then (.closed, task)
  else if task.queue.length < icmpSendQueue then
    (.queued, { task with queue := task.queue ++ [payload] })
  else (.full, task)

/-- `IcmpForwarder`, with all tasks that it has ever started and the requests under way. -/
structure IcmpForwarder where
  flows : AList fun _ : FlowKey => FlowEntry
  tasks : List TaskState
  sending : List Sending
  clock : Nat
  results : List SendResult

/-- What happens to a forwarder. -/
inductive ForwarderAction where
  | packet (raw : Bytes)
  | send (index : Nat)
  | opened (task : Nat)
  | take (task : Nat)
  | exit (task : Nat) (exit : TaskExit)
  | gc
  | elapse (time : Nat)

namespace IcmpForwarder

/-- `IcmpForwarder::new`. -/
def new : IcmpForwarder := ⟨∅, [], [], 0, []⟩

/-- The part of `forward` under the lock: `or_insert_with`, the refresh, the clone of the sender. -/
def forwardLocked (fwd : IcmpForwarder) (request : EchoRequest) : IcmpForwarder :=
  match fwd.flows.lookup request.key with
  | some entry => { fwd with
      flows := fwd.flows.insert request.key { entry with lastSeen := fwd.clock }
      sending := fwd.sending ++ [⟨entry.sendTx, request.payload⟩] }
  | none => { fwd with
      flows := fwd.flows.insert request.key ⟨fwd.tasks.length, fwd.clock⟩
      tasks := fwd.tasks ++ [⟨request.key, request.template, request.isV6, [], .opening⟩]
      sending := fwd.sending ++ [⟨fwd.tasks.length, request.payload⟩] }

/-- The retention of `spawn_gc`. -/
def retainRecent (fwd : IcmpForwarder) : IcmpForwarder := { fwd with
  flows := FiniteMap.retain fwd.flows fun _ entry => fwd.clock - entry.lastSeen < icmpFlowTimeout }

/-- The senders in use: those of the flow table and those of the requests under way. -/
def senders (fwd : IcmpForwarder) : List Nat :=
  fwd.flows.entries.map (·.2.sendTx) ++ fwd.sending.map (·.sendTx)

/-- The task may return now, for this reason. -/
def MayExit (fwd : IcmpForwarder) (id : Nat) (task : TaskState) : TaskExit → Prop
  | .openSocket => task.phase = .opening
  | .asyncFd => task.phase = .opening
  | .closed => task.phase = .looping ∧ task.queue = [] ∧ id ∉ fwd.senders
  | _ => task.phase = .looping

instance (fwd : IcmpForwarder) (id : Nat) (task : TaskState) (exit : TaskExit) :
    Decidable (fwd.MayExit id task exit) := by
  cases exit <;> unfold MayExit <;> infer_instance

/-- A task moves on. -/
def setTask (fwd : IcmpForwarder) (id : Nat) (task : TaskState) : IcmpForwarder :=
  { fwd with tasks := fwd.tasks.set id task }

/-- A forwarder, its tasks and its clock. -/
def machine : Machine IcmpForwarder ForwarderAction where
  step fwd
    | .packet raw =>
        match handlePacket raw with
        | none => some fwd
        | some request => some (fwd.forwardLocked request)
    | .send index =>
        fwd.sending[index]?.bind fun sent =>
          fwd.tasks[sent.sendTx]?.map fun task => { fwd with
            tasks := fwd.tasks.set sent.sendTx (task.trySend sent.payload).2
            sending := fwd.sending.eraseIdx index
            results := fwd.results ++ [(task.trySend sent.payload).1] }
    | .opened id =>
        fwd.tasks[id]?.bind fun task =>
          if task.phase = .opening then some (fwd.setTask id { task with phase := .looping })
          else none
    | .take id =>
        fwd.tasks[id]?.bind fun task =>
          if task.phase = .looping ∧ task.queue ≠ [] then
            some (fwd.setTask id { task with queue := task.queue.tail })
          else none
    | .exit id exit =>
        fwd.tasks[id]?.bind fun task =>
          if fwd.MayExit id task exit then
            some (fwd.setTask id { task with queue := [], phase := .ended exit })
          else none
    | .gc => some fwd.retainRecent
    | .elapse time => some { fwd with clock := fwd.clock + time }

/-! ### Running tasks -/

/-- The task runs. -/
def Runs (tasks : List TaskState) (id : Nat) : Prop :=
  ∃ task, tasks[id]? = some task ∧ task.running = true

/-- No request was dropped for a task that had ended, and the task of every flow in the table
runs. -/
structure Serves (fwd : IcmpForwarder) : Prop where
  results : .closed ∉ fwd.results
  flows : ∀ key entry, fwd.flows.lookup key = some entry → Runs fwd.tasks entry.sendTx

/-- No request was dropped for a task that had ended, and every sender in use belongs to a running
task. -/
structure Live (fwd : IcmpForwarder) : Prop where
  results : .closed ∉ fwd.results
  senders : ∀ id ∈ fwd.senders, Runs fwd.tasks id

/-- A task ends only after its flow has left the table, and no request for it is under way. -/
def EndsUnused (fwd : IcmpForwarder) : ForwarderAction → Prop
  | .exit id _ => id ∉ fwd.senders
  | _ => True

instance (fwd : IcmpForwarder) (action : ForwarderAction) : Decidable (fwd.EndsUnused action) := by
  cases action <;> unfold EndsUnused <;> infer_instance

variable {fwd next : IcmpForwarder} {tasks : List TaskState} {id : Nat}

theorem mem_senders : id ∈ fwd.senders ↔
    (∃ entry ∈ fwd.flows.entries, entry.2.sendTx = id)
      ∨ ∃ sent ∈ fwd.sending, sent.sendTx = id := by
  rw [senders, List.mem_append, List.mem_map, List.mem_map]

theorem sender_of_lookup {key : FlowKey} {entry : FlowEntry}
    (found : fwd.flows.lookup key = some entry) : entry.sendTx ∈ fwd.senders :=
  mem_senders.mpr (Or.inl ⟨⟨key, entry⟩, AList.mem_lookup_iff.mp found, rfl⟩)

theorem Live.serves (live : Live fwd) : Serves fwd :=
  ⟨live.results, fun _ _ found => live.senders _ (sender_of_lookup found)⟩

theorem Runs.append (runs : Runs tasks id) (later : List TaskState) : Runs (tasks ++ later) id := by
  obtain ⟨task, found, running⟩ := runs
  have within := (List.getElem?_eq_some_iff.mp found).1
  exact ⟨task, (List.getElem?_append_left within).trans found, running⟩

/-- A task that moves on, and still runs. -/
theorem Runs.set (runs : Runs tasks id) {other : Nat} {task : TaskState}
    (running : other = id → task.running = true) : Runs (tasks.set other task) id := by
  obtain ⟨before, found, was⟩ := runs
  by_cases same : other = id
  · subst same
    have within := (List.getElem?_eq_some_iff.mp found).1
    exact ⟨task, List.getElem?_set_self within, running rfl⟩
  · exact ⟨before, (List.getElem?_set_ne same).trans found, was⟩

/-- `try_send` to a running task: the payload is on its queue, or the queue is full. -/
theorem trySend_of_running {task : TaskState} (running : task.running = true) (payload : Bytes) :
    ((task.trySend payload).1 = .queued
        ∧ (task.trySend payload).2 = { task with queue := task.queue ++ [payload] }
      ∨ (task.trySend payload).1 = .full ∧ (task.trySend payload).2 = task
        ∧ icmpSendQueue ≤ task.queue.length) := by
  unfold TaskState.trySend
  rw [if_neg (by rw [running]; exact Bool.noConfusion)]
  split
  · exact Or.inl ⟨rfl, rfl⟩
  · exact Or.inr ⟨rfl, rfl, Nat.le_of_not_lt ‹_›⟩

/-! ### A step -/

/-- **A request** is sent to a task that runs. -/
theorem Live.forwardLocked (live : Live fwd) (request : EchoRequest) :
    Live (fwd.forwardLocked request) := by
  unfold IcmpForwarder.forwardLocked
  cases found : fwd.flows.lookup request.key with
  | some entry =>
      refine ⟨live.results, fun id held => ?_⟩
      rw [mem_senders] at held
      obtain ⟨flow, member, rfl⟩ | ⟨sent, member, rfl⟩ := held
      · rw [AList.entries_insert, List.mem_cons] at member
        rcases member with rfl | member
        · show Runs fwd.tasks entry.sendTx
          exact live.senders _ (sender_of_lookup found)
        · exact live.senders _ (mem_senders.mpr
            (Or.inl ⟨flow, (List.kerase_sublist _ _).subset member, rfl⟩))
      · rcases List.mem_append.mp member with member | member
        · exact live.senders _ (mem_senders.mpr (Or.inr ⟨sent, member, rfl⟩))
        · rw [List.mem_singleton.mp member]
          exact live.senders _ (sender_of_lookup found)
  | none =>
      have started : ∀ task : TaskState, task.running = true →
          Runs (fwd.tasks ++ [task]) fwd.tasks.length := fun task running =>
        ⟨task, List.getElem?_concat_length, running⟩
      refine ⟨live.results, fun id held => ?_⟩
      rw [mem_senders] at held
      obtain ⟨flow, member, rfl⟩ | ⟨sent, member, rfl⟩ := held
      · rw [AList.entries_insert, List.mem_cons] at member
        rcases member with rfl | member
        · exact started _ rfl
        · exact (live.senders _ (mem_senders.mpr
            (Or.inl ⟨flow, (List.kerase_sublist _ _).subset member, rfl⟩))).append _
      · rcases List.mem_append.mp member with member | member
        · exact (live.senders _ (mem_senders.mpr (Or.inr ⟨sent, member, rfl⟩))).append _
        · rw [List.mem_singleton.mp member]
          exact started _ rfl

/-- A task moves on, and still runs if its sender is in use. -/
theorem Live.setTask (live : Live fwd) {task : TaskState}
    (running : id ∈ fwd.senders → task.running = true) : Live (fwd.setTask id task) :=
  ⟨live.results, fun other held => (live.senders other held).set fun same =>
    running (same ▸ held)⟩

/-- **A step** keeps every sender in use with a running task, unless it ends one of these. -/
theorem Live.step {action : ForwarderAction} (live : Live fwd) (unused : fwd.EndsUnused action)
    (stepped : machine.step fwd action = some next) : Live next := by
  unfold machine at stepped
  cases action with
  | packet raw =>
      dsimp only at stepped
      split at stepped
      · cases stepped
        exact live
      · cases stepped
        exact live.forwardLocked _
  | send index =>
      obtain ⟨sent, found, delivered⟩ := Option.bind_eq_some_iff.mp stepped
      obtain ⟨task, known, rfl⟩ := Option.map_eq_some_iff.mp delivered
      have member : sent ∈ fwd.sending := List.mem_of_getElem? found
      obtain ⟨task', known', running⟩ :=
        live.senders _ (mem_senders.mpr (Or.inr ⟨sent, member, rfl⟩))
      obtain rfl : task = task' := Option.some.inj (known.symm.trans known')
      have outcome := trySend_of_running running sent.payload
      have still : (task.trySend sent.payload).2.running = true := by
        obtain ⟨-, same⟩ | ⟨-, same, -⟩ := outcome
        · rw [same]
          exact running
        · rw [same]
          exact running
      refine ⟨?_, fun id held => ?_⟩
      · rw [List.mem_append, List.mem_singleton, not_or]
        refine ⟨live.results, fun closed => ?_⟩
        obtain ⟨queued, -⟩ | ⟨full, -⟩ := outcome
        · cases closed.trans queued
        · cases closed.trans full
      · refine (live.senders id ?_).set fun _ => still
        rw [mem_senders] at held ⊢
        exact held.imp_right fun ⟨other, among, same⟩ =>
          ⟨other, (List.eraseIdx_sublist _ _).subset among, same⟩
  | opened id =>
      obtain ⟨task, -, moved⟩ := Option.bind_eq_some_iff.mp stepped
      split at moved
      · cases moved
        exact live.setTask fun _ => rfl
      · cases moved
  | take id =>
      obtain ⟨task, -, moved⟩ := Option.bind_eq_some_iff.mp stepped
      split at moved
      · rename_i ready
        cases moved
        refine live.setTask fun _ => ?_
        show (match task.phase with | .ended _ => false | _ => true) = true
        rw [ready.1]
      · cases moved
  | exit id exit =>
      obtain ⟨task, -, moved⟩ := Option.bind_eq_some_iff.mp stepped
      split at moved
      · cases moved
        exact live.setTask fun held => absurd held unused
      · cases moved
  | gc =>
      cases stepped
      refine ⟨live.results, fun id held => live.senders id ?_⟩
      rw [mem_senders] at held ⊢
      exact held.imp_left fun ⟨entry, member, same⟩ =>
        ⟨entry, List.filter_sublist.subset member, same⟩
  | elapse time =>
      cases stepped
      exact ⟨live.results, live.senders⟩

theorem live_new : Live new := ⟨List.not_mem_nil, fun _ held => absurd held List.not_mem_nil⟩

/-! ### A flow whose task has ended -/

/-- **A request for a flow whose task has ended** refreshes the flow, and is dropped. -/
theorem swallowed {key : FlowKey} {entry : FlowEntry} {task : TaskState} {raw : Bytes}
    {request : EchoRequest} (found : fwd.flows.lookup key = some entry)
    (known : fwd.tasks[entry.sendTx]? = some task) (ended : task.running = false)
    (parsed : handlePacket raw = some request) (same : request.key = key) : ∃ next,
      machine.run fwd [.packet raw, .send fwd.sending.length] = some next
        ∧ next.results = fwd.results ++ [.closed] ∧ next.clock = fwd.clock
        ∧ next.flows.lookup key = some { entry with lastSeen := fwd.clock }
        ∧ next.tasks[entry.sendTx]? = some task := by
  subst same
  have dropped : task.trySend request.payload = (.closed, task) := if_pos ended
  have locked : fwd.forwardLocked request = { fwd with
      flows := fwd.flows.insert request.key { entry with lastSeen := fwd.clock }
      sending := fwd.sending ++ [⟨entry.sendTx, request.payload⟩] } := by
    rw [IcmpForwarder.forwardLocked, found]
  have within := (List.getElem?_eq_some_iff.mp known).1
  refine ⟨{ fwd with
    flows := fwd.flows.insert request.key { entry with lastSeen := fwd.clock }
    tasks := fwd.tasks.set entry.sendTx task
    sending := (fwd.sending ++ [Sending.mk entry.sendTx request.payload]).eraseIdx
      fwd.sending.length
    results := fwd.results ++ [.closed] }, ?_, rfl, rfl, AList.lookup_insert _,
    List.getElem?_set_self within⟩
  have first : machine.step fwd (.packet raw) = some (fwd.forwardLocked request) := by
    unfold machine
    dsimp only
    rw [parsed]
  rw [Machine.run_cons, first, Option.bind_some, Machine.run_cons, locked]
  unfold machine
  dsimp only
  rw [List.getElem?_concat_length, Option.bind_some]
  dsimp only
  rw [known, Option.map_some, dropped]
  rfl

/-- **The forwarder serves its requests** in every run in which a task ends only when its flow has
left the table and no request for it is under way. In any run, a request that finds a flow whose
task has ended is swallowed, and keeps the flow in the table. -/
theorem forwarder_serves {actions : List ForwarderAction} {final : IcmpForwarder}
    (reached : machine.run new actions = some final) :
    (machine.Meets EndsUnused new actions → Serves final)
      ∧ ∀ (raw : Bytes) (request : EchoRequest) (entry : FlowEntry),
        handlePacket raw = some request → final.flows.lookup request.key = some entry →
        (∃ task, final.tasks[entry.sendTx]? = some task ∧ task.running = false) →
        ∃ next, machine.run final [.packet raw, .send final.sending.length] = some next
          ∧ next.results = final.results ++ [.closed]
          ∧ next.flows.lookup request.key = some { entry with lastSeen := final.clock } := by
  constructor
  · intro unused
    exact (Machine.run_invariant_of_meets (fun live ends stepped => Live.step live ends stepped)
      live_new unused reached).serves
  · intro raw request entry parsed found ended
    obtain ⟨task, known, stopped⟩ := ended
    obtain ⟨next, sent, results, -, refreshed, -⟩ := swallowed found known stopped parsed rfl
    exact ⟨next, sent, results, refreshed⟩

/-- An Echo Request from 198.18.0.2 to 8.8.8.8. -/
def sampleRequest : Bytes :=
  [0x45, 0, 0, 28, 0, 0, 0, 0, 64, 1, 0, 0, 198, 18, 0, 2, 8, 8, 8, 8, 8, 0, 0xf7, 0xf7, 0, 7, 0, 1]

/-- Two requests of one flow, whose task runs. -/
def sampleServed : List ForwarderAction :=
  [.packet sampleRequest, .opened 0, .send 0, .take 0, .packet sampleRequest, .gc, .send 0]

theorem forwarder_serves_sampleServed : ∃ final, machine.run new sampleServed = some final
    ∧ Serves final := by
  obtain ⟨final, reached⟩ : ∃ final, machine.run new sampleServed = some final := ⟨_, rfl⟩
  exact ⟨final, reached, (forwarder_serves reached).1 (by decide +kernel)⟩

/-- **Without the right to open a socket** every request is swallowed, however long they keep
coming. -/
theorem requests_swallowed : ∃ final,
    machine.run new [.packet sampleRequest, .exit 0 .openSocket, .send 0,
        .elapse 29000000000, .packet sampleRequest, .send 0, .gc,
        .elapse 29000000000, .packet sampleRequest, .send 0, .gc] = some final
      ∧ final.results = [.closed, .closed, .closed] := by
  refine ⟨_, rfl, ?_⟩
  decide +kernel

end IcmpForwarder

end RsTun.Icmp
