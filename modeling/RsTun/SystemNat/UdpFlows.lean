/-
**UDP sessions over time: the table, its collection, and the reply tasks.**

Every datagram that is delivered carries a clone of its session's sender, and the host may send
replies with it as long as it keeps one. A reply task takes them in turn and writes them to the TUN,
and ends when no sender is left: neither that of the entry, which the collection removes, nor one of
the host. `dispatch_udp` and the `udp_dispatch` loops over smoltcp differ in how a reply is built,
which is a parameter here.

* `UdpFlows.replies_reach_clients` — in every run the replies of a session are written in the order
  in which they were sent, each once, by a task of the client that its datagrams came from; and a
  task whose session the host still holds has not ended.
* `UdpFlows.session_kept` — two datagrams of a pair share a session, whatever is collected between
  them, if less than the timeout has passed since the first.
-/

import RsTun.Library.Bounded
import RsTun.Library.Machine
import RsTun.SystemNat.DispatchUdp

namespace RsTun.SystemNat

open Library Library.Bytes Packet

/-- What the host sends with a session: the data, the client, and the address that is to be the
source. -/
structure UdpReply where
  payload : Bytes
  clientSrc : SocketAddr
  serverSrc : SocketAddr
  deriving DecidableEq

/-- The size of a reply channel. -/
def replyQueueSize : Nat := 64

/-- Whether a reply task still runs. -/
inductive TaskStatus where
  | running
  | ended
  /-- Building a reply has panicked. -/
  | panicked
  deriving DecidableEq

/-- A reply task at work. `wrote` is a record of the replies it took, with what it wrote for each.
-/
structure TaskState where
  queue : Bounded UdpReply replyQueueSize
  status : TaskStatus
  wrote : List (UdpReply × List MtuWrite)

/-- A task that was just spawned. -/
def TaskState.new : TaskState := ⟨.empty, .running, []⟩

/-- How a reply task builds its packet. -/
abbrev ReplyBuilder := ReplyTask → SocketAddr → Bytes → Checked Empty (Option Bytes)

/-- The reply task of `dispatch_udp`: from the template, or else anew. -/
def dispatchUdpReply : ReplyBuilder := fun task serverSrc payload =>
  replyPacket task.headerTemplate serverSrc task.src payload

/-- The reply task of the `udp_dispatch` loops of `run_gvisor` and `run_mixed`. -/
def udpDispatchReply : ReplyBuilder := fun task serverSrc payload =>
  buildUdpReplyPacket serverSrc task.src payload

/-- What a task writes for a reply, unless it panics. -/
def ReplyTask.write (build : ReplyBuilder) (task : ReplyTask) (reply : UdpReply) :
    Checked Empty (List MtuWrite) := do
  match ← build task reply.serverSrc reply.payload with
  | some pkt => return tunWriteMtu pkt task.replyMtu (isV6 reply.serverSrc)
  | none => return []

/-- The sessions, the reply tasks, and the clones of senders that the host holds. `pairs` and
`delivered` are a record: the pair that each task was spawned for, and the datagrams that were
delivered. -/
structure UdpFlows where
  sessions : UdpSessions
  tasks : Nat → TaskState
  holders : List Nat
  clock : Nat
  pairs : List (SocketAddr × SocketAddr)
  delivered : List InboundUdpPacket

namespace UdpFlows

/-- A loop that has seen no datagram. -/
def new : UdpFlows := ⟨⟨fun _ => none, []⟩, fun _ => .new, [], 0, [], []⟩

variable (flows : UdpFlows)

/-- The GC task: `retain(|_, v| v.last_seen.elapsed() < timeout)`. -/
def collect (timeout : Nat) : UdpFlows :=
  { flows with sessions := { flows.sessions with
      entries := fun key => (flows.sessions.entries key).filter fun entry =>
        decide (flows.clock - entry.lastSeen < timeout) } }

/-- The entry of the pair that the task was spawned for has a sender of it. -/
def hasEntry (session : Nat) : Bool :=
  (flows.pairs[session]?).any fun pair =>
    (flows.sessions.entries pair).any fun entry => entry.replyTx == session

/-- The state of one task changes. -/
def setTask (session : Nat) (task : TaskState) : UdpFlows :=
  { flows with tasks := Function.update flows.tasks session task }

/-- What can happen. -/
inductive Action where
  /-- A datagram comes, and is dispatched. -/
  | datagram (src dst : SocketAddr) (data ipUdpHeader : Bytes)
  | collect
  | elapse (duration : Nat)
  /-- The host sends a reply. -/
  | reply (session : Nat) (reply : UdpReply)
  | clone (session : Nat)
  | release (session : Nat)
  /-- The reply task of a session takes a reply. -/
  | take (session : Nat)
  | finish (session : Nat)

/-- A reply task takes a reply and writes it. -/
def takeReply (build : ReplyBuilder) (session : Nat) : Option UdpFlows :=
  match flows.sessions.tasks[session]?, (flows.tasks session).queue.receive with
  | some task, some (some reply, queue) =>
      match task.write build reply with
      | .ok writes => some (flows.setTask session
          { flows.tasks session with
            queue, wrote := (flows.tasks session).wrote ++ [(reply, writes)] })
      | .error _ => some (flows.setTask session
          { flows.tasks session with queue := queue.closeReceiver, status := .panicked })
  | _, _ => none

/-- The record behind a dispatch. -/
def dispatched (src dst : SocketAddr) (done : Dispatched) : UdpFlows :=
  { flows with
    sessions := done.sessions
    holders := flows.holders ++ done.sent.map InboundUdpPacket.session
    pairs := flows.pairs
      ++ List.replicate (done.sessions.tasks.length - flows.sessions.tasks.length) (src, dst)
    delivered := flows.delivered ++ done.sent }

/-- One step. A dispatch that awaits its answer holds the loop up, and a reply waits for room. -/
def step (build : ReplyBuilder) (context : UdpContext) (timeout : Nat) : Action → Option UdpFlows
  | .datagram src dst data ipUdpHeader =>
      match dispatchUdp context flows.sessions src dst data ipUdpHeader flows.clock with
      | .ok (.returned done) => some (flows.dispatched src dst done)
      | _ => none
  | .collect => some (flows.collect timeout)
  | .elapse duration => some { flows with clock := flows.clock + duration }
  | .reply session reply =>
      if session ∈ flows.holders then
        match (flows.tasks session).queue.trySend reply with
        | .ok queue => some (flows.setTask session { flows.tasks session with queue })
        | .error _ => none
      else none
  | .clone session =>
      if session ∈ flows.holders then some { flows with holders := session :: flows.holders }
      else none
  | .release session => some { flows with holders := flows.holders.erase session }
  | .take session =>
      if (flows.tasks session).status = .running then flows.takeReply build session else none
  | .finish session =>
      if (flows.tasks session).status = .running ∧ (flows.tasks session).queue.waiting = []
          ∧ session < flows.sessions.tasks.length
          ∧ session ∉ flows.holders ∧ flows.hasEntry session = false then
        some (flows.setTask session { flows.tasks session with status := .ended })
      else none

/-- The sessions as a machine. -/
def machine (build : ReplyBuilder) (context : UdpContext) (timeout : Nat) :
    Machine UdpFlows Action where
  step flows := step flows build context timeout

variable {flows} {next : UdpFlows}

/-! ### The account -/

/-- **The tasks, the entries and the clones belong together.** -/
structure Kept (build : ReplyBuilder) (flows : UdpFlows) : Prop where
  pairs : flows.pairs.length = flows.sessions.tasks.length
  own : ∀ {session : Nat} {pair : SocketAddr × SocketAddr}, flows.pairs[session]? = some pair →
    ∃ task, flows.sessions.tasks[session]? = some task ∧ task.src = pair.1
  entry : ∀ {key : SocketAddr × SocketAddr} {entry : UdpEntry},
    flows.sessions.entries key = some entry →
    flows.pairs[entry.replyTx]? = some key
  delivered : ∀ packet ∈ flows.delivered,
    flows.pairs[packet.session]? = some (packet.src, packet.target)
  holders : ∀ session ∈ flows.holders, session < flows.sessions.tasks.length
  fresh : ∀ session, flows.sessions.tasks.length ≤ session → flows.tasks session = .new
  ended : ∀ session, (flows.tasks session).status = .ended →
    session ∉ flows.holders ∧ flows.hasEntry session = false
  wrote : ∀ session, (flows.tasks session).status ≠ .panicked →
    (flows.tasks session).queue.received = (flows.tasks session).wrote.map Prod.fst
  writes : ∀ session, ∀ entry ∈ (flows.tasks session).wrote,
    ∃ task, flows.sessions.tasks[session]? = some task
      ∧ task.write build entry.1 = .ok entry.2

variable {build : ReplyBuilder} {context : UdpContext} {timeout : Nat}

theorem Kept.new : Kept build new where
  pairs := rfl
  own := nofun
  entry := nofun
  delivered := nofun
  holders := nofun
  fresh := fun _ _ => rfl
  ended := nofun
  wrote := fun _ _ => rfl
  writes := nofun

/-- An entry is there exactly where its pair was spawned for. -/
theorem Kept.hasEntry_iff (kept : Kept build flows) {session : Nat} :
    flows.hasEntry session = true
      ↔ ∃ key entry, flows.sessions.entries key = some entry ∧ entry.replyTx = session := by
  unfold hasEntry
  rw [Option.any_eq_true]
  constructor
  · rintro ⟨pair, -, found⟩
    obtain ⟨entry, here, same⟩ := (Option.any_eq_true _ _).mp found
    exact ⟨pair, entry, here, beq_iff_eq.mp same⟩
  · rintro ⟨key, entry, here, rfl⟩
    exact ⟨key, kept.entry here, (Option.any_eq_true _ _).mpr ⟨entry, here, beq_self_eq_true _⟩⟩

/-- **What a dispatch does to the sessions**: nothing, or the session of the pair is entered. -/
theorem dispatch_cases {sessions : UdpSessions} {src dst : SocketAddr} {data ipUdpHeader : Bytes}
    {now : Nat} {done : Dispatched}
    (returned : dispatchUdp context sessions src dst data ipUdpHeader now
      = .ok (.returned done)) :
    done.sessions = sessions ∧ done.sent = []
      ∨ done.sessions = (sessions.enter (src, dst) ipUdpHeader context.mtu now).1
        ∧ (done.sent = [] ∨ done.sent = [⟨data, src, dst, context.tag,
          (sessions.enter (src, dst) ipUdpHeader context.mtu now).2⟩]) := by
  unfold dispatchUdp at returned
  split at returned
  case h_1 replySender _ =>
      cases replySender with
      | answers response =>
          obtain ⟨built, -, later⟩ := Checked.bind_eq_ok.mp returned
          cases built <;> cases later <;> exact .inl ⟨rfl, rfl⟩
      | dropped =>
          cases returned
          exact .inl ⟨rfl, rfl⟩
      | kept => cases returned
  case h_2 =>
      cases returned
      refine .inr ⟨rfl, ?_⟩
      unfold deliverUdp
      cases context.udpTxOpen with
      | true => exact .inr rfl
      | false => exact .inl rfl

/-- **What entering a session does**: it refreshes the entry, or spawns a task. -/
theorem enter_cases {sessions entered : UdpSessions} {key : SocketAddr × SocketAddr}
    {ipUdpHeader : Bytes} {mtu now session : Nat}
    (enters : sessions.enter key ipUdpHeader mtu now = (entered, session)) :
    entered.entries = Function.update sessions.entries key (some ⟨session, now⟩)
      ∧ (entered.tasks = sessions.tasks
          ∧ (∃ entry, sessions.entries key = some entry ∧ entry.replyTx = session)
        ∨ entered.tasks = sessions.tasks ++ [⟨key.1, ipUdpHeader, mtu⟩]
          ∧ session = sessions.tasks.length ∧ sessions.entries key = none) := by
  unfold UdpSessions.enter at enters
  cases known : sessions.entries key with
  | some entry =>
      rw [known] at enters
      cases enters
      exact ⟨rfl, .inl ⟨rfl, entry, rfl, rfl⟩⟩
  | none =>
      rw [known] at enters
      cases enters
      exact ⟨rfl, .inr ⟨rfl, rfl, rfl⟩⟩

/-- What is found behind an update. -/
theorem found_of_update {entries : SocketAddr × SocketAddr → Option UdpEntry}
    {key other : SocketAddr × SocketAddr} {new found : UdpEntry}
    (updated : Function.update entries key (some new) other = some found) :
    other = key ∧ found = new ∨ other ≠ key ∧ entries other = some found := by
  by_cases same : other = key
  · rw [same, Function.update_self] at updated
    exact .inl ⟨same, (Option.some.inj updated).symm⟩
  · rw [Function.update_of_ne same] at updated
    exact .inr ⟨same, updated⟩

/-- What the account needs of the table, with the tasks that there are: a task for each pair, and
for each entry the pair of its task. -/
structure Matched (sessions : UdpSessions) (pairs : List (SocketAddr × SocketAddr)) : Prop where
  length : pairs.length = sessions.tasks.length
  own : ∀ {session : Nat} {pair : SocketAddr × SocketAddr}, pairs[session]? = some pair →
    ∃ task, sessions.tasks[session]? = some task ∧ task.src = pair.1
  entry : ∀ {key : SocketAddr × SocketAddr} {entry : UdpEntry},
    sessions.entries key = some entry → pairs[entry.replyTx]? = some key

/-- **Entering a session keeps the table matched**, with a pair more if a task was spawned; and the
session is of the pair. -/
theorem Matched.enter {sessions entered : UdpSessions} {pairs : List (SocketAddr × SocketAddr)}
    (matched : Matched sessions pairs) {key : SocketAddr × SocketAddr} {ipUdpHeader : Bytes}
    {mtu now session : Nat} (enters : sessions.enter key ipUdpHeader mtu now = (entered, session)) :
    Matched entered
        (pairs ++ List.replicate (entered.tasks.length - sessions.tasks.length) key)
      ∧ sessions.tasks <+: entered.tasks
      ∧ (pairs ++ List.replicate (entered.tasks.length - sessions.tasks.length) key)[session]?
        = some key := by
  obtain ⟨entries, ⟨tasks, entry, known, here⟩ | ⟨tasks, here, -⟩⟩ := enter_cases enters
  · rw [tasks, Nat.sub_self, List.replicate_zero, List.append_nil]
    have at_ : pairs[session]? = some key := here ▸ matched.entry known
    refine ⟨⟨tasks ▸ matched.length, tasks ▸ matched.own, fun found => ?_⟩, List.prefix_refl _, at_⟩
    rw [entries] at found
    obtain ⟨rfl, rfl⟩ | ⟨-, before⟩ := found_of_update found
    · exact at_
    · exact matched.entry before
  · have one : entered.tasks.length - sessions.tasks.length = 1 := by
      rw [tasks, List.length_append]
      exact Nat.add_sub_cancel_left _ 1
    have at_ : (pairs ++ [key])[session]? = some key := by
      rw [here, ← matched.length]
      exact List.getElem?_concat_length
    have long : ∀ {other : Nat} {pair : SocketAddr × SocketAddr}, pairs[other]? = some pair →
        (pairs ++ [key])[other]? = some pair := fun found =>
      (List.getElem?_append_left (List.getElem?_eq_some_iff.mp found).1).trans found
    rw [one]
    refine ⟨⟨?_, @fun other pair found => ?_, fun found => ?_⟩, tasks ▸ List.prefix_append _ _, at_⟩
    · rw [tasks, List.length_append, List.length_append, matched.length]
      rfl
    · rw [tasks]
      rcases Nat.lt_or_ge other pairs.length with low | high
      · rw [List.getElem?_append_left low] at found
        obtain ⟨task, kept, own⟩ := matched.own found
        exact ⟨task, (List.getElem?_append_left (matched.length ▸ low)).trans kept, own⟩
      · have last : other = sessions.tasks.length := by
          have bound := (List.getElem?_eq_some_iff.mp found).1
          rw [List.length_append, List.length_replicate] at bound
          rw [← matched.length]
          omega
        rw [last, ← here] at found
        obtain rfl := Option.some.inj (at_.symm.trans found)
        rw [last]
        exact ⟨_, List.getElem?_concat_length, rfl⟩
    · rw [entries] at found
      obtain ⟨rfl, rfl⟩ | ⟨-, before⟩ := found_of_update found
      · exact at_
      · exact long (matched.entry before)

theorem Kept.matched (kept : Kept build flows) : Matched flows.sessions flows.pairs :=
  ⟨kept.pairs, kept.own, kept.entry⟩

/-- **The table may grow by one session**, of a task that has not ended, and shrink. -/
theorem Kept.grow (kept : Kept build flows) {sessions : UdpSessions}
    {pairs : List (SocketAddr × SocketAddr)} {holders : List Nat}
    {delivered : List InboundUdpPacket} {session : Nat} (matched : Matched sessions pairs)
    (tasks : flows.sessions.tasks <+: sessions.tasks) (before : flows.pairs <+: pairs)
    (live : (flows.tasks session).status ≠ .ended)
    (entries : ∀ key entry, sessions.entries key = some entry →
      entry.replyTx = session ∨ flows.hasEntry entry.replyTx = true)
    (held : ∀ other ∈ holders, other ∈ flows.holders
      ∨ other = session ∧ session < sessions.tasks.length)
    (given : ∀ packet ∈ delivered, packet ∈ flows.delivered
      ∨ pairs[packet.session]? = some (packet.src, packet.target)) :
    Kept build { flows with sessions, pairs, holders, delivered } := by
  have bound := tasks.length_le
  have long : ∀ {other : Nat} {pair : SocketAddr × SocketAddr}, flows.pairs[other]? = some pair →
      pairs[other]? = some pair := fun found => by
    obtain ⟨rest, rfl⟩ := before
    exact (List.getElem?_append_left (List.getElem?_eq_some_iff.mp found).1).trans found
  refine ⟨matched.length, matched.own, matched.entry, fun packet among => ?_, fun other among => ?_,
    fun other above => kept.fresh other (Nat.le_trans bound above), fun other ended => ?_,
    kept.wrote,
    fun other entry among => ?_⟩
  · exact (given packet among).elim (fun known => long (kept.delivered packet known)) id
  · obtain known | ⟨rfl, inside⟩ := held other among
    · exact Nat.lt_of_lt_of_le (kept.holders other known) bound
    · exact inside
  · obtain ⟨unheld, noEntry⟩ := kept.ended other ended
    have apart : other ≠ session := fun same => live (same ▸ ended)
    refine ⟨fun among => (held other among).elim unheld fun here => apart here.1, ?_⟩
    rw [Bool.eq_false_iff]
    intro found
    obtain ⟨pair, -, here⟩ := (Option.any_eq_true _ _).mp found
    obtain ⟨entry, known, same⟩ := (Option.any_eq_true _ _).mp here
    obtain rfl := beq_iff_eq.mp same
    obtain same | old := entries pair entry known
    · exact apart same
    · rw [noEntry] at old
      cases old
  · obtain ⟨task, here, wrote⟩ := kept.writes other entry among
    obtain ⟨rest, tasks⟩ := tasks
    exact ⟨task, by
      show sessions.tasks[other]? = some task
      rw [← tasks]
      exact (List.getElem?_append_left (List.getElem?_eq_some_iff.mp here).1).trans here, wrote⟩

/-- A task that has not been spawned has not ended. -/
theorem Kept.unspawned (kept : Kept build flows) :
    (flows.tasks flows.sessions.tasks.length).status ≠ .ended := by
  rw [kept.fresh _ (Nat.le_refl _)]
  exact nofun

/-- An entry's task has not ended. -/
theorem Kept.live (kept : Kept build flows) {key : SocketAddr × SocketAddr} {entry : UdpEntry}
    (known : flows.sessions.entries key = some entry) :
    flows.hasEntry entry.replyTx = true ∧ (flows.tasks entry.replyTx).status ≠ .ended := by
  have found := kept.hasEntry_iff.mpr ⟨key, entry, known, rfl⟩
  refine ⟨found, fun ended => ?_⟩
  rw [(kept.ended _ ended).2] at found
  cases found

/-- **A datagram keeps the account.** -/
theorem Kept.datagram (kept : Kept build flows) {src dst : SocketAddr} {data ipUdpHeader : Bytes}
    {done : Dispatched}
    (returned : dispatchUdp context flows.sessions src dst data ipUdpHeader flows.clock
      = .ok (.returned done)) : Kept build (flows.dispatched src dst done) := by
  obtain ⟨same, none⟩ | ⟨enters, sent⟩ := dispatch_cases returned
  · unfold dispatched
    rw [same, none, Nat.sub_self]
    refine kept.grow ?_ (List.prefix_refl _) (List.prefix_append _ _) kept.unspawned
      (fun key entry known => .inr (kept.live known).1) (fun other among => .inl ?_)
      (fun packet among => .inl ?_)
    · rw [List.replicate_zero, List.append_nil]
      exact kept.matched
    · exact (List.append_nil flows.holders) ▸ among
    · exact (List.append_nil flows.delivered) ▸ among
  · rcases named : flows.sessions.enter (src, dst) ipUdpHeader context.mtu flows.clock
      with ⟨entered, session⟩
    rw [named] at enters sent
    obtain ⟨matched, tasks, at_⟩ := kept.matched.enter named
    obtain ⟨update, spawned⟩ := enter_cases named
    have live : (flows.tasks session).status ≠ .ended := by
      obtain ⟨-, entry, known, rfl⟩ | ⟨-, rfl, -⟩ := spawned
      · exact (kept.live known).2
      · exact kept.unspawned
    have inside : session < entered.tasks.length :=
      matched.length ▸ (List.getElem?_eq_some_iff.mp at_).1
    unfold dispatched
    rw [enters]
    refine kept.grow matched tasks (List.prefix_append _ _) live (fun key entry found => ?_)
      (fun other among => ?_) (fun packet among => ?_)
    · rw [update] at found
      obtain ⟨-, rfl⟩ | ⟨-, known⟩ := found_of_update found
      · exact .inl rfl
      · exact .inr (kept.live known).1
    · obtain known | fresh := List.mem_append.mp among
      · exact .inl known
      · obtain none | one := sent
        · rw [none] at fresh
          cases fresh
        · rw [one] at fresh
          exact .inr ⟨List.mem_singleton.mp fresh, inside⟩
    · obtain known | fresh := List.mem_append.mp among
      · exact .inl known
      · obtain none | one := sent
        · rw [none] at fresh
          cases fresh
        · rw [one] at fresh
          rw [List.mem_singleton.mp fresh]
          exact .inr at_

/-- What holds of the tasks, and of the new state of one, holds of them all. -/
theorem forall_setTask {session : Nat} {state : TaskState} (property : Nat → TaskState → Prop)
    (here : property session state) (rest : ∀ other, property other (flows.tasks other))
    (other : Nat) : property other ((flows.setTask session state).tasks other) := by
  show property other (Function.update flows.tasks session state other)
  by_cases same : other = session
  · rw [same, Function.update_self]
    exact here
  · rw [Function.update_of_ne same]
    exact rest other

/-- **One task goes on.** -/
theorem Kept.setTask (kept : Kept build flows) {session : Nat} {state : TaskState}
    (inside : session < flows.sessions.tasks.length)
    (ended : state.status = .ended → session ∉ flows.holders ∧ flows.hasEntry session = false)
    (wrote : state.status ≠ .panicked → state.queue.received = state.wrote.map Prod.fst)
    (writes : ∀ entry ∈ state.wrote, ∃ task, flows.sessions.tasks[session]? = some task
      ∧ task.write build entry.1 = .ok entry.2) :
    Kept build (flows.setTask session state) := by
  refine ⟨kept.pairs, kept.own, kept.entry, kept.delivered, kept.holders, fun other above => ?_,
    forall_setTask (fun other state => state.status = .ended → other ∉ flows.holders
      ∧ flows.hasEntry other = false) ended kept.ended,
    forall_setTask (fun _ state => state.status ≠ .panicked →
      state.queue.received = state.wrote.map Prod.fst) wrote kept.wrote,
    forall_setTask (fun other state => ∀ entry ∈ state.wrote,
      ∃ task, flows.sessions.tasks[other]? = some task ∧ task.write build entry.1 = .ok entry.2)
      writes kept.writes⟩
  refine (Function.update_of_ne ?_ _ _).trans (kept.fresh other above)
  exact Nat.ne_of_gt (Nat.lt_of_lt_of_le inside above)

/-- **Every step keeps the account.** -/
theorem Kept.step {action : Action} (kept : Kept build flows)
    (stepped : flows.step build context timeout action = some next) : Kept build next := by
  cases action with
  | datagram src dst data ipUdpHeader =>
      rw [UdpFlows.step] at stepped
      split at stepped
      case h_1 done returned =>
          cases stepped
          exact kept.datagram returned
      case h_2 => cases stepped
  | collect =>
      cases stepped
      have matched : Matched (flows.collect timeout).sessions flows.pairs :=
        ⟨kept.pairs, kept.own, fun found => kept.entry (Option.filter_eq_some_iff.mp found).1⟩
      exact kept.grow matched (List.prefix_refl _) (List.prefix_refl _) kept.unspawned
        (fun key entry found => .inr (kept.live (Option.filter_eq_some_iff.mp found).1).1)
        (fun other among => .inl among) (fun packet among => .inl among)
  | elapse duration =>
      cases stepped
      exact ⟨kept.pairs, kept.own, kept.entry, kept.delivered, kept.holders, kept.fresh, kept.ended,
        kept.wrote, kept.writes⟩
  | reply session reply =>
      rw [UdpFlows.step] at stepped
      split at stepped
      case isTrue held =>
          split at stepped
          case h_1 queue sent =>
              cases stepped
              obtain ⟨-, -, received, -⟩ := Bounded.trySend_cases sent
              exact kept.setTask (kept.holders session held) (kept.ended session)
                (fun well => received.trans (kept.wrote session well)) (kept.writes session)
          case h_2 => cases stepped
      case isFalse => cases stepped
  | clone session =>
      rw [UdpFlows.step] at stepped
      split at stepped
      case isTrue held =>
          cases stepped
          refine kept.grow kept.matched (List.prefix_refl _) (List.prefix_refl _) kept.unspawned
            (fun key entry found => .inr (kept.live found).1) (fun other among => .inl ?_)
            (fun packet among => .inl among)
          obtain rfl | known := List.mem_cons.mp among
          · exact held
          · exact known
      case isFalse => cases stepped
  | release session =>
      cases stepped
      exact kept.grow kept.matched (List.prefix_refl _) (List.prefix_refl _) kept.unspawned
        (fun key entry found => .inr (kept.live found).1)
        (fun other among => .inl (List.mem_of_mem_erase among)) (fun packet among => .inl among)
  | take session =>
      rw [UdpFlows.step] at stepped
      split at stepped
      case isTrue running =>
          unfold takeReply at stepped
          split at stepped
          case h_1 task reply queue spawned received =>
              have inside := (List.getElem?_eq_some_iff.mp spawned).1
              obtain ⟨item, rest, -, same, took, -⟩ | ⟨-, nothing, -⟩ :=
                Bounded.receive_cases received
              · cases same
                split at stepped
                case h_1 writes written =>
                    cases stepped
                    refine kept.setTask inside (fun ended => ?_) (fun well => ?_)
                      fun entry among => ?_
                    · rw [show _ = (flows.tasks session).status from rfl, running] at ended
                      cases ended
                    · rw [took, kept.wrote session well, List.map_append]
                      rfl
                    · obtain known | last := List.mem_append.mp among
                      · exact kept.writes session entry known
                      · rw [List.mem_singleton.mp last]
                        exact ⟨task, spawned, written⟩
                case h_2 =>
                    cases stepped
                    exact kept.setTask inside nofun (fun well => absurd rfl well)
                      (kept.writes session)
              · cases nothing
          case h_2 => cases stepped
      case isFalse => cases stepped
  | finish session =>
      rw [UdpFlows.step] at stepped
      split at stepped
      case isTrue enabled =>
          cases stepped
          obtain ⟨running, -, inside, unheld, noEntry⟩ := enabled
          refine kept.setTask inside (fun _ => ⟨unheld, noEntry⟩) (fun _ => ?_)
            (kept.writes session)
          exact kept.wrote session (by rw [running]; exact nofun)
      case isFalse => cases stepped

/-! ### Replies -/

/-- The reply that an action sends with a session. -/
def Action.repliesTo (session : Nat) : Action → List UdpReply
  | .reply other sent => if other = session then [sent] else []
  | _ => []

/-- A queue takes what is sent with its session, and nothing else. -/
theorem step_sent {action : Action} (session : Nat)
    (stepped : flows.step build context timeout action = some next) :
    (next.tasks session).queue.sent
      = (flows.tasks session).queue.sent ++ action.repliesTo session := by
  have unchanged : (next.tasks session).queue.sent = (flows.tasks session).queue.sent →
      action.repliesTo session = [] → (next.tasks session).queue.sent
        = (flows.tasks session).queue.sent ++ action.repliesTo session := fun same none => by
    rw [same, none, List.append_nil]
  have one : ∀ {other : Nat} {state : TaskState}, next = flows.setTask other state →
      state.queue.sent = (flows.tasks other).queue.sent →
      (next.tasks session).queue.sent = (flows.tasks session).queue.sent := by
    rintro other state rfl same
    show (Function.update flows.tasks other state session).queue.sent = _
    by_cases here : session = other
    · rw [here, Function.update_self, same]
    · rw [Function.update_of_ne here]
  cases action with
  | datagram src dst data ipUdpHeader =>
      rw [UdpFlows.step] at stepped
      split at stepped
      · cases stepped
        exact unchanged rfl rfl
      · cases stepped
  | collect | elapse duration | release other =>
      cases stepped
      exact unchanged rfl rfl
  | clone other =>
      rw [UdpFlows.step] at stepped
      split at stepped
      · cases stepped
        exact unchanged rfl rfl
      · cases stepped
  | reply other reply =>
      rw [UdpFlows.step] at stepped
      split at stepped
      · split at stepped
        case h_1 queue sent =>
            cases stepped
            obtain ⟨-, -, received, waiting, -⟩ := Bounded.trySend_cases sent
            show (Function.update flows.tasks other { flows.tasks other with queue }
                session).queue.sent
              = _ ++ if other = session then [reply] else []
            by_cases here : session = other
            · subst here
              rw [Function.update_self, if_pos rfl, Bounded.sent, Bounded.sent, received, waiting,
                List.append_assoc]
            · rw [Function.update_of_ne here, if_neg (Ne.symm here), List.append_nil]
        case h_2 => cases stepped
      · cases stepped
  | take other =>
      rw [UdpFlows.step] at stepped
      split at stepped
      · unfold takeReply at stepped
        split at stepped
        case h_1 task reply queue spawned received =>
            have same : queue.sent = (flows.tasks other).queue.sent := by
              obtain ⟨item, rest, waits, same, took, left, -⟩ | ⟨-, nothing, -⟩ :=
                Bounded.receive_cases received
              · cases same
                rw [Bounded.sent, Bounded.sent, took, left, waits, List.append_assoc]
                rfl
              · cases nothing
            split at stepped
            · cases stepped
              exact unchanged (one rfl same) rfl
            · cases stepped
              exact unchanged (one rfl same) rfl
        case h_2 => cases stepped
      · cases stepped
  | finish other =>
      rw [UdpFlows.step] at stepped
      split at stepped
      · cases stepped
        exact unchanged (one rfl rfl) rfl
      · cases stepped

/-- **Replies reach their clients.** In every run the task of a delivered datagram's session is of
the client that sent the datagram, and what it has written it built for that client from replies of
the session, in the order in which they were sent, each once; those that it has not taken wait,
unless it panicked; and while the host holds a session its task has not ended. -/
theorem replies_reach_clients {actions : List Action} {final : UdpFlows}
    (reached : (machine build context timeout).run new actions = some final) :
    (∀ packet ∈ final.delivered, ∃ task, final.sessions.tasks[packet.session]? = some task
        ∧ task.src = packet.src
        ∧ ∀ entry ∈ (final.tasks packet.session).wrote, task.write build entry.1 = .ok entry.2)
      ∧ (∀ session, (final.tasks session).status ≠ .panicked →
        (final.tasks session).wrote.map Prod.fst ++ (final.tasks session).queue.waiting
          = actions.flatMap (Action.repliesTo session))
      ∧ ∀ session ∈ final.holders, (final.tasks session).status ≠ .ended := by
  have kept : Kept build final :=
    Machine.run_invariant (fun before enabled => before.step enabled) Kept.new reached
  refine ⟨fun packet among => ?_, fun session well => ?_, fun session held ended =>
    (kept.ended session ended).1 held⟩
  · obtain ⟨task, spawned, own⟩ := kept.own (kept.delivered packet among)
    refine ⟨task, spawned, own, fun entry wrote => ?_⟩
    obtain ⟨other, same, written⟩ := kept.writes packet.session entry wrote
    obtain rfl := Option.some.inj (spawned.symm.trans same)
    exact written
  · rw [← kept.wrote session well]
    exact @Machine.run_record _ _ (machine build context timeout) _ (fun _ => True)
      (fun flows => (flows.tasks session).queue.sent) (Action.repliesTo session)
      (fun _ _ => trivial) (fun _ enabled => step_sent session enabled) _ _ _ trivial reached

/-! ### Sessions -/

/-- What a step does to the table and to the clock. -/
theorem step_table {action : Action}
    (stepped : flows.step build context timeout action = some next) :
    (∃ src dst data ipUdpHeader done,
        dispatchUdp context flows.sessions src dst data ipUdpHeader flows.clock
          = .ok (.returned done) ∧ next = flows.dispatched src dst done)
      ∨ next = flows.collect timeout
      ∨ next.sessions = flows.sessions ∧ flows.clock ≤ next.clock := by
  cases action with
  | datagram src dst data ipUdpHeader =>
      rw [UdpFlows.step] at stepped
      split at stepped
      case h_1 done returned =>
          cases stepped
          exact .inl ⟨src, dst, data, ipUdpHeader, done, returned, rfl⟩
      case h_2 => cases stepped
  | collect =>
      cases stepped
      exact .inr (.inl rfl)
  | elapse duration =>
      cases stepped
      exact .inr (.inr ⟨rfl, Nat.le_add_right _ _⟩)
  | release other =>
      cases stepped
      exact .inr (.inr ⟨rfl, Nat.le_refl _⟩)
  | clone other | finish other =>
      rw [UdpFlows.step] at stepped
      split at stepped
      · cases stepped
        exact .inr (.inr ⟨rfl, Nat.le_refl _⟩)
      · cases stepped
  | reply other reply =>
      rw [UdpFlows.step] at stepped
      split at stepped
      · split at stepped
        · cases stepped
          exact .inr (.inr ⟨rfl, Nat.le_refl _⟩)
        · cases stepped
      · cases stepped
  | take other =>
      rw [UdpFlows.step] at stepped
      split at stepped
      · unfold takeReply at stepped
        split at stepped
        · split at stepped <;> cases stepped <;> exact .inr (.inr ⟨rfl, Nat.le_refl _⟩)
        · cases stepped
      · cases stepped

theorem step_clock {action : Action}
    (stepped : flows.step build context timeout action = some next) :
    flows.clock ≤ next.clock := by
  obtain ⟨src, dst, data, header, done, -, rfl⟩ | rfl | ⟨-, later⟩ := step_table stepped
  · exact Nat.le_refl _
  · exact Nat.le_refl _
  · exact later

/-- The pair has a session of this task, seen at this time or later. -/
def Holds (key : SocketAddr × SocketAddr) (session seen : Nat) (flows : UdpFlows) : Prop :=
  ∃ entry, flows.sessions.entries key = some entry ∧ entry.replyTx = session
    ∧ seen ≤ entry.lastSeen

/-- **Until the timeout has passed, a session is kept.** -/
theorem Holds.step {key : SocketAddr × SocketAddr} {session seen : Nat} {action : Action}
    (holds : Holds key session seen flows) (past : seen ≤ flows.clock)
    (soon : flows.clock < seen + timeout)
    (stepped : flows.step build context timeout action = some next) :
    Holds key session seen next := by
  obtain ⟨entry, known, same, recent⟩ := holds
  obtain ⟨src, dst, data, header, done, returned, rfl⟩ | rfl | ⟨sessions, -⟩ := step_table stepped
  · obtain ⟨unchanged, -⟩ | ⟨enters, -⟩ := dispatch_cases returned
    · refine ⟨entry, ?_, same, recent⟩
      show done.sessions.entries key = some entry
      rw [unchanged, known]
    · rcases named : flows.sessions.enter (src, dst) header context.mtu flows.clock
        with ⟨entered, used⟩
      rw [named] at enters
      obtain ⟨update, spawned⟩ := enter_cases named
      by_cases here : key = (src, dst)
      · refine ⟨⟨used, flows.clock⟩, ?_, ?_, past⟩
        · show done.sessions.entries key = _
          rw [enters, update, here, Function.update_self]
        · obtain ⟨-, other, found, same'⟩ | ⟨-, -, unknown⟩ := spawned
          · rw [← here, known] at found
            cases found
            exact same'.symm.trans same
          · rw [← here, known] at unknown
            cases unknown
      · refine ⟨entry, ?_, same, recent⟩
        show done.sessions.entries key = some entry
        rw [enters, update, Function.update_of_ne here, known]
  · exact ⟨entry, Option.filter_eq_some_iff.mpr ⟨known, decide_eq_true (by omega)⟩, same, recent⟩
  · exact ⟨entry, sessions ▸ known, same, recent⟩

theorem Holds.run {key : SocketAddr × SocketAddr} {session seen : Nat} {actions : List Action}
    {final : UdpFlows} (holds : Holds key session seen flows) (past : seen ≤ flows.clock)
    (reached : (machine build context timeout).run flows actions = some final)
    (soon : final.clock < seen + timeout) : Holds key session seen final := by
  induction actions generalizing flows with
  | nil =>
      cases reached
      exact holds
  | cons action rest ih =>
      obtain ⟨next, enabled, later⟩ := ((machine build context timeout).run_cons_eq_some).mp reached
      have still : flows.clock ≤ final.clock := by
        have onward : next.clock ≤ final.clock :=
          @Machine.run_invariant _ _ (machine build context timeout)
            (fun other => next.clock ≤ other.clock)
            (fun before enabled => Nat.le_trans before (step_clock enabled)) _ _ _ (Nat.le_refl _)
            later
        exact Nat.le_trans (step_clock enabled) onward
      exact ih (holds.step past (Nat.lt_of_le_of_lt still soon) enabled)
        (Nat.le_trans past (step_clock enabled)) later

/-- The session of a datagram that is delivered is the one that was entered for it. -/
theorem datagram_session {src dst : SocketAddr} {data header : Bytes} {packet : InboundUdpPacket}
    (stepped : flows.step build context timeout (.datagram src dst data header) = some next)
    (delivers : next.delivered = flows.delivered ++ [packet]) :
    flows.sessions.enter (src, dst) header context.mtu flows.clock
        = (next.sessions, packet.session)
      ∧ next.clock = flows.clock := by
  rw [UdpFlows.step] at stepped
  split at stepped
  case h_1 done returned =>
      cases stepped
      have sent : done.sent = [packet] := List.append_cancel_left delivers
      obtain ⟨-, none⟩ | ⟨enters, none | one⟩ := dispatch_cases returned
      · rw [none] at sent
        cases sent
      · rw [none] at sent
        cases sent
      · rw [one] at sent
        cases sent
        exact ⟨Prod.ext enters.symm rfl, rfl⟩
  case h_2 => cases stepped

/-- A loop without a resolver. -/
def sampleUdpContext : UdpContext := ⟨"tun", true, 1500, none, false⟩

/-- A client and a server. -/
def sampleUdpPair : SocketAddr × SocketAddr :=
  (.v4 (Ipv4Addr.new 198 18 0 2) 40000, .v4 (Ipv4Addr.new 8 8 8 8) 123)

/-- A datagram, its answer, and the collection before another datagram. -/
def sampleUdpFlow : List Action :=
  [.datagram sampleUdpPair.1 sampleUdpPair.2 [1] [], .elapse 299,
    .reply 0 ⟨[2], sampleUdpPair.1, sampleUdpPair.2⟩, .take 0, .release 0, .collect,
    .datagram sampleUdpPair.1 sampleUdpPair.2 [3] []]

theorem replies_reach_clients_sample : ∃ final,
    (machine udpDispatchReply sampleUdpContext 300).run new sampleUdpFlow = some final
      ∧ (final.tasks 0).wrote.map Prod.fst = [⟨[2], sampleUdpPair.1, sampleUdpPair.2⟩] := by
  have ran : ((machine udpDispatchReply sampleUdpContext 300).run new sampleUdpFlow).map
      (fun final => ((final.tasks 0).status, (final.tasks 0).queue.waiting))
        = some (.running, []) := by
    decide +kernel
  obtain ⟨final, reached, same⟩ := Option.map_eq_some_iff.mp ran
  simp only [Prod.mk.injEq] at same
  obtain ⟨running, waiting⟩ := same
  have wrote := (replies_reach_clients reached).2.1 0 (by rw [running]; exact nofun)
  rw [waiting, List.append_nil] at wrote
  exact ⟨final, reached, wrote.trans (by decide +kernel)⟩

end UdpFlows

end RsTun.SystemNat
