/-
**The socket of a SYN that is still queued.**

`poll_packets` sends a new socket to `poll_sockets` and puts its SYN into the queue of the device. A
socket is made in state Listen, in which it is not active, and the removal of `poll_sockets` goes by
that alone. Within a turn the sockets come before the ingress, so that a SYN is taken from the queue
before the removal looks at its socket, as long as `Device::receive` gets a slot of the outbound
channel.

* `Registered` — the invariant: a queued SYN has its socket in `socket_maps`, or on the way there.
* `pollPacket_held` — what a frame does to the queue and to the sockets.
* `synKept_iff` — in the runs in which no turn that the outbound channel cut short removes the
  socket of a queued SYN, and in these alone, **a socket is there when its SYN is processed.**
-/

import RsTun.Netstack.TcpListener

namespace RsTun.Netstack

open Library Library.Bytes

namespace TcpListener

/-- A socket was made for the frame of this number. -/
def Accepted (state : TcpListener) (number : Nat) : Prop :=
  number ∈ state.emitted.map EmittedStream.syn

/-- The SYNs of the sockets in `socket_maps`. -/
def mapped (state : TcpListener) : List Nat := state.sockets.map StackSocket.syn

/-- The SYNs of the sockets that are on the way to `socket_maps`. -/
def arriving (state : TcpListener) : List Nat :=
  (state.notifier.filterMap IfaceEvent.socket).map StackSocket.syn

/-- A socket that was made for a SYN is in `socket_maps`, or on the way there, as long as the SYN is
in the queue of the device; and it is in `socket_maps` when packets are taken from the queue. -/
structure SynKept (state : TcpListener) : Prop where
  kept : ∀ queued ∈ state.rxQueue, state.Accepted queued.number →
    queued.number ∈ state.mapped ++ state.arriving
  present : state.point = .ingress → ∀ queued ∈ state.rxQueue, state.Accepted queued.number →
    queued.number ∈ state.mapped

/-- The outbound channel has cut the ingress of this turn short, and the SYN of a socket that is not
active is still in the queue. -/
def removesQueued (state : TcpListener) : Bool :=
  match state.point with
  | .serving true => state.sockets.any fun socket =>
      !socket.state.isActive && (state.rxQueue.map Queued.number).contains socket.syn
  | _ => false

/-- The step does not remove such a socket. -/
def RemovesProcessed (state : TcpListener) : Action → Prop
  | .retain _ => state.removesQueued = false
  | _ => True

instance removesProcessedDecidable (state : TcpListener) (action : Action) :
    Decidable (state.RemovesProcessed action) := by
  unfold RemovesProcessed
  split <;> infer_instance

/-! ### The invariant -/

/-- `poll_sockets` is between the events and the removal of a turn. -/
def SocketsPoint.inTurn : SocketsPoint → Bool
  | .ingress => true
  | .serving _ => true
  | _ => false

/-- The invariant. Frames are numbered as they are handled, so that each socket has its own SYN;
within a turn no socket is on the way; and an ingress that was not cut short empties the queue. -/
structure Registered (state : TcpListener) : Prop where
  kept : ∀ queued ∈ state.rxQueue, state.Accepted queued.number →
    queued.number ∈ state.mapped ++ state.arriving
  unique : (state.mapped ++ state.arriving).Nodup
  known : ∀ number ∈ state.mapped ++ state.arriving, state.Accepted number
  numbered : ∀ number, state.Accepted number → number < state.handled
  queued : ∀ queued ∈ state.rxQueue, queued.number < state.handled
  inTurn : SocketsPoint.inTurn state.point = true → state.arriving = []
  emptied : state.point = .serving false → state.rxQueue = []

theorem Registered.new : Registered TcpListener.new where
  kept := nofun
  unique := List.nodup_nil
  known := nofun
  numbered := nofun
  queued := nofun
  inTurn := fun _ => rfl
  emptied := nofun

/-- Then the socket of a queued SYN is there. -/
theorem Registered.synKept {state : TcpListener} (registered : Registered state) :
    state.SynKept where
  kept := registered.kept
  present := fun point queued among accepted => by
    have held := registered.kept queued among accepted
    rw [registered.inTurn (by rw [point]; rfl), List.append_nil] at held
    exact held

/-! ### The lists that a step changes -/

theorem arriving_append (state : TcpListener) (event : IfaceEvent) :
    (state.notify event).arriving
      = state.arriving ++ (event.socket.toList.map StackSocket.syn) := by
  unfold TcpListener.arriving TcpListener.notify
  dsimp only
  rw [List.filterMap_append, List.map_append]
  cases event <;> rfl

/-- An event without a socket leaves the sockets on the way alone. -/
theorem arriving_notify {state : TcpListener} {event : IfaceEvent} (none : event.socket = none) :
    (state.notify event).arriving = state.arriving := by
  rw [arriving_append, none]
  exact List.append_nil _

theorem map_syn_react (reaction : Nat → TcpState → TcpState) (sockets : List StackSocket) :
    (react reaction sockets).map StackSocket.syn = sockets.map StackSocket.syn := by
  rw [react, List.map_map]
  rfl

/-- What `Registered` depends on stays, but for packets that leave the queue and for sockets that
arrive. -/
structure SameSockets (state next : TcpListener) : Prop where
  rxQueue : next.rxQueue ⊆ state.rxQueue
  emitted : next.emitted = state.emitted
  held : next.mapped ++ next.arriving = state.mapped ++ state.arriving
  handled : state.handled ≤ next.handled
  inTurn : SocketsPoint.inTurn next.point = true → next.arriving = []
  emptied : next.point = .serving false → next.rxQueue = []

theorem Registered.same {state next : TcpListener} (registered : Registered state)
    (same : SameSockets state next) : Registered next where
  kept := fun queued among accepted => by
    rw [same.held]
    rw [Accepted, same.emitted] at accepted
    exact registered.kept queued (same.rxQueue among) accepted
  unique := by
    rw [same.held]
    exact registered.unique
  known := by
    rw [same.held]
    intro number among
    rw [Accepted, same.emitted]
    exact registered.known number among
  numbered := fun number accepted => by
    rw [Accepted, same.emitted] at accepted
    exact Nat.lt_of_lt_of_le (registered.numbered number accepted) same.handled
  queued := fun queued among =>
    Nat.lt_of_lt_of_le (registered.queued queued (same.rxQueue among)) same.handled
  inTurn := same.inTurn
  emptied := same.emptied

/-! ### A frame -/

/-- What a frame does to the queue and to the sockets: with its number, it may be queued, and it may
bring a socket. -/
structure FrameHandled (state next : TcpListener) : Prop where
  mapped : next.mapped = state.mapped
  handled : next.handled = state.handled
  point : next.point = state.point
  queued : ∀ queued ∈ next.rxQueue, queued ∈ state.rxQueue ∨ queued.number = state.handled
  sockets : (next.emitted = state.emitted ∧ next.arriving = state.arriving)
    ∨ (next.emitted.map EmittedStream.syn = state.emitted.map EmittedStream.syn ++ [state.handled]
      ∧ next.arriving = state.arriving ++ [state.handled])

theorem mem_inject {state : TcpListener} {frame : Bytes} {queued : Queued}
    (among : queued ∈ (state.inject frame).rxQueue) :
    queued ∈ state.rxQueue ∨ queued.number = state.handled := by
  obtain among | among := List.mem_append.mp among
  · exact .inl among
  · cases List.mem_singleton.mp among
    exact .inr rfl

/-- **What a frame does.** -/
theorem pollPacket_held (smoltcp : TcpSmoltcp) (state : TcpListener) (now : Nat) (frame : Bytes) :
    FrameHandled state (state.pollPacket smoltcp now frame) := by
  have nothing : FrameHandled state state := ⟨rfl, rfl, rfl, fun _ among => .inl among,
    .inl ⟨rfl, rfl⟩⟩
  unfold TcpListener.pollPacket
  cases frameKind smoltcp frame with
  | dropped => exact nothing
  | icmp => exact {
      mapped := rfl
      handled := rfl
      point := rfl
      queued := fun _ among => mem_inject among
      sockets := .inl ⟨rfl, arriving_notify rfl⟩ }
  | other tuple => exact {
      mapped := rfl
      handled := rfl
      point := rfl
      queued := fun _ among => mem_inject among
      sockets := .inl ⟨rfl, rfl⟩ }
  | syn tuple =>
      dsimp only
      split
      · exact {
          mapped := rfl
          handled := rfl
          point := rfl
          queued := fun _ among => mem_inject among
          sockets := .inl ⟨rfl, rfl⟩ }
      · split
        · exact nothing
        · split
          · exact nothing
          · unfold TcpListener.emit
            split
            · exact {
                mapped := rfl
                handled := rfl
                point := rfl
                queued := fun _ among => mem_inject among
                sockets := .inr ⟨List.map_append, arriving_append _ _⟩ }
            · exact {
                mapped := rfl
                handled := rfl
                point := rfl
                queued := fun _ among => .inl among
                sockets := .inl ⟨rfl, rfl⟩ }

/-- **A frame keeps it.** -/
theorem Registered.frame {state next : TcpListener} (registered : Registered state)
    (waiting : SocketsPoint.inTurn state.point = false) (handled : FrameHandled state next) :
    Registered { next with handled := next.handled + 1 } := by
  have fresh : ∀ number, state.Accepted number → number < state.handled + 1 :=
    fun number accepted => Nat.lt_succ_of_lt (registered.numbered number accepted)
  have notInTurn : SocketsPoint.inTurn next.point ≠ true := by
    rw [handled.point, waiting]
    exact Bool.false_ne_true
  have notServing : next.point ≠ .serving false := by
    intro serving
    rw [serving] at notInTurn
    exact notInTurn rfl
  have before : ∀ queued ∈ next.rxQueue, queued.number < next.handled + 1 := by
    intro queued among
    rw [handled.handled]
    obtain among | same := handled.queued queued among
    · exact Nat.lt_succ_of_lt (registered.queued queued among)
    · omega
  obtain ⟨emitted, arriving⟩ | ⟨emitted, arriving⟩ := handled.sockets
  · have accepted_iff : ∀ number, next.Accepted number ↔ state.Accepted number := by
      intro number
      rw [Accepted, emitted]
      rfl
    exact {
      kept := fun queued among accepted => by
        have accepted := (accepted_iff _).mp accepted
        show queued.number ∈ next.mapped ++ next.arriving
        rw [handled.mapped, arriving]
        obtain among | same := handled.queued queued among
        · exact registered.kept queued among accepted
        · -- the frame was not accepted, and its number is new
          have old := registered.numbered _ accepted
          omega
      unique := by
        show (next.mapped ++ next.arriving).Nodup
        rw [handled.mapped, arriving]
        exact registered.unique
      known := fun number among => by
        have among : number ∈ next.mapped ++ next.arriving := among
        rw [handled.mapped, arriving] at among
        exact (accepted_iff number).mpr (registered.known number among)
      numbered := fun number accepted => by
        have old := fresh number ((accepted_iff number).mp accepted)
        rw [← handled.handled] at old
        exact old
      queued := before
      inTurn := fun turn => absurd turn notInTurn
      emptied := fun point => absurd point notServing }
  · have accepted_iff : ∀ number, next.Accepted number ↔
        state.Accepted number ∨ number = state.handled := by
      intro number
      rw [Accepted, emitted, List.mem_append, List.mem_singleton]
      rfl
    have held_eq : next.mapped ++ next.arriving
        = (state.mapped ++ state.arriving) ++ [state.handled] := by
      rw [handled.mapped, arriving, List.append_assoc]
    exact {
      kept := fun queued among accepted => by
        show queued.number ∈ next.mapped ++ next.arriving
        rw [held_eq, List.mem_append, List.mem_singleton]
        obtain accepted | same := (accepted_iff _).mp accepted
        · obtain among | same := handled.queued queued among
          · exact .inl (registered.kept queued among accepted)
          · exact .inr same
        · exact .inr same
      unique := by
        show (next.mapped ++ next.arriving).Nodup
        rw [held_eq]
        refine List.nodup_append.mpr ⟨registered.unique, List.nodup_singleton _, ?_⟩
        rintro number among _ last rfl
        have old := registered.numbered _ (registered.known number among)
        rw [List.mem_singleton.mp last] at old
        omega
      known := fun number among => by
        have among : number ∈ next.mapped ++ next.arriving := among
        rw [held_eq, List.mem_append, List.mem_singleton] at among
        exact (accepted_iff number).mpr (among.imp_left (registered.known number))
      numbered := fun number accepted => by
        show number < next.handled + 1
        rw [handled.handled]
        obtain accepted | same := (accepted_iff number).mp accepted
        · exact fresh number accepted
        · omega
      queued := before
      inTurn := fun turn => absurd turn notInTurn
      emptied := fun point => absurd point notServing }

/-- **A step of `poll_packets` keeps it.** -/
theorem Registered.packetStep {smoltcp : TcpSmoltcp} {state next : TcpListener}
    (registered : Registered state) (waiting : state.Awaiting)
    (stepped : state.packetStep smoltcp = some next) : Registered next := by
  have outside : SocketsPoint.inTurn state.point = false := by
    obtain point | point := waiting <;> rw [point] <;> rfl
  have notServing : state.point ≠ .serving false := by
    intro serving
    rw [serving] at outside
    cases outside
  unfold TcpListener.packetStep at stepped
  split at stepped
  · cases stepped
  · cases stepped
    exact registered.same ⟨List.Subset.refl _, rfl, congrArg _ (arriving_notify rfl), Nat.le_refl _,
      fun turn => absurd (outside.symm.trans turn) Bool.false_ne_true,
      fun point => absurd point notServing⟩
  · rename_i now frame rest held
    cases stepped
    have same : Registered { state with packetBuf := some (now, rest) } :=
      registered.same ⟨List.Subset.refl _, rfl, rfl, Nat.le_refl _,
        fun turn => absurd (outside.symm.trans turn) Bool.false_ne_true,
        fun point => absurd point notServing⟩
    exact same.frame outside (pollPacket_held smoltcp _ now frame)

/-! ### A turn -/

/-- **An event brings its socket to `socket_maps`.** -/
theorem Registered.handleEvent {state : TcpListener} {event : IfaceEvent} {rest : List IfaceEvent}
    {point : SocketsPoint} (registered : Registered state) (head : state.notifier = event :: rest)
    (outside : SocketsPoint.inTurn point = false) (nextPoll : Bool) :
    Registered (TcpListener.handleEvent
      { state with notifier := rest, nextPoll := nextPoll, point := point } event) := by
  have notServing : point ≠ .serving false := by
    rintro rfl
    cases outside
  have arriving : state.arriving = event.socket.toList.map StackSocket.syn
      ++ (rest.filterMap IfaceEvent.socket).map StackSocket.syn := by
    rw [TcpListener.arriving, head]
    cases event <;> rfl
  refine registered.same ?_
  unfold TcpListener.handleEvent
  cases brings : event.socket with
  | none =>
      rw [brings] at arriving
      exact ⟨List.Subset.refl _, rfl, congrArg _ arriving.symm, Nat.le_refl _,
        fun turn => absurd (outside.symm.trans turn) Bool.false_ne_true,
        fun serving => absurd serving notServing⟩
  | some socket =>
      rw [brings] at arriving
      refine ⟨List.Subset.refl _, rfl, ?_, Nat.le_refl _,
        fun turn => absurd (outside.symm.trans turn) Bool.false_ne_true,
        fun serving => absurd serving notServing⟩
      rw [arriving, TcpListener.mapped, TcpListener.mapped]
      dsimp only
      rw [List.map_append, List.append_assoc]
      rfl

/-- **`Device::receive` keeps it.** -/
theorem Registered.receive {state : TcpListener} (registered : Registered state)
    (point : state.point = .ingress) (reaction : Nat → TcpState → TcpState) (replies : Bool) :
    Registered (state.receive reaction replies) := by
  have drained : state.arriving = [] := registered.inTurn (by rw [point]; rfl)
  unfold TcpListener.receive
  split
  · split
    · rename_i empty
      exact registered.same ⟨List.Subset.refl _, rfl, rfl, Nat.le_refl _, fun _ => drained,
        fun _ => empty⟩
    · rename_i taken rest queue
      refine registered.same ⟨?_, rfl, ?_, Nat.le_refl _, fun _ => ?_, fun serving => ?_⟩
      · rw [queue]
        exact List.subset_cons_self _ _
      · rw [arriving_notify rfl]
        exact congrArg (· ++ _) (map_syn_react _ _)
      · rw [arriving_notify rfl]
        exact drained
      · have still : state.point = .serving false := serving
        rw [point] at still
        cases still
  · exact registered.same ⟨List.Subset.refl _, rfl, rfl, Nat.le_refl _, fun _ => drained, nofun⟩

/-- What is left in the queue when the removal comes, where the ingress was not cut short. -/
theorem Registered.retained {state : TcpListener} (registered : Registered state)
    {refused : Bool} (point : state.point = .serving refused)
    (processed : state.removesQueued = false) {queued : Queued} (among : queued ∈ state.rxQueue)
    {socket : StackSocket} (mapped : socket ∈ state.sockets) (same : socket.syn = queued.number) :
    socket.state.isActive = true := by
  cases refused with
  | false =>
      rw [registered.emptied point] at among
      cases among
  | true =>
      rw [removesQueued, point] at processed
      have quiet := List.any_eq_false.mp processed socket mapped
      have present : (state.rxQueue.map Queued.number).contains socket.syn = true := by
        rw [List.contains_iff_mem, same]
        exact List.mem_map_of_mem among
      rw [present, Bool.and_true, Bool.not_eq_true, Bool.not_eq_false'] at quiet
      exact quiet

/-- **The removal keeps it**, unless it removes the socket of a queued SYN. -/
theorem Registered.retainActive {state : TcpListener} (registered : Registered state)
    {refused : Bool} (point : state.point = .serving refused)
    (processed : state.removesQueued = false) (nextPoll : Bool) :
    Registered (state.retainActive nextPoll) := by
  have drained : state.arriving = [] := registered.inTurn (by rw [point]; rfl)
  have held : ∀ number, number ∈ state.mapped ++ state.arriving ↔ number ∈ state.mapped := by
    intro number
    rw [drained, List.append_nil]
  have fewer : ((state.retainActive nextPoll).mapped
      ++ (state.retainActive nextPoll).arriving).Sublist
      (state.mapped ++ state.arriving) :=
    (List.filter_sublist.map _).append (List.Sublist.refl _)
  exact {
    kept := fun queued among accepted => by
      have before := (held _).mp (registered.kept queued among accepted)
      obtain ⟨socket, mapped, same⟩ := List.mem_map.mp before
      have active := registered.retained point processed among mapped same
      refine List.mem_append_left _ (List.mem_map.mpr ⟨socket, ?_, same⟩)
      exact List.mem_filter.mpr ⟨mapped, active⟩
    unique := registered.unique.sublist fewer
    known := fun number among => registered.known number (fewer.subset among)
    numbered := registered.numbered
    queued := registered.queued
    inTurn := nofun
    emptied := nofun }

/-- The removal of the socket of a queued SYN leaves the SYN without one. -/
theorem Registered.removed {state : TcpListener} (registered : Registered state)
    (removes : state.removesQueued = true) (nextPoll : Bool) :
    ¬ (state.retainActive nextPoll).SynKept := by
  intro synKept
  unfold removesQueued at removes
  split at removes
  · rename_i point
    obtain ⟨socket, mapped, left⟩ := List.any_eq_true.mp removes
    obtain ⟨inactive, present⟩ := (Bool.and_eq_true _ _).mp left
    obtain ⟨queued, among, same⟩ := List.mem_map.mp (List.contains_iff_mem.mp present)
    have held : socket.syn ∈ state.mapped ++ state.arriving :=
      List.mem_append_left _ (List.mem_map_of_mem mapped)
    have accepted : (state.retainActive nextPoll).Accepted queued.number := by
      rw [same]
      exact registered.known _ held
    have after := synKept.kept queued among accepted
    have drained : (state.retainActive nextPoll).arriving = [] :=
      registered.inTurn (by rw [point]; rfl)
    rw [drained, List.append_nil] at after
    obtain ⟨other, still, same'⟩ := List.mem_map.mp after
    obtain ⟨mapped', active⟩ := List.mem_filter.mp still
    -- each socket has its own SYN
    have one : other = socket := List.inj_on_of_nodup_map
      (registered.unique.sublist (List.sublist_append_left _ _)) mapped' mapped (same'.trans same)
    rw [one] at active
    rw [active] at inactive
    cases inactive
  · cases removes

/-- **A step of `poll_sockets` keeps it**, unless it removes the socket of a queued SYN. -/
theorem Registered.socketsStep {state next : TcpListener} {action : Action}
    (registered : Registered state) (processed : state.RemovesProcessed action)
    (stepped : state.socketsStep action = some next) : Registered next := by
  unfold TcpListener.socketsStep at stepped
  cases action with
  | wake | timer =>
      dsimp only at stepped
      split at stepped <;> cases stepped
      exact registered.same ⟨List.Subset.refl _, rfl, rfl, Nat.le_refl _, nofun, nofun⟩
  | top =>
      dsimp only at stepped
      split at stepped <;> cases stepped
      refine registered.same ⟨List.Subset.refl _, rfl, rfl, Nat.le_refl _, fun turn => ?_,
        fun serving => ?_⟩
      · dsimp only at turn
        split at turn <;> cases turn
      · dsimp only at serving
        split at serving <;> cases serving
  | event =>
      dsimp only at stepped
      split at stepped
      · rename_i head
        cases stepped
        exact registered.handleEvent head rfl false
      · cases stepped
  | drain =>
      dsimp only at stepped
      split at stepped
      · rename_i point head
        cases stepped
        have brought := @Registered.handleEvent state _ _ .draining registered head rfl
          state.nextPoll
        rw [← point] at brought
        exact brought
      · rename_i point empty
        cases stepped
        have drained : state.arriving = [] := by
          rw [TcpListener.arriving, empty]
          rfl
        exact registered.same ⟨List.Subset.refl _, rfl, rfl, Nat.le_refl _, fun _ => drained, nofun⟩
      · cases stepped
  | receive reaction replies =>
      dsimp only at stepped
      split at stepped
      · rename_i point
        cases stepped
        exact registered.receive point reaction replies
      · cases stepped
  | serve reaction sent =>
      dsimp only at stepped
      split at stepped
      · split at stepped <;> cases stepped
        exact registered.same ⟨List.Subset.refl _, rfl, congrArg (· ++ _) (map_syn_react _ _),
          Nat.le_refl _, registered.inTurn, registered.emptied⟩
      · cases stepped
  | retain nextPoll =>
      dsimp only at stepped
      split at stepped
      · rename_i refused point
        cases stepped
        exact registered.retainActive point processed nextPoll
      · cases stepped
  | _ => cases stepped

/-- **Every step keeps it**, unless it removes the socket of a queued SYN. -/
theorem Registered.step {smoltcp : TcpSmoltcp} {state next : TcpListener} {action : Action}
    (registered : Registered state) (processed : state.RemovesProcessed action)
    (stepped : state.step smoltcp action = some next) : Registered next := by
  have unchanged : ∀ {next : TcpListener}, next.rxQueue = state.rxQueue →
      next.emitted = state.emitted → next.mapped ++ next.arriving = state.mapped ++ state.arriving →
      next.arriving = state.arriving → next.handled = state.handled → next.point = state.point →
      Registered next := by
    intro next rxQueue emitted held arriving handled point
    refine registered.same ⟨?_, emitted, held, ?_, fun turn => ?_, fun serving => ?_⟩
    · rw [rxQueue]
      exact List.Subset.refl _
    · rw [handled]
    · rw [arriving]
      exact registered.inTurn (point ▸ turn)
    · rw [rxQueue]
      exact registered.emptied (point ▸ serving)
  unfold TcpListener.step at stepped
  by_cases ended : state.ended = true
  · rw [if_pos ended] at stepped
    cases stepped
  rw [if_neg ended] at stepped
  cases action with
  | recvMany now frames =>
      dsimp only at stepped
      split at stepped <;> cases stepped
      unfold TcpListener.recvMany
      dsimp only
      split <;> exact unchanged rfl rfl rfl rfl rfl rfl
  | packet =>
      dsimp only at stepped
      split at stepped
      · rename_i waiting
        exact registered.packetStep waiting stepped
      · cases stepped
  | inboundClosed | consume =>
      dsimp only at stepped
      split at stepped <;> cases stepped
      exact unchanged rfl rfl rfl rfl rfl rfl
  | streamEvent dropped =>
      cases stepped
      have quiet : IfaceEvent.socket (if dropped = true then .tcpSocketClosed else .tcpSocketReady)
          = none := by
        split <;> rfl
      exact unchanged rfl rfl (congrArg _ (arriving_notify quiet)) (arriving_notify quiet) rfl rfl
  | streamsDropped | outboundClosed =>
      cases stepped
      exact unchanged rfl rfl rfl rfl rfl rfl
  | _ =>
      dsimp only at stepped
      split at stepped
      · exact registered.socketsStep processed stepped
      · cases stepped

/-! ### A socket for its SYN -/

/-- **The socket of a queued SYN is kept in every state of a run exactly when no turn that the
outbound channel cut short removes an inactive socket whose SYN is still in the queue.** -/
theorem synKept_iff (smoltcp : TcpSmoltcp) {actions : List Action} {final : TcpListener}
    (reached : (machine smoltcp).run TcpListener.new actions = some final) :
    (machine smoltcp).Throughout SynKept TcpListener.new actions
      ↔ (machine smoltcp).Meets RemovesProcessed TcpListener.new actions := by
  refine Machine.throughout_iff_meets Registered.synKept (fun registered processed stepped =>
    registered.step processed stepped) ?_ Registered.new reached
  intro state action next registered removes stepped
  cases action with
  | retain nextPoll =>
      have stepped : state.step smoltcp (.retain nextPoll) = some next := stepped
      unfold TcpListener.step at stepped
      split at stepped
      · cases stepped
      · dsimp only at stepped
        split at stepped
        · unfold TcpListener.socketsStep at stepped
          dsimp only at stepped
          split at stepped <;> cases stepped
          exact registered.removed (Bool.eq_true_of_not_eq_false removes) nextPoll
        · cases stepped
  | _ => exact absurd trivial removes

/-- A connection is opened: its SYN is taken from the queue in the turn that adds its socket. -/
theorem synKept_iff_opened :
    (machine sampleTcpParsers).Throughout SynKept TcpListener.new opened := by
  have runs : ((machine sampleTcpParsers).run TcpListener.new opened).isSome = true := by
    decide +kernel
  obtain ⟨final, reached⟩ := Option.isSome_iff_exists.mp runs
  exact (synKept_iff sampleTcpParsers reached).mpr (by decide +kernel)

/-- **While the outbound channel is full, a new connection is lost**: its SYN stays in the queue,
and its socket, which is in state Listen, is removed. -/
theorem syn_without_socket :
    ∃ final, (machine sampleTcpParsers).run TcpListener.new
        (opened ++ [.recvMany 1 [sampleTcpFrame 210 0x10], .packet, .packet, .wake, .top, .drain,
          .drain, .drain, .receive (fun _ _ => .established) false,
          .receive (fun _ state => state) false, .serve (fun _ state => state) 4095, .retain false,
          .recvMany 2 [sampleTcpFrame 211 0x02], .packet, .packet, .wake, .top, .drain, .drain,
          .drain, .drain, .receive (fun _ state => state) false, .retain false]) = some final
      ∧ final.rxQueue = [⟨2, sampleTcpFrame 211 0x02⟩]
      ∧ final.emitted.map EmittedStream.syn = [0, 2]
      ∧ final.mapped = [0] ∧ ¬ final.SynKept := by
  have runs : ((machine sampleTcpParsers).run TcpListener.new
      (opened ++ [.recvMany 1 [sampleTcpFrame 210 0x10], .packet, .packet, .wake, .top, .drain,
        .drain, .drain, .receive (fun _ _ => .established) false,
        .receive (fun _ state => state) false, .serve (fun _ state => state) 4095, .retain false,
        .recvMany 2 [sampleTcpFrame 211 0x02], .packet, .packet, .wake, .top, .drain, .drain,
        .drain, .drain, .receive (fun _ state => state) false, .retain false])).map
          (fun final => (final.rxQueue, final.emitted.map EmittedStream.syn, final.mapped,
            final.arriving)) = some ([⟨2, sampleTcpFrame 211 0x02⟩], [0, 2], [0], []) := by
    decide +kernel
  obtain ⟨final, reached, records⟩ := Option.map_eq_some_iff.mp runs
  simp only [Prod.mk.injEq] at records
  obtain ⟨queue, emitted, mapped, arriving⟩ := records
  refine ⟨final, reached, queue, emitted, mapped, fun synKept => ?_⟩
  have held := synKept.kept ⟨2, sampleTcpFrame 211 0x02⟩
    (by rw [queue]; exact List.mem_singleton_self _)
    (by rw [Accepted, emitted]; decide)
  rw [mapped, arriving] at held
  exact absurd held (by decide)

end TcpListener

end RsTun.Netstack
