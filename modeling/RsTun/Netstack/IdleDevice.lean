/-
**The device of a stack without sockets.**

`poll_sockets` polls the interface only when `socket_maps` is not empty, and an event for an ICMP
packet changes nothing about that. A stack without a socket therefore leaves every frame in the
queue of its device.

* `pollPacket_queue` — what a frame does to the queue and the outbound channel.
* `idle_device` — in every run from a state without sockets that emits no stream, the queue only
  grows, and nothing is sent.
-/

import RsTun.Netstack.HalfOpen
import RsTun.Netstack.SynTracker

namespace RsTun.Netstack

open Library Library.Bytes

namespace TcpListener

/-- No socket is there or on its way, and `poll_sockets` is not in a turn. -/
structure Idle (state : TcpListener) : Prop where
  sockets : state.sockets = []
  arriving : state.arriving = []
  point : state.point = .yielded ∨ state.point = .top ∨ state.point = .selecting

instance (state : TcpListener) : Decidable state.Idle :=
  decidable_of_iff (state.sockets = [] ∧ state.arriving = []
    ∧ (state.point = .yielded ∨ state.point = .top ∨ state.point = .selecting))
    ⟨fun ⟨sockets, arriving, point⟩ => ⟨sockets, arriving, point⟩,
      fun ⟨sockets, arriving, point⟩ => ⟨sockets, arriving, point⟩⟩

/-- The frames stay in the queue, others come behind them, and nothing is sent. -/
structure Stays (state next : TcpListener) : Prop where
  queue : state.rxQueue <+: next.rxQueue
  outbound : next.outbound ≤ state.outbound

theorem Stays.refl (state : TcpListener) : Stays state state :=
  ⟨List.prefix_refl _, Nat.le_refl _⟩

theorem Stays.trans {state next last : TcpListener} (stays : Stays state next)
    (more : Stays next last) : Stays state last :=
  ⟨stays.queue.trans more.queue, Nat.le_trans more.outbound stays.outbound⟩

/-- **A frame is queued behind the others, or goes nowhere.** -/
theorem pollPacket_queue (smoltcp : TcpSmoltcp) (state : TcpListener) (now : Nat)
    (frame : Bytes) : Stays state (state.pollPacket smoltcp now frame) := by
  have injected : ∀ {next : TcpListener},
      next.rxQueue = state.rxQueue ++ [⟨state.handled, frame⟩] → next.outbound = state.outbound →
      Stays state next :=
    fun queue outbound => ⟨⟨_, queue.symm⟩, Nat.le_of_eq outbound⟩
  unfold TcpListener.pollPacket
  cases frameKind smoltcp frame with
  | dropped => exact .refl state
  | icmp | other => exact injected rfl rfl
  | syn tuple =>
      dsimp only
      split
      · exact injected rfl rfl
      · split
        · exact .refl state
        · split
          · exact .refl state
          · unfold TcpListener.emit
            split
            · exact injected rfl rfl
            · exact ⟨List.prefix_refl _, Nat.le_refl _⟩

/-- A step emits streams behind the others. -/
theorem emitted_of_step {smoltcp : TcpSmoltcp} {state next : TcpListener} {action : Action}
    (stepped : state.step smoltcp action = some next) : state.emitted <+: next.emitted := by
  obtain ⟨now, frame, rest, -, -, emitted, -⟩ | ⟨now, frames, -, rfl, -⟩ | ⟨-, emitted, -⟩ :=
    step_cases stepped
  · rw [emitted]
    obtain same | ⟨tuple, -, -, -, -, -, more⟩ :=
      pollPacket_emitted smoltcp { state with packetBuf := some (now, rest) } now frame
    · exact ⟨[], by rw [List.append_nil, same]⟩
    · rw [more]
      exact List.prefix_append _ _
  · unfold recvMany
    dsimp only
    split <;> exact List.prefix_refl _
  · exact ⟨[], by rw [List.append_nil, emitted]⟩

/-- A frame that brings no stream. -/
theorem Idle.frame {state next : TcpListener} (idle : Idle state)
    (handled : FrameHandled state next)
    (same : next.emitted = state.emitted) : Idle next := by
  refine ⟨?_, ?_, ?_⟩
  · have mapped : next.sockets.map StackSocket.syn = state.sockets.map StackSocket.syn :=
      handled.mapped
    rw [idle.sockets] at mapped
    exact List.map_eq_nil_iff.mp mapped
  · obtain ⟨-, arriving⟩ | ⟨more, -⟩ := handled.sockets
    · exact arriving.trans idle.arriving
    · rw [same] at more
      have longer := congrArg List.length more
      rw [List.length_append] at longer
      exact absurd longer (Nat.ne_of_lt (Nat.lt_succ_self _))
  · rw [handled.point]
    exact idle.point

/-- A step of `poll_packets`. -/
theorem Idle.packetStep {smoltcp : TcpSmoltcp} {state next : TcpListener} (idle : Idle state)
    (stepped : state.packetStep smoltcp = some next) (same : next.emitted = state.emitted) :
    Idle next ∧ Stays state next := by
  unfold TcpListener.packetStep at stepped
  split at stepped
  · cases stepped
  · cases stepped
    have before : ({ state with packetBuf := none } : TcpListener).arriving = [] := idle.arriving
    exact ⟨⟨idle.sockets, (arriving_notify rfl).trans before, idle.point⟩,
      ⟨List.prefix_refl _, Nat.le_refl _⟩⟩
  · rename_i now frame rest held
    cases stepped
    have before : Idle { state with packetBuf := some (now, rest) } :=
      ⟨idle.sockets, idle.arriving, idle.point⟩
    obtain ⟨sockets, arriving, point⟩ := before.frame (pollPacket_held smoltcp _ now frame) same
    obtain ⟨queue, outbound⟩ :=
      pollPacket_queue smoltcp { state with packetBuf := some (now, rest) } now frame
    exact ⟨⟨sockets, arriving, point⟩, ⟨queue, outbound⟩⟩

/-- A step of `poll_sockets`. -/
theorem Idle.socketsStep {state next : TcpListener} {action : Action} (idle : Idle state)
    (stepped : state.socketsStep action = some next) : Idle next ∧ Stays state next := by
  have elsewhere : ∀ {point : SocketsPoint}, state.point = point → point ≠ .yielded →
      point ≠ .top → point ≠ .selecting → Idle next ∧ Stays state next := by
    rintro _ rfl yielded top selecting
    exact (idle.point.elim yielded fun rest => rest.elim top selecting).elim
  cases action with
  | wake =>
      rw [TcpListener.socketsStep] at stepped
      split at stepped
      · cases stepped
        exact ⟨⟨idle.sockets, idle.arriving, .inr (.inl rfl)⟩, ⟨List.prefix_refl _, Nat.le_refl _⟩⟩
      · cases stepped
  | top =>
      rw [TcpListener.socketsStep] at stepped
      split at stepped
      · cases stepped
        refine ⟨⟨idle.sockets, idle.arriving, .inr (.inr ?_)⟩, ⟨List.prefix_refl _, Nat.le_refl _⟩⟩
        show (if _ then _ else _) = _
        rw [idle.sockets, List.isEmpty_nil, Bool.or_true, if_pos rfl]
      · cases stepped
  | event =>
      rw [TcpListener.socketsStep] at stepped
      split at stepped
      case h_1 event rest point waits =>
          cases stepped
          have none : event.socket = none ∧ rest.filterMap IfaceEvent.socket = [] := by
            have arriving := List.map_eq_nil_iff.mp idle.arriving
            rw [waits] at arriving
            cases brings : event.socket with
            | none =>
                rw [List.filterMap_cons_none brings] at arriving
                exact ⟨rfl, arriving⟩
            | some socket =>
                rw [List.filterMap_cons_some brings] at arriving
                cases arriving
          unfold TcpListener.handleEvent
          rw [none.1]
          exact ⟨⟨idle.sockets, congrArg _ none.2, .inr (.inl rfl)⟩,
            ⟨List.prefix_refl _, Nat.le_refl _⟩⟩
      case h_2 => cases stepped
  | timer =>
      rw [TcpListener.socketsStep] at stepped
      split at stepped
      · cases stepped
        exact ⟨⟨idle.sockets, idle.arriving, .inr (.inl rfl)⟩, ⟨List.prefix_refl _, Nat.le_refl _⟩⟩
      · cases stepped
  | drain =>
      rw [TcpListener.socketsStep] at stepped
      split at stepped
      case h_1 point _ => exact elsewhere point nofun nofun nofun
      case h_2 point _ => exact elsewhere point nofun nofun nofun
      case h_3 => cases stepped
  | receive reaction replies =>
      rw [TcpListener.socketsStep] at stepped
      split at stepped
      case isTrue point => exact elsewhere point nofun nofun nofun
      case isFalse => cases stepped
  | serve reaction sent =>
      rw [TcpListener.socketsStep] at stepped
      split at stepped
      case h_1 refused point => exact elsewhere point nofun nofun nofun
      case h_2 => cases stepped
  | retain nextPoll =>
      rw [TcpListener.socketsStep] at stepped
      split at stepped
      case h_1 refused point => exact elsewhere point nofun nofun nofun
      case h_2 => cases stepped
  | _ => cases stepped

/-- **A step that emits no stream leaves a stack without sockets as it is.** -/
theorem Idle.step {smoltcp : TcpSmoltcp} {state next : TcpListener} {action : Action}
    (idle : Idle state) (stepped : state.step smoltcp action = some next)
    (same : next.emitted = state.emitted) : Idle next ∧ Stays state next := by
  have whole := stepped
  unfold TcpListener.step at stepped
  split at stepped
  · cases stepped
  cases action with
  | recvMany now frames =>
      dsimp only at stepped
      split at stepped <;> cases stepped
      unfold TcpListener.recvMany
      dsimp only
      split <;> exact ⟨⟨idle.sockets, idle.arriving, idle.point⟩,
        ⟨List.prefix_refl _, Nat.le_refl _⟩⟩
  | packet =>
      dsimp only at stepped
      split at stepped
      · exact idle.packetStep stepped same
      · cases stepped
  | inboundClosed =>
      dsimp only at stepped
      split at stepped <;> cases stepped
      exact ⟨⟨idle.sockets, idle.arriving, idle.point⟩, ⟨List.prefix_refl _, Nat.le_refl _⟩⟩
  | consume =>
      dsimp only at stepped
      split at stepped <;> cases stepped
      exact ⟨⟨idle.sockets, idle.arriving, idle.point⟩, ⟨List.prefix_refl _, Nat.sub_le _ 1⟩⟩
  | streamEvent dropped =>
      cases stepped
      have quiet : IfaceEvent.socket (if dropped = true then .tcpSocketClosed else .tcpSocketReady)
          = none := by
        split <;> rfl
      exact ⟨⟨idle.sockets, (arriving_notify quiet).trans idle.arriving, idle.point⟩,
        ⟨List.prefix_refl _, Nat.le_refl _⟩⟩
  | streamsDropped | outboundClosed =>
      cases stepped
      exact ⟨⟨idle.sockets, idle.arriving, idle.point⟩, ⟨List.prefix_refl _, Nat.le_refl _⟩⟩
  | _ =>
      dsimp only at stepped
      split at stepped
      · exact idle.socketsStep stepped
      · cases stepped

theorem emitted_of_run {smoltcp : TcpSmoltcp} {actions : List Action}
    {state final : TcpListener} (reached : (machine smoltcp).run state actions = some final) :
    state.emitted <+: final.emitted :=
  @Machine.run_invariant _ _ (machine smoltcp) (fun next => state.emitted <+: next.emitted)
    (fun before enabled => before.trans (emitted_of_step enabled)) _ _ _
    (List.prefix_refl _) reached

/-- **A stack without sockets answers nothing**: in every run that emits no stream the frames stay
in the queue of the device, whatever they are and whatever events come, and nothing is sent. -/
theorem idle_device (smoltcp : TcpSmoltcp) {actions : List Action} {state final : TcpListener}
    (idle : Idle state) (reached : (machine smoltcp).run state actions = some final)
    (same : final.emitted = state.emitted) :
    state.rxQueue <+: final.rxQueue ∧ final.outbound ≤ state.outbound ∧ Idle final := by
  suffices Idle final ∧ Stays state final from ⟨this.2.queue, this.2.outbound, this.1⟩
  induction actions generalizing state with
  | nil =>
      cases reached
      exact ⟨idle, .refl _⟩
  | cons action rest ih =>
      obtain ⟨next, enabled, later⟩ := ((machine smoltcp).run_cons_eq_some).mp reached
      have first := emitted_of_step enabled
      have second := emitted_of_run later
      have unchanged : next.emitted = state.emitted :=
        (first.eq_of_length_le (same ▸ second.length_le)).symm
      obtain ⟨idleNext, stays⟩ := idle.step enabled unchanged
      obtain ⟨idleFinal, staysOn⟩ := ih idleNext later (same.trans unchanged.symm)
      exact ⟨idleFinal, stays.trans staysOn⟩

/-- An echo request comes to a new stack. -/
def samplePing : List Action :=
  [.recvMany 0 [sampleFrame 1 [8, 0, 0xf7, 0xff, 0, 0, 0, 0]], .packet, .packet]

/-- The turns that its event brings about. -/
def samplePingTurns : List Action := [.wake, .top, .event, .top, .event, .top]

theorem idle_device_sample : ∃ state final,
    (machine lengthCheckingTcp).run new samplePing = some state
      ∧ (machine lengthCheckingTcp).run state samplePingTurns = some final
      ∧ state.rxQueue.length = 1 ∧ state.rxQueue <+: final.rxQueue := by
  have ran : ((machine lengthCheckingTcp).run new samplePing).map (fun state =>
      (state.rxQueue.length, decide state.Idle)) = some (1, true) := by
    decide +kernel
  have ranOn : ((machine lengthCheckingTcp).run new (samplePing ++ samplePingTurns)).map
      TcpListener.emitted = some [] := by
    decide +kernel
  obtain ⟨state, reached, same⟩ := Option.map_eq_some_iff.mp ran
  obtain ⟨one, idle⟩ := Prod.mk.inj same
  obtain ⟨final, whole, none⟩ := Option.map_eq_some_iff.mp ranOn
  rw [Machine.run_append _ reached] at whole
  have before : state.emitted = [] := List.prefix_nil.mp (none ▸ emitted_of_run whole)
  exact ⟨state, final, reached, whole, one,
    (idle_device lengthCheckingTcp (of_decide_eq_true idle) whole (none.trans before.symm)).1⟩

end TcpListener

end RsTun.Netstack
