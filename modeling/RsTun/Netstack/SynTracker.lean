/-
**The SYN tracker: one stream for a connection.**

The tracker holds the SYN of a connection until a packet of the connection that is not a SYN, or the
lifetime of the entry, takes it away. The socket of the connection may stay active for longer than
that.

* `Tracked.isRecent_eq` — what the tracker answers, from the packets that have come in.
* `step_cases` — what a step does to the streams and to the tracker.
* `uniqueStreams_iff` — in the runs in which no SYN comes for an active socket whose SYN is
  forgotten, and in these alone, **no second stream is emitted over an active socket**; the tracker
  stays below its bound in every run.
-/

import RsTun.Netstack.TcpListener

namespace RsTun.Netstack

open Library Library.Bytes

namespace TcpListener

/-- No stream was emitted while the socket of an earlier stream of its connection was active. -/
def UniqueStreams (state : TcpListener) : Prop :=
  ∀ stream ∈ state.emitted, stream.overActive = false

instance uniqueStreamsDecidable (state : TcpListener) : Decidable state.UniqueStreams :=
  inferInstanceAs (Decidable (∀ stream ∈ state.emitted, stream.overActive = false))

/-- A SYN of the connection was accepted or refreshed less than `SYN_TRACK_TTL` ago, and no packet
of the connection that is not a SYN has come since. -/
def knownSyn (state : TcpListener) (now : Nat) (tuple : ConnTuple) : Bool :=
  match state.lastSyn tuple with
  | some time => decide (now - time < synTrackTtl)
  | none => false

/-- The next frame is a SYN that is not known, of a connection whose socket is active, and nothing
else keeps `poll_packets` from accepting it. -/
def admitsSecond (smoltcp : TcpSmoltcp) (state : TcpListener) : Bool :=
  match state.packetBuf with
  | some (now, frame :: _) =>
      match frameKind smoltcp frame with
      | .syn tuple => state.hasActive tuple && !state.knownSyn now tuple
          && decide (FiniteMap.size state.synTracker < synTrackMax) && decide (tuple.2.port ≠ 0)
          && state.emitterOpen
      | _ => false
  | _ => false

/-- The step does not handle such a frame. -/
def KnowsSyn (smoltcp : TcpSmoltcp) (state : TcpListener) : Action → Prop
  | .packet => state.admitsSecond smoltcp = false
  | _ => True

instance knowsSynDecidable (smoltcp : TcpSmoltcp) (state : TcpListener) (action : Action) :
    Decidable (state.KnowsSyn smoltcp action) := by
  unfold KnowsSyn
  split <;> infer_instance

/-! ### The tracker -/

/-- The invariant: the tracker is what the packets have left of it. -/
structure Tracked (state : TcpListener) : Prop where
  recorded : ∀ tuple time, state.synTracker.lookup tuple = some time →
    state.lastSyn tuple = some time
  kept : ∀ tuple time, state.lastSyn tuple = some time →
    state.synTracker.lookup tuple = some time ∨ synTrackTtl ≤ state.clock - time
  batch : ∀ now frames, state.packetBuf = some (now, frames) → now = state.clock
  bounded : FiniteMap.size state.synTracker ≤ synTrackMax

theorem Tracked.new : Tracked TcpListener.new where
  recorded := fun tuple time found => by
    have absent : TcpListener.new.synTracker.lookup tuple = none := AList.lookup_empty tuple
    rw [absent] at found
    cases found
  kept := nofun
  batch := nofun
  bounded := Nat.zero_le _

/-- **What the tracker answers** follows from the packets that have come in. -/
theorem Tracked.isRecent_eq {state : TcpListener} (tracked : Tracked state) (tuple : ConnTuple) :
    isRecent state.synTracker tuple state.clock = state.knownSyn state.clock tuple := by
  unfold isRecent knownSyn
  cases found : state.synTracker.lookup tuple with
  | some time => rw [tracked.recorded tuple time found]
  | none =>
      cases recorded : state.lastSyn tuple with
      | none => rfl
      | some time =>
          obtain held | old := tracked.kept tuple time recorded
          · rw [found] at held
            cases held
          · exact (decide_eq_false (Nat.not_lt.mpr old)).symm

/-- The fields the tracker depends on are not touched. -/
structure SameTracking (state next : TcpListener) : Prop where
  synTracker : next.synTracker = state.synTracker
  lastSyn : next.lastSyn = state.lastSyn
  clock : next.clock = state.clock
  batch : ∀ now frames, next.packetBuf = some (now, frames) →
    ∃ before, state.packetBuf = some (now, before)

theorem Tracked.same {state next : TcpListener} (tracked : Tracked state)
    (same : SameTracking state next) : Tracked next where
  recorded := by
    rw [same.synTracker, same.lastSyn]
    exact tracked.recorded
  kept := by
    rw [same.synTracker, same.lastSyn, same.clock]
    exact tracked.kept
  batch := fun now frames held => by
    obtain ⟨before, held⟩ := same.batch now frames held
    rw [same.clock]
    exact tracked.batch now before held
  bounded := by
    rw [same.synTracker]
    exact tracked.bounded

theorem synTracker_track (state : TcpListener) (tuple : ConnTuple) (now : Nat) :
    (state.track tuple now).synTracker = state.synTracker.insert tuple now := rfl

theorem lastSyn_track (state : TcpListener) (tuple : ConnTuple) (now : Nat) :
    (state.track tuple now).lastSyn = Function.update state.lastSyn tuple (some now) := rfl

theorem synTracker_untrack (state : TcpListener) (tuple : ConnTuple) :
    (state.untrack tuple).synTracker = state.synTracker.erase tuple := rfl

theorem lastSyn_untrack (state : TcpListener) (tuple : ConnTuple) :
    (state.untrack tuple).lastSyn = Function.update state.lastSyn tuple none := rfl

/-- A SYN that is written down has been seen, or there is room for it. -/
theorem Tracked.track {state : TcpListener} (tracked : Tracked state)
    {tuple : ConnTuple} {now : Nat}
    (room : tuple ∈ state.synTracker ∨ FiniteMap.size state.synTracker < synTrackMax) :
    Tracked (state.track tuple now) where
  recorded := fun other time found => by
    by_cases same : other = tuple
    · subst same
      rw [synTracker_track, AList.lookup_insert] at found
      rw [lastSyn_track, Function.update_self, found]
    · rw [synTracker_track, AList.lookup_insert_ne same] at found
      rw [lastSyn_track, Function.update_of_ne same]
      exact tracked.recorded other time found
  kept := fun other time recorded => by
    by_cases same : other = tuple
    · subst same
      rw [lastSyn_track, Function.update_self] at recorded
      rw [synTracker_track, AList.lookup_insert]
      exact .inl recorded
    · rw [lastSyn_track, Function.update_of_ne same] at recorded
      rw [synTracker_track, AList.lookup_insert_ne same]
      exact tracked.kept other time recorded
  batch := tracked.batch
  bounded := by
    obtain present | free := room
    · exact (FiniteMap.size_insert_of_mem now present).trans_le tracked.bounded
    · exact Nat.le_trans (FiniteMap.size_insert_le _ _ _) free

theorem Tracked.untrack {state : TcpListener} (tracked : Tracked state) (tuple : ConnTuple) :
    Tracked (state.untrack tuple) where
  recorded := fun other time found => by
    by_cases same : other = tuple
    · subst same
      rw [synTracker_untrack, AList.lookup_erase] at found
      cases found
    · rw [synTracker_untrack, AList.lookup_erase_ne same] at found
      rw [lastSyn_untrack, Function.update_of_ne same]
      exact tracked.recorded other time found
  kept := fun other time recorded => by
    by_cases same : other = tuple
    · subst same
      rw [lastSyn_untrack, Function.update_self] at recorded
      cases recorded
    · rw [lastSyn_untrack, Function.update_of_ne same] at recorded
      rw [synTracker_untrack, AList.lookup_erase_ne same]
      exact tracked.kept other time recorded
  batch := tracked.batch
  bounded := Nat.le_trans (FiniteMap.size_erase_le _ _) tracked.bounded

/-- **A new batch** prunes only what is too old to count. -/
theorem Tracked.recvMany {state : TcpListener} (tracked : Tracked state) {now : Nat}
    (frames : List Bytes) (later : state.clock ≤ now) : Tracked (state.recvMany now frames) := by
  have aged : ∀ tuple time, state.lastSyn tuple = some time →
      state.synTracker.lookup tuple = some time ∨ synTrackTtl ≤ now - time := by
    intro tuple time recorded
    obtain held | old := tracked.kept tuple time recorded
    · exact .inl held
    · exact .inr (Nat.le_trans old (Nat.sub_le_sub_right later time))
  unfold TcpListener.recvMany
  dsimp only
  split
  · exact {
      recorded := fun tuple time found => by
        dsimp only at found
        rw [FiniteMap.lookup_retain, Option.filter_eq_some_iff] at found
        exact tracked.recorded tuple time found.1
      kept := fun tuple time recorded => by
        dsimp only
        obtain held | old := aged tuple time recorded
        · by_cases young : now - time < synTrackTtl
          · rw [FiniteMap.lookup_retain, held]
            exact .inl (Option.filter_eq_some_iff.mpr ⟨rfl, decide_eq_true young⟩)
          · exact .inr (Nat.not_lt.mp young)
        · exact .inr old
      batch := fun _ _ held => by
        cases held
        rfl
      bounded := Nat.le_trans (FiniteMap.size_retain_le _ _) tracked.bounded }
  · exact {
      recorded := tracked.recorded
      kept := aged
      batch := fun _ _ held => by
        cases held
        rfl
      bounded := tracked.bounded }

/-! ### A frame -/

theorem mem_of_isRecent {tracker : AList fun _ : ConnTuple => Nat} {tuple : ConnTuple} {now : Nat}
    (recent : isRecent tracker tuple now = true) : tuple ∈ tracker := by
  unfold isRecent at recent
  cases found : tracker.lookup tuple with
  | some time => exact AList.lookup_isSome.mp (by rw [found]; rfl)
  | none =>
      rw [found] at recent
      cases recent

theorem Tracked.emit {state : TcpListener} (tracked : Tracked state) (tuple : ConnTuple)
    (frame : Bytes) : Tracked (state.emit tuple frame) := by
  refine tracked.same ?_
  unfold TcpListener.emit
  split <;> exact ⟨rfl, rfl, rfl, fun _ frames held => ⟨frames, held⟩⟩

theorem Tracked.inject {state : TcpListener} (tracked : Tracked state) (frame : Bytes) :
    Tracked (state.inject frame) :=
  tracked.same ⟨rfl, rfl, rfl, fun _ frames held => ⟨frames, held⟩⟩

/-- **A frame keeps it.** -/
theorem Tracked.pollPacket {smoltcp : TcpSmoltcp} {state : TcpListener} (tracked : Tracked state)
    (now : Nat) (frame : Bytes) : Tracked (state.pollPacket smoltcp now frame) := by
  unfold TcpListener.pollPacket
  cases frameKind smoltcp frame with
  | dropped => exact tracked
  | icmp => exact tracked.same ⟨rfl, rfl, rfl, fun _ frames held => ⟨frames, held⟩⟩
  | syn tuple =>
      dsimp only
      split
      · rename_i recent
        exact (tracked.track (.inl (mem_of_isRecent recent))).inject frame
      · split
        · exact tracked
        · rename_i room
          split
          · exact tracked
          · exact (tracked.track (.inr (Nat.not_le.mp room))).emit tuple frame
  | other tuple => exact (tracked.untrack tuple).inject frame

/-- **What a frame does to the streams**: nothing, or it is a SYN that the tracker does not hold. -/
theorem pollPacket_emitted (smoltcp : TcpSmoltcp) (state : TcpListener) (now : Nat)
    (frame : Bytes) :
    (state.pollPacket smoltcp now frame).emitted = state.emitted
      ∨ ∃ tuple, frameKind smoltcp frame = .syn tuple
        ∧ isRecent state.synTracker tuple now = false
        ∧ FiniteMap.size state.synTracker < synTrackMax ∧ tuple.2.port ≠ 0
        ∧ state.emitterOpen = true
        ∧ (state.pollPacket smoltcp now frame).emitted
          = state.emitted ++ [⟨state.handled, tuple, state.hasActive tuple⟩] := by
  unfold TcpListener.pollPacket
  cases frameKind smoltcp frame with
  | dropped | icmp | other => exact .inl rfl
  | syn tuple =>
      dsimp only
      split
      · exact .inl rfl
      · rename_i forgotten
        split
        · exact .inl rfl
        · rename_i room
          split
          · exact .inl rfl
          · rename_i port
            unfold TcpListener.emit
            split
            · rename_i isOpen
              exact .inr ⟨tuple, rfl, Bool.eq_false_of_not_eq_true forgotten, Nat.not_le.mp room,
                port, isOpen, rfl⟩
            · exact .inl rfl

/-- A SYN that the tracker does not hold is emitted, unless something else keeps it. -/
theorem pollPacket_syn {smoltcp : TcpSmoltcp} {state : TcpListener} {now : Nat} {frame : Bytes}
    {tuple : ConnTuple} (kind : frameKind smoltcp frame = .syn tuple)
    (forgotten : isRecent state.synTracker tuple now = false)
    (room : FiniteMap.size state.synTracker < synTrackMax) (port : tuple.2.port ≠ 0)
    (isOpen : state.emitterOpen = true) :
    (state.pollPacket smoltcp now frame).emitted
      = state.emitted ++ [⟨state.handled, tuple, state.hasActive tuple⟩] := by
  have emitting : (state.track tuple now).emitterOpen = true := isOpen
  unfold TcpListener.pollPacket
  rw [kind]
  dsimp only
  rw [forgotten, if_neg Bool.false_ne_true, if_neg (Nat.not_le.mpr room), if_neg port,
    TcpListener.emit, if_pos emitting]
  rfl

/-! ### A step -/

theorem handleEvent_same (state : TcpListener) (event : IfaceEvent) :
    (state.handleEvent event).synTracker = state.synTracker
      ∧ (state.handleEvent event).lastSyn = state.lastSyn
      ∧ (state.handleEvent event).clock = state.clock
      ∧ (state.handleEvent event).packetBuf = state.packetBuf
      ∧ (state.handleEvent event).emitted = state.emitted := by
  unfold TcpListener.handleEvent
  split <;> exact ⟨rfl, rfl, rfl, rfl, rfl⟩

/-- `poll_sockets` leaves the tracker and the streams alone. -/
theorem socketsStep_same {state next : TcpListener} {action : Action}
    (stepped : state.socketsStep action = some next) :
    SameTracking state next ∧ next.emitted = state.emitted := by
  have same : ∀ {next : TcpListener}, next.synTracker = state.synTracker →
      next.lastSyn = state.lastSyn → next.clock = state.clock →
      next.packetBuf = state.packetBuf → SameTracking state next :=
    fun tracker last clock batch => ⟨tracker, last, clock, fun _ frames held =>
      ⟨frames, batch ▸ held⟩⟩
  unfold TcpListener.socketsStep at stepped
  cases action with
  | wake | top | timer =>
      dsimp only at stepped
      split at stepped <;> cases stepped
      exact ⟨same rfl rfl rfl rfl, rfl⟩
  | event =>
      dsimp only at stepped
      split at stepped <;> cases stepped
      obtain ⟨tracker, last, clock, batch, emitted⟩ := handleEvent_same _ _
      exact ⟨same tracker last clock batch, emitted⟩
  | drain =>
      dsimp only at stepped
      split at stepped <;> cases stepped
      · obtain ⟨tracker, last, clock, batch, emitted⟩ := handleEvent_same _ _
        exact ⟨same tracker last clock batch, emitted⟩
      · exact ⟨same rfl rfl rfl rfl, rfl⟩
  | receive reaction replies =>
      dsimp only at stepped
      split at stepped <;> cases stepped
      unfold TcpListener.receive
      split
      · split <;> exact ⟨same rfl rfl rfl rfl, rfl⟩
      · exact ⟨same rfl rfl rfl rfl, rfl⟩
  | serve reaction sent =>
      dsimp only at stepped
      split at stepped
      · split at stepped <;> cases stepped
        exact ⟨same rfl rfl rfl rfl, rfl⟩
      · cases stepped
  | retain nextPoll =>
      dsimp only at stepped
      split at stepped <;> cases stepped
      exact ⟨same rfl rfl rfl rfl, rfl⟩
  | _ => cases stepped

/-- What a step does to the streams and to the tracker. -/
theorem step_cases {smoltcp : TcpSmoltcp} {state next : TcpListener} {action : Action}
    (stepped : state.step smoltcp action = some next) :
    (∃ now frame rest, action = .packet ∧ state.packetBuf = some (now, frame :: rest)
        ∧ next.emitted = (pollPacket smoltcp { state with packetBuf := some (now, rest) } now
          frame).emitted
        ∧ SameTracking (pollPacket smoltcp { state with packetBuf := some (now, rest) } now frame)
          next)
      ∨ (∃ now frames, action = .recvMany now frames ∧ next = state.recvMany now frames
        ∧ state.clock ≤ now)
      ∨ (SameTracking state next ∧ next.emitted = state.emitted
        ∧ (action = .packet → ∀ now frame rest, state.packetBuf ≠ some (now, frame :: rest))) := by
  have same : ∀ {next : TcpListener}, next.synTracker = state.synTracker →
      next.lastSyn = state.lastSyn → next.clock = state.clock →
      next.packetBuf = state.packetBuf → SameTracking state next :=
    fun tracker last clock batch => ⟨tracker, last, clock, fun _ frames held =>
      ⟨frames, batch ▸ held⟩⟩
  unfold TcpListener.step at stepped
  by_cases ended : state.ended = true
  · rw [if_pos ended] at stepped
    cases stepped
  rw [if_neg ended] at stepped
  cases action with
  | recvMany now frames =>
      dsimp only at stepped
      split at stepped
      · rename_i enabled
        cases stepped
        exact .inr (.inl ⟨now, frames, rfl, rfl, enabled.2.2.1⟩)
      · cases stepped
  | packet =>
      dsimp only at stepped
      split at stepped
      · unfold TcpListener.packetStep at stepped
        split at stepped
        · cases stepped
        · rename_i held
          cases stepped
          refine .inr (.inr ⟨⟨rfl, rfl, rfl, nofun⟩, rfl, fun _ now frame rest same => ?_⟩)
          rw [held] at same
          cases same
        · rename_i now frame rest held
          cases stepped
          exact .inl ⟨now, frame, rest, rfl, held, rfl, rfl, rfl, rfl, fun _ frames held =>
            ⟨frames, held⟩⟩
      · cases stepped
  | inboundClosed | consume =>
      dsimp only at stepped
      split at stepped <;> cases stepped
      exact .inr (.inr ⟨same rfl rfl rfl rfl, rfl, nofun⟩)
  | streamEvent dropped =>
      cases stepped
      exact .inr (.inr ⟨same rfl rfl rfl rfl, rfl, nofun⟩)
  | streamsDropped | outboundClosed =>
      cases stepped
      exact .inr (.inr ⟨same rfl rfl rfl rfl, rfl, nofun⟩)
  | _ =>
      dsimp only at stepped
      split at stepped
      · obtain ⟨tracking, emitted⟩ := socketsStep_same stepped
        exact .inr (.inr ⟨tracking, emitted, nofun⟩)
      · cases stepped

/-- **Every step keeps the tracker what it is.** -/
theorem Tracked.step {smoltcp : TcpSmoltcp} {state next : TcpListener} {action : Action}
    (tracked : Tracked state) (stepped : state.step smoltcp action = some next) : Tracked next := by
  obtain ⟨now, frame, rest, -, held, -, same⟩ | ⟨now, frames, -, rfl, later⟩ | ⟨same, -, -⟩ :=
    step_cases stepped
  · have before : Tracked { state with packetBuf := some (now, rest) } :=
      tracked.same ⟨rfl, rfl, rfl, fun _ _ kept => by
        cases kept
        exact ⟨_, held⟩⟩
    exact (before.pollPacket now frame).same same
  · exact tracked.recvMany frames later
  · exact tracked.same same

/-- A frame of a batch is handled at the time of the last batch. -/
theorem Tracked.admitsSecond_eq {smoltcp : TcpSmoltcp} {state : TcpListener}
    (tracked : Tracked state) {now : Nat} {frame : Bytes} {rest : List Bytes} {tuple : ConnTuple}
    (held : state.packetBuf = some (now, frame :: rest))
    (kind : frameKind smoltcp frame = .syn tuple) :
    state.admitsSecond smoltcp = (state.hasActive tuple
      && !isRecent state.synTracker tuple now
      && decide (FiniteMap.size state.synTracker < synTrackMax) && decide (tuple.2.port ≠ 0)
      && state.emitterOpen) := by
  obtain rfl := tracked.batch _ _ held
  rw [admitsSecond, held]
  dsimp only
  rw [kind, tracked.isRecent_eq]

/-- **A step emits no second stream**, if it knows its SYN. -/
theorem UniqueStreams.step {smoltcp : TcpSmoltcp} {state next : TcpListener} {action : Action}
    (unique : state.UniqueStreams) (tracked : Tracked state)
    (knows : state.KnowsSyn smoltcp action) (stepped : state.step smoltcp action = some next) :
    next.UniqueStreams := by
  obtain ⟨now, frame, rest, rfl, held, emitted, -⟩ | ⟨now, frames, -, rfl, -⟩ | ⟨-, emitted, -⟩ :=
    step_cases stepped
  · obtain same | ⟨tuple, kind, forgotten, room, port, isOpen, grown⟩ :=
      pollPacket_emitted smoltcp { state with packetBuf := some (now, rest) } now frame
    · rw [UniqueStreams, emitted, same]
      exact unique
    · rw [UniqueStreams, emitted, grown]
      intro stream among
      obtain among | among := List.mem_append.mp among
      · exact unique stream among
      · cases List.mem_singleton.mp among
        have knows : state.admitsSecond smoltcp = false := knows
        have forgotten : isRecent state.synTracker tuple now = false := forgotten
        rw [tracked.admitsSecond_eq held kind, forgotten, decide_eq_true room,
          decide_eq_true port, isOpen] at knows
        have quiet : state.hasActive tuple = false := by simpa using knows
        exact quiet
  · unfold TcpListener.recvMany
    dsimp only
    split <;> exact unique
  · rw [UniqueStreams, emitted]
    exact unique

/-- The frame that such a step handles. -/
theorem syn_of_admitsSecond {smoltcp : TcpSmoltcp} {state : TcpListener}
    (admits : state.admitsSecond smoltcp = true) :
    ∃ now frame rest tuple, state.packetBuf = some (now, frame :: rest)
      ∧ frameKind smoltcp frame = .syn tuple := by
  unfold admitsSecond at admits
  split at admits
  · rename_i now frame rest held
    split at admits
    · rename_i tuple kind
      exact ⟨now, frame, rest, tuple, held, kind⟩
    · cases admits
  · cases admits

/-- A step that does not know its SYN emits a second stream. -/
theorem not_uniqueStreams_of_admitsSecond {smoltcp : TcpSmoltcp} {state next : TcpListener}
    (tracked : Tracked state) (admits : state.admitsSecond smoltcp = true)
    (stepped : state.step smoltcp .packet = some next) : ¬ next.UniqueStreams := by
  obtain ⟨now, frame, rest, tuple, held, kind⟩ := syn_of_admitsSecond admits
  obtain ⟨now', frame', rest', -, held', emitted, -⟩ | ⟨_, _, impossible, -⟩ | ⟨-, -, others⟩ :=
    step_cases stepped
  · cases held.symm.trans held'
    rw [tracked.admitsSecond_eq held kind] at admits
    simp only [Bool.and_eq_true, Bool.not_eq_true', decide_eq_true_eq] at admits
    obtain ⟨⟨⟨⟨active, forgotten⟩, room⟩, port⟩, isOpen⟩ := admits
    rw [@pollPacket_syn smoltcp { state with packetBuf := some (now, rest) } now frame tuple kind
      forgotten room port isOpen] at emitted
    intro unique
    have second := unique ⟨state.handled, tuple, state.hasActive tuple⟩
      (emitted ▸ List.mem_append_right _ (List.mem_singleton.mpr rfl))
    rw [active] at second
    cases second
  · cases impossible
  · exact absurd held (others rfl now frame rest)

/-! ### One stream for a connection -/

/-- **No second stream is emitted over an active socket in any state of a run exactly when no step
of it handles a SYN of a connection whose socket is active and whose SYN is forgotten**; and the
tracker never holds more than `SYN_TRACK_MAX` entries. -/
theorem uniqueStreams_iff (smoltcp : TcpSmoltcp) {actions : List Action} {final : TcpListener}
    (reached : (machine smoltcp).run TcpListener.new actions = some final) :
    ((machine smoltcp).Throughout UniqueStreams TcpListener.new actions
        ↔ (machine smoltcp).Meets (KnowsSyn smoltcp) TcpListener.new actions)
      ∧ FiniteMap.size final.synTracker ≤ synTrackMax := by
  have tracked : ∀ {state : TcpListener} {action : Action} {next : TcpListener}, Tracked state →
      (machine smoltcp).step state action = some next → Tracked next :=
    fun before stepped => before.step stepped
  refine ⟨?_, (Machine.run_invariant tracked .new reached).bounded⟩
  have start : Tracked TcpListener.new ∧ TcpListener.new.UniqueStreams := ⟨.new, nofun⟩
  refine Machine.throughout_iff_meets
    (fun {state} (before : Tracked state ∧ state.UniqueStreams) => before.2) ?_ ?_ start reached
  · intro state action next before knows stepped
    exact ⟨before.1.step stepped, before.2.step before.1 knows stepped⟩
  · intro state action next before forgets stepped
    cases action with
    | packet =>
        exact not_uniqueStreams_of_admitsSecond before.1 (Bool.eq_true_of_not_eq_false forgets)
          stepped
    | _ => exact absurd trivial forgets

/-! ### Runs -/

/-- A SYN that is sent again while the connection is half open goes to the socket that is there. -/
theorem uniqueStreams_iff_retransmitted :
    ∃ final, (machine sampleTcpParsers).run TcpListener.new
        (opened ++ [.recvMany 1 [sampleTcpFrame 210 0x02], .packet, .packet]) = some final
      ∧ ((machine sampleTcpParsers).Throughout UniqueStreams TcpListener.new
        (opened ++ [.recvMany 1 [sampleTcpFrame 210 0x02], .packet, .packet])
        ∧ FiniteMap.size final.synTracker ≤ synTrackMax) := by
  have runs : ((machine sampleTcpParsers).run TcpListener.new
      (opened ++ [.recvMany 1 [sampleTcpFrame 210 0x02], .packet, .packet])).isSome = true := by
    decide +kernel
  obtain ⟨final, reached⟩ := Option.isSome_iff_exists.mp runs
  obtain ⟨unique, bounded⟩ := uniqueStreams_iff sampleTcpParsers reached
  exact ⟨final, reached, unique.mpr (by decide +kernel), bounded⟩

/-- **A SYN that was duplicated on the way and comes behind the ACK opens a second stream** over the
socket of the first, which is established. -/
theorem second_stream_over_active :
    ∃ final, (machine sampleTcpParsers).run TcpListener.new
        (opened ++ [.recvMany 1 [sampleTcpFrame 210 0x10], .packet, .packet, .wake, .top, .drain,
          .drain, .drain, .receive (fun _ _ => .established) false,
          .receive (fun _ _ => .established) false, .retain false,
          .recvMany 2 [sampleTcpFrame 210 0x02], .packet]) = some final
      ∧ ¬ final.UniqueStreams := by
  have runs : ((machine sampleTcpParsers).run TcpListener.new
      (opened ++ [.recvMany 1 [sampleTcpFrame 210 0x10], .packet, .packet, .wake, .top, .drain,
        .drain, .drain, .receive (fun _ _ => .established) false,
        .receive (fun _ _ => .established) false, .retain false,
        .recvMany 2 [sampleTcpFrame 210 0x02], .packet])).map
          (fun final => decide final.UniqueStreams) = some false := by
    decide +kernel
  obtain ⟨final, reached, second⟩ := Option.map_eq_some_iff.mp runs
  exact ⟨final, reached, of_decide_eq_false second⟩

end TcpListener

end RsTun.Netstack
