/-
**How long a merged packet becomes.**

The fields that the accounting fills have 16 bits, and a packet of more than 65535 bytes is never
tried. What a merging makes of two packets is only held against the capacity of a buffer, though,
not against `GSO_MAX_SIZE`.

* `Standing` — what holds before a turn if no turn before it merged too much.
* `groTurn_standing`, `reached` — one turn, and a run.
* **`mergesShort_iff`** — no packet is merged beyond 65535 bytes, its lengths are true and
  `num_merged` does not overflow, **exactly** when in no turn the partner of the packet would hold
  more than that.
* `Twin.overlong` — a datagram that is handed over twice.
* `merged_overlong` — two datagrams of 32796 bytes.
-/

import RsTun.Gso.Lossless

namespace RsTun.Gso

open Library Library.Bytes Library.OnesComplement

/-- Every buffer that is to be written holds a packet of at most 65535 bytes, or the one that was
handed over in it. -/
def GroState.Short (offset : Nat) (input : List Buffer) (state : GroState) : Prop :=
  ∀ index ∈ state.toWrite, ∀ buf, state.bufs[index]? = some buf →
    (buf.packet offset).length ≤ 65535
      ∨ ∃ handed, input[index]? = some handed ∧ buf.packet offset = handed.packet offset

/-- `num_merged` of an item can be counted up. -/
def GroState.Counts (state : GroState) : Prop :=
  ∀ item ∈ state.items, item.numMerged + 1 < 2 ^ 16

/-- **No packet is merged beyond 65535 bytes** by a call of `handle_gro`. -/
structure MergesShort (offset : Nat) (gro : GroDisablementFlags)
    (tcpOrder : MapOrder (List TcpGroItem)) (udpOrder : MapOrder (List UdpGroItem))
    (input : List Buffer) : Prop where
  /-- Nothing overflows. -/
  returns : handleGro offset gro tcpOrder udpOrder ⟨input, ∅, ∅, []⟩ ≠ .error .panicked
  /-- Whatever turn the loop has come to. -/
  loop : ∀ turns ≤ input.length, ∀ state,
    groLoop offset gro turns 0 ⟨input, ∅, ∅, []⟩ = .ok state →
      state.Short offset input ∧ state.Counts
  /-- What is left to be written, with the lengths that are stated in it. -/
  written : ∀ looped state, groLoop offset gro input.length 0 ⟨input, ∅, ∅, []⟩ = .ok looped →
    handleGro offset gro tcpOrder udpOrder ⟨input, ∅, ∅, []⟩ = .ok state →
      state.Short offset input ∧ ∀ item ∈ looped.items, 0 < item.numMerged →
        ∃ buf, state.bufs[item.bufsIndex]? = some buf ∧ item.LengthsTrue (buf.packet offset)

/-- **Turn `i` would merge too much**: its packet, which is behind a header, has a partner, and both
together have more than 65535 bytes. -/
def GroState.Overlong (state : GroState) (offset : Nat) (gro : GroDisablementFlags) (i : Nat) :
    Prop :=
  ∃ buf item itemBuf, state.bufs[i]? = some buf
    ∧ virtioNetHdrLen ≤ offset ∧ offset ≤ buf.bytes.length
    ∧ state.partner offset gro i = some item ∧ state.bufs[item.bufsIndex]? = some itemBuf
    ∧ 65535 < coalescedLen itemBuf offset item.headersLen (buf.packet offset)

/-! ### The invariant -/

/-- The item stands for its buffer, which is to be written and was handed over with a packet. -/
structure Kept (offset : Nat) (input bufs : List Buffer) (toWrite : List Nat) (item : GroItem) :
    Prop where
  listed : item.bufsIndex ∈ toWrite
  stands : ∃ buf flow, bufs[item.bufsIndex]? = some buf ∧ buf.Placed offset
    ∧ item.Stands flow (buf.packet offset)
  handed : ∀ buf, input[item.bufsIndex]? = some buf → (buf.packet offset).length ≤ 65535

/-- **The state before turn `k`**, if no turn before it merged too much. -/
structure Standing (offset : Nat) (input : List Buffer) (k : Nat) (bufs : List Buffer)
    (items : List GroItem) (toWrite : List Nat) : Prop where
  count : bufs.length = input.length
  fits : ∀ buf ∈ bufs, buf.bytes.length ≤ buf.capacity
  ahead : ∀ index, k ≤ index → bufs[index]? = input[index]?
  early : ∀ index ∈ toWrite, index < k
  short : ∀ index ∈ toWrite, ∀ buf, bufs[index]? = some buf →
    (buf.packet offset).length ≤ 65535
      ∨ ∃ handed, input[index]? = some handed ∧ buf.packet offset = handed.packet offset
  kept : ∀ item ∈ items, Kept offset input bufs toWrite item
  distinct : (items.map GroItem.bufsIndex).Nodup

namespace Standing

variable {offset k : Nat} {input bufs bufs' : List Buffer} {items items' left : List GroItem}
  {toWrite : List Nat} {buf pktBuf : Buffer} {item item' : GroItem}

theorem start (fits : ∀ buf ∈ input, buf.bytes.length ≤ buf.capacity) :
    Standing offset input 0 input [] [] where
  count := rfl
  fits := fits
  ahead := fun _ _ => rfl
  early := nofun
  short := nofun
  kept := nofun
  distinct := List.nodup_nil

/-- An item stands for a buffer before the next packet. -/
theorem bufsIndex_lt (standing : Standing offset input k bufs items toWrite)
    (inside : item ∈ items) : item.bufsIndex < k :=
  standing.early _ (standing.kept item inside).listed

theorem seated (standing : Standing offset input k bufs items toWrite) (inside : item ∈ items) :
    item.Seated offset k bufs :=
  ⟨Nat.ne_of_lt (standing.bufsIndex_lt inside), (standing.kept item inside).stands⟩

theorem perm (standing : Standing offset input k bufs items toWrite) (same : items.Perm items') :
    Standing offset input k bufs items' toWrite where
  count := standing.count
  fits := standing.fits
  ahead := standing.ahead
  early := standing.early
  short := standing.short
  kept := fun item inside => standing.kept item (same.mem_iff.mpr inside)
  distinct := (same.map _).nodup_iff.mp standing.distinct

/-- Items are forgotten. -/
theorem dropped (standing : Standing offset input k bufs items toWrite)
    (dropped : Dropped items left) : Standing offset input k bufs left toWrite where
  count := standing.count
  fits := standing.fits
  ahead := standing.ahead
  early := standing.early
  short := standing.short
  kept := fun item inside => standing.kept item (dropped.subset inside)
  distinct := by
    obtain ⟨gone, same, -⟩ := dropped
    have distinct := (same.map GroItem.bufsIndex).nodup_iff.mp standing.distinct
    rw [List.map_append] at distinct
    exact distinct.of_append_right

/-- **A packet to be written**; a header may be written in front of it. -/
theorem push (standing : Standing offset input k bufs items toWrite)
    (found : input[k]? = some pktBuf) {after : Buffer}
    (same : after.packet offset = pktBuf.packet offset)
    (afterFits : after.bytes.length ≤ after.capacity) :
    Standing offset input (k + 1) (bufs.set k after) items (toWrite ++ [k]) where
  count := by rw [List.length_set, standing.count]
  fits := fun buf among => by
    obtain old | rfl := List.mem_or_eq_of_mem_set among
    · exact standing.fits buf old
    · exact afterFits
  ahead := fun index late => by
    rw [List.getElem?_set_ne (by omega)]
    exact standing.ahead index (by omega)
  early := fun index among => by
    obtain old | new := List.mem_append.mp among
    · exact Nat.lt_succ_of_lt (standing.early index old)
    · rw [List.mem_singleton.mp new]
      exact Nat.lt_succ_self k
  short := fun index among buf present => by
    obtain old | new := List.mem_append.mp among
    · have before := standing.early index old
      rw [List.getElem?_set_ne (by omega)] at present
      exact standing.short index old buf present
    · cases List.mem_singleton.mp new
      have inside : k < bufs.length := by
        rw [standing.count]
        exact (List.getElem?_eq_some_iff.mp found).1
      rw [List.getElem?_set_self inside] at present
      cases present
      exact .inr ⟨pktBuf, found, same⟩
  kept := fun item inside => by
    have before := standing.bufsIndex_lt inside
    obtain ⟨listed, ⟨buf, flow, present, stands⟩, handed⟩ := standing.kept item inside
    refine ⟨List.mem_append_left _ listed, ⟨buf, flow, ?_, stands⟩, handed⟩
    rw [List.getElem?_set_ne (by omega), present]
  distinct := standing.distinct

/-- **A packet to be written, with an item.** -/
theorem insert (standing : Standing offset input k bufs items toWrite)
    (found : input[k]? = some pktBuf) (placed : pktBuf.Placed offset) {flow : Flow}
    (place : item.bufsIndex = k) (stands : item.Stands flow (pktBuf.packet offset)) :
    Standing offset input (k + 1) bufs (item :: items) (toWrite ++ [k]) := by
  have present := (standing.ahead k (Nat.le_refl k)).trans found
  have pushed := @push _ _ _ _ _ _ _ standing found pktBuf rfl placed.fits
  rw [set_of_getElem? present] at pushed
  refine { pushed with
    kept := List.forall_mem_cons.mpr ⟨⟨?_, ⟨pktBuf, flow, ?_, placed, stands⟩, ?_⟩, pushed.kept⟩
    distinct := List.nodup_cons.mpr ⟨fun inside => ?_, standing.distinct⟩ }
  · rw [place]
    exact List.mem_append_right _ (List.mem_singleton_self k)
  · rw [place, present]
  · rintro buf handed
    rw [place] at handed
    cases found.symm.trans handed
    exact stands.holds.small
  · obtain ⟨other, among, same⟩ := List.mem_map.mp inside
    have early := standing.bufsIndex_lt among
    omega

/-- **A packet that went into the buffer of an item**, and is not too much for it. -/
theorem join {merged : Buffer} {flow : Flow}
    (standing : Standing offset input k bufs (item :: items) toWrite)
    (placed : merged.Placed offset)
    (into : item.Merged offset k flow buf pktBuf merged bufs bufs' item')
    (short : (merged.packet offset).length ≤ 65535) :
    Standing offset input (k + 1) bufs' (item' :: items) toWrite := by
  obtain ⟨place, moved, -, -, joined⟩ := into
  obtain ⟨listed, -, handed⟩ := standing.kept item List.mem_cons_self
  have early := standing.early _ listed
  obtain ⟨fresh, distinct⟩ := List.nodup_cons.mp standing.distinct
  have others : ∀ index, index ≠ item.bufsIndex → index < k → bufs'[index]? = bufs[index]? :=
    fun index apart before => moved.others index apart (Nat.ne_of_lt before)
  refine ⟨moved.count.trans standing.count, fun buf among => ?_, fun index late => ?_,
    fun index among => Nat.lt_succ_of_lt (standing.early index among),
    fun index among buf present => ?_, List.forall_mem_cons.mpr ⟨?_, fun other inside => ?_⟩, ?_⟩
  · obtain rfl | old := moved.among buf among
    · exact placed.fits
    · exact standing.fits buf old
  · rw [moved.others index (by omega) (by omega)]
    exact standing.ahead index (by omega)
  · by_cases same : index = item.bufsIndex
    · rw [same, moved.found] at present
      cases present
      exact .inl short
    · rw [others index same (standing.early index among)] at present
      exact standing.short index among buf present
  · refine ⟨by rwa [place], ⟨merged, flow, ?_, placed, (joined short).1⟩, by rwa [place]⟩
    rw [place, moved.found]
  · have later := List.mem_cons_of_mem item inside
    have apart : other.bufsIndex ≠ item.bufsIndex := fun same =>
      fresh (List.mem_map.mpr ⟨other, inside, same⟩)
    obtain ⟨listed', ⟨buf', flow', present, stands⟩, handed'⟩ := standing.kept other later
    refine ⟨listed', ⟨buf', flow', ?_, stands⟩, handed'⟩
    rw [others _ apart (standing.bufsIndex_lt later), present]
  · refine List.nodup_cons.mpr ⟨?_, distinct⟩
    rwa [place]

end Standing

/-! ### Runs -/

/-- **What holds of a state before turn `k`**, if no turn before it merged too much. -/
structure Reached (offset : Nat) (input : List Buffer) (k : Nat) (state : GroState) : Prop where
  tables : state.Tables
  standing : Standing offset input k state.bufs state.items state.toWrite

section Run

variable {offset k : Nat} {gro : GroDisablementFlags} {input : List Buffer} {state : GroState}

theorem Reached.start (fits : ∀ buf ∈ input, buf.bytes.length ≤ buf.capacity) :
    Reached offset input 0 ⟨input, ∅, ∅, []⟩ :=
  ⟨.empty _ _, .start fits⟩

theorem Reached.counts (reached : Reached offset input k state) : state.Counts := by
  intro item inside
  obtain ⟨-, ⟨buf, flow, -, -, stands⟩, -⟩ := reached.standing.kept item inside
  have few := stands.holds.numMerged_lt
  omega

/-- **A turn with a packet that is handled**: it merges too much, or what it leaves behind is again
short. -/
theorem Reached.stepped {buf : Buffer} {result : GroResult} {bufs : List Buffer}
    {state' : GroState} (reached : Reached offset input k state) (found : input[k]? = some buf)
    (placed : buf.Placed offset) (stepped : Stepped offset gro k buf state result bufs state') :
    (¬ state.Overlong offset gro k → Reached offset input (k + 1) state')
      ∧ (state.Overlong offset gro k → ¬ state'.Short offset input) := by
  obtain ⟨-, standing⟩ := reached
  obtain ⟨tables', handled, -, toWrite, bytes, -, sized, data, after⟩ := stepped
  have present := (standing.ahead k (Nat.le_refl k)).trans found
  have single : state.partner offset gro k = none → ¬ state.Overlong offset gro k := by
    rintro alone ⟨-, item, -, -, -, -, partner, -⟩
    cases alone.symm.trans partner
  refine ⟨fun short => ⟨tables', ?_⟩, fun overlong => ?_⟩
  · rw [after, toWrite]
    cases handled with
    | noop alone dropped =>
        refine (standing.dropped dropped).push found data ?_
        show bytes.length ≤ _
        rw [sized]
        exact placed.fits
    | tableInsert alone dropped place single stands inserted =>
        exact ((standing.dropped dropped).insert found placed place stands).perm inserted.symm
    | coalesced taken dropped itemPresent stands into replaced =>
        have last := standing.dropped dropped
        obtain ⟨-, ⟨_, _, found', itemPlaced, -⟩, -⟩ := last.kept _ List.mem_cons_self
        cases found'.symm.trans itemPresent
        refine (last.join (into.placed itemPlaced placed) into ?_).perm replaced.symm
        rw [into.length]
        exact Nat.le_of_not_lt fun long =>
          short ⟨_, _, _, present, placed.room, placed.long, taken, itemPresent, long⟩
  · cases handled with
    | noop alone => exact absurd overlong (single alone)
    | tableInsert alone => exact absurd overlong (single alone)
    | coalesced taken dropped itemPresent stands into replaced =>
        obtain ⟨pktBuf, item, itemBuf, pktPresent, -, -, partner, itemPresent', long⟩ := overlong
        cases taken.symm.trans partner
        cases itemPresent.symm.trans itemPresent'
        cases present.symm.trans pktPresent
        obtain ⟨listed, -, handed⟩ := (standing.dropped dropped).kept _ List.mem_cons_self
        have written := into.moved.found
        rw [← into.length] at long
        rw [← show state'.toWrite = state.toWrite from toWrite] at listed
        rw [← show state'.bufs = bufs from after] at written
        intro short
        obtain small | ⟨given, found', same⟩ := short _ listed _ written
        · exact absurd small (Nat.not_le.mpr long)
        · rw [same] at long
          exact absurd (handed given found') (Nat.not_le.mpr long)

/-- **One turn** of `handle_gro`. -/
theorem groTurn_standing (reached : Reached offset input k state) (inside : k < input.length) :
    groTurn offset gro k state = Checked.fail .invalidOffset ∧ ¬ state.Overlong offset gro k
      ∨ ∃ state', groTurn offset gro k state = .ok state'
        ∧ (¬ state.Overlong offset gro k → Reached offset input (k + 1) state')
        ∧ (state.Overlong offset gro k → ¬ state'.Short offset input) := by
  obtain ⟨buf, found⟩ : ∃ buf, input[k]? = some buf := ⟨_, List.getElem?_eq_getElem inside⟩
  have present := (reached.standing.ahead k (Nat.le_refl k)).trans found
  by_cases outside : offset < virtioNetHdrLen ∨ buf.bytes.length < offset
  · refine .inl ⟨?_, ?_⟩
    · unfold groTurn
      rw [Checked.entry_eq_ok present]
      exact if_pos outside
    · rintro ⟨other, -, -, present', room, long, -⟩
      cases present.symm.trans present'
      obtain few | few := outside
      · exact absurd room (Nat.not_le.mpr few)
      · exact absurd long (Nat.not_le.mpr few)
  · obtain ⟨room, long⟩ := not_or.mp outside
    have placed : buf.Placed offset := ⟨Nat.le_of_not_lt room, Nat.le_of_not_lt long,
      reached.standing.fits buf (List.mem_of_getElem? present)⟩
    obtain ⟨result, bufs, state', done, stepped⟩ := @groTurn_stepped _ _ gro _ _ reached.tables
      (fun _ => reached.standing.seated) present placed
    exact .inr ⟨state', done, reached.stepped found placed stepped⟩

/-- The last turn of several. -/
theorem groLoop_succ : ∀ (turns : Nat) (k : Nat) (state : GroState),
    groLoop offset gro (turns + 1) k state
      = (groLoop offset gro turns k state).bind (groTurn offset gro (k + turns))
  | 0, k, state => by
      show (groTurn offset gro k state).bind _ = groTurn offset gro k state
      cases groTurn offset gro k state with
      | error error => rfl
      | ok state => rfl
  | turns + 1, k, state => by
      rw [groLoop]
      show (groTurn offset gro k state).bind _ = ((groTurn offset gro k state).bind _).bind _
      cases groTurn offset gro k state with
      | error error => rfl
      | ok state =>
          show groLoop offset gro (turns + 1) (k + 1) state
            = (groLoop offset gro turns (k + 1) state).bind _
          rw [groLoop_succ turns (k + 1) state, Nat.add_right_comm]
          rfl

/-- **A run whose turns do not merge too much** comes to a state that stands, or finds a buffer that
ends before its packet. -/
theorem groLoop_reached (fits : ∀ buf ∈ input, buf.bytes.length ≤ buf.capacity) :
    ∀ turns ≤ input.length,
      (∀ earlier < turns, ∀ state, groLoop offset gro earlier 0 ⟨input, ∅, ∅, []⟩ = .ok state →
        ¬ state.Overlong offset gro earlier) →
      groLoop offset gro turns 0 ⟨input, ∅, ∅, []⟩ = Checked.fail .invalidOffset
        ∨ ∃ state, groLoop offset gro turns 0 ⟨input, ∅, ∅, []⟩ = .ok state
          ∧ Reached offset input turns state
  | 0, _, _ => .inr ⟨_, rfl, .start fits⟩
  | turns + 1, inside, short => by
      rw [groLoop_succ, Nat.zero_add]
      obtain failed | ⟨state, done, reached⟩ := groLoop_reached fits turns
        (Nat.le_of_succ_le inside) fun earlier before => short earlier (Nat.lt_succ_of_lt before)
      · rw [failed]
        exact .inl rfl
      · rw [done]
        obtain ⟨failed, -⟩ | ⟨state', turned, kept, -⟩ :=
          @groTurn_standing _ _ gro _ _ reached inside
        · exact .inl failed
        · exact .inr ⟨state', turned, kept (short turns (Nat.lt_succ_self _) state done)⟩

/-- **The accounting of a state that stands.** -/
theorem Reached.accounted (reached : Reached offset input k state) {arranged : List GroItem}
    (same : arranged.Perm state.items) : ∃ bufs,
      arranged.foldlM (accountItem offset) state.bufs = .ok bufs
        ∧ GroState.Short offset input { state with bufs }
        ∧ ∀ item ∈ state.items, 0 < item.numMerged →
          ∃ buf, bufs[item.bufsIndex]? = some buf ∧ item.LengthsTrue (buf.packet offset) := by
  obtain ⟨bufs, done, others, made⟩ := @account_spec offset (fun item buf =>
      (buf.packet offset).length ≤ 65535
        ∧ (0 < item.numMerged → item.LengthsTrue (buf.packet offset))) arranged state.bufs
    ((same.map _).nodup_iff.mpr reached.standing.distinct) fun item among => by
      obtain ⟨-, ⟨buf, flow, found, placed, stands⟩, -⟩ :=
        reached.standing.kept item (same.mem_iff.mp among)
      refine ⟨buf, found, fun bufs present => ?_⟩
      by_cases alone : item.numMerged = 0
      · obtain ⟨bytes, written, -, data, -⟩ := placed.writeHdr_spec .default
        refine ⟨_, accountItem_single present written alone, ?_, fun some => by omega⟩
        show (bytes.drop offset).length ≤ 65535
        rw [data]
        exact stands.holds.small
      · obtain ⟨buf', done, accounted⟩ :=
          accountItem_merged present placed stands (Nat.pos_of_ne_zero alone)
        refine ⟨buf', done, ?_, fun _ => accounted.lengths⟩
        rw [accounted.agree.1]
        exact stands.holds.small
  refine ⟨bufs, done, fun index among buf present => ?_, fun item inside some => ?_⟩
  · by_cases held : ∃ item ∈ arranged, item.bufsIndex = index
    · obtain ⟨item, inside, rfl⟩ := held
      obtain ⟨buf', present', small, -⟩ := made item inside
      cases present.symm.trans present'
      exact .inl small
    · have free : ∀ item ∈ arranged, item.bufsIndex ≠ index := fun item inside place =>
        held ⟨item, inside, place⟩
      exact reached.standing.short index among buf ((others index free).symm.trans present)
  · obtain ⟨buf, present, -, lengths⟩ := made item (same.mem_iff.mpr inside)
    exact ⟨buf, present, lengths some⟩

/-- A turn that merges too much shows in the state after it. -/
theorem MergesShort.not_overlong {tcpOrder : MapOrder (List TcpGroItem)}
    {udpOrder : MapOrder (List UdpGroItem)}
    (merges : MergesShort offset gro tcpOrder udpOrder input)
    (fits : ∀ buf ∈ input, buf.bytes.length ≤ buf.capacity) (turns : Nat)
    (inside : turns < input.length)
    (done : groLoop offset gro turns 0 ⟨input, ∅, ∅, []⟩ = .ok state) :
    ¬ state.Overlong offset gro turns := by
  induction turns using Nat.strong_induction_on generalizing state with
  | h turns ih =>
      intro overlong
      obtain failed | ⟨state', done', reached⟩ := groLoop_reached fits turns
        (Nat.le_of_lt inside) fun earlier before state => ih earlier before (before.trans inside)
      · cases failed.symm.trans done
      · cases done'.symm.trans done
        obtain ⟨-, short⟩ | ⟨state', turned, -, long⟩ :=
          @groTurn_standing _ _ gro _ _ reached inside
        · exact short overlong
        · refine long overlong (merges.loop (turns + 1) inside state' ?_).1
          rw [groLoop_succ, Nat.zero_add, done]
          exact turned

/-- A run whose turns do not merge too much merges no packet beyond 65535 bytes. -/
theorem mergesShort_of_not_overlong (tcpOrder : MapOrder (List TcpGroItem))
    (udpOrder : MapOrder (List UdpGroItem))
    (fits : ∀ buf ∈ input, buf.bytes.length ≤ buf.capacity)
    (short : ∀ turns < input.length, ∀ state,
      groLoop offset gro turns 0 ⟨input, ∅, ∅, []⟩ = .ok state →
        ¬ state.Overlong offset gro turns) :
    MergesShort offset gro tcpOrder udpOrder input := by
  have run := fun turns few => @groLoop_reached offset gro input fits turns few
    fun earlier before => short earlier (Nat.lt_of_lt_of_le before few)
  have accounted : ∀ {looped}, groLoop offset gro input.length 0 ⟨input, ∅, ∅, []⟩ = .ok looped →
      ∃ bufs, handleGro offset gro tcpOrder udpOrder ⟨input, ∅, ∅, []⟩ = .ok { looped with bufs }
        ∧ GroState.Short offset input { looped with bufs }
        ∧ ∀ item ∈ looped.items, 0 < item.numMerged →
          ∃ buf, bufs[item.bufsIndex]? = some buf
            ∧ item.LengthsTrue (buf.packet offset) := fun {looped} done => by
    obtain failed | ⟨state, done', reached⟩ := run input.length (Nat.le_refl _)
    · cases failed.symm.trans done
    · cases done'.symm.trans done
      obtain ⟨bufs, account, spec⟩ := reached.accounted (looped.arranged_perm tcpOrder udpOrder)
      exact ⟨bufs, handleGro_eq done account, spec⟩
  refine ⟨fun panicked => ?_, fun turns few state done => ?_, fun looped state done final => ?_⟩
  · obtain failed | ⟨looped, done, -⟩ := run input.length (Nat.le_refl _)
    · unfold handleGro at panicked
      rw [failed] at panicked
      cases panicked
    · obtain ⟨bufs, final, -⟩ := accounted done
      cases final.symm.trans panicked
  · obtain failed | ⟨state', done', reached⟩ := run turns few
    · cases failed.symm.trans done
    · cases done'.symm.trans done
      exact ⟨reached.standing.short, reached.counts⟩
  · obtain ⟨bufs, final', spec⟩ := accounted done
    cases final'.symm.trans final
    exact spec

/-- **No packet is merged beyond 65535 bytes exactly** when no turn has a packet whose partner would
hold more than that. -/
theorem mergesShort_iff (tcpOrder : MapOrder (List TcpGroItem))
    (udpOrder : MapOrder (List UdpGroItem))
    (fits : ∀ buf ∈ input, buf.bytes.length ≤ buf.capacity) :
    MergesShort offset gro tcpOrder udpOrder input
      ↔ ∀ turns < input.length, ∀ state,
        groLoop offset gro turns 0 ⟨input, ∅, ∅, []⟩ = .ok state →
          ¬ state.Overlong offset gro turns :=
  ⟨fun merges turns inside _ => merges.not_overlong fits turns inside,
    mergesShort_of_not_overlong tcpOrder udpOrder fits⟩

theorem mergesShort_iff_sample : MergesShort 10 ⟨0⟩ (.identity _) (.identity _) sampleBatch
    ↔ ∀ turns < 2, ∀ state, groLoop 10 ⟨0⟩ turns 0 ⟨sampleBatch, ∅, ∅, []⟩ = .ok state →
      ¬ state.Overlong 10 ⟨0⟩ turns :=
  mergesShort_iff _ _ (List.forall_mem_cons.mpr
    ⟨by decide, List.forall_mem_singleton.mpr (by decide)⟩)

end Run

/-! ### A datagram twice -/

/-- A first datagram gets an item. -/
theorem groTurn_udp_insert {offset k : Nat} {gro : GroDisablementFlags} {state : GroState}
    {buf : Buffer} {new : UdpGroItem} (present : state.bufs[k]? = some buf)
    (placed : buf.Placed offset)
    (candidate : packetIsGroCandidate (buf.packet offset) gro = .ok .udp4)
    (read : udpGroItem (buf.packet offset) k false = .ok (some new))
    (fresh : state.udpTable.lookup new.key = none) :
    groTurn offset gro k state = .ok { state with
      udpTable := state.udpTable.insert new.key [new]
      toWrite := state.toWrite ++ [k] } := by
  have room : ¬ (offset < virtioNetHdrLen ∨ buf.bytes.length < offset) :=
    not_or.mpr ⟨Nat.not_lt.mpr placed.room, Nat.not_lt.mpr placed.long⟩
  unfold groTurn
  rw [Checked.entry_eq_ok present]
  simp only [bind, Except.bind]
  rw [if_neg room, placed.range_eq_ok]
  dsimp only
  rw [candidate]
  dsimp only
  unfold GroState.evaluate GroState.udp udpGro
  dsimp only
  rw [Checked.entry_eq_ok present]
  simp only [bind, Except.bind]
  rw [placed.range_eq_ok]
  dsimp only
  rw [read]
  dsimp only
  rw [fresh]
  rfl

/-- The headers of a packet agree with themselves. -/
theorem ipHeadersCanCoalesce_self {pkt : Bytes} (long : 9 ≤ pkt.length) :
    ipHeadersCanCoalesce pkt pkt = .ok true := by
  unfold ipHeadersCanCoalesce
  rw [if_neg (by omega), Checked.index_eq_ok (by omega)]
  simp only [bind, Except.bind]
  rw [Checked.index_eq_ok (by omega), Checked.index_eq_ok (by omega),
    Checked.index_eq_ok (by omega), Checked.index_eq_ok (by omega)]
  dsimp only
  simp only [beq_self_eq_true, Bool.and_true]
  split
  · rfl
  · rfl

theorem packetIsGroCandidate_udp4 {pkt : Bytes} {gro : GroDisablementFlags}
    (long : 28 ≤ pkt.length) (first : byteAt pkt 0 = 0x45) (protocol : byteAt pkt 9 = 17)
    (canUdp : gro.canUdp = true) : packetIsGroCandidate pkt gro = .ok .udp4 := by
  unfold packetIsGroCandidate
  rw [if_neg (by omega), Checked.index_eq_ok (by omega), first]
  simp only [bind, Except.bind]
  rw [if_pos (by decide), if_neg (by decide), Checked.index_eq_ok (by omega), protocol]
  dsimp only
  rw [if_neg fun tcp => absurd tcp.1 (by decide), if_pos ⟨rfl, canUdp⟩]
  rfl

/-- A right checksum of a UDP datagram over IPv4. -/
theorem checksumValid_udp4 {pkt : Bytes} (long : 20 ≤ pkt.length) (small : pkt.length ≤ 65535)
    (right : Verifies (pseudoHeaderChecksum 17 (slice pkt 12 4) (slice pkt 16 4)
      (pkt.length - 20) + wordSum (pkt.drop 20))) : checksumValid pkt 20 17 false = .ok true := by
  have rest : slice pkt 20 (pkt.length - 20) = pkt.drop 20 :=
    List.take_of_length_le (by rw [List.length_drop])
  unfold checksumValid
  simp only [Bool.false_eq_true, if_false]
  rw [if_neg (by omega), Checked.minus_eq_ok long]
  simp only [bind, Except.bind]
  rw [Checked.range_eq_ok (by omega) (by omega), Checked.range_eq_ok (by omega) (by omega),
    Checked.range_eq_ok long (Nat.le_refl _), rest, Nat.mod_eq_of_lt (by omega)]
  dsimp only
  rw [groChecksum_eq_ok (by rw [List.length_drop]; omega) (pseudoHeaderChecksum_lt _ _ _ _)]
  show (.ok (complement (foldCarries (pseudoHeaderChecksum 17 (slice pkt 12 4) (slice pkt 16 4)
    (pkt.length - 20) + wordSum (pkt.drop 20))) == 0) : Checked GroError Bool) = .ok true
  rw [complement_foldCarries_eq_zero_iff.mpr right]
  rfl

/-- A UDP datagram over IPv4 in a buffer that has room for it twice. -/
structure Twin (offset : Nat) (gro : GroDisablementFlags) (buf : Buffer) : Prop where
  placed : buf.Placed offset
  candidate : packetIsGroCandidate (buf.packet offset) gro = .ok .udp4
  total : be16 (buf.packet offset) 2 = (buf.packet offset).length
  payload : 28 < (buf.packet offset).length
  unfragmented : byteAt (buf.packet offset) 6 &&& ipv4FlagMoreFragments = 0
    ∧ byteAt (buf.packet offset) 6 <<< 3 = 0 ∧ byteAt (buf.packet offset) 7 = 0
  valid : checksumValid (buf.packet offset) 20 17 false = .ok true
  room : (buf.packet offset).length + (buf.packet offset).length - 28 ≤ buf.capacity - offset

namespace Twin

variable {offset : Nat} {gro : GroDisablementFlags} {buf : Buffer}

/-- The item of the datagram. -/
def item (offset : Nat) (buf : Buffer) (k : Nat) : UdpGroItem where
  key := (flowOf false none (buf.packet offset)).udpKey
  bufsIndex := k
  numMerged := 0
  gsoSize := (buf.packet offset).length - 28
  iphLen := 20

/-- The state after the first one of two. -/
def state (offset : Nat) (buf : Buffer) : GroState where
  bufs := [buf, buf]
  tcpTable := ∅
  udpTable := (∅ : UdpGroTable).insert (item offset buf 0).key [item offset buf 0]
  toWrite := [0]

theorem item_eq (twin : Twin offset gro buf) (k : Nat) :
    udpGroItem (buf.packet offset) k false = .ok (some (item offset buf k)) := by
  obtain ⟨candidate, read, fits⟩ := packetIsGroCandidate_spec (buf.packet offset) gro
  cases read.symm.trans twin.candidate
  exact udpGroItem_datagram fits k twin.total twin.payload twin.unfragmented

theorem first (twin : Twin offset gro buf) :
    groLoop offset gro 1 0 ⟨[buf, buf], ∅, ∅, []⟩ = .ok (state offset buf) := by
  have turn := @groTurn_udp_insert offset 0 gro ⟨[buf, buf], ∅, ∅, []⟩ buf _ rfl twin.placed
    twin.candidate (twin.item_eq 0) (AList.lookup_empty _)
  rw [groLoop, turn]
  rfl

/-- **The second one goes with the first one**, however long both are together. -/
theorem overlong (twin : Twin offset gro buf)
    (long : 65535 < (buf.packet offset).length + (buf.packet offset).length - 28) :
    (state offset buf).Overlong offset gro 1 := by
  have payload := twin.payload
  have present : (state offset buf).bufs[(item offset buf 0).bufsIndex]? = some buf := rfl
  have next : (state offset buf).bufs[1]? = some buf := rfl
  have ip : (item offset buf 1).iphLen ≤ (buf.packet offset).length :=
    Nat.le_trans (show 20 ≤ 28 by decide) (Nat.le_of_lt payload)
  have udp : udpHdrLen ≤ (buf.packet offset).length - (item offset buf 1).iphLen := by
    show 8 ≤ (buf.packet offset).length - 20
    omega
  have whole : (buf.packet offset).length - (item offset buf 1).iphLen - udpHdrLen
      = (buf.packet offset).length - 28 := Nat.sub_sub _ 20 8
  have multiple : ((buf.packet offset).length - 28) % (item offset buf 0).gsoSize = 0 :=
    Nat.mod_self _
  have can : udpPacketsCanCoalesce (buf.packet offset) (item offset buf 1).iphLen
      (item offset buf 1).gsoSize (item offset buf 0) (state offset buf).bufs offset
        = .ok .append := by
    unfold udpPacketsCanCoalesce
    rw [Checked.entry_eq_ok present]
    simp only [bind, Except.bind]
    rw [twin.placed.range_eq_ok]
    dsimp only
    rw [ipHeadersCanCoalesce_self (by omega)]
    dsimp only
    rw [if_neg (by decide), Checked.minus_eq_ok ip]
    dsimp only
    rw [Checked.minus_eq_ok udp]
    dsimp only
    rw [whole, if_neg (not_not.mpr multiple)]
    exact if_neg (Nat.lt_irrefl _)
  have valid : invalidCsum (buf.packet offset) (buf.packet offset) 20 0 17 false = .ok none := by
    unfold invalidCsum itemCsumValid
    rw [if_pos rfl, twin.valid]
    rfl
  have takes : (item offset buf 0).takes (buf.packet offset) (item offset buf 1) offset false
      (state offset buf).bufs = true :=
    (UdpGroItem.takes_iff present can).mpr
      ⟨rfl, accepts_iff.mpr ⟨twin.room, valid⟩⟩
  have found : (state offset buf).udpTable.lookup (item offset buf 1).key
      = some [item offset buf 0] := AList.lookup_insert _
  refine ⟨buf, .udp (item offset buf 0), buf, rfl, twin.placed.room, twin.placed.long, ?_, rfl,
    long⟩
  unfold GroState.partner
  rw [next]
  dsimp only
  rw [twin.candidate]
  show udpPartner _ _ offset 1 _ false = _
  unfold udpPartner
  rw [twin.item_eq 1]
  dsimp only
  rw [found]
  show ((Option.filter _ (some (item offset buf 0))).map _) = _
  rw [Option.filter_some, if_pos takes]
  rfl

end Twin

/-- The headers of a UDP datagram over IPv4 with 32768 zeros behind them. -/
def longHeaders : Bytes :=
  [0x45, 0, 0x80, 0x1c, 0, 1, 0, 0, 64, 17, 0xe6, 0xcd, 10, 0, 0, 1, 10, 0, 0, 2]
    ++ [0, 1, 0, 2, 0x80, 0x08, 0xeb, 0xd7]

/-- The datagram. -/
def longDatagram : Bytes := longHeaders ++ List.replicate 32768 0

/-- The datagram in a buffer that has room for several of them. -/
def longBuffer : Buffer := ⟨List.replicate 10 0 ++ longDatagram, 131072⟩

theorem length_longDatagram : longDatagram.length = 32796 := by
  rw [longDatagram, List.length_append, List.length_replicate]
  rfl

theorem byteAt_longDatagram {index : Nat} (inside : index < 28) :
    byteAt longDatagram index = byteAt longHeaders index :=
  byteAt_append_of_lt _ inside

theorem slice_longDatagram {start size : Nat} (inside : start + size ≤ 28) :
    slice longDatagram start size = slice longHeaders start size :=
  slice_append_of_le _ inside

theorem checksumValid_longDatagram : checksumValid longDatagram 20 17 false = .ok true := by
  have length := length_longDatagram
  have rest : longDatagram.drop 20 = longHeaders.drop 20 ++ List.replicate 32768 0 := rfl
  have words : wordSum [10, 0, 0, 1] = 2561 ∧ wordSum [10, 0, 0, 2] = 2562
      ∧ wordSum (longHeaders.drop 20) = 93154 := ⟨rfl, rfl, rfl⟩
  refine checksumValid_udp4 (by omega) (by omega) ?_
  rw [rest, wordSum_append _ (by decide), wordSum_zeros, slice_longDatagram (by decide),
    slice_longDatagram (by decide), length, pseudoHeaderChecksum, verifies_foldCarries_add]
  show Verifies (wordSum [10, 0, 0, 1] + wordSum [10, 0, 0, 2] + 17 + 32776
    + (wordSum (longHeaders.drop 20) + 0))
  rw [words.1, words.2.1, words.2.2, verifies_iff]
  decide

theorem twin_longBuffer : Twin 10 ⟨0⟩ longBuffer := by
  have length := length_longDatagram
  have packet : longBuffer.packet 10 = longDatagram := List.drop_left' rfl
  have size : longBuffer.bytes.length = 32806 := by
    rw [longBuffer, List.length_append, length, List.length_replicate]
  refine ⟨⟨by decide, ?_, ?_⟩, ?_, ?_, ?_, ?_, ?_, ?_⟩
  · rw [size]
    decide
  · rw [size, longBuffer]
    decide
  · rw [packet]
    exact packetIsGroCandidate_udp4 (by omega) (byteAt_longDatagram (by decide))
      (byteAt_longDatagram (by decide)) rfl
  · rw [packet, length, be16_congr (slice_longDatagram (by decide))]
    rfl
  · rw [packet, length]
    decide
  · rw [packet, byteAt_longDatagram (by decide), byteAt_longDatagram (by decide)]
    decide
  · rw [packet, checksumValid_longDatagram]
  · rw [packet, length, longBuffer]
    decide

/-- **A merged packet of 65564 bytes**, in a buffer that has room for it. -/
theorem merged_overlong :
    ¬ MergesShort 10 ⟨0⟩ (.identity _) (.identity _) [longBuffer, longBuffer] := by
  intro merges
  have fits : ∀ buf ∈ [longBuffer, longBuffer], buf.bytes.length ≤ buf.capacity :=
    List.forall_mem_cons.mpr ⟨twin_longBuffer.placed.fits,
      List.forall_mem_singleton.mpr twin_longBuffer.placed.fits⟩
  refine merges.not_overlong fits 1 (by decide) twin_longBuffer.first
    (twin_longBuffer.overlong ?_)
  have packet : longBuffer.packet 10 = longDatagram := List.drop_left' rfl
  rw [packet, length_longDatagram]
  decide

end RsTun.Gso
