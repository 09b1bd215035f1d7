/-
**The loop over the options, against the walk that TCP lays down.**

`clampTcpMssChecked` is `clamp_tcp_mss` with its indices and slices checked, and a loop that has to
come to its end in the turns it is given.

* `clampTcpMssChecked_eq` — no access is out of range, and the loop ends.
* `MssFrom options i place` — the walk from `i` comes to a well-formed MSS option at `place`.
* **`clampTcpMss_exact`** — that option becomes the minimum of its value and the bound; without one
  nothing changes.
-/

import RsTun.Library.Checked
import RsTun.Packet.Mss

namespace RsTun.Packet

open Library Library.Bytes

/-! ### The accesses of the loop -/

/-- The loop of `clamp_tcp_mss`; it panics when it is not over after `turns` turns. -/
def clampOptionsChecked (options : Bytes) (maxMss : UInt16) :
    Nat → Nat → Checked Empty (Bytes × Bool)
  | 0, i => if i < options.length then .error .panicked else .ok (options, false)
  | turns + 1, i =>
      if i < options.length then do
        let kind ← Checked.index options i
        if kind = tcpOptEol then return (options, false)
        else if kind = tcpOptNop then clampOptionsChecked options maxMss turns (i + 1)
        else if kind = tcpOptMss then
          if options.length < i + 4 then return (options, false)
          else
            let optLen ← Checked.index options (i + 1)
            if optLen ≠ tcpOptMssLen then return (options, false)
            else
              let current ← Checked.readU16 options (i + 2)
              if current ≤ maxMss.toNat then return (options, false)
              else
                let clamped ← Checked.copyFromSlice options (i + 2) (i + 4)
                  (encode 2 maxMss.toNat)
                return (clamped, true)
        else if options.length < i + 2 then return (options, false)
        else
          let optLen ← Checked.index options (i + 1)
          if optLen.toNat < 2 ∨ options.length < i + optLen.toNat then return (options, false)
          else clampOptionsChecked options maxMss turns (i + optLen.toNat)
      else .ok (options, false)

/-- `clamp_tcp_mss`, whose `options` are a slice of the packet. -/
def clampTcpMssChecked (pkt : Bytes) (tcpOff : Nat) (maxMss : UInt16) :
    Checked Empty (Bytes × Bool) :=
  if pkt.length < tcpOff + tcpMinHeaderLen + 4 then .ok (pkt, false)
  else do
    let offsetByte ← Checked.index pkt (tcpOff + 12)
    let dataOffset := (offsetByte >>> 4).toNat * 4
    if dataOffset < tcpMinHeaderLen ∨ pkt.length < tcpOff + dataOffset then return (pkt, false)
    else
      let flags ← Checked.index pkt (tcpOff + 13)
      if flags &&& tcpFlagSyn = 0 then return (pkt, false)
      else
        let options ← Checked.range pkt (tcpOff + tcpMinHeaderLen) (tcpOff + dataOffset)
        let (clamped, changed) ← clampOptionsChecked options maxMss options.length 0
        let pkt ← Checked.copyFromSlice pkt (tcpOff + tcpMinHeaderLen) (tcpOff + dataOffset) clamped
        return (pkt, changed)

theorem clampOptionsChecked_eq {options : Bytes} {maxMss : UInt16} :
    ∀ {turns i : Nat}, options.length ≤ i + turns →
      clampOptionsChecked options maxMss turns i = .ok (clampOptions options maxMss turns i)
  | 0, i, enough => if_neg (Nat.not_lt.mpr enough)
  | turns + 1, i, enough => by
      rw [clampOptionsChecked, clampOptions]
      split
      case isFalse => rfl
      case isTrue inside =>
        simp only [bind, Except.bind, Checked.index_eq_ok inside]
        split
        case isTrue => rfl
        case isFalse =>
          split
          case isTrue => exact clampOptionsChecked_eq (by omega)
          case isFalse =>
            split
            case isTrue =>
              by_cases short : options.length < i + 4
              · rw [if_pos short, if_pos (Or.inl short)]
                rfl
              · rw [if_neg short, Checked.index_eq_ok (by omega)]
                dsimp only
                by_cases other : byteAt options (i + 1) ≠ tcpOptMssLen
                · rw [if_pos other, if_pos (Or.inr other)]
                  rfl
                · rw [if_neg other, if_neg (not_or.mpr ⟨short, other⟩),
                    Checked.readU16_eq_ok (by omega)]
                  dsimp only
                  split
                  · rfl
                  · rw [Checked.copyFromSlice_eq_ok (by rw [length_encode]) (by omega)]
                    rfl
            case isFalse =>
              split
              case isTrue => rfl
              case isFalse whole =>
                rw [Checked.index_eq_ok (by omega)]
                dsimp only
                split
                case isTrue => rfl
                case isFalse => exact clampOptionsChecked_eq (by omega)

/-- The loop keeps the length of the option area. -/
theorem length_clampOptions {options : Bytes} {maxMss : UInt16} (turns : Nat) :
    (clampOptions options maxMss turns 0).1.length = options.length := by
  obtain same | ⟨position, mss, -, clamped⟩ := @clampOptions_cases options maxMss turns 0 .first
  · rw [same]
  · have fits := mss.fits
    rw [clamped]
    exact length_overwrite (by rw [length_encode]; omega)

/-- **No access of `clamp_tcp_mss` is out of range**, and its loop ends. -/
theorem clampTcpMssChecked_eq (pkt : Bytes) (tcpOff : Nat) (maxMss : UInt16) :
    clampTcpMssChecked pkt tcpOff maxMss = .ok (clampTcpMss pkt tcpOff maxMss) := by
  have header : tcpMinHeaderLen = 20 := rfl
  unfold clampTcpMssChecked clampTcpMss
  by_cases short : pkt.length < tcpOff + tcpMinHeaderLen + 4
  · rw [if_pos short, if_pos short]
  rw [if_neg short, if_neg short, Checked.index_eq_ok (by omega)]
  simp only [bind, Except.bind]
  by_cases outside : dataOffset pkt tcpOff < tcpMinHeaderLen
      ∨ pkt.length < tcpOff + dataOffset pkt tcpOff
  · rw [if_pos outside]
    exact if_pos outside
  rw [if_neg outside]
  refine (if_neg outside).trans ?_
  obtain ⟨low, high⟩ := not_or.mp outside
  rw [Checked.index_eq_ok (by omega)]
  dsimp only
  split
  case isTrue => rfl
  case isFalse =>
    have size : tcpOff + dataOffset pkt tcpOff - (tcpOff + tcpMinHeaderLen)
        = dataOffset pkt tcpOff - tcpMinHeaderLen := by omega
    have area : Checked.range pkt (tcpOff + tcpMinHeaderLen) (tcpOff + dataOffset pkt tcpOff)
        = (.ok (optionArea pkt tcpOff) : Checked Empty Bytes) := by
      rw [Checked.range_eq_ok (by omega) (by omega), size]
      rfl
    have long : (optionArea pkt tcpOff).length = dataOffset pkt tcpOff - tcpMinHeaderLen :=
      length_slice (by omega)
    show Except.bind (Checked.range pkt (tcpOff + tcpMinHeaderLen)
      (tcpOff + dataOffset pkt tcpOff)) _ = _
    rw [area]
    simp only [Except.bind]
    rw [clampOptionsChecked_eq (Nat.le_add_left _ _)]
    dsimp only
    have back : Checked.copyFromSlice pkt (tcpOff + tcpMinHeaderLen)
        (tcpOff + dataOffset pkt tcpOff)
        (clampOptions (optionArea pkt tcpOff) maxMss (optionArea pkt tcpOff).length 0).1
        = (.ok (overwrite pkt (tcpOff + tcpMinHeaderLen)
          (clampOptions (optionArea pkt tcpOff) maxMss (optionArea pkt tcpOff).length 0).1)
            : Checked Empty Bytes) :=
      Checked.copyFromSlice_eq_ok (by rw [length_clampOptions]; omega) (by omega)
    rw [dataOffset] at back
    rw [back]
    rfl

/-! ### The walk that TCP lays down -/

/-- The walk over the options from the first position comes to a well-formed MSS option at the
second: EOL ends it, a NOP is one byte, any other option carries its length, which is at least 2
and ends within the area. -/
inductive MssFrom (options : Bytes) : Nat → Nat → Prop
  | here {position : Nat} : byteAt options position = tcpOptMss →
      byteAt options (position + 1) = tcpOptMssLen → position + 4 ≤ options.length →
      MssFrom options position position
  | nop {position place : Nat} : position < options.length →
      byteAt options position = tcpOptNop → MssFrom options (position + 1) place →
      MssFrom options position place
  | other {position place : Nat} : byteAt options position ≠ tcpOptEol →
      byteAt options position ≠ tcpOptNop → byteAt options position ≠ tcpOptMss →
      2 ≤ (byteAt options (position + 1)).toNat →
      position + (byteAt options (position + 1)).toNat ≤ options.length →
      MssFrom options (position + (byteAt options (position + 1)).toNat) place →
      MssFrom options position place

/-! ### The loop and the walk -/

/-- What clamping leaves of data whose MSS option has its value at the offset. -/
def clampedAt (data : Bytes) (start : Nat) (maxMss : UInt16) : Bytes :=
  overwrite data start (encode 2 (min (be16 data start) maxMss.toNat))

/-- A value of at most the bound stays. -/
theorem clampedAt_of_le {data : Bytes} {start : Nat} {maxMss : UInt16}
    (inside : start + 2 ≤ data.length) (low : be16 data start ≤ maxMss.toNat) :
    clampedAt data start maxMss = data := by
  rw [clampedAt, Nat.min_eq_left low, encode_be16 inside, overwrite_slice_self inside]

/-- A larger value is replaced, and the data changes. -/
theorem clampedAt_ne {data : Bytes} {start : Nat} {maxMss : UInt16}
    (inside : start + 2 ≤ data.length) (large : maxMss.toNat < be16 data start) :
    clampedAt data start maxMss ≠ data := by
  intro same
  have read : be16 (clampedAt data start maxMss) start = be16 data start := by rw [same]
  have bound := maxMss.toNat_lt
  rw [clampedAt, Nat.min_eq_right (Nat.le_of_lt large), be16_overwrite inside,
    Nat.mod_eq_of_lt bound] at read
  omega

/-- **The walk comes to an MSS option**: the loop lowers it. -/
theorem clampOptions_of_mssFrom {options : Bytes} {maxMss : UInt16} {place : Nat} :
    ∀ {turns i : Nat}, options.length ≤ i + turns → MssFrom options i place →
      clampOptions options maxMss turns i
        = (clampedAt options (place + 2) maxMss, decide (maxMss.toNat < be16 options (place + 2)))
  | 0, i, enough, walk => by
      cases walk with
      | here _ _ fits => omega
      | nop inside => omega
      | other _ _ _ long fits => omega
  | turns + 1, i, enough, walk => by
      rw [clampOptions]
      cases walk with
      | here kind length fits =>
          have malformed : ¬ (options.length < place + 4
              ∨ byteAt options (place + 1) ≠ tcpOptMssLen) :=
            not_or.mpr ⟨Nat.not_lt.mpr fits, not_not.mpr length⟩
          rw [if_pos (show place < options.length by omega)]
          dsimp only
          rw [if_neg (by rw [kind]; decide), if_neg (by rw [kind]; decide), if_pos kind,
            if_neg malformed]
          by_cases low : be16 options (place + 2) ≤ maxMss.toNat
          · rw [if_pos low, clampedAt_of_le (by omega) low, decide_eq_false (Nat.not_lt.mpr low)]
          · rw [if_neg low, clampedAt, Nat.min_eq_right (by omega), decide_eq_true (by omega)]
      | nop inside nop later =>
          rw [if_pos inside]
          dsimp only
          rw [if_neg (by rw [nop]; decide), if_pos nop]
          exact clampOptions_of_mssFrom (by omega) later
      | other notEol notNop notMss long fits later =>
          have malformed : ¬ ((byteAt options (i + 1)).toNat < 2
              ∨ options.length < i + (byteAt options (i + 1)).toNat) := by omega
          rw [if_pos (show i < options.length by omega)]
          dsimp only
          rw [if_neg notEol, if_neg notNop, if_neg notMss, if_neg (by omega), if_neg malformed]
          exact clampOptions_of_mssFrom (by omega) later

/-- **The walk comes to no MSS option**: the loop changes nothing. -/
theorem clampOptions_of_not_mssFrom {options : Bytes} {maxMss : UInt16} :
    ∀ {turns i : Nat}, (∀ place, ¬ MssFrom options i place) →
      clampOptions options maxMss turns i = (options, false)
  | 0, _, _ => rfl
  | turns + 1, i, never => by
      rw [clampOptions]
      split
      case isFalse => rfl
      case isTrue inside =>
        dsimp only
        split
        case isTrue => rfl
        case isFalse notEol =>
          split
          case isTrue nop =>
            exact clampOptions_of_not_mssFrom fun place later => never place (.nop inside nop later)
          case isFalse notNop =>
            split
            case isTrue kind =>
              split
              case isTrue => rfl
              case isFalse wellFormed =>
                obtain ⟨fits, length⟩ := not_or.mp wellFormed
                exact absurd (.here kind (not_not.mp length) (Nat.le_of_not_lt fits)) (never i)
            case isFalse notMss =>
              split
              case isTrue => rfl
              case isFalse =>
                split
                case isTrue => rfl
                case isFalse wellFormed =>
                  obtain ⟨long, fits⟩ := not_or.mp wellFormed
                  exact clampOptions_of_not_mssFrom fun place later => never place
                    (.other notEol notNop notMss (Nat.le_of_not_lt long) (Nat.le_of_not_lt fits)
                      later)

/-- The option that the walk comes to lies in the area. -/
theorem MssFrom.fits {options : Bytes} {position place : Nat}
    (walk : MssFrom options position place) : place + 4 ≤ options.length := by
  induction walk with
  | here _ _ fits => exact fits
  | nop _ _ _ ih => exact ih
  | other _ _ _ _ _ _ ih => exact ih

/-! ### Segments -/

/-- **The MSS option of a segment** that is a SYN and whose header is all there: where its value
stands. -/
structure MssValue (pkt : Bytes) (tcpOff start : Nat) : Prop where
  syn : byteAt pkt (tcpOff + 13) &&& tcpFlagSyn ≠ 0
  whole : tcpOff + dataOffset pkt tcpOff ≤ pkt.length
  walk : ∃ place, MssFrom (optionArea pkt tcpOff) 0 place
    ∧ start = tcpOff + tcpMinHeaderLen + place + 2

variable {pkt : Bytes} {tcpOff start : Nat}

/-- **A segment with an MSS option.** -/
theorem clampTcpMss_of_value (maxMss : UInt16) (value : MssValue pkt tcpOff start) :
    clampTcpMss pkt tcpOff maxMss
        = (clampedAt pkt start maxMss, decide (maxMss.toNat < be16 pkt start))
      ∧ start + 2 ≤ pkt.length := by
  obtain ⟨syn, whole, place, walk, rfl⟩ := value
  have header : tcpMinHeaderLen = 20 := rfl
  have fits := walk.fits
  have most : (optionArea pkt tcpOff).length ≤ dataOffset pkt tcpOff - tcpMinHeaderLen :=
    List.length_take_le _ _
  have area : tcpOff + tcpMinHeaderLen + (dataOffset pkt tcpOff - tcpMinHeaderLen) ≤ pkt.length :=
    by omega
  have inside : place + 2 + 2 ≤ dataOffset pkt tcpOff - tcpMinHeaderLen := by omega
  have read : be16 (optionArea pkt tcpOff) (place + 2)
      = be16 pkt (tcpOff + tcpMinHeaderLen + place + 2) := by
    rw [optionArea, be16_slice inside]
    rfl
  have back : overwrite pkt (tcpOff + tcpMinHeaderLen)
      (clampedAt (optionArea pkt tcpOff) (place + 2) maxMss)
        = clampedAt pkt (tcpOff + tcpMinHeaderLen + place + 2) maxMss := by
    rw [clampedAt, clampedAt, read]
    exact overwrite_overwrite_slice area (by rw [length_encode]; exact inside)
  refine ⟨?_, by omega⟩
  unfold clampTcpMss
  rw [if_neg (by omega), if_neg (by omega), if_neg syn]
  dsimp only
  rw [clampOptions_of_mssFrom (Nat.le_add_left _ _) walk, read, back]

/-- **A segment without one**, or no SYN, or cut short. -/
theorem clampTcpMss_of_no_value (maxMss : UInt16) (none : ∀ start, ¬ MssValue pkt tcpOff start) :
    clampTcpMss pkt tcpOff maxMss = (pkt, false) := by
  unfold clampTcpMss
  split
  case isTrue => rfl
  case isFalse =>
    split
    case isTrue => rfl
    case isFalse inside =>
      obtain ⟨low, high⟩ := not_or.mp inside
      split
      case isTrue => rfl
      case isFalse syn =>
        dsimp only
        rw [clampOptions_of_not_mssFrom fun place walk =>
          none _ ⟨syn, Nat.le_of_not_lt high, place, walk, rfl⟩]
        have area : tcpOff + tcpMinHeaderLen + (dataOffset pkt tcpOff - tcpMinHeaderLen)
            ≤ pkt.length := by omega
        exact congrArg (·, false) (overwrite_slice_self area)

/-- **`clamp_tcp_mss` is what TCP asks for**: on every packet and at every offset it returns; the
first MSS option of a SYN segment, where the walk over the options comes to one, becomes the minimum
of its value and the bound, and no other byte changes; else no byte changes. It returns true exactly
when the packet changed. -/
theorem clampTcpMss_exact (pkt : Bytes) (tcpOff : Nat) (maxMss : UInt16) : ∃ after changed,
    clampTcpMssChecked pkt tcpOff maxMss = .ok (after, changed)
      ∧ (∀ start, MssValue pkt tcpOff start → after = clampedAt pkt start maxMss)
      ∧ ((∀ start, ¬ MssValue pkt tcpOff start) → after = pkt)
      ∧ (changed = true ↔ after ≠ pkt) := by
  refine ⟨(clampTcpMss pkt tcpOff maxMss).1, (clampTcpMss pkt tcpOff maxMss).2,
    clampTcpMssChecked_eq pkt tcpOff maxMss,
    fun start value => congrArg Prod.fst (clampTcpMss_of_value maxMss value).1,
    fun none => congrArg Prod.fst (clampTcpMss_of_no_value maxMss none), ?_⟩
  by_cases found : ∃ start, MssValue pkt tcpOff start
  · obtain ⟨start, value⟩ := found
    obtain ⟨clamped, inside⟩ := clampTcpMss_of_value maxMss value
    rw [clamped, decide_eq_true_iff]
    refine ⟨clampedAt_ne inside, fun changed => Nat.lt_of_not_le fun low => ?_⟩
    exact changed (clampedAt_of_le inside low)
  · rw [clampTcpMss_of_no_value maxMss (not_exists.mp found)]
    exact iff_of_false Bool.false_ne_true (not_not.mpr rfl)

end RsTun.Packet
