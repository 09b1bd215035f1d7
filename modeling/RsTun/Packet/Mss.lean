/-
**Clamping the MSS option of a SYN segment.**

* `clampOptions` is the loop over the option area, `clampTcpMss` the whole function.
* `OptionAt options position` — the options of the area, walked one by one as TCP lays them out,
  reach `position`.
* `clampTcpMss_cases` — the packet is unchanged, or the value of an MSS option that the walk reaches
  was larger than the bound and is now the bound (`LowersMss`).
-/

import RsTun.Library.Bytes

namespace RsTun.Packet

open Library Library.Bytes

/-- `TCP_OPT_EOL`. -/
def tcpOptEol : UInt8 := 0

/-- `TCP_OPT_NOP`. -/
def tcpOptNop : UInt8 := 1

/-- `TCP_OPT_MSS`. -/
def tcpOptMss : UInt8 := 2

/-- `TCP_OPT_MSS_LEN`. -/
def tcpOptMssLen : UInt8 := 4

/-- `TCP_MIN_HEADER_LEN`. -/
def tcpMinHeaderLen : Nat := 20

/-- `TCP_FLAG_SYN`. -/
def tcpFlagSyn : UInt8 := 0x02

/-- The data offset field, in bytes. -/
def dataOffset (pkt : Bytes) (tcpOff : Nat) : Nat := (byteAt pkt (tcpOff + 12) >>> 4).toNat * 4

/-- The option area of the segment at `tcpOff`. -/
def optionArea (pkt : Bytes) (tcpOff : Nat) : Bytes :=
  slice pkt (tcpOff + tcpMinHeaderLen) (dataOffset pkt tcpOff - tcpMinHeaderLen)

/-- The loop of `clamp_tcp_mss`, at most `turns` turns of it from `i` on. -/
def clampOptions (options : Bytes) (maxMss : UInt16) : Nat → Nat → Bytes × Bool
  | 0, _ => (options, false)
  | turns + 1, i =>
      if i < options.length then
        let kind := byteAt options i
        if kind = tcpOptEol then (options, false)
        else if kind = tcpOptNop then clampOptions options maxMss turns (i + 1)
        else if kind = tcpOptMss then
          if options.length < i + 4 ∨ byteAt options (i + 1) ≠ tcpOptMssLen then (options, false)
          else if be16 options (i + 2) ≤ maxMss.toNat then (options, false)
          else (overwrite options (i + 2) (encode 2 maxMss.toNat), true)
        else if options.length < i + 2 then (options, false)
        else
          let optLen := (byteAt options (i + 1)).toNat
          if optLen < 2 ∨ options.length < i + optLen then (options, false)
          else clampOptions options maxMss turns (i + optLen)
      else (options, false)

/-- `clamp_tcp_mss`: the packet afterwards, and whether it was changed. A turn of the loop moves
forward, so that there are enough turns. -/
def clampTcpMss (pkt : Bytes) (tcpOff : Nat) (maxMss : UInt16) : Bytes × Bool :=
  if pkt.length < tcpOff + tcpMinHeaderLen + 4 then (pkt, false)
  else if dataOffset pkt tcpOff < tcpMinHeaderLen ∨ pkt.length < tcpOff + dataOffset pkt tcpOff then
    (pkt, false)
  else if byteAt pkt (tcpOff + 13) &&& tcpFlagSyn = 0 then (pkt, false)
  else
    let options := optionArea pkt tcpOff
    let clamped := clampOptions options maxMss options.length 0
    (overwrite pkt (tcpOff + tcpMinHeaderLen) clamped.1, clamped.2)

/-! ### Where the MSS option stands -/

/-- Walking the options one by one from the start of the area reaches the position: a NOP is one
byte, other options carry their length; EOL and MSS are not walked over. -/
inductive OptionAt (options : Bytes) : Nat → Prop
  | first : OptionAt options 0
  | afterNop {position : Nat} : OptionAt options position → position < options.length →
      byteAt options position = tcpOptNop → OptionAt options (position + 1)
  | afterOther {position : Nat} : OptionAt options position →
      byteAt options position ≠ tcpOptEol → byteAt options position ≠ tcpOptNop →
      byteAt options position ≠ tcpOptMss → 2 ≤ (byteAt options (position + 1)).toNat →
      position + (byteAt options (position + 1)).toNat ≤ options.length →
      OptionAt options (position + (byteAt options (position + 1)).toNat)

/-- A well-formed MSS option stands at the position. -/
structure MssOptionAt (options : Bytes) (position : Nat) : Prop where
  reached : OptionAt options position
  kind : byteAt options position = tcpOptMss
  length : byteAt options (position + 1) = tcpOptMssLen
  fits : position + 4 ≤ options.length

/-- The value of the MSS option of a SYN segment stands at the offset of the packet. -/
def MssValueAt (pkt : Bytes) (tcpOff start : Nat) : Prop :=
  byteAt pkt (tcpOff + 13) &&& tcpFlagSyn ≠ 0
    ∧ ∃ position, MssOptionAt (optionArea pkt tcpOff) position
      ∧ start = tcpOff + tcpMinHeaderLen + position + 2

/-- **A lowered MSS option**, or nothing at all: with a bound, the value of the MSS option was
larger and is now the bound. -/
def LowersMss (tcpOff : Nat) (tcpMss : Option UInt16) (before after : Bytes) : Prop :=
  after = before
    ∨ ∃ maxMss ∈ tcpMss, ∃ start, MssValueAt before tcpOff start ∧ start + 2 ≤ before.length
      ∧ maxMss.toNat < be16 before start ∧ after = overwrite before start (encode 2 maxMss.toNat)

/-- The loop changes nothing, or the value of the option it stopped at. -/
theorem clampOptions_cases {options : Bytes} {maxMss : UInt16} :
    ∀ {turns i : Nat}, OptionAt options i →
      clampOptions options maxMss turns i = (options, false)
        ∨ ∃ position, MssOptionAt options position
          ∧ maxMss.toNat < be16 options (position + 2)
          ∧ clampOptions options maxMss turns i
            = (overwrite options (position + 2) (encode 2 maxMss.toNat), true)
  | 0, _, _ => Or.inl rfl
  | turns + 1, i, reached => by
      rw [clampOptions]
      split
      · rename_i inside
        dsimp only
        split
        · exact Or.inl rfl
        · rename_i notEol
          split
          · rename_i nop
            exact clampOptions_cases (.afterNop reached inside nop)
          · rename_i notNop
            split
            · rename_i mss
              split
              · exact Or.inl rfl
              · rename_i wellFormed
                split
                · exact Or.inl rfl
                · rename_i larger
                  have length : byteAt options (i + 1) = tcpOptMssLen := by
                    by_contra other
                    exact wellFormed (Or.inr other)
                  refine Or.inr ⟨i, ⟨reached, mss, length, ?_⟩, Nat.lt_of_not_le larger, rfl⟩
                  exact Nat.le_of_not_lt fun short => wellFormed (Or.inl short)
            · rename_i notMss
              split
              · exact Or.inl rfl
              · split
                · exact Or.inl rfl
                · rename_i wellFormed
                  refine clampOptions_cases (.afterOther reached notEol notNop notMss ?_ ?_)
                  · exact Nat.le_of_not_lt fun short => wellFormed (Or.inl short)
                  · exact Nat.le_of_not_lt fun short => wellFormed (Or.inr short)
      · exact Or.inl rfl

/-- **What clamping does to a packet.** -/
theorem clampTcpMss_cases (pkt : Bytes) (tcpOff : Nat) (maxMss : UInt16) :
    LowersMss tcpOff (some maxMss) pkt (clampTcpMss pkt tcpOff maxMss).1 := by
  unfold clampTcpMss
  split
  · exact Or.inl rfl
  · split
    · exact Or.inl rfl
    · rename_i enough
      split
      · exact Or.inl rfl
      · rename_i syn
        have area : tcpOff + tcpMinHeaderLen + (dataOffset pkt tcpOff - tcpMinHeaderLen)
            ≤ pkt.length := by
          omega
        have size : (optionArea pkt tcpOff).length = dataOffset pkt tcpOff - tcpMinHeaderLen :=
          length_slice area
        rcases @clampOptions_cases (optionArea pkt tcpOff) maxMss (optionArea pkt tcpOff).length 0
          .first with same | ⟨position, mss, larger, clamped⟩
        · refine Or.inl ?_
          simp only [same]
          exact overwrite_slice_self area
        · have fits : position + 2 + 2 ≤ dataOffset pkt tcpOff - tcpMinHeaderLen := by
            have := mss.fits
            omega
          have value : be16 (optionArea pkt tcpOff) (position + 2)
              = be16 pkt (tcpOff + tcpMinHeaderLen + (position + 2)) := by
            apply be16_congr
            apply List.ext_getElem?
            intro index
            rw [getElem?_slice, getElem?_slice, optionArea, getElem?_slice]
            split
            · rw [if_pos (by omega)]
              congr 1
              omega
            · rfl
          refine Or.inr ⟨maxMss, rfl, tcpOff + tcpMinHeaderLen + position + 2,
            ⟨syn, position, mss, rfl⟩, ?_, ?_, ?_⟩
          · omega
          · rwa [value, ← Nat.add_assoc] at larger
          · simp only [clamped]
            rw [optionArea, overwrite_overwrite_slice area (by rw [length_encode]; exact fits),
              Nat.add_assoc _ position 2]

/-- Packets that agree from the data offset on have their MSS option at one place. -/
theorem MssValueAt.congr {touched : Set Nat} {before after : Bytes} {tcpOff start : Nat}
    (agree : AgreeOff touched before after) (apart : ∀ index ∈ touched, index < tcpOff + 12)
    (found : MssValueAt after tcpOff start) : MssValueAt before tcpOff start := by
  have same : ∀ index, tcpOff + 12 ≤ index → byteAt after index = byteAt before index :=
    fun index beyond => agree.byteAt_eq fun inside => absurd (apart index inside) (by omega)
  have offset : dataOffset after tcpOff = dataOffset before tcpOff := by
    rw [dataOffset, dataOffset, same _ (Nat.le_refl _)]
  have area : optionArea after tcpOff = optionArea before tcpOff := by
    rw [optionArea, optionArea, offset]
    refine agree.slice_eq fun index low _ inside => absurd (apart index inside) ?_
    simp only [tcpMinHeaderLen] at low
    omega
  rw [MssValueAt, same _ (by omega), area] at found
  exact found

/-- The value of an MSS option stands in the option area. -/
theorem MssValueAt.beyond {pkt : Bytes} {tcpOff start : Nat} (found : MssValueAt pkt tcpOff start) :
    tcpOff + 20 ≤ start := by
  obtain ⟨-, position, -, rfl⟩ := found
  simp only [tcpMinHeaderLen]
  omega

/-- Lowering an MSS option changes the option area only. -/
theorem LowersMss.agreeOff {tcpOff : Nat} {tcpMss : Option UInt16} {before after : Bytes}
    (lowers : LowersMss tcpOff tcpMss before after) :
    AgreeOff {index | tcpOff + 20 ≤ index} before after := by
  rcases lowers with rfl | ⟨maxMss, -, start, found, fits, -, rfl⟩
  · exact AgreeOff.refl _ _
  · refine agreeOff_overwrite ?_ fun index low _ => Nat.le_trans found.beyond low
    rwa [length_encode]

/-- **The same option is lowered in a packet that differs before the data offset only.** -/
theorem LowersMss.congr {touched : Set Nat} {before before' after' : Bytes} {tcpOff : Nat}
    {tcpMss : Option UInt16} (agree : AgreeOff touched before before')
    (apart : ∀ index ∈ touched, index < tcpOff + 12)
    (lowers : LowersMss tcpOff tcpMss before' after') :
    ∃ after, LowersMss tcpOff tcpMss before after ∧ AgreeOff touched after after' := by
  rcases lowers with rfl | ⟨maxMss, bound, start, found, fits, larger, rfl⟩
  · exact ⟨before, Or.inl rfl, agree⟩
  · have beyond := found.beyond
    have same : be16 before' start = be16 before start := by
      refine be16_congr (agree.slice_eq fun index low _ inside => absurd (apart index inside) ?_)
      omega
    rw [agree.1] at fits
    rw [same] at larger
    refine ⟨_, Or.inr ⟨maxMss, bound, start, found.congr agree apart, fits, larger, rfl⟩, ?_⟩
    exact agree.overwrite (by rwa [length_encode])

end RsTun.Packet
