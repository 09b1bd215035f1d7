/-
**The checksum routines, addition by addition.**

The source sums a string of bytes in five places, each with a loop of its own over a `u32`. The
rest of the development takes such a sum as one number (`wordSum`) and folds it in one step
(`foldCarries`). Here the loops are the source's, and every addition is checked.

* `addWords_eq_ok`, `addPairs_eq_ok`, `fold_eq_ok` — the loops, below 2³².
* `internetChecksum_eq_ok`, `checksumWithPseudoV4_eq_ok`, … — each routine returns what the rest of
  the development says it does.
* **`checksums_agree`** — the routines agree, and a field filled with a checksum verifies.
-/

import RsTun.Gso.Candidates
import RsTun.Net.Addr

namespace RsTun.Gso.Loops

open Library Library.Bytes Library.OnesComplement Packet

/-! ### The loops -/

/-- `sum += number`, in `u32`. -/
def add (sum number : Nat) : Checked Empty Nat := Checked.inBits 32 (sum + number)

/-- `((high as u32) << 8) | (low as u32)`, and `u16::from_be_bytes([high, low]) as u32`. -/
def word (high low : UInt8) : Nat := high.toNat <<< 8 ||| low.toNat

/-- Adds the words of two bytes, as the loops over addresses do. -/
def addPairs (sum : Nat) : Bytes → Checked Empty Nat
  | high :: low :: rest => do addPairs (← add sum (word high low)) rest
  | _ => .ok sum

/-- Adds the words of two bytes and an odd last byte, as the loops over data do. -/
def addWords (sum : Nat) : Bytes → Checked Empty Nat
  | high :: low :: rest => do addWords (← add sum (word high low)) rest
  | [high] => add sum (high.toNat <<< 8)
  | [] => .ok sum

/-- `while sum >> 16 != 0 { sum = (sum & 0xffff) + (sum >> 16) }`; no value when it has not ended
after `turns` tests of the condition. -/
def foldTurns : Nat → Nat → Checked Empty Nat
  | 0, _ => .error .panicked
  | turns + 1, sum =>
      if sum >>> 16 = 0 then .ok sum
      else do foldTurns turns (← add (sum &&& 0xffff) (sum >>> 16))

/-- The same, in as many turns as a `u32` takes. -/
def fold (sum : Nat) : Checked Empty Nat := foldTurns 3 sum

/-! ### The routines -/

/-- `internet_checksum`. -/
def internetChecksum (data : Bytes) : Checked Empty UInt16 := do
  let sum ← addWords 0 data
  let sum ← fold sum
  return ~~~UInt16.ofNat sum

/-- `checksum_with_pseudo_v4`. -/
def checksumWithPseudoV4 (src dst : Ipv4Addr) (proto : UInt8) (data : Bytes) :
    Checked Empty UInt16 := do
  let sum ← addPairs 0 (pseudoV4 src.bytes dst.bytes proto data.length)
  let sum ← addWords sum data
  let sum ← fold sum
  return ~~~UInt16.ofNat sum

/-- `checksum_with_pseudo_v6`. -/
def checksumWithPseudoV6 (src dst : Ipv6Addr) (proto : UInt8) (data : Bytes) :
    Checked Empty UInt16 := do
  let len := data.length % 2 ^ 32
  let sum ← addPairs 0 src.bytes
  let sum ← addPairs sum dst.bytes
  let sum ← add sum ((len >>> 16) &&& 0xffff)
  let sum ← add sum (len &&& 0xffff)
  let sum ← add sum proto.toNat
  let sum ← addWords sum data
  let sum ← fold sum
  return ~~~UInt16.ofNat sum

/-- `checksum`. -/
def checksum (data : Bytes) (initial : UInt16) : Checked Empty UInt16 := do
  let sum ← addWords initial.toNat data
  let sum ← fold sum
  return UInt16.ofNat sum

/-- `checksum_combine`. -/
def checksumCombine (a b : UInt16) : Checked Empty UInt16 := do
  let sum ← add a.toNat b.toNat
  let sum ← fold sum
  return UInt16.ofNat sum

/-- `pseudo_header_checksum`. -/
def pseudoHeaderChecksum (protocol : UInt8) (src dst : Bytes) (length : UInt16) :
    Checked Empty UInt16 := do
  let sum ← addPairs 0 src
  let sum ← addPairs sum dst
  let sum ← add sum protocol.toNat
  let sum ← add sum length.toNat
  let sum ← fold sum
  return UInt16.ofNat sum

/-! ### What the loops add up to -/

theorem word_eq (high low : UInt8) : word high low = high.toNat * 256 + low.toNat := by
  rw [word, ← Nat.shiftLeft_add_eq_or_of_lt low.toNat_lt, Nat.shiftLeft_eq]

theorem add_eq_ok {sum number : Nat} (fits : sum + number < 2 ^ 32) :
    add sum number = .ok (sum + number) := Checked.inBits_eq_ok fits

/-- **The loop over data** adds up the words, and no sum on the way is larger than the last. -/
theorem addWords_eq_ok : ∀ {data : Bytes} {sum : Nat}, sum + wordSum data < 2 ^ 32 →
    addWords sum data = .ok (sum + wordSum data)
  | [], sum, _ => rfl
  | [high], sum, fits => by
      rw [wordSum] at fits ⊢
      rw [addWords, Nat.shiftLeft_eq]
      exact add_eq_ok fits
  | high :: low :: rest, sum, fits => by
      rw [wordSum, ← Nat.add_assoc] at fits ⊢
      rw [addWords, word_eq, add_eq_ok (by omega)]
      exact addWords_eq_ok fits

/-- **The loop over addresses**, which have whole words. -/
theorem addPairs_eq_ok : ∀ {data : Bytes} {sum : Nat}, data.length % 2 = 0 →
    sum + wordSum data < 2 ^ 32 → addPairs sum data = .ok (sum + wordSum data)
  | [], sum, _, _ => rfl
  | [_], sum, even, _ => by simp at even
  | high :: low :: rest, sum, even, fits => by
      have shorter : rest.length % 2 = 0 := by
        simp only [List.length_cons] at even
        omega
      rw [wordSum, ← Nat.add_assoc] at fits ⊢
      rw [addPairs, word_eq, add_eq_ok (by omega)]
      exact addPairs_eq_ok shorter fits

/-- One turn of the folding loop. -/
theorem foldTurns_succ (turns : Nat) {sum : Nat} (fits : sum < 2 ^ 32) :
    foldTurns (turns + 1) sum
      = if sum < 65536 then .ok sum else foldTurns turns (sum % 65536 + sum / 65536) := by
  have high : sum >>> 16 = sum / 65536 := Nat.shiftRight_eq_div_pow sum 16
  have low : sum &&& 0xffff = sum % 65536 := Nat.and_two_pow_sub_one_eq_mod sum 16
  rw [foldTurns, high, low, add_eq_ok (by omega)]
  by_cases small : sum < 65536
  · rw [if_pos small, if_pos (Nat.div_eq_of_lt small)]
  · rw [if_neg small, if_neg (by omega)]
    rfl

/-- **The folding loop** ends: a second turn leaves no carry. -/
theorem fold_eq_ok {sum : Nat} (fits : sum < 2 ^ 32) : fold sum = .ok (foldCarries sum) := by
  rw [fold, foldTurns_succ 2 fits, foldCarries_eq]
  split
  · congr 1
    split <;> omega
  rw [foldTurns_succ 1 (by omega)]
  split
  · congr 1
    split <;> omega
  rw [foldTurns_succ 0 (by omega), if_pos (by omega)]
  congr 1
  split <;> omega

/-! ### What the routines return -/

theorem toNat_not_ofNat (sum : Nat) : (~~~UInt16.ofNat sum).toNat = complement sum := by
  rw [UInt16.toNat_not, UInt16.toNat_ofNat']
  rfl

theorem ofNat_complement (sum : Nat) : UInt16.ofNat (complement sum) = ~~~UInt16.ofNat sum := by
  rw [← toNat_not_ofNat, UInt16.ofNat_toNat]

theorem toNat_ofNat_foldCarries (sum : Nat) :
    (UInt16.ofNat (foldCarries sum)).toNat = foldCarries sum := by
  rw [UInt16.toNat_ofNat']
  exact Nat.mod_eq_of_lt (foldCarries_lt sum)

section

variable {data : Bytes}

theorem checksum_eq_ok (initial : UInt16) (small : data.length ≤ 131070) :
    checksum data initial = .ok (.ofNat (foldCarries (initial.toNat + wordSum data))) := by
  have bound := wordSum_le data
  have seed := initial.toNat_lt
  have fits : initial.toNat + wordSum data < 2 ^ 32 := by omega
  rw [checksum, addWords_eq_ok fits]
  simp only [bind, Except.bind]
  rw [fold_eq_ok fits]
  rfl

-- the two zeros of ones' complement: words of ones do not fold to zero
example : checksum [0xff, 0xff] 0 = .ok 0xffff ∧ checksum [0xff, 0xff] 0xffff = .ok 0xffff
    ∧ checksum [0, 0] 0 = .ok 0 := by decide

theorem internetChecksum_eq_ok (small : data.length ≤ 131070) :
    internetChecksum data = .ok (.ofNat (Packet.internetChecksum data)) := by
  have bound := wordSum_le data
  have fits : 0 + wordSum data < 2 ^ 32 := by omega
  rw [internetChecksum, addWords_eq_ok fits]
  simp only [bind, Except.bind]
  rw [fold_eq_ok fits, Packet.internetChecksum, ofNat_complement, Nat.zero_add]
  rfl

theorem checksumCombine_eq_ok (a b : UInt16) :
    checksumCombine a b = .ok (.ofNat (Gso.checksumCombine a.toNat b.toNat)) := by
  have first := a.toNat_lt
  have second := b.toNat_lt
  have fits : a.toNat + b.toNat < 2 ^ 32 := by omega
  rw [checksumCombine, add_eq_ok fits]
  simp only [bind, Except.bind]
  rw [fold_eq_ok fits]
  rfl

theorem pseudoHeaderChecksum_eq_ok {src dst : Bytes} {size : Nat} (protocol : UInt8)
    (length : UInt16) (srcSize : src.length = size) (dstSize : dst.length = size)
    (short : size ≤ 16) (even : size % 2 = 0) :
    pseudoHeaderChecksum protocol src dst length
      = .ok (.ofNat (Gso.pseudoHeaderChecksum protocol src dst length.toNat)) := by
  have sumSrc := wordSum_le src
  have sumDst := wordSum_le dst
  have byte := protocol.toNat_lt
  have word := length.toNat_lt
  have fits : wordSum src + wordSum dst + protocol.toNat + length.toNat < 2 ^ 32 := by omega
  rw [Gso.pseudoHeaderChecksum_eq protocol _ (by omega) (by omega), pseudoHeaderChecksum,
    addPairs_eq_ok (by omega) (by omega), Nat.zero_add]
  simp only [bind, Except.bind]
  rw [addPairs_eq_ok (by omega) (by omega)]
  dsimp only
  rw [add_eq_ok (by omega)]
  dsimp only
  rw [add_eq_ok fits]
  dsimp only
  rw [fold_eq_ok fits]
  rfl

theorem checksumWithPseudoV4_eq_ok (src dst : Ipv4Addr) (proto : UInt8)
    (small : data.length ≤ 65535) :
    checksumWithPseudoV4 src dst proto data
      = .ok (.ofNat (Packet.checksumWithPseudoV4 src.bytes dst.bytes proto data)) := by
  have shortSrc : src.bytes.length ≤ 16 := by rw [src.length_eq]; decide
  have shortDst : dst.bytes.length ≤ 16 := by rw [dst.length_eq]; decide
  have fits := (checksumWithPseudo_sums_lt proto shortSrc shortDst (Nat.lt_succ_of_le small)).1
  have even : (pseudoV4 src.bytes dst.bytes proto data.length).length % 2 = 0 := by
    simp [pseudoV4, length_encode, src.length_eq, dst.length_eq]
  rw [checksumWithPseudoV4, addPairs_eq_ok even (by omega), Nat.zero_add]
  simp only [bind, Except.bind]
  rw [addWords_eq_ok fits]
  dsimp only
  rw [fold_eq_ok fits, Packet.checksumWithPseudoV4, ofNat_complement]
  rfl

theorem checksumWithPseudoV6_eq_ok (src dst : Ipv6Addr) (proto : UInt8)
    (small : data.length ≤ 65535) :
    checksumWithPseudoV6 src dst proto data
      = .ok (.ofNat (Packet.checksumWithPseudoV6 src.bytes dst.bytes proto data)) := by
  have fits := (checksumWithPseudo_sums_lt proto (Nat.le_of_eq src.length_eq)
    (Nat.le_of_eq dst.length_eq) (Nat.lt_succ_of_le small)).2
  have evenSrc : src.bytes.length % 2 = 0 := by rw [src.length_eq]
  have evenDst : dst.bytes.length % 2 = 0 := by rw [dst.length_eq]
  have whole : data.length % 2 ^ 32 = data.length := Nat.mod_eq_of_lt (by omega)
  have high : data.length >>> 16 &&& 0xffff = data.length / 65536 % 65536 := by
    rw [Nat.shiftRight_eq_div_pow]
    exact Nat.and_two_pow_sub_one_eq_mod _ 16
  have low : data.length &&& 0xffff = data.length % 65536 :=
    Nat.and_two_pow_sub_one_eq_mod _ 16
  rw [checksumWithPseudoV6]
  simp only [whole, high, low]
  rw [addPairs_eq_ok evenSrc (by omega), Nat.zero_add]
  simp only [bind, Except.bind]
  rw [addPairs_eq_ok evenDst (by omega)]
  dsimp only
  rw [add_eq_ok (by omega)]
  dsimp only
  rw [add_eq_ok (by omega)]
  dsimp only
  rw [add_eq_ok (by omega)]
  dsimp only
  rw [addWords_eq_ok fits]
  dsimp only
  rw [fold_eq_ok fits, Packet.checksumWithPseudoV6, ofNat_complement]
  rfl

end

/-! ### The agreement -/

/-- The two bytes at `start` cleared. -/
def cleared (data : Bytes) (start : Nat) : Bytes := overwrite data start [0, 0]

/-- The complement of `sum` written over them. -/
def filled (data : Bytes) (start : Nat) (sum : UInt16) : Bytes :=
  overwrite (cleared data start) start (encode 2 (~~~sum).toNat)

/-- Each routine returns, and they return what the others say they do. -/
structure ChecksumsAgree (data : Bytes) : Prop where
  internet : ∃ sum, checksum data 0 = .ok sum ∧ internetChecksum data = .ok (~~~sum)
  withPseudoV4 : ∀ (src dst : Ipv4Addr) (proto : UInt8), ∃ psum sum,
    pseudoHeaderChecksum proto src.bytes dst.bytes (.ofNat data.length) = .ok psum
      ∧ checksum data psum = .ok sum ∧ checksumWithPseudoV4 src dst proto data = .ok (~~~sum)
  withPseudoV6 : ∀ (src dst : Ipv6Addr) (proto : UInt8), ∃ psum sum,
    pseudoHeaderChecksum proto src.bytes dst.bytes (.ofNat data.length) = .ok psum
      ∧ checksum data psum = .ok sum ∧ checksumWithPseudoV6 src dst proto data = .ok (~~~sum)
  append : ∀ (front : Bytes) (initial : UInt16), front.length ≤ 65535 → front.length % 2 = 0 →
    ∃ between sum, checksum front initial = .ok between ∧ checksum data between = .ok sum
      ∧ checksum (front ++ data) initial = .ok sum
  combine : ∀ initial : UInt16, ∃ own sum, checksum data 0 = .ok own
    ∧ checksumCombine own initial = .ok sum ∧ checksum data initial = .ok sum
  /-- A field that is cleared, summed over and overwritten verifies. -/
  fill : ∀ (start : Nat) (initial : UInt16), start % 2 = 0 → start + 2 ≤ data.length →
    ∃ sum total, checksum (cleared data start) initial = .ok sum
      ∧ checksum (filled data start sum) initial = .ok total ∧ ~~~total = 0
  /-- `checksum_valid` accepts it behind every header with the addresses that were summed. -/
  valid : ∀ (header : Bytes) (isV6 : Bool) (proto : UInt8) (start : Nat),
    (groAddresses isV6).1 + 2 * (groAddresses isV6).2 ≤ header.length →
    start % 2 = 0 → start + 2 ≤ data.length → ∃ psum sum,
      pseudoHeaderChecksum proto (slice header (groAddresses isV6).1 (groAddresses isV6).2)
          (slice header ((groAddresses isV6).1 + (groAddresses isV6).2) (groAddresses isV6).2)
          (.ofNat data.length) = .ok psum
        ∧ checksum (cleared data start) psum = .ok sum
        ∧ checksumValid (header ++ filled data start sum) header.length proto isV6 = .ok true

section

variable {data : Bytes} {start : Nat}

theorem length_cleared (inside : start + 2 ≤ data.length) :
    (cleared data start).length = data.length := length_overwrite inside

theorem length_filled (sum : UInt16) (inside : start + 2 ≤ data.length) :
    (filled data start sum).length = data.length := by
  rw [filled, length_overwrite, length_cleared inside]
  rw [length_encode, length_cleared inside]
  exact inside

/-- **The filled field** verifies, with whatever was summed in front of the data. -/
theorem verifies_filled (seed : Nat) (even : start % 2 = 0) (inside : start + 2 ≤ data.length) :
    Verifies (seed + wordSum (filled data start
      (.ofNat (foldCarries (seed + wordSum (cleared data start)))))) := by
  rw [filled, toNat_not_ofNat]
  exact verifies_overwrite even inside

/-- The data summed on from a pseudo header: words of the addresses, protocol, length and data. -/
theorem checksum_pseudo_eq_ok {src dst : Bytes} {size : Nat} (proto : UInt8)
    (srcSize : src.length = size) (dstSize : dst.length = size) (short : size ≤ 16)
    (even : size % 2 = 0) (small : data.length ≤ 65535) : ∃ psum,
      pseudoHeaderChecksum proto src dst (.ofNat data.length) = .ok psum
        ∧ checksum data psum = .ok (.ofNat (foldCarries
          (wordSum src + wordSum dst + proto.toNat + data.length + wordSum data))) := by
  have whole : (UInt16.ofNat data.length).toNat = data.length :=
    UInt16.toNat_ofNat_of_lt' (Nat.lt_succ_of_le small)
  refine ⟨_, pseudoHeaderChecksum_eq_ok proto _ srcSize dstSize short even, ?_⟩
  rw [checksum_eq_ok _ (by omega), whole, Gso.pseudoHeaderChecksum_eq proto _ (by omega) (by omega),
    toNat_ofNat_foldCarries, foldCarries_foldCarries_add]

/-- **`checksum_valid`** accepts the filled field behind a header with the addresses. -/
theorem checksumValid_filled {header : Bytes} {isV6 : Bool} (proto : UInt8) {psum : Nat}
    (small : data.length ≤ 65535)
    (addresses : (groAddresses isV6).1 + 2 * (groAddresses isV6).2 ≤ header.length)
    (summed : psum = Gso.pseudoHeaderChecksum proto
      (slice header (groAddresses isV6).1 (groAddresses isV6).2)
      (slice header ((groAddresses isV6).1 + (groAddresses isV6).2) (groAddresses isV6).2)
      data.length)
    (even : start % 2 = 0) (inside : start + 2 ≤ data.length) :
    checksumValid (header ++ filled data start (.ofNat (foldCarries
      (psum + wordSum (cleared data start))))) header.length proto isV6 = .ok true := by
  have verified := @verifies_filled data start psum even inside
  generalize same : UInt16.ofNat (foldCarries (psum + wordSum (cleared data start))) = sum
  rw [same] at verified
  have seed : psum < 65536 := by
    rw [summed]
    exact pseudoHeaderChecksum_lt _ _ _ _
  have size := length_filled sum inside
  have total : (header ++ filled data start sum).length = header.length + data.length := by
    rw [List.length_append, size]
  have srcOff : (if isV6 then 8 else 12) = (groAddresses isV6).1 := by cases isV6 <;> rfl
  have addrLen : (if isV6 then 16 else 4) = (groAddresses isV6).2 := by cases isV6 <;> rfl
  generalize (groAddresses isV6).1 = off at addresses summed srcOff
  generalize (groAddresses isV6).2 = len at addresses summed addrLen
  have src : Checked.range (header ++ filled data start sum) off (off + len)
      = (.ok (slice header off len) : Checked GroError Bytes) := by
    rw [Checked.range_eq_ok (Nat.le_add_right _ _) (by omega), Nat.add_sub_cancel_left,
      slice_append_of_le _ (by omega)]
  have dst : Checked.range (header ++ filled data start sum) (off + len) (off + len * 2)
      = (.ok (slice header (off + len) len) : Checked GroError Bytes) := by
    rw [Checked.range_eq_ok (by omega) (by omega),
      show off + len * 2 - (off + len) = len by omega, slice_append_of_le _ (by omega)]
  have rest : Checked.range (header ++ filled data start sum) header.length
      (header.length + data.length) = (.ok (filled data start sum) : Checked GroError Bytes) := by
    rw [Checked.range_eq_ok (Nat.le_add_right _ _) (by omega), Nat.add_sub_cancel_left, slice,
      List.drop_left, ← size, List.take_length]
  unfold checksumValid
  rw [srcOff, addrLen]
  dsimp only
  rw [if_neg (by omega), total, Checked.minus_eq_ok (Nat.le_add_right _ _), Nat.add_sub_cancel_left,
    src, dst, rest]
  simp only [bind, Except.bind]
  rw [Nat.mod_eq_of_lt (Nat.lt_succ_of_le small), ← summed, groChecksum_eq_ok (by omega) seed]
  exact congrArg Except.ok (beq_iff_eq.mpr (complement_foldCarries_eq_zero_iff.mpr verified))

end

/-- **The checksum routines agree and verify.** None of their sums leaves 32 bits. -/
theorem checksums_agree {data : Bytes} (small : data.length ≤ 65535) : ChecksumsAgree data where
  internet := by
    refine ⟨_, checksum_eq_ok 0 (by omega), (internetChecksum_eq_ok (by omega)).trans ?_⟩
    rw [Packet.internetChecksum, ofNat_complement, UInt16.toNat_zero, Nat.zero_add]
  withPseudoV4 := by
    intro src dst proto
    obtain ⟨psum, summed, whole⟩ := checksum_pseudo_eq_ok proto src.length_eq dst.length_eq
      (by decide) rfl small
    refine ⟨psum, _, summed, whole, (checksumWithPseudoV4_eq_ok src dst proto small).trans ?_⟩
    rw [Packet.checksumWithPseudoV4, ofNat_complement, wordSum_pseudoV4 proto _
      (by rw [src.length_eq]) (by rw [dst.length_eq]), Nat.mod_eq_of_lt (Nat.lt_succ_of_le small)]
  withPseudoV6 := by
    intro src dst proto
    obtain ⟨psum, summed, whole⟩ := checksum_pseudo_eq_ok proto src.length_eq dst.length_eq
      (by decide) rfl small
    refine ⟨psum, _, summed, whole, (checksumWithPseudoV6_eq_ok src dst proto small).trans ?_⟩
    have short : data.length / 65536 % 65536 = 0 := by omega
    rw [Packet.checksumWithPseudoV6, ofNat_complement, short,
      Nat.mod_eq_of_lt (Nat.lt_succ_of_le small), Nat.add_zero,
      Nat.add_right_comm _ data.length proto.toNat]
  append := by
    intro front initial smallFront even
    refine ⟨_, _, checksum_eq_ok initial (by omega), checksum_eq_ok _ (by omega), ?_⟩
    rw [checksum_eq_ok initial (by rw [List.length_append]; omega), toNat_ofNat_foldCarries,
      foldCarries_foldCarries_add, wordSum_append data even, Nat.add_assoc]
  combine := by
    intro initial
    refine ⟨_, _, checksum_eq_ok 0 (by omega), checksumCombine_eq_ok _ initial, ?_⟩
    rw [checksum_eq_ok initial (by omega), Gso.checksumCombine, toNat_ofNat_foldCarries,
      foldCarries_foldCarries_add, UInt16.toNat_zero, Nat.zero_add, Nat.add_comm]
  fill := by
    intro start initial even inside
    have size := length_cleared inside
    refine ⟨_, _, checksum_eq_ok initial (by omega),
      checksum_eq_ok initial (by rw [length_filled _ inside]; omega), ?_⟩
    rw [← ofNat_complement, complement_foldCarries_eq_zero_iff.mpr
      (verifies_filled initial.toNat even inside)]
    rfl
  valid := by
    intro header isV6 proto start addresses even inside
    have short : (groAddresses isV6).2 ≤ 16 := by cases isV6 <;> decide
    have whole : (groAddresses isV6).2 % 2 = 0 := by cases isV6 <;> rfl
    have size := length_cleared inside
    refine ⟨_, _, pseudoHeaderChecksum_eq_ok proto _ (length_slice (by omega))
      (length_slice (by omega)) short whole, checksum_eq_ok _ (by omega), ?_⟩
    refine checksumValid_filled proto small addresses ?_ even inside
    rw [UInt16.toNat_ofNat_of_lt' (Nat.lt_succ_of_le small), Gso.pseudoHeaderChecksum,
      toNat_ofNat_foldCarries]

/-- An odd number of bytes, whose sum has carries. -/
theorem checksums_agree_odd : ([0xff, 0xff, 0x00, 0x01, 0x80] : Bytes).length ≤ 65535
    ∧ ChecksumsAgree [0xff, 0xff, 0x00, 0x01, 0x80] :=
  ⟨by decide, checksums_agree (by decide)⟩

end RsTun.Gso.Loops
