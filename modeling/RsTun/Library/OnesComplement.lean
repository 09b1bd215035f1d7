/-
**The 16-bit ones' complement sum of a byte string, and the checksum field that makes it verify.**

* `wordSum` adds the big-endian 16-bit words of a string, an odd last byte padded with zero; it is
  additive over an even split (`wordSum_append`) and bounded by the length (`wordSum_le`).
* `foldCarries` adds the carries back until the sum fits 16 bits. `foldCarries_eq` is its closed
  form: the representative of the sum modulo 65535 among 1, …, 65535, and zero for zero only.
* `verifies_overwrite` — a checksum field at an even offset that is cleared, summed over and
  overwritten with the complement makes the whole verify.
-/

import RsTun.Library.Bytes

namespace RsTun.Library

namespace OnesComplement

open Bytes

/-- The sum of the big-endian words; an odd last byte is the high byte of a word. -/
def wordSum : Bytes → Nat
  | [] => 0
  | [high] => high.toNat * 256
  | high :: low :: rest => high.toNat * 256 + low.toNat + wordSum rest

/-- `while sum >> 16 != 0 { sum = (sum & 0xffff) + (sum >> 16) }`, at most `turns` turns of it. -/
def foldLoop : Nat → Nat → Nat
  | 0, sum => sum
  | turns + 1, sum => if sum < 65536 then sum else foldLoop turns (sum % 65536 + sum / 65536)

/-- The carries added back until there is none. A turn makes the sum smaller, so that there are
enough turns. -/
def foldCarries (sum : Nat) : Nat := foldLoop sum sum

/-- `!(sum as u16)`. -/
def complement (sum : Nat) : Nat := 65535 - sum % 65536

/-- A sum over a checksum field that is right: all ones. -/
def Verifies (sum : Nat) : Prop := foldCarries sum = 65535

instance (sum : Nat) : Decidable (Verifies sum) := by
  unfold Verifies
  infer_instance

/-! ### Folding -/

theorem foldLoop_eq : ∀ {turns sum : Nat}, sum ≤ turns →
    foldLoop turns sum = if sum = 0 then 0 else (sum - 1) % 65535 + 1
  | 0, sum, enough => by
      have zero : sum = 0 := by omega
      subst zero
      rfl
  | turns + 1, sum, enough => by
      rw [foldLoop]
      by_cases small : sum < 65536
      · rw [if_pos small]
        split
        · assumption
        · omega
      · rw [if_neg small, foldLoop_eq (by omega), if_neg (by omega), if_neg (by omega)]
        omega

/-- **The folded sum** in closed form. -/
theorem foldCarries_eq (sum : Nat) :
    foldCarries sum = if sum = 0 then 0 else (sum - 1) % 65535 + 1 :=
  foldLoop_eq (Nat.le_refl sum)

theorem foldCarries_lt (sum : Nat) : foldCarries sum < 65536 := by
  rw [foldCarries_eq]
  split <;> omega

/-- A sum without carries. -/
theorem foldCarries_of_lt {sum : Nat} (small : sum < 65536) : foldCarries sum = sum := by
  rw [foldCarries_eq]
  split <;> omega

theorem verifies_iff {sum : Nat} : Verifies sum ↔ sum ≠ 0 ∧ sum % 65535 = 0 := by
  rw [Verifies, foldCarries_eq]
  split <;> omega

/-- **Adding the complement of the folded sum** makes a sum verify. -/
theorem verifies_add_complement (sum : Nat) : Verifies (sum + complement (foldCarries sum)) := by
  rw [verifies_iff, complement, Nat.mod_eq_of_lt (foldCarries_lt sum), foldCarries_eq]
  split <;> omega

/-- **Folding in between** changes neither the residue of a sum nor whether it is zero. -/
theorem foldCarries_foldCarries_add (first second : Nat) :
    foldCarries (foldCarries first + second) = foldCarries (first + second) := by
  by_cases zero : first = 0
  · rw [zero, foldCarries_of_lt (show 0 < 65536 by decide)]
  · have folded : foldCarries first = (first - 1) % 65535 + 1 := by
      rw [foldCarries_eq, if_neg zero]
    rw [foldCarries_eq, folded, foldCarries_eq, if_neg (by omega), if_neg (by omega)]
    omega

theorem verifies_foldCarries_add {first second : Nat} :
    Verifies (foldCarries first + second) ↔ Verifies (first + second) := by
  rw [Verifies, Verifies, foldCarries_foldCarries_add]

/-- **A checksum of zero** is that of words that verify without one. -/
theorem complement_foldCarries_eq_zero_iff {sum : Nat} :
    complement (foldCarries sum) = 0 ↔ Verifies sum := by
  have small := foldCarries_lt sum
  unfold complement Verifies
  omega

theorem complement_lt (sum : Nat) : complement sum < 65536 := by
  unfold complement
  omega

/-! ### Sums of byte strings -/

/-- The words of two strings, the first of an even length. -/
theorem wordSum_append : ∀ {first : Bytes} (second : Bytes), first.length % 2 = 0 →
    wordSum (first ++ second) = wordSum first + wordSum second
  | [], second, _ => by simp [wordSum]
  | [_], _, even => by simp at even
  | high :: low :: rest, second, even => by
      have shorter : rest.length % 2 = 0 := by
        simp only [List.length_cons] at even
        omega
      rw [List.cons_append, List.cons_append, wordSum, wordSum, wordSum_append second shorter]
      omega

/-- Zeros do not count. -/
theorem wordSum_zeros : ∀ count : Nat, wordSum (List.replicate count 0) = 0
  | 0 => rfl
  | 1 => rfl
  | count + 2 => by
      rw [List.replicate_succ, List.replicate_succ, wordSum, wordSum_zeros count]
      rfl

/-- A string of two bytes is one word. -/
theorem wordSum_pair : ∀ {word : Bytes}, word.length = 2 → wordSum word = value word
  | [high, low], _ => by simp [wordSum, value]

/-- A string whose first byte is not zero. -/
theorem wordSum_pos : ∀ {data : Bytes}, byteAt data 0 ≠ 0 → 0 < wordSum data
  | [], nonzero => absurd rfl nonzero
  | [high], nonzero => by
      have positive : high.toNat ≠ 0 := fun zero => nonzero (UInt8.toNat_inj.mp zero)
      rw [wordSum]
      omega
  | high :: low :: rest, nonzero => by
      have positive : high.toNat ≠ 0 := fun zero => nonzero (UInt8.toNat_inj.mp zero)
      rw [wordSum]
      omega

/-- A sum is at most what as many words of ones add up to. -/
theorem wordSum_le : ∀ data : Bytes, wordSum data ≤ 65535 * ((data.length + 1) / 2)
  | [] => Nat.le_refl _
  | [high] => by
      have := high.toNat_lt
      simp only [wordSum, List.length_singleton]
      omega
  | high :: low :: rest => by
      have bound := wordSum_le rest
      have := high.toNat_lt
      have := low.toNat_lt
      rw [wordSum, List.length_cons, List.length_cons,
        show (rest.length + 1 + 1 + 1) / 2 = (rest.length + 1) / 2 + 1 by omega]
      omega

/-- **One word replaced by another**, at an even offset. -/
theorem wordSum_overwrite {data word : Bytes} {start : Nat} (two : word.length = 2)
    (even : start % 2 = 0) (fits : start + 2 ≤ data.length) :
    wordSum (overwrite data start word)
      = wordSum (data.take start) + value word + wordSum (data.drop (start + 2)) := by
  have front : (data.take start).length % 2 = 0 := by
    rw [List.length_take, Nat.min_eq_left (by omega)]
    exact even
  have both : (data.take start ++ word).length % 2 = 0 := by
    rw [List.length_append, two]
    omega
  rw [overwrite, two, wordSum_append _ both, wordSum_append _ front, wordSum_pair two]

/-- The sum before and after one word is replaced. -/
theorem wordSum_replace {data word : Bytes} {start : Nat} (two : word.length = 2)
    (even : start % 2 = 0) (fits : start + 2 ≤ data.length) :
    wordSum (overwrite data start word) + be16 data start = wordSum data + value word := by
  have sized : (slice data start 2).length = 2 := length_slice fits
  have whole := wordSum_overwrite sized even fits
  rw [overwrite_slice_self fits] at whole
  rw [whole, wordSum_overwrite two even fits, be16]
  omega

/-- The sum before and after three words are replaced, one after the other. -/
theorem wordSum_replace_three {data one two three : Bytes} {p q r : Nat}
    (sizes : one.length = 2 ∧ two.length = 2 ∧ three.length = 2)
    (even : p % 2 = 0 ∧ q % 2 = 0 ∧ r % 2 = 0)
    (fits : p + 2 ≤ data.length ∧ q + 2 ≤ data.length ∧ r + 2 ≤ data.length)
    (apart : p ≠ q ∧ p ≠ r ∧ q ≠ r) :
    wordSum (overwrite (overwrite (overwrite data p one) q two) r three)
        + (be16 data p + be16 data q + be16 data r)
      = wordSum data + (value one + value two + value three) := by
  have first : AgreeOff (wordAt p) data (overwrite data p one) := agreeOff_word sizes.1 fits.1
  have second : AgreeOff (wordAt q) (overwrite data p one)
      (overwrite (overwrite data p one) q two) :=
    agreeOff_word sizes.2.1 (by rw [first.1]; exact fits.2.1)
  have replaced := wordSum_replace sizes.1 even.1 fits.1
  have replaced' := @wordSum_replace (overwrite data p one) two q sizes.2.1 even.2.1
    (by rw [first.1]; exact fits.2.1)
  have replaced'' := @wordSum_replace (overwrite (overwrite data p one) q two) three r sizes.2.2
    even.2.2 (by rw [second.1, first.1]; exact fits.2.2)
  have outside : ∀ {place other : Nat}, place % 2 = 0 → other % 2 = 0 → place ≠ other →
      other ∉ wordAt place ∧ other + 1 ∉ wordAt place := by
    intro place other evenPlace evenOther distinct
    constructor
    · rintro ⟨low, high⟩
      omega
    · rintro ⟨low, high⟩
      omega
  rw [first.be16_eq (outside even.1 even.2.1 apart.1).1 (outside even.1 even.2.1 apart.1).2]
    at replaced'
  rw [second.be16_eq (outside even.2.1 even.2.2 apart.2.2).1
      (outside even.2.1 even.2.2 apart.2.2).2,
    first.be16_eq (outside even.1 even.2.2 apart.2.1).1 (outside even.1 even.2.2 apart.2.1).2]
    at replaced''
  omega

/-- A number written into a cleared word is added to the sum. -/
theorem wordSum_refill {data : Bytes} {start number : Nat} (even : start % 2 = 0)
    (fits : start + 2 ≤ data.length) (small : number < 65536) :
    wordSum (overwrite (overwrite data start [0, 0]) start (encode 2 number))
      = wordSum (overwrite data start [0, 0]) + number := by
  have zeros : ([0, 0] : Bytes).length = 2 := rfl
  have fits' : start + ([0, 0] : Bytes).length ≤ data.length := fits
  have size : (overwrite data start [0, 0]).length = data.length := length_overwrite fits'
  have past : (overwrite data start [0, 0]).drop (start + 2) = data.drop (start + 2) :=
    drop_overwrite_of_le fits' (Nat.le_refl _)
  rw [wordSum_overwrite (length_encode 2 number) even (by omega), past,
    take_overwrite_of_le fits' (Nat.le_refl _), wordSum_overwrite zeros even fits, value_encode,
    Nat.mod_eq_of_lt (show number < 256 ^ 2 from small), show value [0, 0] = 0 from rfl]
  omega

/-- A word of a string is what clearing it takes from the sum. -/
theorem wordSum_cleared {data : Bytes} {start : Nat} (even : start % 2 = 0)
    (fits : start + 2 ≤ data.length) :
    wordSum data = wordSum (overwrite data start [0, 0]) + be16 data start := by
  have replaced := @wordSum_replace data [0, 0] start rfl even fits
  rw [show value [0, 0] = 0 from rfl] at replaced
  omega

/-- The complement taken twice. -/
theorem complement_complement {sum : Nat} (small : sum < 65536) :
    complement (complement sum) = sum := by
  unfold complement
  omega

theorem verifies_add_foldCarries {sum : Nat} (positive : 0 < sum) :
    Verifies (sum + foldCarries sum) ↔ sum % 65535 = 0 := by
  have folded : foldCarries sum + 65535 * ((sum - 1) / 65535) = sum := by
    rw [foldCarries_eq, if_neg (by omega)]
    omega
  have doubled : 65535 ∣ sum + foldCarries sum ↔ 65535 ∣ 2 * sum := by
    rw [← Nat.dvd_add_left (Nat.dvd_mul_right 65535 ((sum - 1) / 65535)), Nat.add_assoc, folded,
      Nat.two_mul]
  -- 65535 is odd
  have odd : 65535 ∣ 2 * sum ↔ 65535 ∣ sum :=
    ⟨Nat.Coprime.dvd_of_dvd_mul_left (by decide), fun divides => Nat.dvd_mul_left_of_dvd divides 2⟩
  rw [verifies_iff, ← Nat.dvd_iff_mod_eq_zero, doubled, odd, Nat.dvd_iff_mod_eq_zero]
  exact and_iff_right (Nat.ne_of_gt (Nat.lt_of_lt_of_le positive (Nat.le_add_right _ _)))

/-- **A checksum that is stored without its complement** is right only when it is zero. -/
theorem verifies_uncomplemented {data : Bytes} {start : Nat} (even : start % 2 = 0)
    (fits : start + 2 ≤ data.length) (cleared : slice data start 2 = [0, 0])
    (positive : 0 < wordSum data) :
    Verifies (wordSum (overwrite data start
        (encode 2 (complement (complement (foldCarries (wordSum data)))))))
      ↔ wordSum data % 65535 = 0 := by
  have replaced := @wordSum_replace data (encode 2 (foldCarries (wordSum data))) start
    (length_encode 2 _) even fits
  have empty : be16 data start = 0 := by
    rw [be16, cleared]
    rfl
  have stored : value (encode 2 (foldCarries (wordSum data))) = foldCarries (wordSum data) := by
    rw [value_encode]
    exact Nat.mod_eq_of_lt (foldCarries_lt _)
  rw [empty, stored, Nat.add_zero] at replaced
  rw [complement_complement (foldCarries_lt _), replaced, verifies_add_foldCarries positive]

/-- **The checksum field.** Cleared, summed over together with `seed`, and overwritten with the
complement of the folded sum, it makes the whole verify. -/
theorem verifies_overwrite {data : Bytes} {start seed : Nat} (even : start % 2 = 0)
    (fits : start + 2 ≤ data.length) :
    Verifies (seed + wordSum (overwrite (overwrite data start [0, 0]) start
      (encode 2 (complement (foldCarries (seed + wordSum (overwrite data start [0, 0]))))))) := by
  rw [wordSum_refill even fits (complement_lt _), ← Nat.add_assoc]
  exact verifies_add_complement _

/-- The same for a field that is cleared already. -/
theorem verifies_overwrite_of_cleared {data : Bytes} {start seed : Nat} (even : start % 2 = 0)
    (fits : start + 2 ≤ data.length) (cleared : slice data start 2 = [0, 0]) :
    Verifies (seed + wordSum (overwrite data start
      (encode 2 (complement (foldCarries (seed + wordSum data)))))) := by
  have same : overwrite data start [0, 0] = data := by
    rw [← cleared]
    exact overwrite_slice_self fits
  have verified := @verifies_overwrite data start seed even fits
  rwa [same] at verified

end OnesComplement

end RsTun.Library
