import Bbsim.Foundation.Bytes
import Bbsim.Foundation.EndAroundCarry
import Bbsim.Foundation.Padding

/-! The checksum of IGMP messages. `tcpipChecksum`: the words of the message are added up in 32
bits, the sum is folded to 16 bits, and its complement is the checksum. -/

namespace Bbsim.Responders.Igmp

open Foundation

/-- The loop over the words, and the last byte of a message of odd length. -/
def sumWords (csum : UInt32) : List UInt8 → UInt32
  | high :: low :: rest => sumWords (csum + (high.toUInt32 <<< 8) + low.toUInt32) rest
  | [last] => csum + (last.toUInt32 <<< 8)
  | [] => csum

theorem carry_toNat (csum : UInt32) :
    ((csum >>> 16) + (csum &&& 0xffff)).toNat = carry 65536 csum.toNat := by
  have high : (csum >>> 16).toNat = csum.toNat / 65536 := by
    rw [UInt32.toNat_shiftRight, Nat.shiftRight_eq_div_pow]
    rfl
  have low : (csum &&& 0xffff).toNat = csum.toNat % 65536 := by
    rw [UInt32.toNat_and]
    exact Nat.and_two_pow_sub_one_eq_mod csum.toNat 16
  have bound := csum.toNat_lt
  rw [UInt32.toNat_add, high, low, carry]
  omega

/-- The loop that folds the sum. -/
def foldCarry (csum : UInt32) : UInt32 :=
  if csum > 0xffff then foldCarry ((csum >>> 16) + (csum &&& 0xffff)) else csum
termination_by csum.toNat
decreasing_by
  next large =>
  rw [carry_toNat]
  exact carry_lt (by decide) (UInt32.lt_iff_toNat_lt.mp large)

def tcpipChecksum (data : List UInt8) (csum : UInt32) : UInt16 :=
  ~~~ (foldCarry (sumWords csum data)).toUInt16

/-- The sum of the words as a number without a bound. -/
def wordSum : List UInt8 → Nat
  | high :: low :: rest => uint16 high low + wordSum rest
  | [last] => last.toNat * 256
  | [] => 0

/-- No addition of the loop wraps around. -/
def NoOverflow (csum : UInt32) : List UInt8 → Prop
  | high :: low :: rest =>
    csum.toNat + high.toNat * 256 < 2 ^ 32 ∧ csum.toNat + high.toNat * 256 + low.toNat < 2 ^ 32 ∧
      NoOverflow (csum + (high.toUInt32 <<< 8) + low.toUInt32) rest
  | [last] => csum.toNat + last.toNat * 256 < 2 ^ 32
  | [] => True

private theorem highByte_toNat (byte : UInt8) : (byte.toUInt32 <<< 8).toNat = byte.toNat * 256 := by
  have bound := byte.toNat_lt
  rw [UInt32.toNat_shiftLeft, Nat.shiftLeft_eq, UInt8.toNat_toUInt32]
  have shift : (8 : UInt32).toNat % 32 = 8 := rfl
  rw [shift]
  omega

theorem wordSum_le (data : List UInt8) : wordSum data ≤ 65535 * ((data.length + 1) / 2) := by
  induction data using wordSum.induct with
  | case1 high low rest ih =>
    have highBound := high.toNat_lt
    have lowBound := low.toNat_lt
    rw [wordSum, uint16, List.length_cons, List.length_cons]
    omega
  | case2 last =>
    have bound := last.toNat_lt
    rw [wordSum, List.length_singleton]
    omega
  | case3 => exact Nat.le_refl 0

/-- With room for the whole sum the loop computes it. -/
theorem sumWords_of_lt {csum : UInt32} {data : List UInt8} (room : csum.toNat + wordSum data < 2 ^ 32) :
    NoOverflow csum data ∧ (sumWords csum data).toNat = csum.toNat + wordSum data := by
  induction data using wordSum.induct generalizing csum with
  | case1 high low rest ih =>
    rw [wordSum, uint16] at room
    have both : csum.toNat + high.toNat * 256 + low.toNat < 2 ^ 32 := by omega
    have added : (csum + (high.toUInt32 <<< 8) + low.toUInt32).toNat =
        csum.toNat + high.toNat * 256 + low.toNat := by
      rw [UInt32.toNat_add, UInt32.toNat_add, highByte_toNat, UInt8.toNat_toUInt32]
      omega
    obtain ⟨later, total⟩ := @ih (csum + (high.toUInt32 <<< 8) + low.toUInt32) (by omega)
    constructor
    · rw [NoOverflow]
      exact ⟨Nat.lt_of_le_of_lt (Nat.le_add_right _ _) both, both, later⟩
    · rw [sumWords, total, added, wordSum, uint16]
      omega
  | case2 last =>
    rw [wordSum] at room
    refine ⟨room, ?_⟩
    rw [sumWords, UInt32.toNat_add, highByte_toNat, wordSum]
    omega
  | case3 => exact ⟨trivial, rfl⟩

theorem isFolded_foldCarry (csum : UInt32) : IsFolded 65536 csum.toNat (foldCarry csum).toNat := by
  induction csum using foldCarry.induct with
  | case1 csum large ih =>
    rw [foldCarry, if_pos large]
    rw [carry_toNat] at ih
    exact ih.of_carry
  | case2 csum small =>
    rw [foldCarry, if_neg small]
    exact isFolded_of_lt (Nat.lt_succ_of_le (UInt32.le_iff_toNat_le.mp (UInt32.not_lt.mp small)))

/-- Two rounds are enough for any sum of 32 bits. -/
theorem foldCarry_rounds (csum : UInt32) :
    ∃ rounds ≤ 2, (foldCarry csum).toNat = (carry 65536)^[rounds] csum.toNat := by
  have bound := csum.toNat_lt
  rw [foldCarry]
  split
  · rw [foldCarry]
    split
    · next again =>
      rw [foldCarry, if_neg]
      · exact ⟨2, Nat.le_refl 2, by rw [carry_toNat, carry_toNat]; rfl⟩
      · rw [UInt32.not_lt, UInt32.le_iff_toNat_le, carry_toNat, carry_toNat, carry, carry]
        change _ ≤ 65535
        omega
    · exact ⟨1, by decide, carry_toNat csum⟩
  · exact ⟨0, by decide, rfl⟩

private theorem tcpipChecksum_toNat (data : List UInt8) (csum : UInt32) :
    (tcpipChecksum data csum).toNat = 65535 - (foldCarry (sumWords csum data)).toNat := by
  have small := (isFolded_foldCarry (sumWords csum data)).small
  rw [tcpipChecksum, UInt16.toNat_not, UInt32.toNat_toUInt16, Nat.mod_eq_of_lt small]
  rfl

/-- `binary.BigEndian.PutUint16(data[2:4], checksum)`. -/
def putChecksum (data : List UInt8) (checksum : UInt16) : List UInt8 :=
  data.take 2 ++ putUint16 checksum.toNat ++ data.drop 4

variable {data : List UInt8}

private theorem wordSum_putChecksum (third : data[2]? = some 0) (fourth : data[3]? = some 0)
    (checksum : UInt16) : wordSum (putChecksum data checksum) = wordSum data + checksum.toNat := by
  obtain _ | ⟨first, _ | ⟨second, _ | ⟨third', _ | ⟨fourth', rest⟩⟩⟩⟩ := data
  · cases third
  · cases third
  · cases third
  · cases fourth
  · obtain rfl : third' = 0 := Option.some.inj third
    obtain rfl : fourth' = 0 := Option.some.inj fourth
    have written : putChecksum (first :: second :: 0 :: 0 :: rest) checksum =
        first :: second :: UInt8.ofNat (checksum.toNat / 256) :: UInt8.ofNat checksum.toNat :: rest := rfl
    rw [written, wordSum, wordSum, uint16_putUint16 _ checksum.toNat_lt, wordSum, wordSum]
    have zero : uint16 0 0 = 0 := rfl
    omega

theorem putChecksum_length (fourth : data[3]? = some 0) (checksum : UInt16) :
    (putChecksum data checksum).length = data.length := by
  obtain ⟨inside, -⟩ := List.getElem?_eq_some_iff.mp fourth
  rw [putChecksum, List.length_append, List.length_append, List.length_take, List.length_drop,
    putUint16_length]
  omega

/-- The checksum makes the sum of the words all ones. -/
theorem tcpipChecksum_putChecksum (third : data[2]? = some 0) (fourth : data[3]? = some 0)
    (short : data.length < 2 ^ 17) :
    tcpipChecksum (putChecksum data (tcpipChecksum data 0)) 0 = 0 := by
  have sums : ∀ bytes : List UInt8, bytes.length = data.length →
      (sumWords 0 bytes).toNat = wordSum bytes := by
    intro bytes same
    have bound := wordSum_le bytes
    have zero : (0 : UInt32).toNat = 0 := rfl
    rw [(sumWords_of_lt (by omega)).2, zero, Nat.zero_add]
  have before := isFolded_foldCarry (sumWords 0 data)
  have after := isFolded_foldCarry (sumWords 0 (putChecksum data (tcpipChecksum data 0)))
  rw [sums data rfl] at before
  rw [sums _ (putChecksum_length fourth _), wordSum_putChecksum third fourth, tcpipChecksum_toNat]
    at after
  apply UInt16.toNat_inj.mp
  rw [tcpipChecksum_toNat, before.complement (by decide) after]
  rfl

theorem sumWords_zeros (csum : UInt32) (count : Nat) : sumWords csum (List.replicate count 0) = csum := by
  have added : csum + ((0 : UInt8).toUInt32 <<< 8) + (0 : UInt8).toUInt32 = csum :=
    (UInt32.add_zero _).trans (UInt32.add_zero csum)
  induction count using Nat.twoStepInduction with
  | zero => rfl
  | one => exact UInt32.add_zero csum
  | more count ih _ =>
    rw [List.replicate_succ, List.replicate_succ, sumWords, added]
    exact ih

/-- Zeros behind the bytes do not count, whatever the length. -/
theorem sumWords_append_zeros (csum : UInt32) (data : List UInt8) (count : Nat) :
    sumWords csum (data ++ List.replicate count 0) = sumWords csum data := by
  induction csum, data using sumWords.induct with
  | case1 csum high low rest ih =>
    rw [List.cons_append, List.cons_append, sumWords, sumWords, ih]
  | case2 csum last =>
    cases count with
    | zero => rfl
    | succ count =>
      rw [List.replicate_succ, List.singleton_append, sumWords, sumWords_zeros, sumWords]
      exact UInt32.add_zero _
  | case3 csum => exact sumWords_zeros csum count

theorem tcpipChecksum_padTo (size : Nat) (data : List UInt8) :
    tcpipChecksum (padTo size data) 0 = tcpipChecksum data 0 := by
  rw [tcpipChecksum, padTo, sumWords_append_zeros, tcpipChecksum]

theorem putChecksum_padTo (fourth : data[3]? = some 0) (size : Nat) (checksum : UInt16) :
    putChecksum (padTo size data) checksum = padTo size (putChecksum data checksum) := by
  obtain ⟨inside, -⟩ := List.getElem?_eq_some_iff.mp fourth
  have length := putChecksum_length fourth checksum
  rw [padTo, padTo, length, putChecksum, putChecksum, List.take_append_of_le_length (by omega),
    List.drop_append_of_le_length (by omega)]
  simp only [List.append_assoc]

/-- How the checksum of some bytes is computed: no addition wraps around, and at most two rounds fold the
sum to 16 bits. -/
structure Computed (bytes : List UInt8) : Prop where
  noOverflow : NoOverflow 0 bytes
  rounds : ∃ rounds ≤ 2, foldCarry (sumWords 0 bytes) ≤ 0xffff ∧
    (foldCarry (sumWords 0 bytes)).toNat = (carry 65536)^[rounds] (wordSum bytes)

theorem computed_of_short {bytes : List UInt8} (short : bytes.length < 2 ^ 17) : Computed bytes := by
  have bound := wordSum_le bytes
  have zero : (0 : UInt32).toNat = 0 := rfl
  obtain ⟨noOverflow, total⟩ := @sumWords_of_lt 0 bytes (by omega)
  rw [zero, Nat.zero_add] at total
  obtain ⟨rounds, few, folded⟩ := foldCarry_rounds (sumWords 0 bytes)
  rw [total] at folded
  have small := (isFolded_foldCarry (sumWords 0 bytes)).small
  exact ⟨noOverflow, rounds, few, UInt32.le_iff_toNat_le.mpr (Nat.le_of_lt_succ small), folded⟩

/-- A message with its checksum in place has the checksum 0. -/
theorem checksum_verifies {data : List UInt8} (third : data[2]? = some 0) (fourth : data[3]? = some 0)
    (short : data.length < 2 ^ 17) :
    tcpipChecksum (putChecksum data (tcpipChecksum data 0)) 0 = 0 ∧
      Computed data ∧ Computed (putChecksum data (tcpipChecksum data 0)) := by
  refine ⟨tcpipChecksum_putChecksum third fourth short, computed_of_short short, computed_of_short ?_⟩
  rw [putChecksum_length fourth]
  exact short

/-- A report with one byte behind it. -/
theorem oddReport_verifies :
    tcpipChecksum (putChecksum [0x16, 0, 0, 0, 224, 0, 0, 22, 5]
      (tcpipChecksum [0x16, 0, 0, 0, 224, 0, 0, 22, 5] 0)) 0 = 0 :=
  (checksum_verifies rfl rfl (by decide)).1

end Bbsim.Responders.Igmp
