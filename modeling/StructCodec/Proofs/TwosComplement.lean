import Mathlib.Algebra.BigOperators.Group.Finset.Basic
import Mathlib.Algebra.BigOperators.Ring.Finset
import Mathlib.Tactic.Positivity
import Mathlib.Tactic.Ring
import Mathlib.Tactic.Zify
import StructCodec.Bytes.LittleEndian

/-!
# Two's complement by the weights of bytes

Each byte of the encoding of an integer is given by its weight alone, whatever
the number of bytes.  Decoding and encoding undo each other on the integers that
the bytes can hold, and on all bytes.
-/

namespace StructCodec.LittleEndian

/-- The byte of weight `256 ^ weight` of an integer of any size. -/
def byteOfWeight (number : Int) (weight : Nat) : UInt8 :=
  UInt8.ofNat (number / 256 ^ weight % 256).toNat

theorem toNat_byteOfWeight (number : Int) (weight : Nat) :
    ((byteOfWeight number weight).toNat : Int) = number / 256 ^ weight % 256 := by
  have low : 0 ≤ number / 256 ^ weight % 256 := Int.emod_nonneg _ (by omega)
  have high : number / 256 ^ weight % 256 < 256 := Int.emod_lt_of_pos _ (by omega)
  rw [byteOfWeight, UInt8.toNat_ofNat']
  omega

/-- Reducing a number by a multiple of a weight keeps its lower digits. -/
private theorem ediv_emod_reduced (number : Int) {weight modulus base : Int}
    (nonzero : weight ≠ 0) (divides : base ∣ modulus) :
    number % (weight * modulus) / weight % base = number / weight % base := by
  obtain ⟨factor, rfl⟩ := divides
  have quotient : number % (weight * (base * factor)) / weight =
      number / weight + base * (-(factor * (number / (weight * (base * factor))))) := by
    rw [← Int.add_mul_ediv_left _ _ nonzero, Int.emod_def]
    congr 1
    ring
  rw [quotient, Int.add_mul_emod_self_left]

theorem one_shiftLeft_bytes (width : Nat) : 1 <<< (8 * width) = 256 ^ width := by
  rw [Nat.one_shiftLeft, pow_mul]
  norm_num

theorem encodeInt_eq (width : Nat) (number : Int) :
    encodeInt width number = encodeNat width (number % 256 ^ width).toNat := by
  rw [encodeInt, one_shiftLeft_bytes]
  norm_cast

theorem decodeSigned_eq (bytes : List UInt8) :
    decodeSigned bytes =
      if 256 ^ bytes.length ≤ 2 * decodeNat bytes then
        (decodeNat bytes : Int) - 256 ^ bytes.length
      else
        decodeNat bytes := by
  simp only [decodeSigned, one_shiftLeft_bytes]
  norm_cast

/-- Decoding gives back what of a natural number fits the bytes. -/
theorem decodeNat_encodeNat (width number : Nat) :
    decodeNat (encodeNat width number) = number % 256 ^ width := by
  induction width generalizing number with
  | zero => simp [encodeNat, decodeNat, Nat.mod_one]
  | succ width induction =>
      have low : (UInt8.ofNat number).toNat = number % 256 :=
        UInt8.toNat_ofNat'
      rw [encodeNat, decodeNat, induction, low, Nat.pow_succ', Nat.mod_mul]

theorem getElem?_encodeNat {width weight : Nat} (inside : weight < width) (number : Nat) :
    (encodeNat width number)[weight]? = some (UInt8.ofNat (number / 256 ^ weight)) := by
  induction width generalizing weight number with
  | zero => omega
  | succ width induction =>
      cases weight with
      | zero => simp [encodeNat]
      | succ weight =>
          rw [encodeNat, List.getElem?_cons_succ, induction (by omega),
            Nat.div_div_eq_div_mul, Nat.pow_succ']

/-- The byte of each weight of an encoded integer does not depend on the width. -/
theorem getElem?_encodeInt {width weight : Nat} (inside : weight < width) (number : Int) :
    (encodeInt width number)[weight]? = some (byteOfWeight number weight) := by
  have powers : (256 : Int) ^ width = 256 ^ weight * 256 ^ (width - weight) := by
    rw [← pow_add]
    congr 1
    omega
  have divides : (256 : Int) ∣ 256 ^ (width - weight) :=
    dvd_pow_self 256 (by omega)
  have digit : number % 256 ^ width / 256 ^ weight % 256 = number / 256 ^ weight % 256 := by
    rw [powers]
    exact ediv_emod_reduced number (by positivity) divides
  rw [encodeInt_eq, getElem?_encodeNat inside]
  congr 1
  apply UInt8.toNat_inj.mp
  rw [UInt8.toNat_ofNat']
  have residue : 0 ≤ number % 256 ^ width := Int.emod_nonneg _ (by positivity)
  zify
  rw [toNat_byteOfWeight, ← digit]
  push_cast
  rw [Int.toNat_of_nonneg residue]

theorem encodeInt_congr {width : Nat} {left right : Int}
    (congruent : left % 256 ^ width = right % 256 ^ width) :
    encodeInt width left = encodeInt width right := by
  rw [encodeInt_eq, encodeInt_eq, congruent]

theorem decodeNat_lt (bytes : List UInt8) : decodeNat bytes < 256 ^ bytes.length := by
  induction bytes with
  | nil => simp [decodeNat]
  | cons byte bytes induction =>
      have bound : byte.toNat < 256 := byte.toNat_lt
      rw [decodeNat, List.length_cons, Nat.pow_succ]
      omega

/-- The bytes of low order stand for a residue. -/
theorem decodeNat_take (count : Nat) (bytes : List UInt8) :
    decodeNat (bytes.take count) = decodeNat bytes % 256 ^ count := by
  induction bytes generalizing count with
  | nil => simp [decodeNat]
  | cons byte bytes induction =>
      cases count with
      | zero => simp [decodeNat, Nat.mod_one]
      | succ count =>
          have low : (byte.toNat + 256 * decodeNat bytes) % 256 = byte.toNat := by
            rw [Nat.add_mul_mod_self_left]
            exact Nat.mod_eq_of_lt byte.toNat_lt
          have high : (byte.toNat + 256 * decodeNat bytes) / 256 = decodeNat bytes := by
            have bound : byte.toNat < 256 := byte.toNat_lt
            omega
          rw [List.take_succ_cons, decodeNat, decodeNat, induction, Nat.pow_succ', Nat.mod_mul,
            low, high]

/-- The natural number that bytes stand for is the sum of their weighted values. -/
theorem decodeNat_eq_sum (bytes : List UInt8) :
    decodeNat bytes =
      ∑ weight ∈ Finset.range bytes.length, 256 ^ weight * (bytes.getD weight 0).toNat := by
  induction bytes with
  | nil => rfl
  | cons byte bytes induction =>
      rw [decodeNat, List.length_cons, Finset.sum_range_succ', induction, Finset.mul_sum]
      simp only [List.getD_cons_succ, List.getD_cons_zero, pow_zero, one_mul]
      rw [Nat.add_comm]
      congr 1
      apply Finset.sum_congr rfl
      intro weight _
      ring

theorem decodeNat_encodeInt (width : Nat) (number : Int) :
    (decodeNat (encodeInt width number) : Int) = number % 256 ^ width := by
  have low : 0 ≤ number % 256 ^ width := Int.emod_nonneg _ (by positivity)
  have high : number % 256 ^ width < 256 ^ width := Int.emod_lt_of_pos _ (by positivity)
  rw [encodeInt_eq, decodeNat_encodeNat, Nat.mod_eq_of_lt (by zify; omega)]
  exact Int.toNat_of_nonneg low

theorem decodeSigned_encodeInt {width : Nat} {number : Int}
    (low : -(256 ^ width) ≤ 2 * number) (high : 2 * number < 256 ^ width) :
    decodeSigned (encodeInt width number) = number := by
  have magnitude := decodeNat_encodeInt width number
  have compare : 256 ^ width ≤ 2 * decodeNat (encodeInt width number) ↔
      (256 : Int) ^ width ≤ 2 * (number % 256 ^ width) := by
    rw [← magnitude]
    norm_cast
  simp only [decodeSigned_eq, length_encodeInt, compare, magnitude]
  by_cases negative : number < 0
  · have residue : number % 256 ^ width = number + 256 ^ width := by
      rw [← Int.add_emod_right, Int.emod_eq_of_lt] <;> omega
    rw [residue, if_pos (by omega)]
    omega
  · have residue : number % 256 ^ width = number :=
      Int.emod_eq_of_lt (by omega) (by omega)
    rw [residue, if_neg (by omega)]

theorem decodeNat_encodeInt_of_range {width : Nat} {number : Int}
    (low : 0 ≤ number) (high : number < 256 ^ width) :
    (decodeNat (encodeInt width number) : Int) = number := by
  rw [decodeNat_encodeInt, Int.emod_eq_of_lt low high]

theorem encodeInt_decodeNat (bytes : List UInt8) :
    encodeInt bytes.length (decodeNat bytes) = bytes := by
  have small : ((decodeNat bytes : Nat) : Int) < 256 ^ bytes.length := by
    exact_mod_cast decodeNat_lt bytes
  rw [encodeInt_eq, Int.emod_eq_of_lt (by omega) small, Int.toNat_natCast,
    encodeNat_decodeNat]

theorem encodeInt_decodeSigned (bytes : List UInt8) :
    encodeInt bytes.length (decodeSigned bytes) = bytes := by
  have congruent : decodeSigned bytes % 256 ^ bytes.length =
      (decodeNat bytes : Int) % 256 ^ bytes.length := by
    simp only [decodeSigned_eq]
    split
    · exact Int.sub_emod_right _ _
    · rfl
  rw [encodeInt_congr congruent, encodeInt_decodeNat]

theorem decodeSigned_range (bytes : List UInt8) :
    -(256 ^ bytes.length) ≤ 2 * decodeSigned bytes ∧
      2 * decodeSigned bytes < 256 ^ bytes.length := by
  have small : ((decodeNat bytes : Nat) : Int) < 256 ^ bytes.length := by
    exact_mod_cast decodeNat_lt bytes
  have compare : 256 ^ bytes.length ≤ 2 * decodeNat bytes ↔
      (256 : Int) ^ bytes.length ≤ 2 * (decodeNat bytes : Int) := by
    norm_cast
  simp only [decodeSigned_eq, compare]
  split <;> omega

end StructCodec.LittleEndian
