import StructCodec.Error
import StructCodec.Proofs.ScalarCoding

/-!
# Integers and their bytes

Encoding takes exactly the range of an integer type to exactly the bytes of its width, and
decoding takes them back.  Decoding itself knows no width: bytes of any number stand for the
one integer that they can hold and that is congruent to the sum of their weighted values.  So
a byte that repeats the sign at the end changes nothing.
-/

namespace StructCodec

namespace Signedness

/-- The integers that a number of bytes can hold. -/
def Holds (signedness : Signedness) (count : Nat) (number : Int) : Prop :=
  match signedness with
  | .unsigned => 0 ≤ number ∧ number < 2 ^ (8 * count)
  | .signed => -(2 ^ (8 * count - 1)) ≤ number ∧ number < 2 ^ (8 * count - 1)

/-- The byte that makes bytes longer and keeps their sign, which is the top bit of the last. -/
def extension (signedness : Signedness) (bytes : List UInt8) : UInt8 :=
  match signedness with
  | .unsigned => 0x00
  | .signed => if 0x80 ≤ bytes.getLastD 0 then 0xFF else 0x00

end Signedness

namespace LittleEndian

/-! ### Bytes of any number -/

theorem decodeNat_append (front back : List UInt8) :
    decodeNat (front ++ back) = decodeNat front + 256 ^ front.length * decodeNat back := by
  induction front with
  | nil => simp [decodeNat]
  | cons byte front induction =>
      rw [List.cons_append, decodeNat, decodeNat, induction, List.length_cons, pow_succ]
      ring

theorem decodeNat_singleton (byte : UInt8) : decodeNat [byte] = byte.toNat := by
  simp [decodeNat]

/-- Bytes stand for at least half the number of their patterns if the top bit of the last
byte is set. -/
theorem topBit_iff {bytes : List UInt8} (nonempty : bytes ≠ []) :
    256 ^ bytes.length ≤ 2 * decodeNat bytes ↔ 0x80 ≤ bytes.getLastD 0 := by
  obtain ⟨front, last, rfl⟩ : ∃ front last, bytes = front ++ [last] :=
    ⟨_, _, (List.dropLast_append_getLast nonempty).symm⟩
  have small : decodeNat front < 256 ^ front.length := decodeNat_lt front
  rw [List.getLastD_concat, decodeNat_append, decodeNat_singleton, List.length_append,
    List.length_singleton, pow_succ, UInt8.le_iff_toNat_le]
  change _ ↔ 128 ≤ last.toNat
  constructor
  · intro reached
    by_contra low
    have below : 256 ^ front.length * last.toNat ≤ 256 ^ front.length * 127 :=
      Nat.mul_le_mul_left _ (by omega)
    omega
  · intro high
    have above : 256 ^ front.length * 128 ≤ 256 ^ front.length * last.toNat :=
      Nat.mul_le_mul_left _ high
    omega

theorem decodeNat_modEq (bytes : List UInt8) :
    (decodeNat bytes : Int) ≡
      ∑ weight ∈ Finset.range bytes.length, 256 ^ weight * ((bytes.getD weight 0).toNat : Int)
        [ZMOD 2 ^ (8 * bytes.length)] := by
  rw [decodeNat_eq_sum]
  push_cast
  exact Int.ModEq.refl _

theorem decodeSigned_modEq (bytes : List UInt8) :
    decodeSigned bytes ≡ decodeNat bytes [ZMOD 2 ^ (8 * bytes.length)] := by
  rw [two_pow_bytes, decodeSigned_eq]
  split
  · exact Int.sub_emod_right _ _
  · exact Int.ModEq.refl _

theorem decodeSigned_append_sign {bytes : List UInt8} (nonempty : bytes ≠ []) :
    decodeSigned (bytes ++ [Signedness.signed.extension bytes]) = decodeSigned bytes := by
  have small : decodeNat bytes < 256 ^ bytes.length := decodeNat_lt bytes
  have lengthened : 256 ^ (bytes.length + 1) = 256 * 256 ^ bytes.length := pow_succ' _ _
  by_cases negative : 0x80 ≤ bytes.getLastD 0
  · have reached : 256 ^ bytes.length ≤ 2 * decodeNat bytes :=
      (topBit_iff nonempty).mpr negative
    have sign : Signedness.signed.extension bytes = 0xFF := if_pos negative
    have magnitude : decodeNat (bytes ++ [0xFF]) = decodeNat bytes + 256 ^ bytes.length * 255 := by
      rw [decodeNat_append, decodeNat_singleton]
      rfl
    rw [sign, decodeSigned_eq, decodeSigned_eq, magnitude, List.length_append,
      List.length_singleton, if_pos reached, if_pos (by omega)]
    push_cast
    ring
  · have unreached : ¬ 256 ^ bytes.length ≤ 2 * decodeNat bytes :=
      fun reached => negative ((topBit_iff nonempty).mp reached)
    have sign : Signedness.signed.extension bytes = 0x00 := if_neg negative
    have magnitude : decodeNat (bytes ++ [0x00]) = decodeNat bytes := by
      rw [decodeNat_append, decodeNat_singleton]
      rfl
    rw [sign, decodeSigned_eq, decodeSigned_eq, magnitude, List.length_append,
      List.length_singleton, if_neg unreached, if_neg (by omega)]

end LittleEndian

namespace Signedness

/-- The integers that bytes can hold have one representative of each residue. -/
theorem Holds.eq_of_modEq {signedness : Signedness} {count : Nat} {left right : Int}
    (positive : 0 < count) (leftHeld : signedness.Holds count left)
    (rightHeld : signedness.Holds count right)
    (congruent : left ≡ right [ZMOD 2 ^ (8 * count)]) : left = right := by
  have half := LittleEndian.two_mul_topWeight positive
  have patterns := LittleEndian.two_pow_bytes count
  have apart : |right - left| < 2 ^ (8 * count) := by
    rw [abs_lt]
    cases signedness with
    | unsigned =>
        obtain ⟨leftLow, leftHigh⟩ := leftHeld
        obtain ⟨rightLow, rightHigh⟩ := rightHeld
        constructor <;> omega
    | signed =>
        obtain ⟨leftLow, leftHigh⟩ := leftHeld
        obtain ⟨rightLow, rightHigh⟩ := rightHeld
        constructor <;> omega
  have same : right - left = 0 := Int.eq_zero_of_abs_lt_dvd congruent.dvd apart
  omega

end Signedness

namespace ScalarType

/-! ### Decoding -/

/-- Whatever their number, bytes are decoded to an integer that they can hold, and to one
of the residue of the sum of their weighted values. -/
theorem exists_decode_held (type : IntegerType) {bytes : List UInt8} (nonempty : bytes ≠ []) :
    ∃ number, (ScalarType.integer type).decode bytes = .ok (.integer number) ∧
      type.signedness.Holds bytes.length number ∧
      number ≡
        ∑ weight ∈ Finset.range bytes.length, 256 ^ weight * ((bytes.getD weight 0).toNat : Int)
          [ZMOD 2 ^ (8 * bytes.length)] := by
  have congruent := LittleEndian.decodeNat_modEq bytes
  obtain ⟨signedness, width⟩ := type
  cases signedness with
  | unsigned =>
      refine ⟨LittleEndian.decodeNat bytes, rfl, ⟨by omega, ?_⟩, congruent⟩
      rw [LittleEndian.two_pow_bytes]
      exact_mod_cast LittleEndian.decodeNat_lt bytes
  | signed =>
      have half := LittleEndian.two_mul_topWeight (List.length_pos_of_ne_nil nonempty)
      obtain ⟨low, high⟩ := LittleEndian.decodeSigned_range bytes
      exact ⟨LittleEndian.decodeSigned bytes, rfl, ⟨by omega, by omega⟩,
        (LittleEndian.decodeSigned_modEq bytes).trans congruent⟩

theorem decode_iff_held (type : IntegerType) {bytes : List UInt8} (nonempty : bytes ≠ [])
    (number : Int) :
    (ScalarType.integer type).decode bytes = .ok (.integer number) ↔
      type.signedness.Holds bytes.length number ∧
      number ≡
        ∑ weight ∈ Finset.range bytes.length, 256 ^ weight * ((bytes.getD weight 0).toNat : Int)
          [ZMOD 2 ^ (8 * bytes.length)] := by
  obtain ⟨found, decoded, held, congruent⟩ := exists_decode_held type nonempty
  constructor
  · intro again
    rw [decoded] at again
    cases again
    exact ⟨held, congruent⟩
  · rintro ⟨otherHeld, otherCongruent⟩
    have same : number = found :=
      otherHeld.eq_of_modEq (List.length_pos_of_ne_nil nonempty) held
        (otherCongruent.trans congruent.symm)
    rw [decoded, same]

theorem decode_append_extension (type : IntegerType) {bytes : List UInt8}
    (nonempty : bytes ≠ []) :
    (ScalarType.integer type).decode (bytes ++ [type.signedness.extension bytes]) =
      (ScalarType.integer type).decode bytes := by
  obtain ⟨signedness, width⟩ := type
  cases signedness with
  | unsigned =>
      have magnitude : LittleEndian.decodeNat (bytes ++ [0x00]) =
          LittleEndian.decodeNat bytes := by
        rw [LittleEndian.decodeNat_append, LittleEndian.decodeNat_singleton]
        rfl
      simp only [decode, Signedness.extension, magnitude]
  | signed => simp only [decode, LittleEndian.decodeSigned_append_sign nonempty]

/-! ### Encoding -/

theorem encode_of_beyond {type : IntegerType} {number : Int}
    (beyond : ¬ (ScalarType.integer type).InRange number) :
    ∃ fault, (ScalarType.integer type).encode number = .error fault ∧
      fault.kind = .overflow := by
  obtain ⟨signedness, width⟩ := type
  have patterns : ((1 <<< (8 * width.bytes) : Nat) : Int) = 256 ^ width.bytes :=
    IntegerType.one_shiftLeft_bits ⟨signedness, width⟩
  cases signedness with
  | unsigned =>
      by_cases negative : number < 0
      · exact ⟨.negativeForUnsigned, if_pos negative, rfl⟩
      · have tooBig : ¬ number < 256 ^ width.bytes := by
          intro high
          exact beyond ((IntegerType.range_unsigned width number).mpr
            ⟨Int.not_lt.mp negative, high⟩)
        refine ⟨.tooBig, ?_, rfl⟩
        simp only [encode, Signedness.encode, patterns]
        rw [if_neg negative, if_neg tooBig]
  | signed =>
      refine ⟨.tooBig, ?_, rfl⟩
      simp only [encode, Signedness.encode, patterns]
      rw [if_neg (fun held => beyond ((IntegerType.range_signed width number).mpr held))]

theorem decode_encode {type : IntegerType} {number : Int}
    (inRange : (ScalarType.integer type).InRange number) :
    ∃ bytes, (ScalarType.integer type).encode number = .ok bytes ∧
      bytes.length = (ScalarType.integer type).width ∧
      (ScalarType.integer type).decode bytes = .ok (.integer number) := by
  have admitted : (ScalarType.integer type).Admits (.integer number) := inRange
  exact ⟨_, encode_of_admits admitted, length_image _ _, decode_image admitted⟩

theorem encode_decode {type : IntegerType} {bytes : List UInt8}
    (complete : bytes.length = (ScalarType.integer type).width) :
    ∃ number, (ScalarType.integer type).decode bytes = .ok (.integer number) ∧
      (ScalarType.integer type).encode number = .ok bytes := by
  obtain ⟨datum, decoded, admitted, image⟩ := decode_of_length complete
  cases datum with
  | boolean truth => exact admitted.elim
  | integer number =>
      have encoded := encode_of_admits admitted
      rw [image] at encoded
      exact ⟨number, decoded, encoded⟩

end ScalarType

/-- The type of an integer tag encodes exactly the integers of its range, one for each string
of as many bytes as it is wide, and decoding goes back.  Bytes of any number are decoded to the
one integer that they can hold and that is congruent to the sum of their weighted values, so
they may be continued by their sign. -/
theorem integer_coding_bijective (type : IntegerType) :
    (∀ tag, ScalarType.ofTag? tag = some (.integer type) ↔
      (ScalarType.integer type).tag = tag) ∧
    (∀ number,
      ((∃ bytes, (ScalarType.integer type).encode number = .ok bytes) ↔
        type.minimum ≤ number ∧ number ≤ type.maximum) ∧
      (∀ fault, (ScalarType.integer type).encode number = .error fault →
        fault.kind = .overflow) ∧
      ∀ bytes, (ScalarType.integer type).encode number = .ok bytes →
        bytes.length = type.width.bytes ∧
        (ScalarType.integer type).decode bytes = .ok (.integer number)) ∧
    (∀ bytes : List UInt8, bytes.length = type.width.bytes →
      ∃ number, (ScalarType.integer type).decode bytes = .ok (.integer number) ∧
        (ScalarType.integer type).encode number = .ok bytes) ∧
    ∀ bytes : List UInt8, bytes ≠ [] →
      (∃ number, (ScalarType.integer type).decode bytes = .ok (.integer number)) ∧
      (∀ number, (ScalarType.integer type).decode bytes = .ok (.integer number) ↔
        type.signedness.Holds bytes.length number ∧
        number ≡
          ∑ weight ∈ Finset.range bytes.length,
            256 ^ weight * ((bytes.getD weight 0).toNat : Int)
            [ZMOD 2 ^ (8 * bytes.length)]) ∧
      (ScalarType.integer type).decode (bytes ++ [type.signedness.extension bytes]) =
        (ScalarType.integer type).decode bytes := by
  refine ⟨fun tag => ScalarType.ofTag?_eq_some_iff, ?_, ?_, ?_⟩
  · intro number
    by_cases inRange : (ScalarType.integer type).InRange number
    · obtain ⟨bytes, encoded, complete, decoded⟩ := ScalarType.decode_encode inRange
      rw [encoded]
      refine ⟨⟨fun _ => inRange, fun _ => ⟨bytes, rfl⟩⟩, ?_, ?_⟩
      · intro fault failed
        cases failed
      · intro others same
        cases same
        exact ⟨complete, decoded⟩
    · obtain ⟨fault, failed, kind⟩ := ScalarType.encode_of_beyond inRange
      rw [failed]
      refine ⟨⟨?_, fun held => absurd held inRange⟩, ?_, ?_⟩
      · rintro ⟨bytes, encoded⟩
        cases encoded
      · intro other same
        cases same
        exact kind
      · intro bytes encoded
        cases encoded
  · intro bytes complete
    exact ScalarType.encode_decode complete
  · intro bytes nonempty
    obtain ⟨number, decoded, _⟩ := ScalarType.exists_decode_held type nonempty
    exact ⟨⟨number, decoded⟩, ScalarType.decode_iff_held type nonempty,
      ScalarType.decode_append_extension type nonempty⟩

theorem integer_coding_bijective_signed :
    (ScalarType.integer ⟨.signed, .two⟩).encode (-2) = .ok [0xFE, 0xFF] ∧
      (∃ number, (ScalarType.integer ⟨.signed, .two⟩).decode [0x00, 0x80] =
          .ok (.integer number) ∧
        (ScalarType.integer ⟨.signed, .two⟩).encode number = .ok [0x00, 0x80]) ∧
      (ScalarType.integer ⟨.signed, .two⟩).decode [0x10, 0x00, 0x90, 0xFF] =
        (ScalarType.integer ⟨.signed, .two⟩).decode [0x10, 0x00, 0x90] := by
  obtain ⟨_, _, restored, extended⟩ := integer_coding_bijective ⟨.signed, .two⟩
  exact ⟨rfl, restored [0x00, 0x80] rfl, (extended [0x10, 0x00, 0x90] (by simp)).2.2⟩

end StructCodec
