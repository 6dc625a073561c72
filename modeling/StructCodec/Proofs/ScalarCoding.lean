import StructCodec.Proofs.Narrowing
import StructCodec.Proofs.TwosComplement
import StructCodec.Scalar.Codec
import StructCodec.Scalar.Coercion

/-!
# Scalars as bytes

Whatever a value is coerced to fits its type, so it can be encoded, and it is
decoded from these bytes again.  The bytes depend on the integer that the value
is packed as only, not on whether or how it was narrowed.
-/

namespace StructCodec

/-- The integer that a value is packed as: the one that it stands for, or the
one that a scalar wraps. -/
def Value.number? : Value → Option Int
  | .scalar declared => some declared.datum.toInt
  | value => value.integral?

namespace ScalarType

/-- The little-endian bytes that an integer of any size is packed as. -/
def image : ScalarType → Int → List UInt8
  | .boolean, number => [if number = 0 then 0 else 1]
  | .integer type, number => LittleEndian.encodeInt type.width.bytes number

/-- The bytes that are written for what was read from bytes: a boolean becomes 0
or 1, and an integer keeps its bytes. -/
def normalized : ScalarType → List UInt8 → List UInt8
  | .boolean, bytes => bytes.map (fun byte => if byte = 0 then 0 else 1)
  | .integer _, bytes => bytes

@[simp] theorem length_image (type : ScalarType) (number : Int) :
    (type.image number).length = type.width := by
  cases type <;> simp [image, width]

/-! ### Coercion -/

/-- An integer becomes a datum that fits the type, and it is still packed as the
same bytes. -/
theorem datumOfInt_spec {policy : NarrowingPolicy} {type : ScalarType} {number : Int}
    {datum : Datum} (success : type.datumOfInt policy number = .ok datum) :
    type.Admits datum ∧ type.image datum.toInt = type.image number := by
  cases type with
  | boolean =>
      cases success
      refine ⟨trivial, ?_⟩
      by_cases zero : number = 0 <;> simp [image, zero]
  | integer type =>
      cases narrowing : (ScalarType.integer type).narrow policy number with
      | error fault => simp [datumOfInt, narrowing, Except.map] at success
      | ok narrowed =>
          obtain ⟨inRange, congruent⟩ := narrow_spec narrowing
          simp only [datumOfInt, narrowing, Except.map, Except.ok.injEq] at success
          subst datum
          exact ⟨inRange, LittleEndian.encodeInt_congr congruent⟩

theorem datumOfInt_cases {policy : NarrowingPolicy} {type : ScalarType} {number : Int}
    {datum : Datum} (success : type.datumOfInt policy number = .ok datum) :
    (type = .boolean → datum = .boolean (number != 0)) ∧
      ∀ integerType, type = .integer integerType →
        ∃ narrowed, type.narrow policy number = .ok narrowed ∧ datum = .integer narrowed := by
  cases type with
  | boolean =>
      cases success
      constructor
      · intro _
        rfl
      · intro _ differs
        cases differs
  | integer type =>
      constructor
      · intro differs
        cases differs
      · intro _ _
        cases narrowing : (ScalarType.integer type).narrow policy number with
        | error fault => simp [datumOfInt, narrowing, Except.map] at success
        | ok narrowed =>
            simp only [datumOfInt, narrowing, Except.map, Except.ok.injEq] at success
            exact ⟨narrowed, rfl, success.symm⟩

theorem datumOfInt_toInt (policy : NarrowingPolicy) {type : ScalarType} {datum : Datum}
    (admitted : type.Admits datum) : type.datumOfInt policy datum.toInt = .ok datum := by
  cases type with
  | boolean =>
      cases datum with
      | boolean truth => cases truth <;> rfl
      | integer number => exact admitted.elim
  | integer type =>
      cases datum with
      | boolean truth => exact admitted.elim
      | integer number =>
          have kept : (ScalarType.integer type).narrow policy number = .ok number :=
            narrow_of_inRange policy admitted
          simp [datumOfInt, kept, Except.map]

/-- A scalar is packed as its own integer, like any other value. -/
theorem coerce_spec {policy : NarrowingPolicy} {type : ScalarType} {value : Value}
    {datum : Datum} (success : type.coerce policy value = .ok datum) :
    ∃ number, value.number? = some number ∧ type.datumOfInt policy number = .ok datum := by
  cases value with
  | scalar declared =>
      simp only [coerce] at success
      split at success
      next sameType =>
        cases success
        subst sameType
        exact ⟨_, rfl, datumOfInt_toInt policy declared.fits⟩
      next => cases success
  | boolean | integer | register => exact ⟨_, rfl, success⟩
  | nothing | float | text | bytes | list => cases success

theorem coerce_admits {policy : NarrowingPolicy} {type : ScalarType} {value : Value}
    {datum : Datum} (success : type.coerce policy value = .ok datum) : type.Admits datum := by
  obtain ⟨number, _, ofNumber⟩ := coerce_spec success
  exact (datumOfInt_spec ofNumber).1

/-- The datum of a scalar type counts as an integer in the range of the type. -/
theorem inRange_of_admits {type : ScalarType} {datum : Datum} (admitted : type.Admits datum) :
    type.InRange datum.toInt := by
  cases type with
  | boolean =>
      cases datum with
      | boolean truth => cases truth <;> decide
      | integer number => exact admitted.elim
  | integer type =>
      cases datum with
      | boolean truth => exact admitted.elim
      | integer number => exact admitted

theorem coerce_toValue (policy : NarrowingPolicy) {type : ScalarType} {datum : Datum}
    (admitted : type.Admits datum) : type.coerce policy datum.toValue = .ok datum := by
  rw [← datumOfInt_toInt policy admitted]
  cases datum <;> rfl

/-! ### Encoding and decoding -/

/-- The range of a type is what its bytes hold. -/
theorem encode_of_inRange {type : IntegerType} {number : Int}
    (inRange : (ScalarType.integer type).InRange number) :
    (ScalarType.integer type).encode number =
      .ok (LittleEndian.encodeInt type.width.bytes number) := by
  obtain ⟨signedness, width⟩ := type
  have patterns : ((1 <<< (8 * width.bytes) : Nat) : Int) = 256 ^ width.bytes :=
    IntegerType.one_shiftLeft_bits ⟨signedness, width⟩
  cases signedness with
  | unsigned =>
      obtain ⟨low, high⟩ := (IntegerType.range_unsigned width number).mp inRange
      simp only [encode, Signedness.encode, patterns]
      rw [if_neg (Int.not_lt.mpr low), if_pos high]
  | signed =>
      have held := (IntegerType.range_signed width number).mp inRange
      simp only [encode, Signedness.encode, patterns]
      rw [if_pos held]

theorem encode_of_admits {type : ScalarType} {datum : Datum} (admitted : type.Admits datum) :
    type.encode datum.toInt = .ok (type.image datum.toInt) := by
  cases type with
  | boolean => rfl
  | integer type =>
      cases datum with
      | boolean truth => exact admitted.elim
      | integer number => exact encode_of_inRange admitted

theorem decode_image {type : ScalarType} {datum : Datum} (admitted : type.Admits datum) :
    type.decode (type.image datum.toInt) = .ok datum := by
  cases type with
  | boolean =>
      cases datum with
      | boolean truth => cases truth <;> rfl
      | integer number => exact admitted.elim
  | integer type =>
      cases datum with
      | boolean truth => exact admitted.elim
      | integer number =>
          obtain ⟨signedness, width⟩ := type
          cases signedness with
          | unsigned =>
              obtain ⟨low, high⟩ := (IntegerType.range_unsigned width number).mp admitted
              simp [decode, image, LittleEndian.decodeNat_encodeInt_of_range low high]
          | signed =>
              obtain ⟨low, high⟩ := (IntegerType.range_signed width number).mp admitted
              simp [decode, image, LittleEndian.decodeSigned_encodeInt low high]

/-- All bytes of the right number are decoded to a datum that fits, which is
packed as the same bytes up to the truth of a boolean. -/
theorem decode_of_length {type : ScalarType} {bytes : List UInt8}
    (complete : bytes.length = type.width) :
    ∃ datum, type.decode bytes = .ok datum ∧ type.Admits datum ∧
      type.image datum.toInt = type.normalized bytes := by
  cases type with
  | boolean =>
      obtain ⟨byte, rfl⟩ := List.length_eq_one_iff.mp complete
      refine ⟨.boolean (byte != 0), rfl, trivial, ?_⟩
      by_cases zero : byte = 0 <;> simp [image, normalized, zero]
  | integer type =>
      obtain ⟨signedness, width⟩ := type
      have length_eq : width.bytes = bytes.length := complete.symm
      cases signedness with
      | unsigned =>
          have bound : ((LittleEndian.decodeNat bytes : Nat) : Int) < 256 ^ width.bytes := by
            rw [length_eq]
            exact_mod_cast LittleEndian.decodeNat_lt bytes
          refine ⟨.integer (LittleEndian.decodeNat bytes), rfl, ?_, ?_⟩
          · exact (IntegerType.range_unsigned width _).mpr ⟨by omega, bound⟩
          · simp only [image, Datum.toInt_integer, length_eq, normalized]
            exact LittleEndian.encodeInt_decodeNat bytes
      | signed =>
          refine ⟨.integer (LittleEndian.decodeSigned bytes), rfl, ?_, ?_⟩
          · apply (IntegerType.range_signed width _).mpr
            rw [length_eq]
            exact LittleEndian.decodeSigned_range bytes
          · simp only [image, Datum.toInt_integer, length_eq, normalized]
            exact LittleEndian.encodeInt_decodeSigned bytes

/-- An integer is decoded from its magnitude: with the top bit set, a signed type
stands for the magnitude less the number of patterns. -/
theorem decode_integer {type : IntegerType} {bytes : List UInt8}
    (complete : bytes.length = type.width.bytes) :
    (ScalarType.integer type).decode bytes =
      .ok (.integer
        (if type.signedness = .signed ∧ 2 ^ (type.bits - 1) ≤ LittleEndian.decodeNat bytes then
          LittleEndian.decodeNat bytes - 2 ^ type.bits
        else
          LittleEndian.decodeNat bytes)) := by
  have half := type.two_mul_topWeight
  have patterns := type.two_pow_bits
  obtain ⟨signedness, width⟩ := type
  cases signedness with
  | unsigned => simp [decode]
  | signed =>
      have topBit : 256 ^ bytes.length ≤ 2 * LittleEndian.decodeNat bytes ↔
          2 ^ (IntegerType.bits ⟨.signed, width⟩ - 1) ≤ LittleEndian.decodeNat bytes := by
        rw [complete]
        zify
        dsimp only at half ⊢
        omega
      simp only [decode, LittleEndian.decodeSigned_eq, topBit, true_and, patterns]
      rw [complete]

end ScalarType

end StructCodec
