import Mathlib.Algebra.Order.Group.Unbundled.Int
import Mathlib.Data.Int.ModEq
import Mathlib.Tactic.NormNum
import Mathlib.Tactic.Positivity
import Mathlib.Tactic.Ring
import StructCodec.Narrowing

/-!
# Narrowing keeps the residue

The range of an integer type holds as many integers as its bytes have patterns.
Narrowing lands in that range and changes an integer by a multiple of that number
only.
-/

namespace StructCodec

namespace LittleEndian

theorem two_pow_bytes (count : Nat) : (2 : Int) ^ (8 * count) = 256 ^ count := by
  rw [pow_mul]
  norm_num

/-- The weight of the top bit of some bytes is half the number of their patterns. -/
theorem two_mul_topWeight {count : Nat} (positive : 0 < count) :
    2 * (2 : Int) ^ (8 * count - 1) = 256 ^ count := by
  rw [← two_pow_bytes, ← pow_succ']
  congr 1
  omega

end LittleEndian

namespace IntegerType

theorem two_pow_bits (type : IntegerType) : (2 : Int) ^ type.bits = 256 ^ type.width.bytes :=
  LittleEndian.two_pow_bytes type.width.bytes

theorem one_shiftLeft_bits (type : IntegerType) :
    ((1 <<< type.bits : Nat) : Int) = 256 ^ type.width.bytes := by
  rw [Nat.one_shiftLeft, ← two_pow_bits]
  norm_cast

theorem two_mul_topWeight (type : IntegerType) :
    2 * (2 : Int) ^ (type.bits - 1) = 256 ^ type.width.bytes := by
  apply LittleEndian.two_mul_topWeight
  cases type.width <;> decide

theorem range_unsigned (width : IntegerWidth) (number : Int) :
    (minimum ⟨.unsigned, width⟩ ≤ number ∧ number ≤ maximum ⟨.unsigned, width⟩) ↔
      0 ≤ number ∧ number < 256 ^ width.bytes := by
  have patterns := one_shiftLeft_bits ⟨.unsigned, width⟩
  simp only [minimum, maximum, patterns]
  omega

theorem range_signed (width : IntegerWidth) (number : Int) :
    (minimum ⟨.signed, width⟩ ≤ number ∧ number ≤ maximum ⟨.signed, width⟩) ↔
      -(256 ^ width.bytes) ≤ 2 * number ∧ 2 * number < 256 ^ width.bytes := by
  have half : 2 * (2 : Int) ^ (bits ⟨.signed, width⟩ - 1) = 256 ^ width.bytes :=
    two_mul_topWeight _
  simp only [minimum, maximum, Nat.one_shiftLeft, Nat.cast_pow, Nat.cast_ofNat]
  omega

end IntegerType

namespace ScalarType

theorem wrap_integer (type : IntegerType) (number : Int) :
    (ScalarType.integer type).wrap number =
      if (ScalarType.integer type).isSigned ∧
          (ScalarType.integer type).maximum < number % 256 ^ type.width.bytes then
        number % 256 ^ type.width.bytes - 256 ^ type.width.bytes
      else
        number % 256 ^ type.width.bytes := by
  rw [← type.one_shiftLeft_bits]
  rfl

theorem wrap_inRange (type : IntegerType) (number : Int) :
    (ScalarType.integer type).InRange ((ScalarType.integer type).wrap number) := by
  have low : 0 ≤ number % 256 ^ type.width.bytes := Int.emod_nonneg _ (by positivity)
  have high : number % 256 ^ type.width.bytes < 256 ^ type.width.bytes :=
    Int.emod_lt_of_pos _ (by positivity)
  rw [wrap_integer]
  obtain ⟨signedness, width⟩ := type
  cases signedness with
  | unsigned =>
      apply (IntegerType.range_unsigned width _).mpr
      rw [if_neg (by simp [isSigned])]
      exact ⟨low, high⟩
  | signed =>
      -- A residue is not below the smallest integer, so it exceeds the largest one if
      -- it stands at or above half the patterns.
      have zero := IntegerType.range_signed width 0
      have residue := IntegerType.range_signed width (number % 256 ^ width.bytes)
      apply (IntegerType.range_signed width _).mpr
      dsimp only at low high
      simp only [isSigned, true_and, maximum]
      split <;> omega

theorem wrap_emod (type : IntegerType) (number : Int) :
    (ScalarType.integer type).wrap number % 256 ^ type.width.bytes =
      number % 256 ^ type.width.bytes := by
  rw [wrap_integer]
  split
  · rw [Int.sub_emod_right, Int.emod_emod_of_dvd _ dvd_rfl]
  · exact Int.emod_emod_of_dvd _ dvd_rfl

/-- Narrowing under either policy lands in the range of the type and keeps the
residue. -/
theorem narrow_spec {policy : NarrowingPolicy} {type : IntegerType} {number narrowed : Int}
    (success : (ScalarType.integer type).narrow policy number = .ok narrowed) :
    (ScalarType.integer type).InRange narrowed ∧
      narrowed % 256 ^ type.width.bytes = number % 256 ^ type.width.bytes := by
  unfold narrow at success
  split at success
  next inRange =>
    cases success
    exact ⟨inRange, rfl⟩
  next =>
    cases policy with
    | wrap =>
        cases success
        exact ⟨wrap_inRange type number, wrap_emod type number⟩
    | strict => cases success

theorem exists_narrow_wrap (type : IntegerType) (number : Int) :
    ∃ narrowed, (ScalarType.integer type).narrow .wrap number = .ok narrowed := by
  unfold narrow
  split
  · exact ⟨_, rfl⟩
  · exact ⟨_, rfl⟩

/-- The range of an integer type holds one integer of each residue only. -/
theorem eq_of_inRange {type : IntegerType} {left right : Int}
    (leftInRange : (ScalarType.integer type).InRange left)
    (rightInRange : (ScalarType.integer type).InRange right)
    (congruent : left % 256 ^ type.width.bytes = right % 256 ^ type.width.bytes) :
    left = right := by
  have apart : |right - left| < 256 ^ type.width.bytes := by
    rw [abs_lt]
    obtain ⟨signedness, width⟩ := type
    cases signedness with
    | unsigned =>
        obtain ⟨leftLow, leftHigh⟩ := (IntegerType.range_unsigned width left).mp leftInRange
        obtain ⟨rightLow, rightHigh⟩ := (IntegerType.range_unsigned width right).mp rightInRange
        dsimp only
        constructor <;> omega
    | signed =>
        obtain ⟨leftLow, leftHigh⟩ := (IntegerType.range_signed width left).mp leftInRange
        obtain ⟨rightLow, rightHigh⟩ := (IntegerType.range_signed width right).mp rightInRange
        dsimp only
        constructor <;> omega
  have divides : (256 : Int) ^ type.width.bytes ∣ right - left :=
    Int.ModEq.dvd congruent
  have same : right - left = 0 := Int.eq_zero_of_abs_lt_dvd divides apart
  omega

/-- Wrapping finds the integer of the same residue in the range of the type. -/
theorem narrow_wrap_iff {type : IntegerType} {number narrowed : Int} :
    (ScalarType.integer type).narrow .wrap number = .ok narrowed ↔
      (ScalarType.integer type).InRange narrowed ∧
        narrowed % 256 ^ type.width.bytes = number % 256 ^ type.width.bytes := by
  constructor
  · exact narrow_spec
  · rintro ⟨inRange, congruent⟩
    obtain ⟨found, narrowing⟩ := exists_narrow_wrap type number
    obtain ⟨foundInRange, foundCongruent⟩ := narrow_spec narrowing
    rw [narrowing, eq_of_inRange foundInRange inRange (foundCongruent.trans congruent.symm)]

theorem narrow_strict_iff {type : ScalarType} {number narrowed : Int} :
    type.narrow .strict number = .ok narrowed ↔
      type.InRange number ∧ narrowed = number := by
  unfold narrow
  split
  next inRange => simp [inRange, eq_comm]
  next beyond => simp [beyond]

theorem range_lt_two_pow (type : ScalarType) :
    -2 ^ 64 < type.minimum ∧ type.maximum < 2 ^ 64 := by
  cases type with
  | boolean => decide
  | integer type =>
      obtain ⟨signedness, width⟩ := type
      cases signedness <;> cases width <;> decide

/-- What a scalar type represents has few digits. -/
theorem isWritable_of_inRange {type : ScalarType} {number : Int}
    (inRange : type.InRange number) : Decimal.isWritable number = true := by
  apply Decimal.isWritable_of_natAbs_le
  have range := type.range_lt_two_pow
  obtain ⟨low, high⟩ := inRange
  omega

theorem not_inRange_of_unwritable {type : ScalarType} {number : Int}
    (unwritable : Decimal.isWritable number = false) : ¬ type.InRange number := by
  intro inRange
  rw [isWritable_of_inRange inRange] at unwritable
  cases unwritable

/-- A residue is kept by every width up to that of a type. -/
theorem emod_of_narrower {inner outer : IntegerType} {left right : Int}
    (narrower : inner.width.bytes ≤ outer.width.bytes)
    (congruent : left % 256 ^ outer.width.bytes = right % 256 ^ outer.width.bytes) :
    left % 256 ^ inner.width.bytes = right % 256 ^ inner.width.bytes := by
  have divides : (256 : Int) ^ inner.width.bytes ∣ 256 ^ outer.width.bytes :=
    pow_dvd_pow 256 narrower
  calc
    left % 256 ^ inner.width.bytes =
        left % 256 ^ outer.width.bytes % 256 ^ inner.width.bytes :=
      (Int.emod_emod_of_dvd left divides).symm
    _ = right % 256 ^ outer.width.bytes % 256 ^ inner.width.bytes := by rw [congruent]
    _ = right % 256 ^ inner.width.bytes := Int.emod_emod_of_dvd right divides

/-- Wrapping to a type loses nothing that a type no wider would keep. -/
theorem narrow_wrap_narrow {inner outer : IntegerType} {number narrowed : Int}
    (narrower : inner.width.bytes ≤ outer.width.bytes)
    (narrowing : (ScalarType.integer outer).narrow .wrap number = .ok narrowed) :
    (ScalarType.integer inner).narrow .wrap narrowed =
      (ScalarType.integer inner).narrow .wrap number := by
  obtain ⟨result, again⟩ := exists_narrow_wrap inner narrowed
  obtain ⟨inRange, congruent⟩ := narrow_wrap_iff.mp again
  have kept := emod_of_narrower narrower (narrow_wrap_iff.mp narrowing).2
  rw [again]
  exact (narrow_wrap_iff.mpr ⟨inRange, congruent.trans kept⟩).symm

end ScalarType

end StructCodec
