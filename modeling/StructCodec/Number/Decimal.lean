/-!
# Writing integers

Integers are written in decimal, but only up to a number of digits.  An error whose message
would have to show a longer integer is not raised: the attempt to write the message fails, and
that failure is raised in its place.
-/

namespace StructCodec.Decimal

/-- The largest number of digits with which an integer is written. -/
def digitLimit : Nat :=
  4300

/-- The least natural number that has too many digits to be written.  It is too large to be
computed in proofs, so they use the lemmas below. -/
@[irreducible]
def tooLong : Nat :=
  Nat.pow 10 digitLimit

/-- Whether an integer has few enough digits to be written. -/
@[irreducible]
def isWritable (number : Int) : Bool :=
  number.natAbs < tooLong

/-- The message of the failure to write an integer. -/
def limitMessage : String :=
  s!"Exceeds the limit ({digitLimit} digits) for integer string conversion; " ++
    "use sys.set_int_max_str_digits() to increase the limit"

/-- A message, unless it cannot be written. -/
def message (writable : Bool) (text : String) : String :=
  if writable then text else limitMessage

@[simp] theorem message_true (text : String) : message true text = text := rfl

@[simp] theorem message_false (text : String) : message false text = limitMessage := rfl

theorem tooLong_eq : tooLong = Nat.pow 10 digitLimit := by
  unfold tooLong
  rfl

theorem isWritable_iff {number : Int} : isWritable number = true ↔ number.natAbs < tooLong := by
  unfold isWritable
  exact decide_eq_true_iff

theorem isWritable_eq_false_iff {number : Int} :
    isWritable number = false ↔ tooLong ≤ number.natAbs := by
  rw [← Nat.not_lt, ← isWritable_iff, Bool.not_eq_true]

/-- Integers of machine words are written. -/
theorem isWritable_of_natAbs_le {number : Int} (small : number.natAbs ≤ 1 <<< 64) :
    isWritable number = true := by
  have twentyDigits : 1 <<< 64 < Nat.pow 10 20 := by decide
  have grows (digits : Nat) (more : 20 ≤ digits) : Nat.pow 10 20 ≤ Nat.pow 10 digits :=
    Nat.pow_le_pow_right (by decide) more
  have atMost := grows digitLimit (by decide)
  rw [← tooLong_eq] at atMost
  exact isWritable_iff.mpr (Nat.lt_of_le_of_lt small (Nat.lt_of_lt_of_le twentyDigits atMost))

/-- A sign is no digit. -/
theorem isWritable_neg (number : Int) : isWritable (-number) = isWritable number := by
  apply Bool.eq_iff_iff.mpr
  rw [isWritable_iff, isWritable_iff, Int.natAbs_neg]

theorem not_isWritable_tooLong : isWritable tooLong = false :=
  isWritable_eq_false_iff.mpr (Nat.le_refl _)

theorem tooLong_pos : 0 < tooLong := by
  have zero : isWritable 0 = true := isWritable_of_natAbs_le (by decide)
  exact isWritable_iff.mp zero

end StructCodec.Decimal
