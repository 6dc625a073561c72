import StructCodec.Narrowing

/-!
# From values to data

How a caller's value becomes the datum of a field: a scalar must be declared
with the field's type and is then used as it is; an integral value is narrowed
for an integer field and tested against zero for a boolean field.
-/

namespace StructCodec

/-- Declares a value with a scalar type.  The boolean type takes booleans only,
an integer type only integers in its range that are not booleans. -/
def Scalar.declare (type : ScalarType) (value : Value) : Except ValueFault Scalar :=
  match type, value with
  | .boolean, .boolean truth => .ok ⟨.boolean, .boolean truth, trivial⟩
  | .boolean, value => .error (.notBoolean value)
  | .integer type, .integer number =>
      if fits : type.minimum ≤ number ∧ number ≤ type.maximum then
        .ok ⟨.integer type, .integer number, fits⟩
      else
        .error (.outOfRange number (.integer type))
  | .integer type, value => .error (.notInteger value (.integer type))

namespace ScalarType

/-- An integer as a datum of a scalar type: tested against zero for the boolean
type, narrowed for an integer type. -/
def datumOfInt (policy : NarrowingPolicy) (number : Int) :
    ScalarType → Except ValueFault Datum
  | .boolean => .ok (.boolean (number != 0))
  | .integer type => ((ScalarType.integer type).narrow policy number).map .integer

/-- A value as a datum of a scalar type. -/
def coerce (policy : NarrowingPolicy) (type : ScalarType) (value : Value) :
    Except ValueFault Datum :=
  match value with
  | .scalar scalar =>
      if scalar.type = type then .ok scalar.datum
      else .error (.typeMismatch scalar.type type)
  | value =>
      match value.integral? with
      | some number => type.datumOfInt policy number
      | none => .error (.notIntegral value type)

end ScalarType

end StructCodec
