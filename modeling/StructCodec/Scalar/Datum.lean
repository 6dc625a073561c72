import StructCodec.Scalar.Type

/-!
# Data and scalars

A datum is what one field holds: an integer or a boolean.  A scalar is a datum
together with the scalar type it is declared with, which it always fits.
-/

namespace StructCodec

/-- What one field holds once it is decoded. -/
inductive Datum where
  | integer (number : Int)
  | boolean (truth : Bool)
deriving DecidableEq

namespace Datum

/-- The integer that a datum counts as; truth counts as 1. -/
def toInt : Datum → Int
  | .integer number => number
  | .boolean truth => if truth then 1 else 0

@[simp] theorem toInt_integer (number : Int) :
    (Datum.integer number).toInt = number := rfl

@[simp] theorem toInt_boolean (truth : Bool) :
    (Datum.boolean truth).toInt = if truth then 1 else 0 := rfl

end Datum

/-- A datum fits a type if it is a boolean of the boolean type, or an integer in
the range of an integer type. -/
def ScalarType.Admits : ScalarType → Datum → Prop
  | .boolean, .boolean _ => True
  | .integer type, .integer number => type.minimum ≤ number ∧ number ≤ type.maximum
  | _, _ => False

/-- A datum with its declared type, which it fits. -/
structure Scalar where
  type : ScalarType
  datum : Datum
  fits : type.Admits datum
deriving DecidableEq

end StructCodec
